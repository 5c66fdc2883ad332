import InlineCache.Json.Basic
import InlineCache.Json.Binary64
import InlineCache.Json.Print
import InlineCache.Script.Expr
import InlineCache.Dispatch.Target
/-!
# Fields of request objects

The readings of request fields that need nothing but the request. An optional field that
is left out, or given as `null`, takes its default (array and site 0, an empty list, the
absent value). A field that is given must have the right form: a required name must be a
string, a count a non-negative integer that fits 64 bits, a list a list.

Values are described, not built: a `ValueSpec` is read from its JSON here and built
against the scenario each time it is used, so a faulty part of a value description is
reported when the value is built, in the order the parts are built. Inside a value
description a member given as `null` is given: `{"str": null}` is a faulty string, not a
missing one. Method bodies are read when the method is defined; a body that is not an
expression of one recognised key is a constant, described like any value and built at
every call.
-/
namespace InlineCache.Decode

open InlineCache.Binary64

/-- A reading of request fields that stops at the first faulty one. -/
abbrev Decoded := Except String

/-- A required string field. -/
def reqStr (j : Json) (key : String) : Decoded String :=
  match j.get? key with
  | some (.str s) => .ok s
  | _ => .error ("missing string field '" ++ key ++ "'")

/-- An optional string field; a value that is not a string counts as left out. -/
def optStr (j : Json) (key : String) : Option String := (j.field? key).bind Json.toStr?

/-- An optional truth value; a value that is not a boolean counts as false. -/
def flag (j : Json) (key : String) : Bool := ((j.field? key).bind Json.toBool?).getD false

/-- An optional count: a non-negative integer that fits 64 bits. -/
def optU64 (j : Json) (key : String) : Decoded (Option Nat) :=
  match j.field? key with
  | none => .ok none
  | some v =>
    match v.toU64? with
    | some n => .ok (some n)
    | none => .error ("field '" ++ key ++ "' must be a non-negative integer")

/-- A count with a default. -/
def u64Or (j : Json) (key : String) (default : Nat) : Decoded Nat :=
  (·.getD default) <$> optU64 j key

/-- An optional list, empty by default. -/
def optList (j : Json) (key : String) : Decoded (List Json) :=
  match j.field? key with
  | none => .ok []
  | some (.arr items) => .ok items
  | some _ => .error ("field '" ++ key ++ "' must be a list")

/-- The binary64 value of a number: integers rounded to the nearest value, floats as
read. -/
def numberBits : Number → UInt64
  | .nat n => ofNat n
  | .neg n => negate (ofNat n.natAbs)
  | .float w => w

/-- A float as a request writes it: a number, a special name, or `-0`. -/
def floatBits? (j : Json) : Option UInt64 :=
  match j with
  | .num n => some (numberBits n)
  | .str "nan" | .str "NaN" => some 0x7FF8000000000000
  | .str "inf" => some infinity
  | .str "-inf" => some (negate infinity)
  | .str "-0" => some negZero
  | _ => none

/-- The value of a hexadecimal digit. -/
def hexDigit? (c : Char) : Option Nat :=
  if c.isDigit then some (c.toNat - '0'.toNat)
  else if 'a' ≤ c && c ≤ 'f' then some (c.toNat - 'a'.toNat + 10)
  else if 'A' ≤ c && c ≤ 'F' then some (c.toNat - 'A'.toNat + 10)
  else none

/-- Hexadecimal digits as an unsigned 64-bit integer, digit by digit from the left: a
character that is not a digit is refused, and so is a value past 64 bits, whichever comes
first. -/
def hexDigits (acc : Nat) : List Char → Decoded Nat
  | [] => .ok acc
  | c :: rest =>
    match hexDigit? c with
    | none => .error "invalid digit found in string"
    | some d =>
      if acc * 16 + d > Json.maxU64 then .error "number too large to fit in target type"
      else hexDigits (acc * 16 + d) rest

/-- The text without every leading `0x`. -/
def dropHexPrefixes : List Char → List Char
  | '0' :: 'x' :: rest => dropHexPrefixes rest
  | cs => cs

/-- The word a `float_bits` text gives: hexadecimal digits after any number of `0x`
prefixes, with an optional `+`, and at most 64 bits. -/
def bitsOfHex (s : String) : Decoded UInt64 :=
  match dropHexPrefixes s.toList with
  | [] => .error "cannot parse integer from empty string"
  | ['+'] => .error "invalid digit found in string"
  | '+' :: rest => (·.toUInt64) <$> hexDigits 0 rest
  | cs => (·.toUInt64) <$> hexDigits 0 cs

/-- A byte given as a number from 0 to 255. -/
def byte? (j : Json) : Option UInt8 :=
  match j.toU64? with
  | some n => if n < 256 then some n.toUInt8 else none
  | none => none

/-- The member of an object, `null` included. -/
def member? (key : String) (ms : List (String × Json)) : Option Json := (Json.obj ms).get? key

/-- A float member's value. -/
def floatSpec (x : Json) : ValueSpec :=
  match floatBits? x with
  | some w => .plain (.float (Float.ofBits w))
  | none => .invalid ("bad float " ++ x.render)

/-- The bytes listed in an array. -/
def bytesSpec (items : List Json) : ValueSpec :=
  match items.mapM byte? with
  | some bs => .plain (.bytes ⟨bs.toArray⟩)
  | none => .invalid "bytes must be 0..255"

/-- The fault of a `bytes_repeat` member that is not a byte and a count of at most `2^20`. -/
def repeatFault : String := "bytes_repeat needs [byte, count<=2^20]"

/-- `n` copies of a byte: the first two items of the list; any more are not looked at. -/
def repeatSpec : List Json → ValueSpec
  | b :: n :: _ =>
    match byte? b, n.toU64? with
    | some x, some k =>
      if k ≤ Nat.pow 2 20 then .plain (.bytes ⟨Array.replicate k x⟩) else .invalid repeatFault
    | _, _ => .invalid repeatFault
  | _ => .invalid repeatFault

mutual

/-- A value as a request describes it. An integer must fit a signed 64-bit word; an
array describes nothing. -/
def valueSpec : Json → ValueSpec
  | .null => .plain .none
  | .bool b => .plain (.bool b)
  | .num n =>
    match (Json.num n).toI64? with
    | some i => .plain (.int (Int64.ofInt i))
    | none => .invalid ("integer out of range or non-integer: " ++ n.text)
  | .str s => .plain (.str s)
  | .arr _ => .invalid "lists are not values"
  | .obj ms => objectSpec ms

/-- A value described by an object: the first key present, in a fixed order, decides. -/
def objectSpec (ms : List (String × Json)) : ValueSpec :=
    match member? "float" ms with
    | some x => floatSpec x
    | none =>
    match member? "float_bits" ms with
    | some (.str h) =>
      match bitsOfHex h with
      | .ok b => .plain (.float (Float.ofBits b))
      | .error msg => .invalid msg
    | some _ => .invalid "float_bits must be a hex string"
    | none =>
    match member? "str" ms with
    | some (.str s) => .plain (.str s)
    | some _ => .invalid "bad str"
    | none =>
    match member? "bytes" ms with
    | some (.arr items) => bytesSpec items
    | some _ => .invalid "bytes must be a list"
    | none =>
    match member? "bytes_utf8" ms with
    | some (.str s) => .plain (.bytes s.toUTF8)
    | some _ => .invalid "bytes_utf8 must be a string"
    | none =>
    match member? "bytes_repeat" ms with
    | some (.arr items) => repeatSpec items
    | some _ => .invalid repeatFault
    | none =>
    match member? "obj" ms with
    | some (.str cls) => .obj cls (fieldsSpec ms)
    | some _ => .invalid "obj must name a class"
    | none =>
    match member? "class" ms with
    | some (.str name) => .cls name
    | some _ => .invalid "class must be a name"
    | none =>
    match member? "foreign" ms with
    | some (.str ty) => .foreign ty (payloadSpec ms)
    | some _ => .invalid "foreign must be a name"
    | none =>
    match member? "var" ms with
    | some (.str name) => .var name
    | some _ => .invalid "var must be a name"
    | none => .invalid ("unknown value form " ++ (Json.obj ms).render)

/-- The `fields` member's values. -/
def fieldsSpec : List (String × Json) → List (String × ValueSpec)
  | [] => []
  | (k, j) :: rest =>
    if k == "fields" then
      match j with
      | .obj fs => fieldSpecs fs
      | _ => []
    else fieldsSpec rest

/-- Field values. -/
def fieldSpecs : List (String × Json) → List (String × ValueSpec)
  | [] => []
  | (k, j) :: rest => (k, valueSpec j) :: fieldSpecs rest

/-- The `payload` member, the absent value by default. -/
def payloadSpec : List (String × Json) → ValueSpec
  | [] => .plain .none
  | (k, j) :: rest => if k == "payload" then valueSpec j else payloadSpec rest

end

/-- A value member, the absent value by default. -/
def valueField (j : Json) (key : String) : ValueSpec :=
  match j.field? key with
  | some v => valueSpec v
  | none => .plain .none

/-- The values listed under `key`. -/
def valuesField (j : Json) (key : String) : Decoded (List ValueSpec) :=
  (·.map valueSpec) <$> optList j key

mutual

/-- A method body. An object of one member whose key names an expression is that
expression, read now; anything else is a constant. -/
def expr : Json → Decoded Expr
  | .obj [("const", v)] => .ok (.const (valueSpec v))
  | .obj [("arg", v)] =>
    match v.toU64? with
    | some i => .ok (.arg i)
    | none => .error "arg needs an index"
  | .obj [("self", _)] => .ok .self
  | .obj [("field", .str name)] => .ok (.field name)
  | .obj [("field", _)] => .error "field needs a name"
  | .obj [("payload", _)] => .ok .payload
  | .obj [("raise", .str text)] => .ok (.raise text)
  | .obj [("raise", _)] => .error "raise needs a message"
  | .obj [("describe_args", _)] => .ok .describeArgs
  | .obj [("arg_count", _)] => .ok .argCount
  | .obj [("type_name", v)] => .typeName <$> expr v
  | .obj [("seq", .arr items)] => .seq <$> exprs items
  | .obj [("seq", _)] => .error "seq needs a list"
  | .obj [("set_field", .arr (.str name :: e :: _))] => .setField name <$> expr e
  | .obj [("set_field", _)] => .error "set_field needs [name, expr]"
  | .obj [("invoke", .obj ms)] => do
    -- array and site default to 0, the receiver to the method's own, the arguments to none
    let array ← u64Or (.obj ms) "array" 0
    let site ← u64Or (.obj ms) "site" 0
    let recv ← recvExpr ms
    let args ← argExprs ms
    return .invoke array site recv args (flag (.obj ms) "safe")
  | .obj [("invoke", _)] => .ok (.invoke 0 0 none [] false)
  | j => .ok (.const (valueSpec j))

/-- The receiver expression of a call, if given. -/
def recvExpr : List (String × Json) → Decoded (Option Expr)
  | [] => .ok none
  | (k, j) :: rest =>
    if k == "recv" then
      match j with
      | .null => .ok none
      | _ => some <$> expr j
    else recvExpr rest

/-- The argument expressions of a call. -/
def argExprs : List (String × Json) → Decoded (List Expr)
  | [] => .ok []
  | (k, j) :: rest =>
    if k == "args" then
      match j with
      | .null => .ok []
      | .arr items => exprs items
      | _ => .error "field 'args' must be a list"
    else argExprs rest

/-- Bodies in order. -/
def exprs : List Json → Decoded (List Expr)
  | [] => .ok []
  | j :: rest => do
    let e ← expr j
    let es ← exprs rest
    return e :: es

end

/-- An accessor by name. -/
def accessorOp? (name : String) : Option AccessorOp :=
  match name with
  | "Length" => some .length
  | "GetAt" => some .getAt
  | _ => none

/-- An operator by name. -/
def binaryOp? (name : String) : Option BinaryOp :=
  match name with
  | "Add" => some .add
  | "Sub" => some .sub
  | "Mul" => some .mul
  | "Div" => some .div
  | "CompareTo" => some .compareTo
  | _ => none

/-- The string members of an object, in order; members of any other kind are passed
over. -/
def stringMembers (ms : List (String × Json)) : List (String × String) :=
  ms.filterMap fun (k, v) => v.toStr?.map (k, ·)

/-- The environment of a configuration: an object, of which only the string members
count. -/
def envSpec (j : Json) : Decoded (List (String × String)) :=
  match j with
  | .obj ms => .ok (stringMembers ms)
  | _ => .error "env must be an object of strings"

/-- The value a scalar conversion makes: the first of `bool`, `int` and `float` given,
else the string `str`, which is then required. -/
def scalar (j : Json) : Decoded Value :=
  match j.field? "bool" with
  | some (.bool b) => .ok (.bool b)
  | some _ => .error "bool must be a bool"
  | none =>
  match j.field? "int" with
  | some v =>
    match v.toI64? with
    | some n => .ok (.int (Int64.ofInt n))
    | none => .error "int must be an i64"
  | none =>
  match j.field? "float" with
  | some v =>
    match floatBits? v with
    | some w => .ok (.float (Float.ofBits w))
    | none => .error ("bad float " ++ v.render)
  | none => Value.str <$> reqStr j "str"

end InlineCache.Decode
