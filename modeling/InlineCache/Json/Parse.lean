import InlineCache.Json.Basic
import InlineCache.Json.Binary64
/-!
# Reading JSON text

A reader of one JSON document from the UTF-8 bytes of a line. It reads the way a
streaming reader with machine numbers does, and a text it refuses is reported with that
reader's words and position.

* Numbers. An integer is gathered as an unsigned 64-bit significand; a negative one that
  fits a signed word stays exact. Digits past the significand's range either scale it (in
  the integer part) or are dropped (after the point). Every other number is the significand
  converted to binary64 and then multiplied or divided by a binary64 power of ten, each
  step rounded; an exponent beyond the table divides by `1e308` until it fits, and an
  exponent too large for a signed 32-bit word gives zero or an error. A number whose value
  overflows is an error.
* Strings. Escapes are the JSON ones; a `\u` escape of a leading surrogate must be
  followed by a `\u` escape of a trailing one, and a control character may not appear
  raw.
* Nesting. At most 127 arrays and objects may be open at once.
* Objects keep the last value written for a key, with their members sorted by key.

A failure is reported at a byte offset: the offset just after the byte that was read last
for most failures, or just after the byte looked at but not read when the failure is about
what comes next. The message gives that offset as a line and a column.
-/
namespace InlineCache.Json

open InlineCache.Binary64

/-- Why a text is not one JSON document. -/
inductive Fault where
  | eofInList
  | eofInObject
  | eofInString
  | eofInValue
  | expectedColon
  | expectedListCommaOrEnd
  | expectedObjectCommaOrEnd
  | expectedIdent
  | expectedValue
  | invalidEscape
  | invalidNumber
  | numberOutOfRange
  | controlCharacter
  | keyNotString
  | loneSurrogate
  | trailingComma
  | trailingCharacters
  | unexpectedEndOfHexEscape
  | recursionLimit
deriving DecidableEq, Repr

/-- The words a failure is reported with. -/
def Fault.text : Fault → String
  | .eofInList => "EOF while parsing a list"
  | .eofInObject => "EOF while parsing an object"
  | .eofInString => "EOF while parsing a string"
  | .eofInValue => "EOF while parsing a value"
  | .expectedColon => "expected `:`"
  | .expectedListCommaOrEnd => "expected `,` or `]`"
  | .expectedObjectCommaOrEnd => "expected `,` or `\x7d`"
  | .expectedIdent => "expected ident"
  | .expectedValue => "expected value"
  | .invalidEscape => "invalid escape"
  | .invalidNumber => "invalid number"
  | .numberOutOfRange => "number out of range"
  | .controlCharacter => "control character (\\u0000-\\u001F) found while parsing a string"
  | .keyNotString => "key must be a string"
  | .loneSurrogate => "lone leading surrogate in hex escape"
  | .trailingComma => "trailing comma"
  | .trailingCharacters => "trailing characters"
  | .unexpectedEndOfHexEscape => "unexpected end of hex escape"
  | .recursionLimit => "recursion limit exceeded"

/-- A failure and the byte offset it is reported at. -/
structure ReadError where
  fault : Fault
  offset : Nat
deriving DecidableEq, Repr

/-- A reading step: a result and the offset of the first byte after it, or a failure. -/
abbrev Read (α : Type) := Except ReadError (α × Nat)

/-- A failure reported after the byte read last, which ends at `i`. -/
def failAt {α : Type} (fault : Fault) (i : Nat) : Read α := .error ⟨fault, i⟩

/-- A failure reported after the byte at `i`, looked at but not read; at the end of the
text, at its end. -/
def failPeek {α : Type} (text : ByteArray) (fault : Fault) (i : Nat) : Read α :=
  .error ⟨fault, min text.size (i + 1)⟩

/-- The offset of the first byte at or after `i` that is not a blank. -/
def skipBlank (text : ByteArray) (i : Nat) : Nat :=
  if h : i < text.size then
    let b := text[i]
    if b == 32 || b == 10 || b == 9 || b == 13 then skipBlank text (i + 1) else i
  else i
termination_by text.size - i

/-- Whether the byte at `i` is an ASCII digit. -/
def digitAt? (text : ByteArray) (i : Nat) : Option Nat :=
  match text[i]? with
  | some b => if 48 ≤ b && b ≤ 57 then some (b - 48).toNat else none
  | none => none

/-- The offset after the run of digits starting at `i`. -/
def skipDigits (text : ByteArray) (i : Nat) : Nat :=
  if _h : i < text.size then
    match digitAt? text i with
    | some _ => skipDigits text (i + 1)
    | none => i
  else i
termination_by text.size - i

/-- The largest signed 32-bit integer. -/
def maxI32 : Int := 2147483647

/-- An integer held to the signed 32-bit range, as saturating arithmetic leaves it. -/
def clampI32 (n : Int) : Int := max (-maxI32 - 1) (min maxI32 n)

/-- `f * 10^exponent` in binary64 steps: one product or quotient with a power of ten
from the table, which goes up to `10^308`; below that, quotients by `10^308` until the
exponent is in the table or the value is zero. A product that overflows, or an exponent
above the table for a nonzero value, is out of range (`none`). A value below `2^64` is
zero after two quotients by `10^308`, so three rounds always finish. -/
def scaleByPow10 (f : UInt64) (exponent : Int) : Nat → Option UInt64
  | 0 => some f
  | fuel + 1 =>
    if exponent.natAbs ≤ 308 then
      if 0 ≤ exponent then
        let g := mul f (pow10 exponent.toNat)
        if isInfinite g then none else some g
      else some (div f (pow10 exponent.natAbs))
    else if isZero f then some f
    else if 0 ≤ exponent then none
    else scaleByPow10 (div f (pow10 308)) (exponent + 308) fuel

/-- The binary64 value of `±significand * 10^exponent`, or `none` when out of range. -/
def fromParts (positive : Bool) (significand : Nat) (exponent : Int) : Option UInt64 :=
  (scaleByPow10 (ofNat significand) exponent 4).map fun f => if positive then f else negate f

/-- The number of a finished significand and exponent, the number ending at `i`. -/
def finishFloat (positive : Bool) (significand : Nat) (exponent : Int) (i : Nat) : Read Number :=
  match fromParts positive significand exponent with
  | some w => .ok (.float w, i)
  | none => failAt .numberOutOfRange i

/-- The digits of an exponent after its first, `exp` so far. An exponent past the
signed 32-bit range makes the number zero, or out of range when the significand is not
zero and the exponent positive. -/
def readExponentDigits (text : ByteArray) (positive : Bool) (significand : Nat) (start : Int)
    (positiveExp : Bool) (exp : Nat) (i : Nat) : Read Number :=
  if _h : i < text.size then
    match digitAt? text i with
    | some d =>
      if (exp * 10 + d : Int) > maxI32 then
        if significand != 0 && positiveExp then failAt .numberOutOfRange (i + 1)
        else .ok (.float (if positive then 0 else negZero), skipDigits text (i + 1))
      else readExponentDigits text positive significand start positiveExp (exp * 10 + d) (i + 1)
    | none => finish
  else finish
termination_by text.size - i
where
  /-- The number once the exponent's digits end. -/
  finish : Read Number :=
    finishFloat positive significand (clampI32 (if positiveExp then start + exp else start - exp)) i

/-- An exponent part, from its `e` at `i`, added to the exponent `start` so far. -/
def readExponent (text : ByteArray) (positive : Bool) (significand : Nat) (start : Int) (i : Nat) :
    Read Number :=
  let i := i + 1
  let (positiveExp, i) := match text[i]? with
    | some 43 => (true, i + 1)
    | some 45 => (false, i + 1)
    | _ => (true, i)
  match text[i]? with
  | none => failAt .eofInValue i
  | some b =>
    if 48 ≤ b && b ≤ 57 then
      readExponentDigits text positive significand start positiveExp (b - 48).toNat (i + 1)
    else failAt .invalidNumber (i + 1)

/-- Whether the byte at `i` starts an exponent part. -/
def exponentAt (text : ByteArray) (i : Nat) : Bool :=
  text[i]? == some 101 || text[i]? == some 69

/-- The digits after the point once the significand is full: they are read and dropped. -/
def readDroppedFraction (text : ByteArray) (positive : Bool) (significand : Nat) (exponent : Int)
    (i : Nat) : Read Number :=
  let i := skipDigits text i
  if exponentAt text i then readExponent text positive significand exponent i
  else finishFloat positive significand exponent i

/-- The digits after the point, from `i`, each taken into the significand and lowering
the exponent; `count` digits taken so far. -/
def readFractionDigits (text : ByteArray) (positive : Bool) (significand : Nat) (exponent : Int)
    (count : Nat) (i : Nat) : Read Number :=
  if _h : i < text.size then
    match digitAt? text i with
    | some d =>
      if significand * 10 + d > maxU64 then
        readDroppedFraction text positive significand (exponent - count) i
      else readFractionDigits text positive (significand * 10 + d) exponent (count + 1) (i + 1)
    | none => finish
  else finish
termination_by text.size - i
where
  /-- The number once the digits after the point end: there must be one. -/
  finish : Read Number :=
    if count == 0 then
      match text[i]? with
      | some _ => failPeek text .invalidNumber i
      | none => failPeek text .eofInValue i
    else if exponentAt text i then readExponent text positive significand (exponent - count) i
    else finishFloat positive significand (exponent - count) i

/-- A fraction part, from its point at `i`. -/
def readFraction (text : ByteArray) (positive : Bool) (significand : Nat) (exponent : Int)
    (i : Nat) : Read Number :=
  readFractionDigits text positive significand exponent 0 (i + 1)

/-- The digits of an integer part past the significand's range, each raising the
exponent. -/
def readLongInteger (text : ByteArray) (positive : Bool) (significand : Nat) (exponent : Nat)
    (i : Nat) : Read Number :=
  if _h : i < text.size then
    match digitAt? text i with
    | some _ => readLongInteger text positive significand (exponent + 1) (i + 1)
    | none => rest
  else rest
termination_by text.size - i
where
  /-- What follows the integer part. -/
  rest : Read Number :=
    if text[i]? == some 46 then readFraction text positive significand exponent i
    else if exponentAt text i then readExponent text positive significand exponent i
    else finishFloat positive significand exponent i

/-- The number with integer part `significand`, ending at `i` unless a fraction or an
exponent follows. A negative integer stays exact when it fits a signed 64-bit word; a
negative zero, or a negative integer below `-2^63`, becomes a binary64 value. -/
def readNumberTail (text : ByteArray) (positive : Bool) (significand : Nat) (i : Nat) :
    Read Number :=
  if text[i]? == some 46 then readFraction text positive significand 0 i
  else if exponentAt text i then readExponent text positive significand 0 i
  else if positive then .ok (.nat significand, i)
  else if significand == 0 || significand > maxI64 + 1 then
    .ok (.float (negate (ofNat significand)), i)
  else .ok (.neg (-(significand : Int)), i)

/-- The digits of an integer part after its first, `significand` so far. -/
def readIntegerDigits (text : ByteArray) (positive : Bool) (significand : Nat) (i : Nat) :
    Read Number :=
  if _h : i < text.size then
    match digitAt? text i with
    | some d =>
      if significand * 10 + d > maxU64 then readLongInteger text positive significand 0 i
      else readIntegerDigits text positive (significand * 10 + d) (i + 1)
    | none => readNumberTail text positive significand i
  else readNumberTail text positive significand i
termination_by text.size - i

/-- A number from its first digit at `i`, after the minus sign of a negative one. There
is one leading zero at most. -/
def readNumber (text : ByteArray) (positive : Bool) (i : Nat) : Read Number :=
  match text[i]? with
  | none => failAt .eofInValue i
  | some b =>
    if b == 48 then
      match digitAt? text (i + 1) with
      | some _ => failPeek text .invalidNumber (i + 1)
      | none => readNumberTail text positive 0 (i + 1)
    else if 49 ≤ b && b ≤ 57 then readIntegerDigits text positive (b - 48).toNat (i + 1)
    else failAt .invalidNumber (i + 1)

/-- The value of a hexadecimal digit. -/
def hexValue (b : UInt8) : Option Nat :=
  if 48 ≤ b && b ≤ 57 then some (b - 48).toNat
  else if 97 ≤ b && b ≤ 102 then some (b - 87).toNat
  else if 65 ≤ b && b ≤ 70 then some (b - 55).toNat
  else none

/-- The four hexadecimal digits of a `\u` escape, from `i`. Fewer than four bytes left is
the end of the text inside a string. -/
def readHex4 (text : ByteArray) (i : Nat) : Read Nat :=
  match text[i]?, text[i + 1]?, text[i + 2]?, text[i + 3]? with
  | some a, some b, some c, some d =>
    match hexValue a, hexValue b, hexValue c, hexValue d with
    | some a, some b, some c, some d => .ok (((a * 16 + b) * 16 + c) * 16 + d, i + 4)
    | _, _, _, _ => failAt .invalidEscape (i + 4)
  | _, _, _, _ => failAt .eofInString text.size

/-- The bytes with the UTF-8 encoding of code point `n` added. -/
def pushCodePoint (acc : ByteArray) (n : Nat) : ByteArray :=
  acc ++ (String.singleton (Char.ofNat n)).toUTF8

/-- A `\u` escape from its digits at `i`. A trailing surrogate alone is refused; a
leading one must be followed by the escape of a trailing one, and the pair stands for one
code point. -/
def readUnicodeEscape (text : ByteArray) (acc : ByteArray) (i : Nat) : Read ByteArray :=
  match readHex4 text i with
  | .error e => .error e
  | .ok (n, i) =>
    if 0xDC00 ≤ n && n ≤ 0xDFFF then failAt .loneSurrogate i
    else if n < 0xD800 || n > 0xDBFF then .ok (pushCodePoint acc n, i)
    else
      match text[i]? with
      | none => failAt .eofInString i
      | some b =>
        if b != 92 then failAt .unexpectedEndOfHexEscape (i + 1)
        else
          match text[i + 1]? with
          | none => failAt .eofInString (i + 1)
          | some b =>
            if b != 117 then failAt .unexpectedEndOfHexEscape (i + 2)
            else
              match readHex4 text (i + 2) with
              | .error e => .error e
              | .ok (m, j) =>
                if m < 0xDC00 || m > 0xDFFF then failAt .loneSurrogate j
                else .ok (pushCodePoint acc (0x10000 + (n - 0xD800) * 0x400 + (m - 0xDC00)), j)

/-- An escape, from the byte after its backslash at `i`. -/
def readEscape (text : ByteArray) (acc : ByteArray) (i : Nat) : Read ByteArray :=
  match text[i]? with
  | none => failAt .eofInString i
  | some b =>
    let simple (c : UInt8) : Read ByteArray := .ok (acc.push c, i + 1)
    if b == 34 || b == 92 || b == 47 then simple b
    else if b == 98 then simple 8
    else if b == 102 then simple 12
    else if b == 110 then simple 10
    else if b == 114 then simple 13
    else if b == 116 then simple 9
    else if b == 117 then readUnicodeEscape text acc (i + 1)
    else failAt .invalidEscape (i + 1)

/-- The rest of a string from `i` up to and past its closing quote: `acc` holds the
bytes decoded so far and `start` the first byte not yet copied into it. -/
def readString (text : ByteArray) (acc : ByteArray) (start i : Nat) : Read String :=
  if h : i < text.size then
    let b := text[i]
    if b == 34 then .ok ((String.fromUTF8? (acc ++ text.extract start i)).getD "", i + 1)
    else if b == 92 then
      match readEscape text (acc ++ text.extract start i) (i + 1) with
      | .error e => .error e
      | .ok (acc', j) =>
        if i < j then readString text acc' j j else failAt .invalidEscape j
    else if b < 32 then failAt .controlCharacter (i + 1)
    else readString text acc start (i + 1)
  else failAt .eofInString text.size
termination_by text.size - i

/-- The bytes of an identifier expected from `i`. -/
def readIdent (text : ByteArray) (ident : List UInt8) (i : Nat) : Read Unit :=
  match ident with
  | [] => .ok ((), i)
  | c :: rest =>
    match text[i]? with
    | none => failAt .eofInValue i
    | some b => if b == c then readIdent text rest (i + 1) else failAt .expectedIdent (i + 1)

/-- The members with `(k, v)` put in: in place of the member with key `k`, or else at its
place in key order. -/
def insertMember (k : String) (v : Json) : List (String × Json) → List (String × Json)
  | [] => [(k, v)]
  | (k', v') :: rest =>
    if k == k' then (k, v) :: rest
    else if k < k' then (k, v) :: (k', v') :: rest
    else (k', v') :: insertMember k v rest

/-- Members in the order written, as an object holds them: sorted, each key once with
its last value. -/
def collectMembers (ms : List (String × Json)) : List (String × Json) :=
  ms.foldl (fun acc (k, v) => insertMember k v acc) []

mutual

/-- A value from `i`, after blanks. `depth` is one more than the number of arrays and
objects that may still be opened. Each call of the reader uses one unit of fuel and each
two calls in a row read at least one byte, so twice the length of the text is enough. -/
def readValue (text : ByteArray) (depth : Nat) : Nat → Nat → Read Json
  | 0, i => failAt .eofInValue i
  | fuel + 1, i =>
    let i := skipBlank text i
    match text[i]? with
    | none => failPeek text .eofInValue i
    | some b =>
      let lift (r : Read Unit) (j : Json) : Read Json := r.map fun (_, k) => (j, k)
      if b == 110 then lift (readIdent text [117, 108, 108] (i + 1)) .null
      else if b == 116 then lift (readIdent text [114, 117, 101] (i + 1)) (.bool true)
      else if b == 102 then lift (readIdent text [97, 108, 115, 101] (i + 1)) (.bool false)
      else if b == 45 then (readNumber text false (i + 1)).map fun (n, k) => (.num n, k)
      else if 48 ≤ b && b ≤ 57 then (readNumber text true i).map fun (n, k) => (.num n, k)
      else if b == 34 then (readString text .empty (i + 1) (i + 1)).map fun (s, k) => (.str s, k)
      else if b == 91 then
        if depth ≤ 1 then failPeek text .recursionLimit i
        else readItems text (depth - 1) fuel [] true (i + 1)
      else if b == 123 then
        if depth ≤ 1 then failPeek text .recursionLimit i
        else readMembers text (depth - 1) fuel [] true (i + 1)
      else failPeek text .expectedValue i

/-- The items of an array from `i` to past its closing bracket, `acc` read so far in
reverse. -/
def readItems (text : ByteArray) (depth : Nat) : Nat → List Json → Bool → Nat → Read Json
  | 0, _, _, i => failAt .eofInList i
  | fuel + 1, acc, first, i =>
    let i := skipBlank text i
    match text[i]? with
    | none => failPeek text .eofInList i
    | some b =>
      let item (j : Nat) : Read Json :=
        match readValue text depth fuel j with
        | .ok (v, k) => readItems text depth fuel (v :: acc) false k
        | .error e => .error e
      if b == 93 then .ok (.arr acc.reverse, i + 1)
      else if first then item i
      else if b == 44 then
        let j := skipBlank text (i + 1)
        match text[j]? with
        | some 93 => failPeek text .trailingComma j
        | some _ => item j
        | none => failPeek text .eofInValue j
      else failPeek text .expectedListCommaOrEnd i

/-- The members of an object from `i` to past its closing brace, `acc` read so far in
reverse. -/
def readMembers (text : ByteArray) (depth : Nat) :
    Nat → List (String × Json) → Bool → Nat → Read Json
  | 0, _, _, i => failAt .eofInObject i
  | fuel + 1, acc, first, i =>
    let i := skipBlank text i
    match text[i]? with
    | none => failPeek text .eofInObject i
    | some b =>
      if b == 125 then .ok (.obj (collectMembers acc.reverse), i + 1)
      else if !first && b != 44 then failPeek text .expectedObjectCommaOrEnd i
      else
        let j := if first then i else skipBlank text (i + 1)
        match text[j]? with
        | none => failPeek text .eofInValue j
        | some 125 => failPeek text .trailingComma j
        | some 34 =>
          match readString text .empty (j + 1) (j + 1) with
          | .error e => .error e
          | .ok (key, k) =>
            let k := skipBlank text k
            match text[k]? with
            | none => failPeek text .eofInObject k
            | some 58 =>
              match readValue text depth fuel (k + 1) with
              | .ok (v, l) => readMembers text depth fuel ((key, v) :: acc) false l
              | .error e => .error e
            | some _ => failPeek text .expectedColon k
        | some _ => failPeek text .keyNotString j

end

/-- The line and column of a byte offset: lines counted from one, the column the number of
bytes between the start of the line and the offset. -/
def position (text : ByteArray) (offset : Nat) : Nat × Nat :=
  let before := (text.extract 0 offset).toList
  let lineStart := before.length - (before.reverse.takeWhile (· != 10)).length
  (1 + before.count 10, offset - lineStart)

/-- The message of a failure: its words and where it is. -/
def ReadError.message (text : ByteArray) (e : ReadError) : String :=
  let (line, column) := position text e.offset
  e.fault.text ++ " at line " ++ toString line ++ " column " ++ toString column

/-- The one document a text holds, with nothing but blanks after it. -/
def readDocument (text : ByteArray) : Except ReadError Json :=
  match readValue text 128 (2 * text.size + 2) 0 with
  | .ok (j, i) =>
    let i := skipBlank text i
    if i < text.size then .error ⟨.trailingCharacters, min text.size (i + 1)⟩ else .ok j
  | .error e => .error e

/-- The document a line holds, or the message of why it holds none. -/
def parse (line : String) : Except String Json :=
  let text := line.toUTF8
  match readDocument text with
  | .ok j => .ok j
  | .error e => .error (e.message text)

end InlineCache.Json
