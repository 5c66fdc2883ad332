import InlineCache.Script.Step
import InlineCache.Script.Decode
/-!
# Reading steps against the context

A step is read from its request object against the context it is about to run in. Reading
resolves names to classes and foreign types, types to ids, and described values to values,
building fresh instances as it goes; it checks that the arrays named exist. It takes the
fields of a step one after another in a fixed order, and the first fault, whether a field
of the wrong form or a name that names nothing, makes the step an input error with that
fault's message. A step that fails to read changes nothing: the instances it built are
dropped with it.

The order is part of the behaviour, since a request with two faults reports the first.
The array a call goes through is looked up first, then its receiver and arguments are
built, and only then is its site number read; a class is looked up before the method given
for it is read; the methods of a class are read list by list, each list whole before the
next is looked at.

A type is named by a builtin kind, a class or a foreign type, tried in that order, or given
as a number of at most 32 bits. `any` is a type only where a parameter type is expected, and
`dynamic` only where an argument kind is; elsewhere both are plain names.
-/
namespace InlineCache

/-- A reading of a request against the context of a scenario, which builds the values it
describes and stops at the first fault. -/
abbrev Reading := StateT Context (Except String)

namespace Reading

open Decode

/-- Build a described value. -/
def build (spec : ValueSpec) : Reading Value := fun ctx => ctx.materialize spec

/-- Build described values in order. -/
def buildAll (specs : List ValueSpec) : Reading (List Value) := fun ctx => ctx.materializeAll specs

/-- The value described under `key`, the absent value when it is left out. -/
def value (j : Json) (key : String) : Reading Value := build (valueField j key)

/-- The values described in the list under `key`. -/
def values (j : Json) (key : String) : Reading (List Value) := do
  buildAll (← valuesField j key)

/-- The array under `array`, 0 by default, which the scenario must hold. -/
def array (j : Json) : Reading Nat := do
  let a ← u64Or j "array" 0
  let _ ← (← get).needArray a
  return a

/-- The site number under `site`, 0 by default. -/
def site (j : Json) : Reading Nat := u64Or j "site" 0

/-- The class a name names. -/
def classNamed (name : String) : Reading Class := do
  (← get).needClass name

/-- The foreign type a name names. -/
def foreignNamed (name : String) : Reading ForeignType := do
  (← get).needForeign name

/-- The builtin kinds by name. -/
def builtinTypeId? : String → Option TypeId
  | "None" | "none" => some TypeId.none
  | "bool" => some TypeId.bool
  | "int" => some TypeId.int
  | "float" => some TypeId.float
  | "str" => some TypeId.str
  | "bytes" => some TypeId.bytes
  | "class" => some TypeId.class
  | _ => none

/-- The largest raw type id, plus one. -/
def typeIdBound : Nat := Nat.pow 2 32

/-- The fault of a number past the range of type ids. -/
def tooLarge : String := "number too large to fit in target type"

/-- The type a request names: a builtin kind, a class or a foreign type by name, or a raw
id of at most 32 bits. -/
def typeId (j : Json) : Reading TypeId := do
  match j with
  | .str name =>
    match builtinTypeId? name with
    | some t => pure t
    | none =>
      match (← get).classId? name with
      | some id => pure id
      | none => return (← foreignNamed name).id
  | .num (.nat n) => if n < typeIdBound then pure (TypeId.ofNat n) else throw tooLarge
  | other => throw ("bad type " ++ other.render)

/-- The type required under `key`. -/
def typeMember (j : Json) (key : String) : Reading TypeId :=
  match j.field? key with
  | some t => typeId t
  | none => throw ("missing '" ++ key ++ "'")

/-- The types listed under `key`. -/
def typeList (j : Json) (key : String) : Reading (List TypeId) := do
  (← optList j key).mapM typeId

/-- A parameter type: `any`, or a type. -/
def paramType (j : Json) : Reading ParamType :=
  match j with
  | .str "any" => pure .any
  | other => ParamType.exact <$> typeId other

/-- The parameter types listed under `key`. -/
def paramList (j : Json) (key : String) : Reading (List ParamType) := do
  (← optList j key).mapM paramType

/-- An argument kind: `dynamic`, or a type. -/
def argKind (j : Json) : Reading ArgKind :=
  match j with
  | .str "dynamic" => pure .dynamic
  | other => ArgKind.typed <$> typeId other

/-- A method: its name (`defaultName` when it has none), its parameter types, then its
body, which is the absent value when left out. -/
def method (defaultName : String) (j : Json) : Reading Method := do
  let params ← paramList j "params"
  let body ← match j.field? "body" with
    | some b => expr b
    | none => pure (.const (.plain .none))
  return { name := (optStr j "name").getD defaultName, params, body := .script body }

/-- The methods listed under `key`. -/
def methods (j : Json) (key defaultName : String) : Reading (List Method) := do
  (← optList j key).mapM (method defaultName)

/-- The method required under `key`. -/
def methodMember (j : Json) (key defaultName : String) : Reading Method :=
  match j.field? key with
  | some m => method defaultName m
  | none => throw ("missing '" ++ key ++ "'")

/-- A call kind by name, an instance call when none is given. -/
def callKind : Option String → Decoded CallKind
  | none | some "instance" => .ok .inst
  | some "static" => .ok .stat
  | some "constructor" => .ok .ctor
  | some "operator" => .ok .oper
  | some other => .error ("unknown call kind '" ++ other ++ "'")

/-- A call descriptor: its kind, its name, which only a constructor call may leave out,
and its argument kinds. -/
def descriptor (j : Json) : Reading CallDescriptor := do
  let kind ← callKind (optStr j "kind")
  let name ← match optStr j "name" with
    | some n => pure n
    | none =>
      if kind == .ctor then pure CallDescriptor.constructorName
      else throw "descriptor needs a name"
  let params ← match j.field? "params" with
    | none => pure []
    | some (.arr items) => items.mapM argKind
    | some _ => throw "field 'params' must be a list"
  return { name, params, kind }

/-- The descriptor required under `call`; `what` names the step in the fault. -/
def callMember (j : Json) (what : String) : Reading CallDescriptor :=
  match j.field? "call" with
  | some c => descriptor c
  | none => throw (what ++ " needs 'call'")

/-- A configuration: the environment it is read from, then the settings given outright. -/
def config (j : Json) : Reading DispatchConfig := do
  let base ← match j.field? "env" with
    | some e => do
      let env ← envSpec e
      pure (DispatchConfig.ofLookup fun key => (env.find? (·.1 == key)).map (·.2))
    | none => pure {}
  let base ← match j.field? "thrash_threshold" with
    | some v =>
      match v.toU64? with
      | some n => pure { base with thrashThreshold := n }
      | none => throw "thrash_threshold must be a u64"
    | none => pure base
  match j.field? "trace_hits" with
  | some (.bool b) => pure { base with traceHits := b }
  | some _ => throw "trace_hits must be a bool"
  | none => pure base

/-- A guard: its kind, then the class or types it checks. A table guard captures the
class's instance table as it is now. -/
def guard (j : Json) : Reading Guard := do
  match ← reqStr j "kind" with
  | "DispatchTable" => do
    let c ← classNamed (← reqStr j "class")
    return .dispatchTable c.stamp c.methods (← typeList j "arg_types")
  | "ExactTypes" => do
    let r ← typeMember j "receiver"
    return .exactTypes r (← typeList j "arg_types")
  | "SameClass" => do
    let c ← classNamed (← reqStr j "class")
    return .sameClass c.id (← typeList j "arg_types")
  | "Constructor" => do
    let c ← classNamed (← reqStr j "class")
    return .ctor c.id (← typeList j "arg_types")
  | "ByteSequence" => return .byteSequence (flag j "index_arg")
  | "Operands" => do
    let lhs ← typeMember j "lhs"
    return .operands lhs (← typeMember j "rhs")
  | other => throw ("unknown guard '" ++ other ++ "'")

/-- What a target runs. -/
def invocable (j : Json) : Reading Invocable := do
  match ← reqStr j "kind" with
  | "Method" => .method <$> methodMember j "method" "method"
  | "Constructor" => do
    let c ← classNamed (← reqStr j "class")
    return .ctor c.id (← methodMember j "init" CallDescriptor.constructorName)
  | "Accessor" => do
    let name ← reqStr j "op"
    match accessorOp? name with
    | some op => return .accessor op
    | none => throw ("unknown accessor '" ++ name ++ "'")
  | "Operator" => do
    let name ← reqStr j "op"
    match binaryOp? name with
    | some op => return .operator op
    | none => throw ("unknown operator '" ++ name ++ "'")
  | other => throw ("unknown invocable '" ++ other ++ "'")

/-- A target put together from its parts: guard, invocable, variant, owner and parameter
types, in that order. -/
def target (j : Json) : Reading Target := do
  let guard ← match j.field? "guard" with
    | some g => Reading.guard g
    | none => throw "missing 'guard'"
  let invocable ← match j.field? "invocable" with
    | some i => Reading.invocable i
    | none => throw "missing 'invocable'"
  let name ← reqStr j "variant"
  let some variant := SiteVariant.ofName? name | throw ("unknown variant '" ++ name ++ "'")
  let owner ← typeMember j "owner"
  return { owner, variant, guard, invocable, paramTypes := ← typeList j "param_types" }

/-- The methods named under `name` that a class or foreign type offers: a class's static
methods, its constructors when `constructors` allows them and they are asked for, or its
instance methods, searched up the chain; else the methods of a foreign type's table. -/
def methodsFound (j : Json) (constructors : Bool) : Reading (List Method) := do
  let name ← reqStr j "name"
  match j.field? "class" with
  | some (.str cls) => do
    let c ← classNamed cls
    let reg := (← get).registry
    if flag j "static" then return reg.findStatics c name
    else if constructors && flag j "constructor" then return c.constructors
    else return reg.findMethods c name
  | some _ => throw "class must be a name"
  | none => do
    let t ← foreignNamed (← reqStr j "foreign")
    return t.methods.lookup name

/-- What a structure listing shows. -/
def shown (j : Json) : Reading Shown := do
  match ← reqStr j "what" with
  | "value" => .value <$> value j "value"
  | "class" => .cls <$> classNamed (← reqStr j "class")
  | "instance" => do
    match ← value j "value" with
    | .object r => return .inst r
    | _ => throw "instance needs an object value"
  | "foreign_type" => .foreignType <$> foreignNamed (← reqStr j "type")
  | "foreign_object" => do
    let v ← value j "value"
    match v with
    | .foreign .. => return .foreignObject v
    | _ => throw "foreign_object needs a foreign value"
  | "method" => .methods <$> methodsFound j true
  | "site" => do
    let a ← array j
    return .site a (← site j)
  | "array" => .array <$> array j
  | other => throw ("unknown debug target '" ++ other ++ "'")

/-- The redefinition route: `direct` under `via` goes straight to the class or type. -/
def route (j : Json) (direct : String) : Route :=
  if optStr j "via" == some direct then .direct else .registry

/-- The environment of `config_env`: the string members of an object; anything else sets
nothing. -/
def envMember (j : Json) : List (String × String) :=
  match j.field? "env" with
  | some (.obj ms) => stringMembers ms
  | _ => []

/-- A raw type id under `raw`. -/
def rawTypeId (j : Json) : Reading TypeId :=
  match (j.field? "raw").bind Json.toU64? with
  | some n => if n < typeIdBound then pure (TypeId.ofNat n) else throw tooLarge
  | none => throw "raw must be a u32"

/-- An operation on a method table of `count` versions: the version it names, the latest
by default, must exist before anything else is read. -/
def tableOp (count : Nat) (j : Json) : Reading TableOp := do
  let v := ((j.field? "version").bind Json.toU64?).getD (count - 1)
  if count ≤ v then throw "no such version"
  match ← reqStr j "op" with
  | "with" => .add <$> methodMember j "method" "method"
  | "without" => .erase <$> reqStr j "name"
  | "lookup" => (.lookup · v) <$> reqStr j "name"
  | "contains" => (.contains · v) <$> reqStr j "name"
  | "is_overloaded" => (.isOverloaded · v) <$> reqStr j "name"
  | "len" => return .size v
  | other => throw ("unknown table op '" ++ other ++ "'")

/-- The step named `op`, read from its request object. -/
def stepOf (j : Json) (op : String) : Reading Step := do
  match op with
  | "define_class" => do
    let name ← reqStr j "name"
    let lineage ← match j.field? "extends" with
      | some (.str s) => do
        let c ← classNamed s
        pure (c.id :: c.lineage)
      | some _ => throw "extends must be a name"
      | none => pure []
    let ms ← methods j "methods" "method"
    let statics ← methods j "statics" "static"
    let constructors ← methods j "constructors" CallDescriptor.constructorName
    return .defineClass { name, lineage, methods := ms, statics, constructors }
  | "define_foreign" => do
    let name ← reqStr j "name"
    return .defineForeign name (← methods j "methods" "method")
  | "new_array" => do
    let sites ← (← optList j "sites").mapM descriptor
    let cfg ← match j.field? "config" with
      | some c => config c
      | none => pure {}
    return .newArray ((optStr j "unit").getD "main") sites cfg
      ((j.field? "register").bind Json.toBool?)
  | "hook" => do
    let steps ← optList j "steps"
    let onCall ← u64Or j "on_call" 1
    return .hook ⟨onCall, optStr j "when" == some "before", steps⟩
  | "let" => do
    let v ← value j "value"
    return .bind (← reqStr j "name") v
  | "invoke" => do
    let a ← array j
    let r ← value j "recv"
    let vs ← values j "args"
    return .invoke a (← site j) r vs (flag j "safe") (optStr j "save_as")
  | "reset" => do
    let a ← array j
    return .reset a (← site j)
  | "reset_all" | "invalidate" => .resetAll <$> array j
  | "generation" => .generation <$> array j
  | "state" => do
    let a ← array j
    return .state a (← optU64 j "site")
  | "stats" => do
    let a ← array j
    return .stats a (← optU64 j "site")
  | "target" => do
    let a ← array j
    return .target a (← site j)
  | "guard_accept" => do
    let a ← array j
    let r ← value j "recv"
    let vs ← values j "args"
    return .guardAccept a (← site j) r vs
  | "target_invoke" => do
    let a ← array j
    let r ← value j "recv"
    let vs ← values j "args"
    return .targetInvoke a (← site j) r vs
  | "sites" => .sites <$> array j
  | "resolver_calls" => return .resolverCalls
  | "resolve" => do
    let d ← callMember j "resolve"
    let r ← value j "recv"
    let vs ← values j "args"
    if flag j "registry_len" then return .registryLen else return .resolve d r vs
  | "hub_invalidate_all" => return .hubInvalidateAll
  | "hub_live_count" => return .hubLiveCount
  | "hub_register" => .hubRegister <$> array j
  | "drop_array" => .dropArray <$> u64Or j "array" 0
  | "define_method" => do
    let c ← classNamed (← reqStr j "class")
    return .defineMethod c.id (← methodMember j "method" "method") (route j "class")
  | "define_static" => do
    let c ← classNamed (← reqStr j "class")
    return .defineStatic c.id (← methodMember j "method" "method") (route j "class")
  | "remove_method" => do
    let c ← classNamed (← reqStr j "class")
    return .removeMethod c.id (← reqStr j "name") (route j "class")
  | "define_foreign_method" => do
    let t ← foreignNamed (← reqStr j "type")
    return .defineForeignMethod t.id (← methodMember j "method" "method") (route j "type")
  | "class_info" => .classInfo <$> classNamed (← reqStr j "class")
  | "find_methods" => do
    let ms ← methodsFound j false
    let r ← value j "recv"
    let vs ← values j "args"
    return .findMethods ms r vs (flag j "call")
  | "is_subclass_of" => do
    let c ← classNamed (← reqStr j "class")
    return .isSubclassOf c (← typeMember j "type")
  | "match_score" => do
    let ps ← paramList j "params"
    return .matchScore ps (← values j "args")
  | "field" => do
    let v ← value j "value"
    return .field v (← reqStr j "name")
  | "set_field" => do
    let v ← value j "value"
    let name ← reqStr j "name"
    return .setField v name (← value j "to")
  | "value_info" => .valueInfo <$> value j "value"
  | "value_eq" => do
    let a ← value j "a"
    return .valueEq a (← value j "b")
  | "describe_args" => .describeArgs <$> values j "args"
  | "registry" =>
    match j.field? "id" with
    | some t => (.registry ∘ some) <$> typeId t
    | none => return .registry none
  | "allocate_type_id" => return .allocateTypeId
  | "normalize_index" =>
    match (j.field? "index").bind Json.toI64?, (j.field? "len").bind Json.toU64? with
    | some i, some n => return .normalizeIndex i n
    | none, _ => throw "index must be an i64"
    | _, none => throw "len must be a u64"
  | "binary_op" => do
    let name ← reqStr j "name"
    let r ← value j "recv"
    let vs ← values j "args"
    return .binaryOp (BinaryOp.ofMethodName? name) r vs
  | "accessor" => do
    let r ← value j "recv"
    let vs ← values j "args"
    let force ← match optStr j "force" with
      | some f =>
        match accessorOp? f with
        | some op => pure (some op)
        | none => throw ("unknown accessor '" ++ f ++ "'")
      | none => pure none
    return .accessor (optStr j "name") r vs force
  | "config" => .config <$> config j
  | "config_env" => return .configEnv (envMember j)
  | "type_id" => .typeId <$> rawTypeId j
  | "descriptor" => do
    let d ← callMember j "descriptor"
    return .descriptor d (← values j "args")
  | "method_table" => do
    let ms ← methods j "methods" "method"
    return .methodTable ms (← optList j "ops")
  | "debug" => .listing <$> shown j
  | "value_from" => .valueFrom <$> scalar j
  | "target_from_parts" => do
    let t ← target j
    let r ← value j "recv"
    return .targetFromParts t r (← values j "args")
  | other => throw ("unknown op '" ++ other ++ "'")

/-- A step, read from its request object. -/
def step (j : Json) : Reading Step := do
  stepOf j (← reqStr j "op")

end Reading

end InlineCache
