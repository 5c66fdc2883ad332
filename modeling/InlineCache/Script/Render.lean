import InlineCache.Script.Context
import InlineCache.Dispatch.Resolve
/-!
# Answers

How values, errors, targets and counters appear in answers. A value is written by kind;
a float by its sixteen hexadecimal bit digits, every NaN as the one quiet NaN, so that no
decimal conversion stands between the value and the answer. Instances are written with
their fields, and nesting stops four levels down, where an instance is written by its
class name only and a foreign payload as `"truncated"`.
-/
namespace InlineCache.Render

/-- Sixteen lower-case hexadecimal digits of a word. -/
def hex16 (w : UInt64) : String :=
  let ds := Nat.toDigits 16 w.toNat
  String.ofList (List.replicate (16 - ds.length) '0' ++ ds)

/-- A float by its bits; every NaN is the quiet NaN with no payload. -/
def float (x : Float) : Json :=
  .obj [("float_bits", .str (if x.isNaN then "7ff8000000000000" else hex16 x.toBits))]

/-- A type id. -/
def typeId (t : TypeId) : Json := .int t.raw.toNat

/-- A list of type ids. -/
def typeIds (ts : List TypeId) : Json := .arr (ts.map typeId)

/-- The depth at which nesting stops. -/
def maxDepth : Nat := 4

/-- A value, `budget` levels above the depth where nesting stops. -/
def valueAt (ctx : Context) : Nat → Value → Json
  | _, .none => .null
  | _, .bool b => .bool b
  | _, .int n => .int n.toInt
  | _, .float x => float x
  | _, .str s => .str s
  | _, .bytes b => .obj [("bytes", .arr (b.data.toList.map fun x => .int x.toNat))]
  | 0, .object r => .obj [("object", .str (ctx.registry.typeName (.object r))), ("truncated", .bool true)]
  | budget + 1, .object r =>
    .obj [("object", .str (ctx.registry.typeName (.object r))), ("type_id", typeId r.cls),
          ("fields", .obj ((ctx.heap.fields r).map fun (k, v) => (k, valueAt ctx budget v)))]
  | budget, .foreign addr ty payload =>
    .obj [("foreign", .str (ctx.registry.typeName (.foreign addr ty payload))), ("type_id", typeId ty),
          ("payload", match budget with
            | 0 => .str "truncated"
            | b + 1 => valueAt ctx b payload)]
  | _, .cls id =>
    .obj [("class", .str ((ctx.registry.class? id).map (·.name) |>.getD "")), ("type_id", typeId id)]

/-- A value at the top of an answer. -/
def value (ctx : Context) (v : Value) : Json := valueAt ctx maxDepth v

/-- An error of a call. -/
def errorMembers (e : RuntimeError) : List (String × Json) :=
  [("error", .str e.kind), ("message", .str e.message), ("internal", .bool e.isInternal)]

/-- The outcome of a call. -/
def outcomeMembers (ctx : Context) : Outcome Value → List (String × Json)
  | .ok v => [("value", value ctx v)]
  | .error e => errorMembers e

/-- The outcome of a call, as an object. -/
def outcome (ctx : Context) (r : Outcome Value) : Json := .obj (outcomeMembers ctx r)

/-- An input error. -/
def badInput (message : String) : Json := .obj [("error", .str "BadInput"), ("message", .str message)]

/-- A parameter type. -/
def paramType : ParamType → Json
  | .any => .str "any"
  | .exact t => typeId t

/-- The flags of a method, by name. -/
def flags (f : MethodFlags) : Json :=
  .arr ((if f.isStatic then [Json.str "STATIC"] else []) ++
    (if f.isConstructor then [Json.str "CONSTRUCTOR"] else []))

/-- The members describing a method. -/
def methodMembers (m : Method) : List (String × Json) :=
  [("name", .str m.name), ("params", .arr (m.params.map paramType)), ("arity", .int m.arity),
   ("flags", flags m.flags)]

/-- A method. -/
def method (m : Method) : Json := .obj (methodMembers m)

/-- The name of the class with this id. -/
def className (ctx : Context) (id : TypeId) : String :=
  ((ctx.registry.class? id).map (·.name)).getD ""

/-- A guard. -/
def guard (ctx : Context) : Guard → Json
  | .dispatchTable _ table shape =>
    .obj [("kind", .str "DispatchTable"), ("arg_types", typeIds shape), ("table_len", .int table.size)]
  | .exactTypes t shape => .obj [("kind", .str "ExactTypes"), ("receiver", typeId t), ("arg_types", typeIds shape)]
  | .sameClass cls shape =>
    .obj [("kind", .str "SameClass"), ("class", .str (className ctx cls)), ("class_type_id", typeId cls),
          ("arg_types", typeIds shape)]
  | .ctor cls shape =>
    .obj [("kind", .str "Constructor"), ("class", .str (className ctx cls)), ("class_type_id", typeId cls),
          ("arg_types", typeIds shape)]
  | .byteSequence indexArg => .obj [("kind", .str "ByteSequence"), ("index_arg", .bool indexArg)]
  | .operands lhs rhs => .obj [("kind", .str "Operands"), ("lhs", typeId lhs), ("rhs", typeId rhs)]

/-- What a target runs. -/
def invocable (ctx : Context) : Invocable → Json
  | .method m => .obj [("kind", .str "Method"), ("method", method m)]
  | .ctor cls init => .obj [("kind", .str "Constructor"), ("class", .str (className ctx cls)), ("init", method init)]
  | .accessor op => .obj [("kind", .str "Accessor"), ("op", .str op.name)]
  | .operator op => .obj [("kind", .str "Operator"), ("op", .str op.name)]

/-- A resolved target. -/
def target (ctx : Context) (t : Target) : Json :=
  .obj [("owner", typeId t.owner), ("variant", .str t.variant.name), ("param_types", typeIds t.paramTypes),
        ("guard", guard ctx t.guard), ("invocable", invocable ctx t.invocable)]

/-- The state of a site. -/
def state : SiteState → Json
  | .empty => .obj [("state", .str "empty")]
  | .failed => .obj [("state", .str "failed")]
  | .cached v => .obj [("state", .str "cached"), ("variant", .str v.name)]

/-- The members of a site's counters. -/
def statsMembers (s : SiteStats) : List (String × Json) :=
  [("hits", .int s.hits), ("misses", .int s.misses), ("resolutions", .int s.resolutions),
   ("failures", .int s.failures), ("invalidations", .int s.invalidations), ("calls", .int s.calls),
   ("hit_rate", float s.hitRate)]

/-- The counters of an array. -/
def arrayStats (s : ArrayStats) : Json :=
  .obj [("empty", .int s.empty), ("cached", .int s.cached), ("failed", .int s.failed),
        ("thrashing", .int s.thrashing), ("sites", .int s.sites), ("totals", .obj (statsMembers s.totals))]

/-- A configuration. -/
def config (c : DispatchConfig) : Json :=
  .obj [("thrash_threshold", .int c.thrashThreshold), ("trace_hits", .bool c.traceHits)]

/-- An argument kind. -/
def argKind : ArgKind → Json
  | .dynamic => .str "dynamic"
  | .typed t => typeId t

/-- A resolution failure with the error the call reports for it. -/
def failure (f : ResolutionFailure) (e : RuntimeError) : Json :=
  .obj [("error", .str f.kind), ("message", .str f.message), ("runtime", .obj (errorMembers e))]

end InlineCache.Render
