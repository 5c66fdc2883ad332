import InlineCache.Script.Render
import InlineCache.Script.Listing
import InlineCache.Script.Step
/-!
# Steps that call no method

The steps that set up a scenario, redefine methods, or ask about its state, none of which
runs a method body. Each answers with a document and the context after it. Their names are
resolved and their values built when they are read, so none of them fails here.
-/
namespace InlineCache.Queries

open InlineCache.Render

/-- The answer of a step and the context after it. -/
abbrev Answer := Json × Context

/-- A value from an environment given as a list of settings. -/
def lookupIn (env : List (String × String)) (key : String) : Option String :=
  (env.find? (·.1 == key)).map (·.2)

/-- The panic of setting the environment variables a configuration reads, the threshold
before the trace flag: a value that holds a NUL character cannot be set. -/
def envPanic (env : List (String × String)) : Option Panic :=
  [DispatchConfig.thrashVariable, DispatchConfig.traceVariable].findSome? fun key =>
    match lookupIn env key with
    | some v =>
      if v.toList.contains (Char.ofNat 0) then
        some ⟨"failed to set environment variable `" ++ Text.quote key ++ "` to `" ++
          Text.quote v ++ "`: file name contained an unexpected NUL byte"⟩
      else none
    | none => none

/-- The member `missing_site`. -/
def missingSite (i : Nat) : Json := .obj [("missing_site", .int i)]

/-- Define a class. -/
def defineClass (ctx : Context) (spec : ClassSpec) : Answer :=
  let (c, registry) := ctx.registry.defineClass spec
  (.obj [("type_id", typeId c.id)],
    { ctx with registry, classNames := (spec.name, c.id) :: ctx.classNames.filter (·.1 != spec.name) })

/-- Define a foreign type. -/
def defineForeign (ctx : Context) (name : String) (methods : List Method) : Answer :=
  let (t, registry) := ctx.registry.defineForeign name methods
  (.obj [("type_id", typeId t.id)],
    { ctx with registry, foreignNames := (name, t.id) :: ctx.foreignNames.filter (·.1 != name) })

/-- Make an array of call sites; it is registered with the hub when asked, or by default
when the hub listens to the registry. -/
def newArray (ctx : Context) (unit : String) (ds : List CallDescriptor) (cfg : DispatchConfig)
    (register : Option Bool) : Answer :=
  let arr := SiteArray.ofDescriptors unit ds cfg
  let idx := ctx.arrays.size
  let ctx := { ctx with arrays := ctx.arrays.push { array := arr } }
  let ctx := if register.getD ctx.hubListens then { ctx with hub := ctx.hub ++ [idx] } else ctx
  (.obj [("array", .int idx), ("len", .int arr.size), ("is_empty", .bool (arr.size == 0))], ctx)

/-- A site's state, or `missing_site`. -/
def siteState (arr : SiteArray) (i : Nat) : Json :=
  match arr.site? i with
  | some s => state s.state
  | none => missingSite i

/-- The counters of a site, or of the whole array. -/
def stats (arr : SiteArray) (site : Option Nat) : Json :=
  match site with
  | some i =>
    match arr.site? i with
    | some s => .obj (statsMembers s.stats ++ [("thrashing", .bool (s.isThrashing arr.config))])
    | none => missingSite i
  | none => arrayStats arr.stats

/-- The sites of an array. -/
def sites (arr : SiteArray) : Json :=
  .obj [("unit", .str arr.unit), ("len", .int arr.size),
        ("sites", .arr (arr.sites.toList.map fun s =>
          .obj [("index", .int s.index), ("display", .str s.descriptor.display),
                ("name", .str s.descriptor.name), ("kind", .str s.descriptor.kind.name),
                ("params", .arr (s.descriptor.params.map argKind))])),
        ("config", config arr.config)]

/-- Redefine through the registry, telling its listeners, or directly. -/
def redefine (ctx : Context) (route : Route) (registry : Registry) : Context :=
  let ctx := { ctx with registry }
  match route with
  | .registry => ctx.notify
  | .direct => ctx

/-- The version of the class with this id. -/
def versionOf (ctx : Context) (id : TypeId) : Nat := ((ctx.registry.class? id).map (·.version)).getD 0

/-- Add or replace an instance or static method of a class. -/
def defineMethod (ctx : Context) (cls : TypeId) (m : Method) (route : Route) (isStatic : Bool) :
    Answer :=
  let f := if isStatic then (Class.defineStatic · m) else (Class.defineMethod · m)
  let ctx := redefine ctx route (ctx.registry.updateClass cls f)
  (.obj [("version", .int (versionOf ctx cls))], ctx)

/-- Remove an instance method of a class. -/
def removeMethod (ctx : Context) (cls : TypeId) (name : String) (route : Route) : Answer :=
  match (ctx.registry.class? cls).bind (·.removeMethod? name) with
  | some c' =>
    let ctx := redefine ctx route (ctx.registry.updateClass cls fun _ => c')
    (.obj [("removed", .bool true), ("version", .int (versionOf ctx cls))], ctx)
  | none => (.obj [("removed", .bool false), ("version", .int (versionOf ctx cls))], ctx)

/-- Add or replace a method of a foreign type. -/
def defineForeignMethod (ctx : Context) (ty : TypeId) (m : Method) (route : Route) : Answer :=
  let ctx := redefine ctx route (ctx.registry.updateForeign ty (·.defineMethod m))
  let size := ((ctx.registry.foreign? ty).map (·.methods.size)).getD 0
  (.obj [("methods", .int size)], ctx)

/-- What is known of a class. -/
def classInfo (ctx : Context) (c : Class) : Json :=
  .obj [("name", .str c.name), ("type_id", typeId c.id), ("version", .int c.version),
    ("superclass", match c.superclass?.bind ctx.registry.class? with
      | some s => .str s.name
      | none => .null),
    ("ancestors", .arr ((ctx.registry.ancestors c).map fun k => .str k.name)),
    ("constructors", .arr (c.constructors.map method)),
    ("instance_table_len", .int c.methods.size), ("static_table_len", .int c.statics.size)]

/-- A score, or null. -/
def score : Option Nat → Json
  | some n => .int n
  | none => .null

/-- Scores of parameters against arguments, whole and position by position. -/
def matchScore (ctx : Context) (ps : List ParamType) (vs : List Value) : Json :=
  let m : Method := { name := "", params := ps, body := .script (.const (.plain .none)) }
  .obj [("score", score (m.matchScore ctx.registry vs)),
    ("per_param", .arr ((ps.zip vs).map fun (p, v) => score (p.score ctx.registry v)))]

/-- A field of a value. -/
def field (ctx : Context) (v : Value) (name : String) : Json :=
  match v with
  | .object r =>
    match ctx.heap.field? r name with
    | some x => .obj [("present", .bool true), ("value", value ctx x)]
    | none => .obj [("present", .bool false)]
  | _ => .obj [("object", .bool false)]

/-- Set a field of a value. -/
def setField (ctx : Context) (v : Value) (name : String) (x : Value) : Answer :=
  match v with
  | .object r =>
    let ctx := { ctx with heap := ctx.heap.setField r name x }
    (.obj [("value", value ctx v)], ctx)
  | _ => (.obj [("object", .bool false)], ctx)

/-- What is known of a value. -/
def valueInfo (ctx : Context) (v : Value) : Json :=
  .obj [("type_id", typeId v.typeId), ("type_name", .str (ctx.registry.typeName v)),
    ("display", .str v.typeId.display), ("is_builtin", .bool v.typeId.isBuiltin),
    ("is_none", .bool v.isNone), ("render", value ctx v)]

/-- What the registry knows, and of one id. -/
def registry (ctx : Context) (id : Option TypeId) : Json :=
  let reg := ctx.registry
  let base := [("len", Json.int reg.size), ("is_empty", .bool (reg.size == 0))]
  match id with
  | none => .obj base
  | some tid =>
    .obj (base ++ [("contains", .bool (reg.contains tid)),
      ("class", match reg.class? tid with
        | some c => .str c.name
        | none => .null),
      ("foreign", match reg.foreign? tid with
        | some f => .str f.name
        | none => .null)])

/-- A builtin operator tried on a receiver and arguments; null when the method name stands
for no operator. -/
def binaryOp (ctx : Context) (op : Option BinaryOp) (r : Value) (vs : List Value) : Json :=
  match op with
  | none => .obj [("op", .null)]
  | some op =>
    let rhs := (vs.head?.map Value.typeId).getD TypeId.none
    let result := match vs with
      | [x] => op.apply ctx.registry r x
      | _ => .error (.raised "binary operator expects one operand")
    .obj [("op", .str op.name), ("supports", .bool (op.supports r.typeId rhs)),
      ("result", outcome ctx result)]

/-- The byte accessor a call selects, tried on a receiver and arguments. -/
def accessor (ctx : Context) (name : Option String) (r : Value) (vs : List Value)
    (force : Option AccessorOp) : Json :=
  let selected := name.bind (AccessorOp.forCall? · vs)
  let base := [("selected", match selected with
    | some op => Json.str op.name
    | none => .null)]
  match force <|> selected with
  | none => .obj base
  | some op =>
    let t := Target.accessor op
    .obj (base ++ [("accepts", .bool (t.guard.accepts ctx.registry r vs)),
      ("result", outcome ctx (op.apply ctx.registry r vs))])

/-- A call descriptor and whether it admits arguments. -/
def descriptor (d : CallDescriptor) (vs : List Value) : Json :=
  .obj [("display", .str d.display), ("name", .str d.name), ("kind", .str d.kind.name),
    ("params", .arr (d.params.map argKind)), ("admits", .bool (d.admits vs))]

/-- The array the scenario holds at `a`; reading the step made sure there is one. -/
def heldArray (ctx : Context) (a : Nat) : SiteArray :=
  (ctx.anyArray? a).getD (SiteArray.ofDescriptors "main" [] {})

/-- A structure listing. -/
def listing (ctx : Context) : Shown → Json
  | .value v => text (Listing.value ctx v)
  | .cls c => text (Listing.class ctx c)
  | .inst r => text (Listing.inst ctx r)
  | .foreignType t => text (Listing.foreignType t)
  | .foreignObject v => text (Listing.foreignObject ctx v)
  | .methods ms => .obj [("debug", .arr (ms.map fun m => .str (Listing.method m)))]
  | .site a i =>
    match ctx.site? a i with
    | some s => text (Listing.site s)
    | none => missingSite i
  | .array a => text (Listing.array (heldArray ctx a))
where
  /-- A listing's text. -/
  text (s : String) : Json := .obj [("debug", .str s)]

/-- A type id and its texts. -/
def typeIdInfo (t : TypeId) : Json :=
  .obj [("display", .str t.display), ("builtin_name", match t.builtinName? with
      | some n => .str n
      | none => .null),
    ("is_builtin", .bool t.isBuiltin), ("raw", typeId t)]

/-- The configuration an environment gives. -/
def configOfEnv (env : List (String × String)) : DispatchConfig :=
  DispatchConfig.ofLookup (lookupIn env)

/-- Answer a step that calls no method. Steps that call methods answer nothing here. -/
def answer (ctx : Context) : Step → Answer
  | .defineClass spec => defineClass ctx spec
  | .defineForeign name ms => defineForeign ctx name ms
  | .newArray unit ds cfg reg => newArray ctx unit ds cfg reg
  | .hook h => (.obj [("ok", .bool true)], { ctx with hooks := ctx.hooks.push h })
  | .bind name v => (.obj [("ok", .bool true)], ctx.setVar name v)
  | .reset a i =>
    let arr := heldArray ctx a
    if i < arr.size then
      let ctx := ctx.modifySite a i CallSite.reset
      (siteState (heldArray ctx a) i, ctx)
    else (missingSite i, ctx)
  | .resetAll a =>
    let arr := (heldArray ctx a).resetAll
    (.obj [("generation", .int arr.generation)], ctx.modifyArray a fun _ => arr)
  | .generation a => (.obj [("generation", .int (heldArray ctx a).generation)], ctx)
  | .state a site =>
    let arr := heldArray ctx a
    match site with
    | some i => (siteState arr i, ctx)
    | none => (.arr (arr.sites.toList.map fun s => state s.state), ctx)
  | .stats a site => (stats (heldArray ctx a) site, ctx)
  | .target a i =>
    match (heldArray ctx a).site? i with
    | some s => (.obj [("target", match s.target? with
        | some t => target ctx t
        | none => .null)], ctx)
    | none => (missingSite i, ctx)
  | .guardAccept a i r vs =>
    match (heldArray ctx a).site? i with
    | none => (missingSite i, ctx)
    | some s =>
      match s.target? with
      | some t => (.obj [("accept", .bool (t.guard.accepts ctx.registry r vs))], ctx)
      | none => (.obj [("target", .null)], ctx)
  | .sites a => (sites (heldArray ctx a), ctx)
  | .resolverCalls => (.obj [("calls", .int ctx.calls)], ctx)
  | .resolve d r vs =>
    match InlineCache.resolve ctx.registry r d vs with
    | .ok t => (.obj [("target", target ctx t),
        ("accepts_inputs", .bool (t.guard.accepts ctx.registry r vs))], ctx)
    | .error f => (failure f (f.toError ctx.registry d r vs), ctx)
  | .registryLen => (.obj [("registry_len", .int ctx.registry.size)], ctx)
  | .hubInvalidateAll =>
    let (n, ctx) := ctx.hubInvalidateAll
    (.obj [("reset", .int n)], ctx)
  | .hubLiveCount =>
    let ctx := ctx.pruneHub
    (.obj [("live", .int ctx.hub.length)], ctx)
  | .hubRegister a => (.obj [("ok", .bool true)], { ctx with hub := ctx.hub ++ [a] })
  | .dropArray a =>
    match ctx.array? a with
    | some _ =>
      (.obj [("dropped", .bool true)],
        { ctx with arrays := ctx.arrays.modify a fun e => { e with held := false } })
    | none => (.obj [("dropped", .bool false)], ctx)
  | .defineMethod cls m route => defineMethod ctx cls m route false
  | .defineStatic cls m route => defineMethod ctx cls m route true
  | .removeMethod cls name route => removeMethod ctx cls name route
  | .defineForeignMethod ty m route => defineForeignMethod ctx ty m route
  | .classInfo c => (classInfo ctx c, ctx)
  | .isSubclassOf c t => (.obj [("result", .bool (c.isSubclassOf t))], ctx)
  | .matchScore ps vs => (matchScore ctx ps vs, ctx)
  | .field v name => (field ctx v name, ctx)
  | .setField v name x => setField ctx v name x
  | .valueInfo v => (valueInfo ctx v, ctx)
  | .valueEq a b => (.obj [("eq", .bool (a.equals b))], ctx)
  | .describeArgs vs => (.obj [("text", .str (ctx.registry.describeArgs vs))], ctx)
  | .registry id => (registry ctx id, ctx)
  | .allocateTypeId =>
    let (t, registry) := ctx.registry.allocate
    (.obj [("type_id", typeId t)], { ctx with registry })
  | .normalizeIndex i len =>
    match normalizeIndex i len with
    | .ok slot => (.obj [("slot", .int slot)], ctx)
    | .error e => (.obj (errorMembers e), ctx)
  | .binaryOp op r vs => (binaryOp ctx op r vs, ctx)
  | .accessor name r vs force => (accessor ctx name r vs force, ctx)
  | .config c => (config c, ctx)
  | .configEnv env => (config (configOfEnv env), ctx)
  | .typeId t => (typeIdInfo t, ctx)
  | .descriptor d vs => (descriptor d vs, ctx)
  | .listing shown => (listing ctx shown, ctx)
  | .valueFrom v => (.obj [("value", value ctx v), ("type_name", .str (ctx.registry.typeName v))], ctx)
  | .invoke .. | .targetInvoke .. | .findMethods .. | .methodTable .. | .targetFromParts .. =>
    (badInput "step calls methods", ctx)

end InlineCache.Queries
