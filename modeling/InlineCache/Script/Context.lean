import InlineCache.Script.Expr
import InlineCache.Json.Basic
import InlineCache.Object.Heap
import InlineCache.Dispatch.Site
/-!
# The context of a scenario

Everything a scenario's steps act on: the registry, the heap, the arrays of call sites
the scenario made, the invalidation hub, the resolver's call counter and hooks, the log of
hook answers, the named values, the names of classes and foreign types, and the depth of
nested calls made by method bodies.

An array stays alive while the scenario holds it or a call through it is running. The hub
holds arrays weakly: resetting through the hub reaches the live arrays registered with it,
once per registration. When the hub listens to the registry, every redefinition made
through the registry resets those arrays.
-/
namespace InlineCache

/-- Steps to run when the resolver is called for the `onCall`-th time. The steps are kept
as written and read when they run, against the context of that moment. -/
structure Hook where
  onCall : Nat
  /-- Before the resolution, rather than after it. -/
  before : Bool
  steps : List Json

/-- The answer of one step run by a hook. -/
structure HookEntry where
  onCall : Nat
  before : Bool
  answer : Json

/-- An array made by the scenario. -/
structure ArrayEntry where
  array : SiteArray
  /-- Whether the scenario still holds the array. -/
  held : Bool := true
  /-- Calls through the array that are running. -/
  pins : Nat := 0

namespace ArrayEntry

/-- Whether anything keeps the array alive. -/
def alive (e : ArrayEntry) : Bool := e.held || e.pins > 0

end ArrayEntry

/-- The state of a scenario. -/
structure Context where
  registry : Registry
  heap : Heap := {}
  arrays : Array ArrayEntry := #[]
  /-- Arrays registered with the hub, by index, in registration order. -/
  hub : List Nat := []
  /-- Whether the hub listens to redefinitions through the registry. -/
  hubListens : Bool := false
  /-- Resolver calls so far. -/
  calls : Nat := 0
  hooks : Array Hook := #[]
  log : Array HookEntry := #[]
  vars : List (String × Value) := []
  classNames : List (String × TypeId) := []
  foreignNames : List (String × TypeId) := []
  /-- Method-body calls running. -/
  depth : Nat := 0

/-- A failure of the request rather than of the program: a name that names nothing, or a
missing array. -/
abbrev Checked := Except String

namespace Context

/-- A fresh context. -/
def fresh (builtins hub : Bool) : Context :=
  { registry := if builtins then Registry.withBuiltins else Registry.empty, hubListens := hub }

/-- The array the scenario holds at index `a`. -/
def array? (ctx : Context) (a : Nat) : Option SiteArray :=
  match ctx.arrays[a]? with
  | some e => if e.held then some e.array else none
  | none => none

/-- The array at `a`, whether or not the scenario still holds it. -/
def anyArray? (ctx : Context) (a : Nat) : Option SiteArray := (ctx.arrays[a]?).map (·.array)

/-- The held array at `a`, or the input error naming it. -/
def needArray (ctx : Context) (a : Nat) : Checked SiteArray :=
  match ctx.array? a with
  | some arr => .ok arr
  | none => .error ("no array " ++ toString a)

/-- The context with the array at `a` changed by `f`. -/
def modifyArray (ctx : Context) (a : Nat) (f : SiteArray → SiteArray) : Context :=
  { ctx with arrays := ctx.arrays.modify a fun e => { e with array := f e.array } }

/-- The context with the site `i` of the array `a` changed by `f`. -/
def modifySite (ctx : Context) (a i : Nat) (f : CallSite → CallSite) : Context :=
  ctx.modifyArray a (·.modifySite i f)

/-- The site `i` of the array `a`. -/
def site? (ctx : Context) (a i : Nat) : Option CallSite := (ctx.anyArray? a).bind (·.site? i)

/-- Mark a call through the array `a` as running, or as finished. -/
def pin (ctx : Context) (a : Nat) (on : Bool) : Context :=
  { ctx with arrays := ctx.arrays.modify a fun e =>
      { e with pins := if on then e.pins + 1 else e.pins - 1 } }

/-- Whether the array at `a` is alive. -/
def alive (ctx : Context) (a : Nat) : Bool := (ctx.arrays[a]?.map ArrayEntry.alive).getD false

/-- The hub's registrations of live arrays, dropping the dead ones. -/
def pruneHub (ctx : Context) : Context := { ctx with hub := ctx.hub.filter ctx.alive }

/-- Reset every live array registered with the hub, once per registration; the number of
resets. -/
def hubInvalidateAll (ctx : Context) : Nat × Context :=
  let ctx := ctx.pruneHub
  (ctx.hub.length, ctx.hub.foldl (fun c a => c.modifyArray a SiteArray.resetAll) ctx)

/-- Tell the listeners of the registry that a type changed. -/
def notify (ctx : Context) : Context :=
  if ctx.hubListens then (ctx.hubInvalidateAll).2 else ctx

/-- The id of the class named `name`. -/
def classId? (ctx : Context) (name : String) : Option TypeId :=
  (ctx.classNames.find? (·.1 == name)).map (·.2)

/-- The class named `name`, or the input error. -/
def needClass (ctx : Context) (name : String) : Checked Class :=
  match (ctx.classId? name).bind ctx.registry.class? with
  | some c => .ok c
  | none => .error ("unknown class '" ++ name ++ "'")

/-- The names of the builtin kinds that have method tables. -/
def builtinForeignId? : String → Option TypeId
  | "str" => some TypeId.str
  | "int" => some TypeId.int
  | "float" => some TypeId.float
  | "bool" => some TypeId.bool
  | "bytes" => some TypeId.bytes
  | _ => none

/-- The foreign type named `name`: a user foreign type, else a builtin kind. -/
def needForeign (ctx : Context) (name : String) : Checked ForeignType :=
  let id? := match ctx.foreignNames.find? (·.1 == name) with
    | some (_, id) => some id
    | none => builtinForeignId? name
  match id?.bind ctx.registry.foreign? with
  | some t => .ok t
  | none => .error ("unknown foreign type '" ++ name ++ "'")

/-- The value stored under `name`. -/
def var? (ctx : Context) (name : String) : Option Value := (ctx.vars.find? (·.1 == name)).map (·.2)

/-- Store a value under `name`, replacing an earlier one. -/
def setVar (ctx : Context) (name : String) (v : Value) : Context :=
  { ctx with vars := (name, v) :: ctx.vars.filter (·.1 != name) }

mutual

/-- The value a description stands for; instances and foreign objects are made anew. -/
def materialize (ctx : Context) : ValueSpec → Checked (Value × Context)
  | .plain v => .ok (v.value, ctx)
  | .obj cls fields => do
    let c ← ctx.needClass cls
    let (v, heap) := ctx.heap.alloc c.id
    let ctx := { ctx with heap }
    match v with
    | .object r => setFields ctx r fields
    | _ => .ok (v, ctx)
  | .cls name => do
    let c ← ctx.needClass name
    return (.cls c.id, ctx)
  | .foreign ty payload => do
    let t ← ctx.needForeign ty
    let (p, ctx) ← materialize ctx payload
    let (v, heap) := ctx.heap.allocForeign t.id p
    return (v, { ctx with heap })
  | .var name =>
    match ctx.var? name with
    | some v => .ok (v, ctx)
    | none => .error ("unknown var '" ++ name ++ "'")
  | .invalid why => .error why

/-- Set the described fields of the instance `r`, in order. -/
def setFields (ctx : Context) (r : ObjectRef) : List (String × ValueSpec) → Checked (Value × Context)
  | [] => .ok (.object r, ctx)
  | (k, spec) :: rest => do
    let (v, ctx) ← materialize ctx spec
    setFields { ctx with heap := ctx.heap.setField r k v } r rest

end

/-- The values of a list of descriptions, in order. -/
def materializeAll (ctx : Context) : List ValueSpec → Checked (List Value × Context)
  | [] => .ok ([], ctx)
  | spec :: rest => do
    let (v, ctx) ← ctx.materialize spec
    let (vs, ctx) ← materializeAll ctx rest
    return (v :: vs, ctx)

end Context

end InlineCache
