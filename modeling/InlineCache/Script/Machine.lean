import InlineCache.Script.Queries
import InlineCache.Script.Reading
import InlineCache.Object.Primitive
/-!
# Running calls and scenarios

The dispatcher at work. A call through a site takes the fast path when the cached target's
guard accepts the receiver and arguments, and the slow path otherwise: count a miss,
remember the site's epoch, ask the resolver, store the outcome unless the site was reset in
the meantime, check the fresh target's guard on the call's own inputs, and run it.

The resolver every array of a scenario shares counts its calls and runs the steps of the
hooks registered for that call, before or after the search, in registration order. Those
steps, and the calls method bodies make, re-enter the dispatcher: the state is threaded
through every step, so each sees what the ones before it did. Method bodies may nest calls
32 deep. A step is read against the context just before it runs; one that does not read is
answered as an input error and changes nothing.

Every function here takes fuel and spends one unit per nested call. Real nesting is
bounded: body calls by the depth limit, hook steps because each hook fires for one
resolver call only. A scenario gets fuel in proportion to its size, more than its nesting
can use, so running out of fuel does not happen; a run that did would be aborted.
-/
namespace InlineCache.Machine

open InlineCache.Render

/-- A computation on the scenario's context, which may panic. -/
abbrev Run := StateT Context (Except Panic)

/-- The most method-body calls that may be running at once. -/
def maxDepth : Nat := 32

/-- The error of a slow path that finds no site to count its miss at. -/
def exhausted : RuntimeError := .raised "nesting limit reached"

/-- The panic of a run that spends all its fuel. -/
def outOfFuel : Panic := ⟨"fuel exhausted"⟩

/-- The log entries of one hook step. -/
def hookEntry (e : HookEntry) : Json :=
  .obj [("on_call", .int e.onCall), ("when", .str (if e.before then "before" else "after")),
        ("result", e.answer)]

/-- Run a reading against the context, keeping what it built when it succeeds. -/
def read {α : Type} (r : Reading α) : Run (Checked α) := fun ctx =>
  match r.run ctx with
  | .ok (a, ctx') => .ok (.ok a, ctx')
  | .error msg => .ok (.error msg, ctx)

mutual

/-- A call through the site `i` of the array `a`; with `safe`, the absent receiver
answers the absent value without dispatching. -/
def callSite : Nat → Nat → Nat → Value → List Value → Bool → Run (Outcome Value)
  | 0, _, _, _, _, _ => throw outOfFuel
  | fuel + 1, a, i, recv, args, safe => do
    let ctx ← get
    match ctx.anyArray? a with
    | none => pure (.error (.raised ("no array " ++ toString a)))
    | some arr =>
      match arr.site? i with
      | none => pure (.error (arr.outOfRange i))
      | some site =>
        if safe && recv.isNone then pure (.ok .none)
        else
          match site.target? with
          | some t =>
            if t.guard.accepts ctx.registry recv args then do
              modify (·.modifySite a i CallSite.recordHit)
              runTarget fuel t recv args
            else slowPath fuel a i recv args
          | none => slowPath fuel a i recv args

/-- The slow path of a call: resolve, store unless reset meanwhile, check, run. -/
def slowPath : Nat → Nat → Nat → Value → List Value → Run (Outcome Value)
  | 0, _, _, _, _ => throw outOfFuel
  | fuel + 1, a, i, recv, args => do
    modify (·.modifySite a i CallSite.recordMiss)
    match (← get).site? a i with
    | none => pure (.error exhausted)
    | some site =>
      let epoch := site.epoch
      let d := site.descriptor
      match ← resolveCounted fuel recv d args with
      | .error f => do
        modify (·.modifySite a i fun s => s.recordFailure.install epoch .failed)
        pure (.error (f.toError (← get).registry d recv args))
      | .ok t => do
        modify (·.modifySite a i fun s => s.recordResolution.install epoch (.cached t))
        if t.guard.accepts (← get).registry recv args then runTarget fuel t recv args
        else do
          modify (·.modifySite a i fun s => s.install epoch .failed)
          pure (.error (.guardInconsistency i d.name))

/-- The shared resolver: count the call, run the hooks for it around the search. -/
def resolveCounted : Nat → Value → CallDescriptor → List Value →
    Run (Except ResolutionFailure Target)
  | 0, _, _, _ => throw outOfFuel
  | fuel + 1, recv, d, args => do
    modify fun c => { c with calls := c.calls + 1 }
    let n := (← get).calls
    runHooks fuel n true ((← get).hooks.toList.filter fun h => h.onCall == n && h.before)
    let r := resolve (← get).registry recv d args
    runHooks fuel n false ((← get).hooks.toList.filter fun h => h.onCall == n && !h.before)
    pure r

/-- Run the steps of hooks, in order, logging each answer. -/
def runHooks : Nat → Nat → Bool → List Hook → Run Unit
  | 0, _, _, _ => throw outOfFuel
  | _ + 1, _, _, [] => pure ()
  | fuel + 1, n, before, h :: rest => do
    runHookSteps fuel n before h.steps
    runHooks fuel n before rest

/-- Run the steps of one hook, logging each answer. -/
def runHookSteps : Nat → Nat → Bool → List Json → Run Unit
  | 0, _, _, _ => throw outOfFuel
  | _ + 1, _, _, [] => pure ()
  | fuel + 1, n, before, s :: rest => do
    let answer ← readAndRun fuel s
    modify fun c => { c with log := c.log.push ⟨n, before, answer⟩ }
    runHookSteps fuel n before rest

/-- Run a target without consulting its guard. -/
def runTarget : Nat → Target → Value → List Value → Run (Outcome Value)
  | 0, _, _, _ => throw outOfFuel
  | fuel + 1, t, recv, args =>
    match t.invocable with
    | .method m => runMethod fuel m recv args
    | .ctor cls init => do
      let (inst, heap) := (← get).heap.alloc cls
      modify fun c => { c with heap }
      match ← runMethod fuel init inst args with
      | .ok _ => pure (.ok inst)
      | .error e => pure (.error e)
    | .accessor op => do pure (op.apply (← get).registry recv args)
    | .operator op =>
      match args with
      | [rhs] => do pure (op.apply (← get).registry recv rhs)
      | _ => pure (.error (.raised "binary operator expects one operand"))

/-- Run a method's body. -/
def runMethod : Nat → Method → Value → List Value → Run (Outcome Value)
  | 0, _, _, _ => throw outOfFuel
  | fuel + 1, m, recv, args =>
    match m.body with
    | .primitive p => do
      match Primitive.run (← get).registry p recv args with
      | .ok out => pure out
      | .error p => throw p
    | .script e => eval fuel e recv args

/-- Evaluate a body expression with a receiver and arguments. -/
def eval : Nat → Expr → Value → List Value → Run (Outcome Value)
  | 0, _, _, _ => throw outOfFuel
  | fuel + 1, e, self, args =>
    match e with
    | .const spec => do
      match (← get).materialize spec with
      | .ok (v, ctx) => do
        set ctx
        pure (.ok v)
      | .error msg => pure (.error (.raised ("bad constant: " ++ msg)))
    | .arg i =>
      pure (match args[i]? with
        | some v => .ok v
        | none => .error (.raised ("missing argument " ++ toString i)))
    | .self => pure (.ok self)
    | .field name =>
      match self with
      | .object r => do pure (.ok (((← get).heap.field? r name).getD .none))
      | _ => pure (.ok .none)
    | .payload =>
      match self with
      | .foreign _ _ p => pure (.ok p)
      | _ => pure (.ok .none)
    | .raise text => pure (.error (.raised text))
    | .describeArgs => do pure (.ok (.str ((← get).registry.describeArgs args)))
    | .argCount => pure (.ok (.int (Int64.ofNat args.length)))
    | .typeName inner => do
      match ← eval fuel inner self args with
      | .ok v => pure (.ok (.str ((← get).registry.typeName v)))
      | .error err => pure (.error err)
    | .seq es => evalSeq fuel es self args .none
    | .setField name inner => do
      match ← eval fuel inner self args with
      | .ok v =>
        match self with
        | .object r => do
          modify fun c => { c with heap := c.heap.setField r name v }
          pure (.ok .none)
        | _ => pure (.ok .none)
      | .error err => pure (.error err)
    | .invoke a i recv? argEs safe => do
      let recvV ← match recv? with
        | some re => eval fuel re self args
        | none => pure (.ok self)
      match recvV with
      | .error err => pure (.error err)
      | .ok r => do
        match ← evalList fuel argEs self args with
        | .error err => pure (.error err)
        | .ok vs => do
          let ctx ← get
          match ctx.array? a with
          | none => pure (.error (.raised ("no array " ++ toString a)))
          | some _ =>
            if ctx.depth ≥ maxDepth then pure (.error (.raised "nesting limit reached"))
            else do
              modify fun c => { c.pin a true with depth := c.depth + 1 }
              let out ← callSite fuel a i r vs safe
              modify fun c => { c.pin a false with depth := c.depth - 1 }
              pure out

/-- Evaluate expressions in order; the first error stops. -/
def evalList : Nat → List Expr → Value → List Value → Run (Outcome (List Value))
  | 0, _, _, _ => throw outOfFuel
  | _ + 1, [], _, _ => pure (.ok [])
  | fuel + 1, e :: es, self, args => do
    match ← eval fuel e self args with
    | .error err => pure (.error err)
    | .ok v => do
      match ← evalList fuel es self args with
      | .error err => pure (.error err)
      | .ok vs => pure (.ok (v :: vs))

/-- Evaluate expressions in order, keeping the last value. -/
def evalSeq : Nat → List Expr → Value → List Value → Value → Run (Outcome Value)
  | 0, _, _, _, _ => throw outOfFuel
  | _ + 1, [], _, _, last => pure (.ok last)
  | fuel + 1, e :: es, self, args, _ => do
    match ← eval fuel e self args with
    | .error err => pure (.error err)
    | .ok v => evalSeq fuel es self args v

/-- Run methods on a receiver and arguments, each answered with its score and, when
`call` holds, its outcome. -/
def runMethods : Nat → List Method → Value → List Value → Bool → Run (List Json)
  | 0, _, _, _, _ => throw outOfFuel
  | _ + 1, [], _, _, _ => pure []
  | fuel + 1, m :: ms, recv, args, call => do
    let sc := Queries.score (m.matchScore (← get).registry args)
    let result ← if call then do
        let out ← runMethod fuel m recv args
        pure [("result", outcome (← get) out)]
      else pure []
    let rest ← runMethods fuel ms recv args call
    pure (.obj (methodMembers m ++ [("score", sc)] ++ result) :: rest)

/-- Run the operations on a method table's versions, in order, each read when its turn
comes. A change adds a version made from the latest one; a question asks the version it
names. The first operation that does not read ends them all with its input error. -/
def runTableOps : Nat → Array MethodTable → List Json → Run (Checked (List Json))
  | 0, _, _ => throw outOfFuel
  | _ + 1, _, [] => pure (.ok [])
  | fuel + 1, versions, j :: rest => do
    let follow (head : Json) (versions : Array MethodTable) : Run (Checked (List Json)) := do
      match ← runTableOps fuel versions rest with
      | .ok tail => pure (.ok (head :: tail))
      | .error msg => pure (.error msg)
    let added (t : MethodTable) : Run (Checked (List Json)) :=
      let versions := versions.push t
      follow (.obj [("version", .int (versions.size - 1))]) versions
    let latest := versions.back?.getD {}
    let asked (v : Nat) : MethodTable := versions[v]?.getD {}
    match ← read (Reading.tableOp versions.size j) with
    | .error msg => pure (.error msg)
    | .ok (.add m) => added (latest.insert m)
    | .ok (.erase name) => added (latest.erase name)
    | .ok (.lookup name v) => do
      let overloads ← runLookups fuel ((asked v).lookup name)
      follow (.obj [("overloads", .arr overloads)]) versions
    | .ok (.contains name v) => follow (.obj [("contains", .bool ((asked v).contains name))]) versions
    | .ok (.isOverloaded name v) =>
      follow (.obj [("overloaded", .bool ((asked v).isOverloaded name))]) versions
    | .ok (.size v) =>
      let t := asked v
      follow (.obj [("len", .int t.size), ("is_empty", .bool (t.size == 0))]) versions

/-- Overloads, each with the outcome of running it on the absent receiver without
arguments. -/
def runLookups : Nat → List Method → Run (List Json)
  | 0, _ => throw outOfFuel
  | _ + 1, [] => pure []
  | fuel + 1, m :: ms => do
    let out ← runMethod fuel m .none []
    let head := Json.obj (methodMembers m ++ [("result", outcome (← get) out)])
    pure (head :: (← runLookups fuel ms))

/-- Run one step and answer it. -/
def runStep : Nat → Step → Run Json
  | 0, _ => throw outOfFuel
  | fuel + 1, step =>
    match step with
    | .invoke a i r vs safe saveAs => do
      modify (·.pin a true)
      let out ← callSite fuel a i r vs safe
      modify (·.pin a false)
      match out, saveAs with
      | .ok v, some name => modify (·.setVar name v)
      | _, _ => pure ()
      let ctx ← get
      let after := match ctx.site? a i with
        | some s => [("after", state s.state)]
        | none => []
      pure (.obj (outcomeMembers ctx out ++ [("calls", .int ctx.calls)] ++ after))
    | .targetInvoke a i r vs => do
      match (← get).site? a i with
      | none => pure (Queries.missingSite i)
      | some s =>
        match s.target? with
        | none => pure (.obj [("target", .null)])
        | some t => do
          modify (·.pin a true)
          let out ← runTarget fuel t r vs
          modify (·.pin a false)
          pure (outcome (← get) out)
    | .findMethods ms r vs call => do
      let items ← runMethods fuel ms r vs call
      pure (.obj [("methods", .arr items)])
    | .methodTable ms ops => do
      match ← runTableOps fuel #[MethodTable.ofMethods ms] ops with
      | .ok results => pure (.obj [("results", .arr results)])
      | .error msg => pure (badInput msg)
    | .configEnv env => do
      match Queries.envPanic env with
      | some p => throw p
      | none => do
        let (answer, ctx) := Queries.answer (← get) (.configEnv env)
        set ctx
        pure answer
    | .targetFromParts t r vs => do
      let accept := t.guard.accepts (← get).registry r vs
      let out ← runTarget fuel t r vs
      let ctx ← get
      pure (.obj [("target", target ctx t), ("variant_display", .str t.variant.name),
        ("accept", .bool accept), ("result", outcome ctx out)])
    | other => do
      let (answer, ctx) := Queries.answer (← get) other
      set ctx
      pure answer

/-- Read a step against the context and run it; a step that does not read is answered
as an input error. -/
def readAndRun : Nat → Json → Run Json
  | 0, _ => throw outOfFuel
  | fuel + 1, j => do
    match ← read (Reading.step j) with
    | .ok s => runStep fuel s
    | .error msg => pure (badInput msg)

end

/-- Run the top-level steps of a scenario, attaching to each answer the log of the hook
steps it caused. -/
def runSteps (fuel : Nat) : List Json → Run (List Json)
  | [] => pure []
  | s :: rest => do
    let answer ← readAndRun fuel s
    let log := (← get).log
    modify fun c => { c with log := #[] }
    let answer := if log.isEmpty then answer else answer.extend [("hooks", .arr (log.toList.map hookEntry))]
    pure (answer :: (← runSteps fuel rest))

end InlineCache.Machine
