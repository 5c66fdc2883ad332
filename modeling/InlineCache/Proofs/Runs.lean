import Mathlib
import InlineCache.Script.Machine
import InlineCache.Proofs.ReadingFrame
import InlineCache.Proofs.Sites
/-!
# What every run of the machine keeps

The machine changes its context through a short list of primitive changes: counting a hit
at a site, logging hook answers, building on the heap, marking an array as in use and the
depth of nested calls, naming a value, answering a step that calls no method, and the slow
paths. A relation between contexts that is reflexive and transitive and that every one of
these respects relates the start and the end of every run of every function of the machine,
however deeply the runs nest.

A slow path is the one change not judged piece by piece: it counts a miss and a resolver
call, and stores the outcome of its resolution under the epoch it read before resolving, so
its counting and what it may store are judged together with the resolution in between. A
relation such as "every miss has its resolver call and its outcome counted" holds at the
ends of a slow path and not in its middle.
-/
namespace InlineCache.Machine

section Keeps

variable (R : Context → Context → Prop)

/-- Every successful run of `m` from `ctx` ends in a context that `R` relates to `ctx`. -/
def KeepsFrom {α : Type} (ctx : Context) (m : Run α) : Prop :=
  ∀ x ctx', m.run ctx = .ok (x, ctx') → R ctx ctx'

/-- Every successful run of `m` relates its start to its end by `R`. -/
def Keeps {α : Type} (m : Run α) : Prop := ∀ ctx, KeepsFrom R ctx m

variable {R}

theorem KeepsFrom.pure [IsPreorder Context R] {α : Type} {ctx : Context} (x : α) :
    KeepsFrom R ctx (pure x) := by
  intro y ctx' h
  rw [StateT.run_pure, pure_eq_ok] at h
  cases h
  exact refl_of R ctx

theorem KeepsFrom.throw {α : Type} {ctx : Context} (p : Panic) :
    KeepsFrom R ctx (throw p : Run α) := by
  intro y ctx' h
  cases h

theorem KeepsFrom.bind [IsPreorder Context R] {α β : Type} {ctx : Context} {m : Run α}
    {f : α → Run β} (hm : KeepsFrom R ctx m)
    (hf : ∀ x ctx₁, m.run ctx = .ok (x, ctx₁) → KeepsFrom R ctx₁ (f x)) :
    KeepsFrom R ctx (m >>= f) := by
  intro y ctx' h
  rw [StateT.run_bind] at h
  obtain ⟨⟨x, ctx₁⟩, h₁, h₂⟩ := bind_eq_ok.1 h
  exact trans_of R (hm x ctx₁ h₁) (hf x ctx₁ h₁ y ctx' h₂)

theorem KeepsFrom.get_bind {α : Type} {ctx : Context} {f : Context → Run α}
    (hf : KeepsFrom R ctx (f ctx)) : KeepsFrom R ctx (get >>= f) := by
  intro y ctx' h
  rw [StateT.run_bind, StateT.run_get] at h
  exact hf y ctx' h

theorem KeepsFrom.modify_bind [IsPreorder Context R] {α : Type} {ctx : Context}
    {g : Context → Context} {f : PUnit → Run α} (hg : R ctx (g ctx))
    (hf : KeepsFrom R (g ctx) (f ⟨⟩)) : KeepsFrom R ctx (modify g >>= f) := by
  intro y ctx' h
  rw [StateT.run_bind, StateT.run_modify] at h
  exact trans_of R hg (hf y ctx' h)

theorem KeepsFrom.set_bind [IsPreorder Context R] {α : Type} {ctx ctx₁ : Context}
    {f : PUnit → Run α} (hg : R ctx ctx₁) (hf : KeepsFrom R ctx₁ (f ⟨⟩)) :
    KeepsFrom R ctx (set ctx₁ >>= f) := by
  intro y ctx' h
  rw [StateT.run_bind, StateT.run_set] at h
  exact trans_of R hg (hf y ctx' h)

/-- Reading keeps `R` when every successful reading from `ctx` does. -/
theorem KeepsFrom.read [IsPreorder Context R] {α : Type} {ctx : Context} {r : Reading α}
    (hr : ∀ a ctx', r.run ctx = .ok (a, ctx') → R ctx ctx') :
    KeepsFrom R ctx (Machine.read r) := by
  intro y ctx' h
  unfold Machine.read at h
  simp only [StateT.run] at h
  split at h
  · next a ctx₁ hrun =>
    cases h
    exact hr a ctx' hrun
  · cases h
    exact refl_of R ctx

end Keeps

end InlineCache.Machine

namespace InlineCache.Context

@[simp] theorem modifySite_registry (ctx : Context) (a i : Nat) (f : CallSite → CallSite) :
    (ctx.modifySite a i f).registry = ctx.registry := rfl

/-- The context with one more resolver call counted. -/
def countCall (ctx : Context) : Context := { ctx with calls := ctx.calls + 1 }

@[simp] theorem countCall_registry (ctx : Context) : ctx.countCall.registry = ctx.registry := rfl

@[simp] theorem site?_countCall (ctx : Context) (a i : Nat) :
    ctx.countCall.site? a i = ctx.site? a i := rfl

/-- The hooks registered for the resolver call `n` that run before the search, or after it. -/
def hooksOf (ctx : Context) (n : Nat) (before : Bool) : List Hook :=
  ctx.hooks.toList.filter fun h => h.onCall == n && h.before == before

end InlineCache.Context

namespace InlineCache.Machine

/-- A counted resolution bumps the call count, runs the hooks before the search, searches
the registry those hooks left, and runs the hooks after it. -/
theorem resolveCounted_succ_run {m : Nat} {recv : Value} {d : CallDescriptor}
    {args : List Value} {ctx ctx' : Context} {r : Except ResolutionFailure Target}
    (hrun : (resolveCounted (m + 1) recv d args).run ctx = .ok (r, ctx')) :
    ∃ ctxm, (runHooks m (ctx.calls + 1) true (ctx.hooksOf (ctx.calls + 1) true)).run
          { ctx with calls := ctx.calls + 1 } = .ok (⟨⟩, ctxm) ∧
      r = resolve ctxm.registry recv d args ∧
      (runHooks m (ctx.calls + 1) false (ctxm.hooksOf (ctx.calls + 1) false)).run ctxm =
        .ok (⟨⟩, ctx') := by
  rw [resolveCounted] at hrun
  simp only [StateT.run_bind, StateT.run_modify, StateT.run_get, pure_bind] at hrun
  obtain ⟨⟨_, ctxm⟩, hbefore, hrest⟩ := bind_eq_ok.1 hrun
  obtain ⟨⟨_, ctx₂⟩, hafter, hpure⟩ := bind_eq_ok.1 hrest
  rw [StateT.run_pure, pure_eq_ok] at hpure
  cases hpure
  have before : ∀ c : Context, c.hooksOf (ctx.calls + 1) true =
      c.hooks.toList.filter fun h => h.onCall == ctx.calls + 1 && h.before := by
    intro c
    simp [Context.hooksOf]
  have after : ∀ c : Context, c.hooksOf (ctx.calls + 1) false =
      c.hooks.toList.filter fun h => h.onCall == ctx.calls + 1 && !h.before := by
    intro c
    simp [Context.hooksOf]
  exact ⟨ctxm, by rw [before]; exact hbefore, rfl, by rw [after]; exact hafter⟩

/-- The ways a slow path with one more unit of fuel than `m` runs from `ctx`, after counting
its miss, to `ctx'` with the outcome `out`. The epoch stored with the outcome is always the
one read before the resolution. -/
inductive SlowPathRun (m a i : Nat) (recv : Value) (args : List Value) (ctx : Context) :
    Outcome Value → Context → Prop
  /-- The site is not there. -/
  | noSite : (ctx.modifySite a i CallSite.recordMiss).site? a i = none →
      SlowPathRun m a i recv args ctx (.error exhausted) (ctx.modifySite a i CallSite.recordMiss)
  /-- The resolution failed; the failure is stored. -/
  | failed (s : CallSite) (f : ResolutionFailure) (ctx₂ : Context) :
      (ctx.modifySite a i CallSite.recordMiss).site? a i = some s →
      (resolveCounted m recv s.descriptor args).run (ctx.modifySite a i CallSite.recordMiss) =
        .ok (.error f, ctx₂) →
      SlowPathRun m a i recv args ctx (.error (f.toError ctx₂.registry s.descriptor recv args))
        (ctx₂.modifySite a i fun s' => s'.recordFailure.install s.epoch .failed)
  /-- The resolution found a target, which is stored, accepts the call and runs. -/
  | ran (s : CallSite) (t : Target) (ctx₂ : Context) (out : Outcome Value) (ctx' : Context) :
      (ctx.modifySite a i CallSite.recordMiss).site? a i = some s →
      (resolveCounted m recv s.descriptor args).run (ctx.modifySite a i CallSite.recordMiss) =
        .ok (.ok t, ctx₂) →
      t.guard.accepts ctx₂.registry recv args = true →
      (runTarget m t recv args).run
        (ctx₂.modifySite a i fun s' => s'.recordResolution.install s.epoch (.cached t)) =
          .ok (out, ctx') →
      SlowPathRun m a i recv args ctx out ctx'
  /-- The resolution found a target that rejects the call; it is stored, then replaced by a
  failure. -/
  | rejected (s : CallSite) (t : Target) (ctx₂ : Context) :
      (ctx.modifySite a i CallSite.recordMiss).site? a i = some s →
      (resolveCounted m recv s.descriptor args).run (ctx.modifySite a i CallSite.recordMiss) =
        .ok (.ok t, ctx₂) →
      t.guard.accepts ctx₂.registry recv args = false →
      SlowPathRun m a i recv args ctx (.error (.guardInconsistency i s.descriptor.name))
        ((ctx₂.modifySite a i fun s' => s'.recordResolution.install s.epoch (.cached t)).modifySite
          a i fun s' => s'.install s.epoch .failed)

/-- Every successful slow path runs in one of the ways of `SlowPathRun`. -/
theorem slowPath_succ_run {m a i : Nat} {recv : Value} {args : List Value} {ctx ctx' : Context}
    {out : Outcome Value} (hrun : (slowPath (m + 1) a i recv args).run ctx = .ok (out, ctx')) :
    SlowPathRun m a i recv args ctx out ctx' := by
  rw [slowPath] at hrun
  simp only [StateT.run_bind, StateT.run_modify, StateT.run_get, pure_bind] at hrun
  split at hrun
  · next hs =>
    rw [StateT.run_pure, pure_eq_ok] at hrun
    cases hrun
    exact .noSite hs
  · next s hs =>
    rw [StateT.run_bind] at hrun
    obtain ⟨⟨r, ctx₂⟩, hres, hrest⟩ := bind_eq_ok.1 hrun
    cases r with
    | error f =>
      simp only [StateT.run_bind, StateT.run_modify, StateT.run_get, StateT.run_pure, pure_bind,
        pure_eq_ok] at hrest
      cases hrest
      exact .failed s f ctx₂ hs hres
    | ok t =>
      simp only [StateT.run_bind, StateT.run_modify, StateT.run_get, pure_bind,
        Context.modifySite_registry] at hrest
      cases hacc : t.guard.accepts ctx₂.registry recv args with
      | true =>
        simp only [hacc, if_true] at hrest
        exact .ran s t ctx₂ out ctx' hs hres hacc hrest
      | false =>
        simp only [hacc, Bool.false_eq_true, if_false, StateT.run_bind, StateT.run_modify,
          StateT.run_pure, pure_bind, pure_eq_ok] at hrest
        cases hrest
        exact .rejected s t ctx₂ hs hres hacc

/-- The primitive changes of the machine, each relating the context before it to the context
after it by `R`, and the ways a slow path ends, each judged with its miss, the resolver call
it counts and the resolution whose outcome it stores. -/
structure Respects (R : Context → Context → Prop) : Prop where
  hit : ∀ ctx a i, R ctx (ctx.modifySite a i CallSite.recordHit)
  log : ∀ (ctx : Context) (log : Array HookEntry), R ctx { ctx with log }
  heap : ∀ (ctx : Context) (heap : Heap), R ctx { ctx with heap }
  pin : ∀ ctx a on, R ctx (ctx.pin a on)
  depth : ∀ (ctx : Context) (depth : Nat), R ctx { ctx with depth }
  setVar : ∀ ctx name v, R ctx (ctx.setVar name v)
  answer : ∀ ctx s, R ctx (Queries.answer ctx s).2
  /-- A failed resolution is stored as a failure under the epoch read before it. The
  resolution runs from the context with the miss and the resolver call counted. -/
  installFailed : ∀ ctx a i s ctx₂, (ctx.modifySite a i CallSite.recordMiss).site? a i = some s →
    R (ctx.modifySite a i CallSite.recordMiss).countCall ctx₂ →
    R ctx (ctx₂.modifySite a i fun s' => s'.recordFailure.install s.epoch .failed)
  /-- A target is stored under the epoch read before the resolution that made it; the
  resolution searched the registry of `ctxm`, between the hooks that ran before it and
  those that ran after. -/
  installCached : ∀ ctx a i s ctxm ctx₂ recv args t,
    (ctx.modifySite a i CallSite.recordMiss).site? a i = some s →
    R (ctx.modifySite a i CallSite.recordMiss).countCall ctxm →
    resolve ctxm.registry recv s.descriptor args = .ok t → R ctxm ctx₂ →
    R ctx (ctx₂.modifySite a i fun s' => s'.recordResolution.install s.epoch (.cached t))
  /-- A target that rejects the inputs it was resolved for is replaced by a failure. -/
  reject : ∀ ctx a i s ctxm ctx₂ recv args t,
    (ctx.modifySite a i CallSite.recordMiss).site? a i = some s →
    R (ctx.modifySite a i CallSite.recordMiss).countCall ctxm →
    resolve ctxm.registry recv s.descriptor args = .ok t → R ctxm ctx₂ →
    R ctx ((ctx₂.modifySite a i fun s' => s'.recordResolution.install s.epoch (.cached t)).modifySite
      a i fun s' => s'.install s.epoch .failed)

/-- A change of the heap alone is one of the primitive changes. -/
theorem Respects.onlyHeap {R : Context → Context → Prop} (h : Respects R) {ctx ctx' : Context}
    (hf : ctx.OnlyHeap ctx') : R ctx ctx' := by
  obtain ⟨heap, rfl⟩ := hf
  exact h.heap ctx heap

/-- Every function of the machine, run with `fuel`, keeps `R`; a counted resolution does from
the context with its call counted. -/
structure KeepsAll (R : Context → Context → Prop) (fuel : Nat) : Prop where
  callSite : ∀ a i recv args safe, Keeps R (callSite fuel a i recv args safe)
  slowPath : ∀ a i recv args, Keeps R (slowPath fuel a i recv args)
  resolveCounted : ∀ recv d args ctx r ctx',
    (Machine.resolveCounted fuel recv d args).run ctx = .ok (r, ctx') → R ctx.countCall ctx'
  /-- A resolution that finds a target searched a registry between its start and its end. -/
  resolves : ∀ recv d args ctx t ctx',
    (Machine.resolveCounted fuel recv d args).run ctx = .ok (.ok t, ctx') →
      ∃ ctxm, R ctx.countCall ctxm ∧ resolve ctxm.registry recv d args = .ok t ∧ R ctxm ctx'
  runHooks : ∀ n before hs, Keeps R (runHooks fuel n before hs)
  runHookSteps : ∀ n before js, Keeps R (runHookSteps fuel n before js)
  runTarget : ∀ t recv args, Keeps R (runTarget fuel t recv args)
  runMethod : ∀ m recv args, Keeps R (runMethod fuel m recv args)
  eval : ∀ e self args, Keeps R (eval fuel e self args)
  evalList : ∀ es self args, Keeps R (evalList fuel es self args)
  evalSeq : ∀ es self args last, Keeps R (evalSeq fuel es self args last)
  runMethods : ∀ ms recv args call, Keeps R (runMethods fuel ms recv args call)
  runTableOps : ∀ versions js, Keeps R (runTableOps fuel versions js)
  runLookups : ∀ ms, Keeps R (runLookups fuel ms)
  runStep : ∀ s, Keeps R (runStep fuel s)
  readAndRun : ∀ j, Keeps R (readAndRun fuel j)

section Functions

variable {R : Context → Context → Prop} [IsPreorder Context R] (h : Respects R)

omit [IsPreorder Context R] in
/-- With no fuel left, every run is aborted. -/
theorem keepsAll_zero : KeepsAll R 0 where
  callSite _ _ _ _ _ _ := by rw [callSite]; exact KeepsFrom.throw _
  slowPath _ _ _ _ _ := by rw [slowPath]; exact KeepsFrom.throw _
  resolveCounted _ _ _ _ _ _ hrun := by
    rw [resolveCounted] at hrun
    cases hrun
  resolves _ _ _ _ _ _ hrun := by
    rw [resolveCounted] at hrun
    cases hrun
  runHooks _ _ _ _ := by rw [runHooks]; exact KeepsFrom.throw _
  runHookSteps _ _ _ _ := by rw [runHookSteps]; exact KeepsFrom.throw _
  runTarget _ _ _ _ := by rw [runTarget]; exact KeepsFrom.throw _
  runMethod _ _ _ _ := by rw [runMethod]; exact KeepsFrom.throw _
  eval _ _ _ _ := by rw [eval]; exact KeepsFrom.throw _
  evalList _ _ _ _ := by rw [evalList]; exact KeepsFrom.throw _
  evalSeq _ _ _ _ _ := by rw [evalSeq]; exact KeepsFrom.throw _
  runMethods _ _ _ _ _ := by rw [runMethods]; exact KeepsFrom.throw _
  runTableOps _ _ _ := by rw [runTableOps]; exact KeepsFrom.throw _
  runLookups _ _ := by rw [runLookups]; exact KeepsFrom.throw _
  runStep _ _ := by rw [runStep]; exact KeepsFrom.throw _
  readAndRun _ _ := by rw [readAndRun]; exact KeepsFrom.throw _

variable {n : Nat} (ih : KeepsAll R n)

include ih

theorem runHooks_keeps (k : Nat) (before : Bool) (hs : List Hook) :
    Keeps R (runHooks (n + 1) k before hs) := by
  intro ctx
  cases hs with
  | nil => rw [runHooks]; exact KeepsFrom.pure _
  | cons hook rest =>
    rw [runHooks]
    exact KeepsFrom.bind (ih.runHookSteps _ _ _ ctx) fun _ ctx₁ _ => ih.runHooks _ _ _ ctx₁

include h in
theorem runHookSteps_keeps (k : Nat) (before : Bool) (js : List Json) :
    Keeps R (runHookSteps (n + 1) k before js) := by
  intro ctx
  cases js with
  | nil => rw [runHookSteps]; exact KeepsFrom.pure _
  | cons j rest =>
    rw [runHookSteps]
    refine KeepsFrom.bind (ih.readAndRun _ ctx) fun _ ctx₁ _ => ?_
    exact KeepsFrom.modify_bind (h.log _ _) (ih.runHookSteps _ _ _ _)

theorem evalList_keeps (es : List Expr) (self : Value) (args : List Value) :
    Keeps R (evalList (n + 1) es self args) := by
  intro ctx
  cases es with
  | nil => rw [evalList]; exact KeepsFrom.pure _
  | cons e rest =>
    rw [evalList]
    refine KeepsFrom.bind (ih.eval _ _ _ ctx) fun out ctx₁ _ => ?_
    split
    · exact KeepsFrom.pure _
    · refine KeepsFrom.bind (ih.evalList _ _ _ ctx₁) fun out' ctx₂ _ => ?_
      split <;> exact KeepsFrom.pure _

theorem evalSeq_keeps (es : List Expr) (self : Value) (args : List Value) (last : Value) :
    Keeps R (evalSeq (n + 1) es self args last) := by
  intro ctx
  cases es with
  | nil => rw [evalSeq]; exact KeepsFrom.pure _
  | cons e rest =>
    rw [evalSeq]
    refine KeepsFrom.bind (ih.eval _ _ _ ctx) fun out ctx₁ _ => ?_
    split
    · exact KeepsFrom.pure _
    · exact ih.evalSeq _ _ _ _ ctx₁

theorem runLookups_keeps (ms : List Method) : Keeps R (runLookups (n + 1) ms) := by
  intro ctx
  cases ms with
  | nil => rw [runLookups]; exact KeepsFrom.pure _
  | cons m rest =>
    rw [runLookups]
    refine KeepsFrom.bind (ih.runMethod _ _ _ ctx) fun out ctx₁ _ => ?_
    refine KeepsFrom.get_bind (KeepsFrom.bind (ih.runLookups _ ctx₁) fun _ ctx₂ _ => ?_)
    exact KeepsFrom.pure _

theorem runMethods_keeps (ms : List Method) (recv : Value) (args : List Value) (call : Bool) :
    Keeps R (runMethods (n + 1) ms recv args call) := by
  intro ctx
  cases ms with
  | nil => rw [runMethods]; exact KeepsFrom.pure _
  | cons m rest =>
    rw [runMethods]
    refine KeepsFrom.get_bind ?_
    dsimp only
    have rest : ∀ result ctx₁, KeepsFrom R ctx₁ (do
        let rest ← runMethods n rest recv args call
        pure (Json.obj (Render.methodMembers m ++ [("score", Queries.score (m.matchScore ctx.registry args))] ++ result) :: rest)) :=
      fun _ ctx₁ => KeepsFrom.bind (ih.runMethods _ _ _ _ ctx₁) fun _ _ _ => KeepsFrom.pure _
    split
    · refine KeepsFrom.bind (ih.runMethod _ _ _ ctx) fun _ ctx₁ _ => ?_
      refine KeepsFrom.get_bind (KeepsFrom.bind (KeepsFrom.pure _) fun _ ctx₂ _ => rest _ ctx₂)
    · exact KeepsFrom.bind (KeepsFrom.pure _) fun _ ctx₂ _ => rest _ ctx₂

theorem runMethod_keeps (m : Method) (recv : Value) (args : List Value) :
    Keeps R (runMethod (n + 1) m recv args) := by
  intro ctx
  rw [runMethod]
  split
  · refine KeepsFrom.get_bind ?_
    split
    · exact KeepsFrom.pure _
    · exact KeepsFrom.throw _
  · exact ih.eval _ _ _ ctx

include h in
theorem readAndRun_keeps (j : Json) : Keeps R (readAndRun (n + 1) j) := by
  intro ctx
  rw [readAndRun]
  refine KeepsFrom.bind (KeepsFrom.read fun _ _ hr => h.onlyHeap (Reading.step_framed Reading.onlyHeap_builds j ctx _ _ hr)) fun out ctx₁ _ => ?_
  split
  · exact ih.runStep _ ctx₁
  · exact KeepsFrom.pure _

include h in
theorem runTarget_keeps (t : Target) (recv : Value) (args : List Value) :
    Keeps R (runTarget (n + 1) t recv args) := by
  intro ctx
  rw [runTarget]
  split
  · exact ih.runMethod _ _ _ ctx
  · refine KeepsFrom.get_bind ?_
    split
    next inst heap _ =>
    refine KeepsFrom.modify_bind (h.heap _ _) ?_
    refine KeepsFrom.bind (ih.runMethod _ _ _ _) fun _ _ _ => ?_
    split <;> exact KeepsFrom.pure _
  · exact KeepsFrom.get_bind (KeepsFrom.pure _)
  · split
    · exact KeepsFrom.get_bind (KeepsFrom.pure _)
    · exact KeepsFrom.pure _

include h in
theorem callSite_keeps (a i : Nat) (recv : Value) (args : List Value) (safe : Bool) :
    Keeps R (callSite (n + 1) a i recv args safe) := by
  intro ctx
  rw [callSite]
  refine KeepsFrom.get_bind ?_
  split
  · exact KeepsFrom.pure _
  · split
    · exact KeepsFrom.pure _
    · split
      · exact KeepsFrom.pure _
      · split
        · split
          · exact KeepsFrom.modify_bind (h.hit _ _ _) (ih.runTarget _ _ _ _)
          · exact ih.slowPath _ _ _ _ ctx
        · exact ih.slowPath _ _ _ _ ctx

include h in
/-- A call made by a body, once its receiver is known: the arguments, then the call through
the site with its array marked in use and the depth one more. -/
theorem invoke_keeps (a i : Nat) (argEs : List Expr) (safe : Bool) (self : Value)
    (args : List Value) (recvV : Outcome Value) (ctx : Context) :
    KeepsFrom R ctx (match recvV with
      | .error err => pure (.error err)
      | .ok r => do
        match ← evalList n argEs self args with
        | .error err => pure (.error err)
        | .ok vs => do
          let ctx ← get
          match ctx.array? a with
          | none => pure (.error (.raised ("no array " ++ toString a)))
          | some _ =>
            if ctx.depth ≥ maxDepth then pure (.error (.raised "nesting limit reached"))
            else do
              modify fun c => { c.pin a true with depth := c.depth + 1 }
              let out ← callSite n a i r vs safe
              modify fun c => { c.pin a false with depth := c.depth - 1 }
              pure out : Run (Outcome Value)) := by
  split
  · exact KeepsFrom.pure _
  · refine KeepsFrom.bind (ih.evalList _ _ _ ctx) fun _ ctx₂ _ => ?_
    split
    · exact KeepsFrom.pure _
    · refine KeepsFrom.get_bind ?_
      split
      · exact KeepsFrom.pure _
      · split
        · exact KeepsFrom.pure _
        · refine KeepsFrom.modify_bind (trans_of R (h.pin _ _ _) (h.depth _ _)) ?_
          refine KeepsFrom.bind (ih.callSite _ _ _ _ _ _) fun _ _ _ => ?_
          exact KeepsFrom.modify_bind (trans_of R (h.pin _ _ _) (h.depth _ _)) (KeepsFrom.pure _)

include h in
theorem eval_keeps (e : Expr) (self : Value) (args : List Value) :
    Keeps R (eval (n + 1) e self args) := by
  intro ctx
  rw [eval.eq_def]
  dsimp only
  split
  · refine KeepsFrom.get_bind ?_
    split
    · next v ctx₁ hbuilt =>
      exact KeepsFrom.set_bind (h.onlyHeap (Context.materialize_onlyHeap hbuilt)) (KeepsFrom.pure _)
    · exact KeepsFrom.pure _
  · exact KeepsFrom.pure _
  · exact KeepsFrom.pure _
  · split
    · exact KeepsFrom.get_bind (KeepsFrom.pure _)
    · exact KeepsFrom.pure _
  · split <;> exact KeepsFrom.pure _
  · exact KeepsFrom.pure _
  · exact KeepsFrom.get_bind (KeepsFrom.pure _)
  · exact KeepsFrom.pure _
  · refine KeepsFrom.bind (ih.eval _ _ _ ctx) fun _ _ _ => ?_
    split
    · exact KeepsFrom.get_bind (KeepsFrom.pure _)
    · exact KeepsFrom.pure _
  · exact ih.evalSeq _ _ _ _ ctx
  · refine KeepsFrom.bind (ih.eval _ _ _ ctx) fun _ _ _ => ?_
    split
    · split
      · exact KeepsFrom.modify_bind (h.heap _ _) (KeepsFrom.pure _)
      · exact KeepsFrom.pure _
    · exact KeepsFrom.pure _
  · split
    · exact KeepsFrom.bind (ih.eval _ _ _ ctx) fun _ ctx₁ _ => invoke_keeps h ih _ _ _ _ _ _ _ ctx₁
    · exact KeepsFrom.bind (KeepsFrom.pure _) fun _ ctx₁ _ => invoke_keeps h ih _ _ _ _ _ _ _ ctx₁

include h in
theorem runTableOps_keeps (versions : Array MethodTable) (js : List Json) :
    Keeps R (runTableOps (n + 1) versions js) := by
  intro ctx
  cases js with
  | nil => rw [runTableOps]; exact KeepsFrom.pure _
  | cons j rest =>
    rw [runTableOps]
    dsimp only
    refine KeepsFrom.bind (KeepsFrom.read fun _ _ hr => h.onlyHeap (Reading.tableOp_framed _ j ctx _ _ hr)) fun _ ctx₁ _ => ?_
    split
    on_goal 4 => refine KeepsFrom.bind (ih.runLookups _ ctx₁) fun _ _ _ => ?_
    on_goal 1 => exact KeepsFrom.pure _
    all_goals
      refine KeepsFrom.bind (ih.runTableOps _ _ _) fun _ _ _ => ?_
      split <;> exact KeepsFrom.pure _

include h in
theorem runStep_keeps (s : Step) : Keeps R (runStep (n + 1) s) := by
  intro ctx
  rw [runStep.eq_def]
  dsimp only
  split
  · refine KeepsFrom.modify_bind (h.pin _ _ _) ?_
    refine KeepsFrom.bind (ih.callSite _ _ _ _ _ _) fun out ctx₁ _ => ?_
    refine KeepsFrom.modify_bind (h.pin _ _ _) ?_
    split
    · exact KeepsFrom.modify_bind (h.setVar _ _ _) (KeepsFrom.get_bind (KeepsFrom.pure _))
    · exact KeepsFrom.get_bind (KeepsFrom.pure _)
  · refine KeepsFrom.get_bind ?_
    split
    · exact KeepsFrom.pure _
    · split
      · exact KeepsFrom.pure _
      · refine KeepsFrom.modify_bind (h.pin _ _ _) ?_
        refine KeepsFrom.bind (ih.runTarget _ _ _ _) fun _ _ _ => ?_
        exact KeepsFrom.modify_bind (h.pin _ _ _) (KeepsFrom.get_bind (KeepsFrom.pure _))
  · exact KeepsFrom.bind (ih.runMethods _ _ _ _ ctx) fun _ _ _ => KeepsFrom.pure _
  · refine KeepsFrom.bind (ih.runTableOps _ _ ctx) fun _ _ _ => ?_
    split <;> exact KeepsFrom.pure _
  · split
    · exact KeepsFrom.throw _
    · exact KeepsFrom.get_bind (KeepsFrom.set_bind (h.answer _ _) (KeepsFrom.pure _))
  · refine KeepsFrom.get_bind ?_
    exact KeepsFrom.bind (ih.runTarget _ _ _ ctx) fun _ _ _ => KeepsFrom.get_bind (KeepsFrom.pure _)
  · exact KeepsFrom.get_bind (KeepsFrom.set_bind (h.answer _ _) (KeepsFrom.pure _))

/-- A counted resolution runs the hooks before its search and those after it, from the
context with its call counted. -/
theorem resolveCounted_keeps (recv : Value) (d : CallDescriptor) (args : List Value)
    (ctx : Context) (r : Except ResolutionFailure Target) (ctx' : Context)
    (hrun : (resolveCounted (n + 1) recv d args).run ctx = .ok (r, ctx')) : R ctx.countCall ctx' := by
  obtain ⟨ctxm, hbefore, -, hafter⟩ := resolveCounted_succ_run hrun
  exact trans_of R (ih.runHooks _ _ _ _ _ _ hbefore) (ih.runHooks _ _ _ _ _ _ hafter)

omit [IsPreorder Context R] in
/-- The registry a counted resolution searches is the one the hooks before it leave. -/
theorem resolveCounted_resolves (recv : Value) (d : CallDescriptor) (args : List Value)
    (ctx : Context) (t : Target) (ctx' : Context)
    (hrun : (resolveCounted (n + 1) recv d args).run ctx = .ok (.ok t, ctx')) :
    ∃ ctxm, R ctx.countCall ctxm ∧ resolve ctxm.registry recv d args = .ok t ∧ R ctxm ctx' := by
  obtain ⟨ctxm, hbefore, hr, hafter⟩ := resolveCounted_succ_run hrun
  exact ⟨ctxm, ih.runHooks _ _ _ _ _ _ hbefore, hr.symm, ih.runHooks _ _ _ _ _ _ hafter⟩

include h in
/-- The slow path keeps `R`: it is judged whole, with the resolution whose outcome it
stores. A miss at a site that is not there changes nothing. -/
theorem slowPath_keeps (a i : Nat) (recv : Value) (args : List Value) :
    Keeps R (slowPath (n + 1) a i recv args) := by
  intro ctx out ctx' hrun
  cases slowPath_succ_run hrun with
  | noSite hnone =>
    have unchanged : ctx.modifySite a i CallSite.recordMiss = ctx := by
      refine Context.modifySite_of_fixed fun c hc => ?_
      rw [Context.site?_modifySite_self, hc] at hnone
      cases hnone
    rw [unchanged]
    exact refl_of R ctx
  | failed s f ctx₂ hs hres =>
    exact h.installFailed ctx a i s ctx₂ hs (ih.resolveCounted _ _ _ _ _ _ hres)
  | ran s t ctx₂ out ctx' hs hres _ hrunT =>
    obtain ⟨ctxm, before, hr, after⟩ := ih.resolves _ _ _ _ _ _ hres
    exact trans_of R (h.installCached ctx a i s ctxm ctx₂ recv args t hs before hr after)
      (ih.runTarget _ _ _ _ _ _ hrunT)
  | rejected s t ctx₂ hs hres _ =>
    obtain ⟨ctxm, before, hr, after⟩ := ih.resolves _ _ _ _ _ _ hres
    exact h.reject ctx a i s ctxm ctx₂ recv args t hs before hr after

include h in
theorem keepsAll_succ : KeepsAll R (n + 1) where
  callSite := callSite_keeps h ih
  slowPath := slowPath_keeps h ih
  resolveCounted := resolveCounted_keeps ih
  resolves := resolveCounted_resolves ih
  runHooks := runHooks_keeps ih
  runHookSteps := runHookSteps_keeps h ih
  runTarget := runTarget_keeps h ih
  runMethod := runMethod_keeps ih
  eval := eval_keeps h ih
  evalList := evalList_keeps ih
  evalSeq := evalSeq_keeps ih
  runMethods := runMethods_keeps ih
  runTableOps := runTableOps_keeps h ih
  runLookups := runLookups_keeps ih
  runStep := runStep_keeps h ih
  readAndRun := readAndRun_keeps h ih

omit ih

include h in
/-- Every function of the machine keeps `R`, with any fuel. -/
theorem keepsAll : ∀ fuel, KeepsAll R fuel
  | 0 => keepsAll_zero
  | n + 1 => keepsAll_succ h (keepsAll n)

include h in
/-- Every run of a scenario's steps keeps `R`. -/
theorem runSteps_keeps (fuel : Nat) : ∀ js : List Json, Keeps R (runSteps fuel js)
  | [] => fun ctx => by rw [runSteps]; exact KeepsFrom.pure _
  | j :: rest => fun ctx => by
    rw [runSteps]
    refine KeepsFrom.bind ((keepsAll h fuel).readAndRun j ctx) fun _ ctx₁ _ => ?_
    refine KeepsFrom.get_bind (KeepsFrom.modify_bind (h.log _ _) ?_)
    exact KeepsFrom.bind (runSteps_keeps fuel rest _) fun _ _ _ => KeepsFrom.pure _

end Functions

end InlineCache.Machine
