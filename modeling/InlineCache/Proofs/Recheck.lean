import Mathlib
import InlineCache.Proofs.Epochs
/-!
# When the slow path's re-check fails

A slow path checks the guard of the target its resolver found against the call's own
inputs before running it. Every guard but a table guard compares type ids only and accepts
the inputs it was resolved for whatever happens to the registry. A table guard compares
the stamp of the receiver's class table, and the registry only moves forward: the class is
still there, and its stamp is the one the search saw exactly when its instance table was
not replaced since. The search runs after the hooks registered before it, so the re-check
fails exactly when the hooks that ran after the search replaced the table of the class the
search looked in.

A failed re-check answers GuardInconsistency for the site and runs nothing: the call
counts a resolution and no failure, changes nothing but the site, and leaves the slot
failed unless the site was reset while the resolver ran. A passed re-check runs the target,
and the call answers whatever that run answers, which may itself be a GuardInconsistency
met by a call nested in the target's body.
-/
namespace InlineCache

namespace Context

/-- The registry of `ctx'` is a later state of that of `ctx`. -/
def RegistryEvolves (ctx ctx' : Context) : Prop := ctx.registry.Evolves ctx'.registry

instance : Std.Refl RegistryEvolves := ⟨fun ctx => Registry.Evolves.refl ctx.registry⟩

instance : IsTrans Context RegistryEvolves := ⟨fun _ _ _ h₁ h₂ => Registry.Evolves.trans h₁ h₂⟩

instance : IsPreorder Context RegistryEvolves := {}

end Context

open Context in
/-- Every primitive change of the machine leaves a later state of the registry: only the
steps that call no method change it, and they define or redefine. -/
theorem Machine.respects_registryEvolves : Machine.Respects RegistryEvolves where
  hit ctx _ _ := Registry.Evolves.refl ctx.registry
  log ctx _ := Registry.Evolves.refl ctx.registry
  heap ctx _ := Registry.Evolves.refl ctx.registry
  pin ctx _ _ := Registry.Evolves.refl ctx.registry
  depth ctx _ := Registry.Evolves.refl ctx.registry
  setVar ctx _ _ := Registry.Evolves.refl ctx.registry
  answer ctx s := Queries.answer_evolves ctx s
  installFailed _ _ _ _ _ _ h := h
  installCached _ _ _ _ _ _ _ _ _ _ h₁ _ h₂ := Registry.Evolves.trans h₁ h₂
  reject _ _ _ _ _ _ _ _ _ _ h₁ _ h₂ := Registry.Evolves.trans h₁ h₂

/-- A self-describing target's guard accepts an instance of its class exactly when the
class still has the table stamp the target captured. -/
theorem Target.selfDescribing_accepts {c : Class} {m : Method} {args : List Value}
    {reg : Registry} {ref : ObjectRef} :
    (Target.selfDescribing c m args).guard.accepts reg (.object ref) args = true ↔
      ∃ c', reg.class? ref.cls = some c' ∧ c'.stamp = c.stamp := by
  simp only [Target.selfDescribing, Guard.accepts, Guard.sameTypes_shape, Bool.and_true]
  cases reg.class? ref.cls with
  | none => simp
  | some c' => simp

/-- A target resolved in `reg` rejects its own inputs in a later state `reg'` exactly when
it is a table target and the receiver's class has a later instance table in `reg'`. -/
theorem resolve_rejects_iff {reg reg' : Registry} {recv : Value} {d : CallDescriptor}
    {args : List Value} {t : Target} (h : resolve reg recv d args = .ok t)
    (he : reg.Evolves reg') :
    t.guard.accepts reg' recv args = false ↔
      t.variant = .selfDescribing ∧ ∃ ref c c', recv = .object ref ∧
        reg.class? ref.cls = some c ∧ reg'.class? ref.cls = some c' ∧ c.revision < c'.revision := by
  by_cases hv : t.variant = .selfDescribing
  · obtain ⟨ref, c, m, rfl, hc, -, rfl⟩ := resolve_selfDescribing h hv
    obtain ⟨c', hc', succ⟩ := he.classes _ c hc
    have accepts : (Target.selfDescribing c m args).guard.accepts reg' (.object ref) args = true ↔
        c'.revision = c.revision := by
      rw [Target.selfDescribing_accepts, hc', ← succ.stamp_eq_iff]
      simp
    rw [Bool.eq_false_iff, Ne, accepts]
    constructor
    · intro hne
      exact ⟨hv, ref, c, c', rfl, hc, hc', Nat.lt_of_le_of_ne succ.revision_le (Ne.symm hne)⟩
    · rintro ⟨-, ref', k, k', hr, hk, hk', hlt⟩
      cases hr
      rw [hc] at hk
      rw [hc'] at hk'
      cases hk
      cases hk'
      omega
  · simp [resolve_accepts h hv reg', hv]

/-- Storing a target and then a failure under the epoch a slow path read counts one
resolution and leaves the failure, unless the site was reset since. -/
theorem CallSite.store_then_fail (s : CallSite) (e : Nat) (t : Target) :
    (s.recordResolution.install e (.cached t)).install e .failed =
      { s with slot := if s.epoch = e then .failed else s.slot,
               stats := { s.stats with resolutions := s.stats.resolutions + 1 } } := by
  by_cases he : s.epoch = e <;> simp [CallSite.install, CallSite.recordResolution, he]

namespace Machine

/-- A slow path whose resolution found `t` runs `t` when `t` accepts the call's inputs in
the registry the resolution left, and otherwise stores a failure in its place. -/
theorem slowPath_run_of_found {m a i : Nat} {recv : Value} {args : List Value}
    {ctx ctx' ctx₂ : Context} {out : Outcome Value} {s : CallSite} {t : Target}
    (hrun : (slowPath (m + 1) a i recv args).run ctx = .ok (out, ctx'))
    (hs : (ctx.modifySite a i CallSite.recordMiss).site? a i = some s)
    (hres : (resolveCounted m recv s.descriptor args).run (ctx.modifySite a i CallSite.recordMiss) =
      .ok (.ok t, ctx₂)) :
    (t.guard.accepts ctx₂.registry recv args = true →
      (runTarget m t recv args).run
        (ctx₂.modifySite a i fun s' => s'.recordResolution.install s.epoch (.cached t)) =
          .ok (out, ctx')) ∧
    (t.guard.accepts ctx₂.registry recv args = false →
      out = .error (.guardInconsistency i s.descriptor.name) ∧
      ctx' = ctx₂.modifySite a i fun s' => (s'.recordResolution.install s.epoch (.cached t)).install
        s.epoch .failed) := by
  cases slowPath_succ_run hrun with
  | noSite hs' => simp [hs] at hs'
  | failed s' f ctx₂' hs' hres' =>
    cases hs.symm.trans hs'
    simp [hres] at hres'
  | ran s' t' ctx₂' out ctx' hs' hres' hacc hrunT =>
    cases hs.symm.trans hs'
    obtain ⟨rfl, rfl⟩ : t = t' ∧ ctx₂ = ctx₂' := by simpa [hres] using hres'
    exact ⟨fun _ => hrunT, fun hrej => by simp [hacc] at hrej⟩
  | rejected s' t' ctx₂' hs' hres' hrej =>
    cases hs.symm.trans hs'
    obtain ⟨rfl, rfl⟩ : t = t' ∧ ctx₂ = ctx₂' := by simpa [hres] using hres'
    exact ⟨fun hacc => by simp [hrej] at hacc, fun _ => ⟨rfl, Context.modifySite_modifySite ..⟩⟩

end Machine

open Machine in
/-- A slow path's re-check fails exactly when the hooks after the search replaced the table it
read; then it answers GuardInconsistency and runs nothing, and otherwise it runs the target. -/
theorem recheck_fails_iff_table_replaced_after_search {m a i : Nat} {recv : Value}
    {args : List Value} {ctx ctx' ctx₂ : Context} {out : Outcome Value} {s : CallSite}
    {t : Target}
    (hrun : (slowPath (m + 2) a i recv args).run ctx = .ok (out, ctx'))
    (hs : (ctx.modifySite a i CallSite.recordMiss).site? a i = some s)
    (hres : (resolveCounted (m + 1) recv s.descriptor args).run
      (ctx.modifySite a i CallSite.recordMiss) = .ok (.ok t, ctx₂)) :
    ∃ ctxm,
      (runHooks m (ctx.calls + 1) true (ctx.hooksOf (ctx.calls + 1) true)).run
          { ctx.modifySite a i CallSite.recordMiss with calls := ctx.calls + 1 } = .ok (⟨⟩, ctxm) ∧
      resolve ctxm.registry recv s.descriptor args = .ok t ∧
      (runHooks m (ctx.calls + 1) false (ctxm.hooksOf (ctx.calls + 1) false)).run ctxm =
        .ok (⟨⟩, ctx₂) ∧
      (t.guard.accepts ctx₂.registry recv args = false ↔
        t.variant = .selfDescribing ∧ ∃ ref c c₂, recv = .object ref ∧
          ctxm.registry.class? ref.cls = some c ∧ ctx₂.registry.class? ref.cls = some c₂ ∧
          c.revision < c₂.revision) ∧
      (t.guard.accepts ctx₂.registry recv args = false →
        out = .error (.guardInconsistency i s.descriptor.name) ∧
        ctx' = ctx₂.modifySite a i fun s₂ =>
          { s₂ with slot := if s₂.epoch = s.epoch then .failed else s₂.slot,
                    stats := { s₂.stats with resolutions := s₂.stats.resolutions + 1 } }) ∧
      (t.guard.accepts ctx₂.registry recv args = true →
        (runTarget (m + 1) t recv args).run
          (ctx₂.modifySite a i fun s₂ => s₂.recordResolution.install s.epoch (.cached t)) =
            .ok (out, ctx')) := by
  obtain ⟨ctxm, hbefore, hr, hafter⟩ := resolveCounted_succ_run hres
  have evolves : ctxm.registry.Evolves ctx₂.registry :=
    (keepsAll respects_registryEvolves m).runHooks _ _ _ _ _ _ hafter
  obtain ⟨ran, rejected⟩ := slowPath_run_of_found hrun hs hres
  refine ⟨ctxm, hbefore, hr.symm, hafter, resolve_rejects_iff hr.symm evolves,
    fun hrej => ?_, ran⟩
  obtain ⟨hout, hctx⟩ := rejected hrej
  refine ⟨hout, hctx.trans (Context.modifySite_congr fun s₂ _ => ?_)⟩
  exact CallSite.store_then_fail s₂ s.epoch t

namespace RedefiningHook

/-- A step defining the method `z` of `A` through the registry. -/
def defineZ : Json :=
  .obj [("op", .str "define_method"), ("class", .str "A"), ("method", .obj [("name", .str "z")])]

/-- A context that knows the class `A`, whose `m` answers 1, holds one array with one site
calling `m`, and has a hook that defines a method of `A` after the first resolution. -/
def hooked : Context :=
  { registry := (Registry.empty.defineClass { name := "A", methods := [ResetHook.answerOne] }).2,
    arrays := #[{ array := SiteArray.ofDescriptors "main" [ResetHook.callM] {} }],
    hooks := #[⟨1, false, [defineZ]⟩],
    classNames := [("A", ⟨256⟩)] }

/-- The method `m`, calling through the site of the second array. -/
def callsOther : Method := { name := "m", params := [], body := .script (.invoke 1 0 none [] false) }

/-- A context that knows the class `A`, whose `m` calls through the second of two arrays,
each with one site calling `m`, and has a hook that defines a method of `A` after the second
resolution, that of the nested call. -/
def nested : Context :=
  { registry := (Registry.empty.defineClass { name := "A", methods := [callsOther] }).2,
    arrays := #[{ array := SiteArray.ofDescriptors "main" [ResetHook.callM] {} },
      { array := SiteArray.ofDescriptors "main" [ResetHook.callM] {} }],
    hooks := #[⟨2, false, [defineZ]⟩],
    classNames := [("A", ⟨256⟩)] }

end RedefiningHook

open Machine RedefiningHook in
/-- A hook that defines a method of the receiver's class after the first resolution makes
the call's re-check fail: the call answers GuardInconsistency for its site. -/
theorem redefinition_after_search_fails_recheck :
    ∃ (out : Outcome Value) (ctx' : Context) (t : Target) (ctx₂ : Context),
      (slowPath 8 0 0 ResetHook.instA []).run hooked = .ok (out, ctx') ∧
      (hooked.modifySite 0 0 CallSite.recordMiss).site? 0 0 = some ResetHook.missed ∧
      (resolveCounted 7 ResetHook.instA ResetHook.missed.descriptor []).run
        (hooked.modifySite 0 0 CallSite.recordMiss) = .ok (.ok t, ctx₂) ∧
      t.variant = .selfDescribing ∧ out = .error (.guardInconsistency 0 "m") := by
  obtain ⟨out, ctx', hrun⟩ : ∃ out ctx', (slowPath 8 0 0 ResetHook.instA []).run hooked = .ok (out, ctx') := by
    refine ⟨?out, ?ctx', ?run⟩
    case run =>
      cbv
      simp only [runStep]
      cbv
      rfl
  obtain ⟨t, ctx₂, hres, hrej⟩ : ∃ t ctx₂,
      (resolveCounted 7 ResetHook.instA ResetHook.missed.descriptor []).run
        (hooked.modifySite 0 0 CallSite.recordMiss) = .ok (.ok t, ctx₂) ∧
      t.guard.accepts ctx₂.registry ResetHook.instA [] = false := by
    refine ⟨?t, ?ctx₂, ?resolved, ?rejects⟩
    case resolved =>
      cbv
      simp only [runStep]
      cbv
      rfl
    cbv
  have hs : (hooked.modifySite 0 0 CallSite.recordMiss).site? 0 0 = some ResetHook.missed := by cbv
  obtain ⟨_, -, -, -, fails, rejected, -⟩ :=
    recheck_fails_iff_table_replaced_after_search hrun hs hres
  exact ⟨out, ctx', t, ctx₂, hrun, hs, hres, (fails.1 hrej).1, (rejected hrej).1⟩

open Machine RedefiningHook in
/-- A call answers GuardInconsistency although its own re-check passes: the answer is that of a
nested call whose target a hook made stale. -/
theorem nested_inconsistency_passes_through :
    ∃ (ctx' : Context) (t : Target) (ctx₂ : Context),
      (slowPath 16 0 0 ResetHook.instA []).run nested = .ok (.error (.guardInconsistency 0 "m"), ctx') ∧
      (resolveCounted 15 ResetHook.instA ResetHook.callM []).run (nested.modifySite 0 0 CallSite.recordMiss) =
        .ok (.ok t, ctx₂) ∧
      t.guard.accepts ctx₂.registry ResetHook.instA [] = true ∧
      (ctx'.site? 0 0).map CallSite.state = some (.cached .selfDescribing) ∧
      (ctx'.site? 0 0).map (·.stats.failures) = some 0 := by
  refine ⟨?ctx', ?t, ?ctx₂, ?run, ?resolved, ?accepts, ?state, ?failures⟩
  case run =>
    cbv
    simp only [runStep]
    cbv
    rfl
  case resolved =>
    cbv
    rfl
  all_goals cbv

end InlineCache
