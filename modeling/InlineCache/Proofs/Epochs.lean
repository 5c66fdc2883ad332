import Mathlib
import InlineCache.Proofs.Runs
import InlineCache.Proofs.Sites
/-!
# Epochs keep stale resolutions out of the slot

A site's slot changes in two ways only. A reset empties it and advances the epoch; a slow
path stores the outcome of its resolution under the epoch it read before the resolver ran,
which stores nothing once the site has been reset. Every store comes after a miss, so over
any run in which a site takes no miss its slot either stays as it was or has been emptied
by a reset. Each reset is counted, so the epoch advances by exactly the number of resets.

A slow path whose resolution was overlapped by a reset of its site therefore ends as if it
had stored nothing: the target it found still runs, once, for the call that asked for it,
and a failure it meets overwrites neither the reset nor what a nested call stored after it.
Every cached target was returned by a resolution for the site's descriptor.
-/
namespace InlineCache

namespace CallSite

/-- `s'` is `s` with another slot and other outcome counters: the same place and
descriptor, the same epoch and the same numbers of resets and misses. -/
structure SameEpoch (s s' : CallSite) : Prop where
  index_eq : s'.index = s.index
  descriptor_eq : s'.descriptor = s.descriptor
  epoch_eq : s'.epoch = s.epoch
  invalidations_eq : s'.stats.invalidations = s.stats.invalidations
  misses_eq : s'.stats.misses = s.stats.misses

theorem SameEpoch.trans {s₁ s₂ s₃ : CallSite} (h₁ : s₁.SameEpoch s₂) (h₂ : s₂.SameEpoch s₃) :
    s₁.SameEpoch s₃ :=
  ⟨h₂.index_eq.trans h₁.index_eq, h₂.descriptor_eq.trans h₁.descriptor_eq,
    h₂.epoch_eq.trans h₁.epoch_eq, h₂.invalidations_eq.trans h₁.invalidations_eq,
    h₂.misses_eq.trans h₁.misses_eq⟩

theorem sameEpoch_install (s : CallSite) (e : Nat) (slot : Slot) : s.SameEpoch (s.install e slot) := by
  unfold install
  split <;> exact ⟨rfl, rfl, rfl, rfl, rfl⟩

theorem sameEpoch_recordResolution (s : CallSite) : s.SameEpoch s.recordResolution :=
  ⟨rfl, rfl, rfl, rfl, rfl⟩

theorem sameEpoch_recordFailure (s : CallSite) : s.SameEpoch s.recordFailure :=
  ⟨rfl, rfl, rfl, rfl, rfl⟩

/-- How a site may change over a run: it keeps its place and descriptor, its epoch advances
by the number of resets counted, its misses only grow, and while it takes no miss its slot
changes only by being emptied by a reset. -/
structure Follows (s s' : CallSite) : Prop where
  index_eq : s'.index = s.index
  descriptor_eq : s'.descriptor = s.descriptor
  resets : ∃ k, s'.epoch = s.epoch + k ∧ s'.stats.invalidations = s.stats.invalidations + k
  misses_le : s.stats.misses ≤ s'.stats.misses
  quiet : s'.stats.misses = s.stats.misses →
    s'.slot = s.slot ∧ s'.epoch = s.epoch ∨ s'.slot = .empty ∧ s.epoch < s'.epoch

theorem Follows.refl (s : CallSite) : s.Follows s :=
  ⟨rfl, rfl, ⟨0, rfl, rfl⟩, Nat.le_refl _, fun _ => .inl ⟨rfl, rfl⟩⟩

theorem Follows.trans {s₁ s₂ s₃ : CallSite} (h₁ : s₁.Follows s₂) (h₂ : s₂.Follows s₃) :
    s₁.Follows s₃ where
  index_eq := h₂.index_eq.trans h₁.index_eq
  descriptor_eq := h₂.descriptor_eq.trans h₁.descriptor_eq
  resets := by
    obtain ⟨k₁, he₁, hi₁⟩ := h₁.resets
    obtain ⟨k₂, he₂, hi₂⟩ := h₂.resets
    exact ⟨k₁ + k₂, by omega, by omega⟩
  misses_le := Nat.le_trans h₁.misses_le h₂.misses_le
  quiet hm := by
    have hm₁ : s₂.stats.misses = s₁.stats.misses := by
      have := h₁.misses_le
      have := h₂.misses_le
      omega
    have hm₂ : s₃.stats.misses = s₂.stats.misses := hm₁ ▸ hm
    rcases h₁.quiet hm₁ with ⟨hs₁, he₁⟩ | ⟨hs₁, he₁⟩ <;>
      rcases h₂.quiet hm₂ with ⟨hs₂, he₂⟩ | ⟨hs₂, he₂⟩
    · exact .inl ⟨hs₂.trans hs₁, he₂.trans he₁⟩
    · exact .inr ⟨hs₂, he₁ ▸ he₂⟩
    · exact .inr ⟨hs₂.trans hs₁, he₂ ▸ he₁⟩
    · exact .inr ⟨hs₂, Nat.lt_trans he₁ he₂⟩

/-- Resets, any number of them, are a way a site follows. -/
theorem follows_reset_iterate (s : CallSite) (k : Nat) : s.Follows (reset^[k] s) where
  index_eq := by simp
  descriptor_eq := by simp
  resets := ⟨k, by simp, by simp⟩
  misses_le := by simp
  quiet _ := by
    rcases Nat.eq_zero_or_pos k with rfl | hk
    · exact .inl ⟨rfl, rfl⟩
    · exact .inr ⟨reset_iterate_slot s hk, by simp; omega⟩

theorem follows_recordHit (s : CallSite) : s.Follows s.recordHit :=
  ⟨rfl, rfl, ⟨0, rfl, rfl⟩, Nat.le_refl _, fun _ => .inl ⟨rfl, rfl⟩⟩

theorem follows_recordMiss (s : CallSite) : s.Follows s.recordMiss :=
  ⟨rfl, rfl, ⟨0, rfl, rfl⟩, by simp [recordMiss], fun h => by simp [recordMiss] at h⟩

/-- After a miss a site may take any slot at the same epoch. -/
theorem Follows.of_miss {s s₂ s₃ : CallSite} (h : s.recordMiss.Follows s₂) (h₃ : s₂.SameEpoch s₃) :
    s.Follows s₃ where
  index_eq := h₃.index_eq.trans h.index_eq
  descriptor_eq := h₃.descriptor_eq.trans h.descriptor_eq
  resets := by
    obtain ⟨k, he, hi⟩ := h.resets
    exact ⟨k, h₃.epoch_eq.trans he, h₃.invalidations_eq.trans hi⟩
  misses_le := by
    have := h.misses_le
    have := h₃.misses_eq
    simp only [recordMiss] at *
    omega
  quiet hm := by
    have := h.misses_le
    have := h₃.misses_eq
    simp only [recordMiss] at *
    omega

/-- A reset site holds a cached target only if it was not reset at all. -/
theorem eq_of_reset_iterate_cached {s : CallSite} {k : Nat} {t : Target}
    (h : (reset^[k] s).slot = .cached t) : reset^[k] s = s := by
  rcases Nat.eq_zero_or_pos k with rfl | hk
  · rfl
  · rw [reset_iterate_slot s hk] at h
    cases h

end CallSite

namespace Context

/-- Every site of `ctx` is still in `ctx'`, and follows from what it was. -/
def SitesFollow (ctx ctx' : Context) : Prop :=
  ∀ a i s, ctx.site? a i = some s → ∃ s', ctx'.site? a i = some s' ∧ s.Follows s'

/-- Every cached target is one that a resolution returned for the site's descriptor. -/
def CachedResolved (ctx : Context) : Prop :=
  ∀ a i s t, ctx.site? a i = some s → s.slot = .cached t →
    ∃ reg recv args, resolve reg recv s.descriptor args = .ok t

/-- What a run does to the sites: each follows from what it was, and a context whose cached
targets all came from resolutions leaves one whose cached targets do too. -/
def SlotHistory (ctx ctx' : Context) : Prop :=
  ctx.SitesFollow ctx' ∧ (ctx.CachedResolved → ctx'.CachedResolved)

theorem SlotHistory.refl (ctx : Context) : ctx.SlotHistory ctx :=
  ⟨fun _ _ s hs => ⟨s, hs, .refl s⟩, id⟩

theorem SlotHistory.trans {ctx₁ ctx₂ ctx₃ : Context} (h₁ : ctx₁.SlotHistory ctx₂)
    (h₂ : ctx₂.SlotHistory ctx₃) : ctx₁.SlotHistory ctx₃ :=
  ⟨SitesRelate.trans (P := CallSite.Follows) CallSite.Follows.trans h₁.1 h₂.1, h₂.2 ∘ h₁.2⟩

instance : Std.Refl SlotHistory := ⟨SlotHistory.refl⟩

instance : IsTrans Context SlotHistory := ⟨fun _ _ _ => SlotHistory.trans⟩

instance : IsPreorder Context SlotHistory := {}

/-- A change that leaves every site as it was. -/
theorem slotHistory_of_site? {ctx ctx' : Context} (h : ∀ a i, ctx'.site? a i = ctx.site? a i) :
    ctx.SlotHistory ctx' := by
  refine ⟨SitesRelate.of_site? CallSite.Follows.refl h, fun hc a i s t hs hslot => ?_⟩
  exact hc a i s t ((h a i).symm.trans hs) hslot

/-- Counting a resolver call leaves every site as it was. -/
theorem slotHistory_countCall (ctx : Context) : ctx.SlotHistory ctx.countCall :=
  slotHistory_of_site? fun _ _ => rfl

/-- Changing one site by `f`, which the site follows and which keeps its slot. -/
theorem slotHistory_modifySite {f : CallSite → CallSite} (hf : ∀ s : CallSite, s.Follows (f s))
    (hslot : ∀ s : CallSite, (f s).slot = s.slot) (ctx : Context) (a i : Nat) :
    ctx.SlotHistory (ctx.modifySite a i f) := by
  constructor
  · exact SitesRelate.modifySite CallSite.Follows.refl hf ctx a i
  · intro hc b j s t hs hcached
    rw [site?_modifySite] at hs
    split at hs
    · obtain ⟨s₀, hs₀, rfl⟩ := Option.map_eq_some_iff.1 hs
      rw [(hf s₀).descriptor_eq]
      exact hc b j s₀ t hs₀ ((hslot s₀).symm.trans hcached)
    · exact hc b j s t hs hcached

/-- A step that calls no method resets sites, or adds sites with empty slots. -/
theorem slotHistory_answer (ctx : Context) (st : Step) :
    ctx.SlotHistory (Queries.answer ctx st).2 := by
  constructor
  · intro a i s hs
    rcases Queries.answer_site ctx st a i with ⟨k, hk⟩ | ⟨hnone, -⟩
    · exact ⟨_, by rw [hk, hs]; rfl, CallSite.follows_reset_iterate s k⟩
    · rw [hs] at hnone
      cases hnone
  · intro hc a i s t hs hcached
    rcases Queries.answer_site ctx st a i with ⟨k, hk⟩ | ⟨-, hfresh⟩
    · rw [hk] at hs
      obtain ⟨s₀, hs₀, rfl⟩ := Option.map_eq_some_iff.1 hs
      have unreset := CallSite.eq_of_reset_iterate_cached hcached
      rw [unreset] at hcached ⊢
      exact hc a i s₀ t hs₀ hcached
    · rw [hfresh s hs] at hcached
      cases hcached

/-- What a slow path stores: the site at `(a, i)` of `ctx'` is that of `ctx₂` changed by
`g`, which keeps the site's epoch and stores either what was there or a target that a
resolution returned for the site's descriptor. The run from the miss to `ctx₂` is judged on
its own. -/
theorem slotHistory_install {ctx ctx₂ ctx' : Context} {a i : Nat} {s : CallSite}
    {g : CallSite → CallSite} (hs : (ctx.modifySite a i CallSite.recordMiss).site? a i = some s)
    (h : (ctx.modifySite a i CallSite.recordMiss).SlotHistory ctx₂)
    (hsite : ∀ b j, ctx'.site? b j =
      if a = b ∧ i = j then (ctx₂.site? b j).map g else ctx₂.site? b j)
    (hg : ∀ s : CallSite, s.SameEpoch (g s))
    (hslot : ∀ (s₂ : CallSite) (t : Target), (g s₂).slot = .cached t →
      s₂.slot = .cached t ∨ ∃ reg recv args, resolve reg recv s.descriptor args = .ok t) :
    ctx.SlotHistory ctx' := by
  constructor
  · exact SitesRelate.install h.1 hsite fun _ s₂ follows => follows.of_miss (hg s₂)
  · intro hc
    have hc₂ : ctx₂.CachedResolved :=
      h.2 (slotHistory_modifySite CallSite.follows_recordMiss (fun _ => rfl) ctx a i |>.2 hc)
    intro b j s' t hs' hcached
    rw [hsite] at hs'
    split at hs'
    · next hab =>
      obtain ⟨rfl, rfl⟩ := hab
      obtain ⟨s₂, hs₂, rfl⟩ := Option.map_eq_some_iff.1 hs'
      obtain ⟨s₂', hs₂', follows⟩ := h.1 a i s hs
      rw [hs₂] at hs₂'
      cases hs₂'
      rw [(hg s₂).descriptor_eq]
      rcases hslot s₂ t hcached with hkept | hresolved
      · exact hc₂ a i s₂ t hs₂ hkept
      · rw [follows.descriptor_eq]
        exact hresolved
    · exact hc₂ b j s' t hs' hcached

end Context

open Context CallSite in
/-- Every primitive change of the machine keeps the history of the slots. -/
theorem Machine.respects_slotHistory : Machine.Respects SlotHistory where
  hit ctx a i := slotHistory_modifySite follows_recordHit (fun _ => rfl) ctx a i
  log _ _ := slotHistory_of_site? (site?_eq_of_arrays rfl)
  heap _ _ := slotHistory_of_site? (site?_eq_of_arrays rfl)
  pin ctx a on := slotHistory_of_site? (site?_pin ctx a on)
  depth _ _ := slotHistory_of_site? (site?_eq_of_arrays rfl)
  setVar _ _ _ := slotHistory_of_site? (site?_eq_of_arrays rfl)
  answer := slotHistory_answer
  installFailed ctx a i s ctx₂ hs h := by
    refine slotHistory_install hs (trans_of SlotHistory (slotHistory_countCall _) h)
      (fun b j => site?_modifySite ..)
      (fun s' => (sameEpoch_recordFailure s').trans (sameEpoch_install ..)) fun s₂ t hcached => ?_
    rcases install_slot s₂.recordFailure s.epoch .failed with hslot | hslot
    · rw [hslot] at hcached
      cases hcached
    · exact .inl (hslot ▸ hcached)
  installCached ctx a i s ctxm ctx₂ recv args t hs h₁ hres h₂ := by
    refine slotHistory_install hs
      (trans_of SlotHistory (slotHistory_countCall _) (trans_of SlotHistory h₁ h₂))
      (fun b j => site?_modifySite ..)
      (fun s' => (sameEpoch_recordResolution s').trans (sameEpoch_install ..)) fun s₂ t' hcached => ?_
    rcases install_slot s₂.recordResolution s.epoch (.cached t) with hslot | hslot
    · rw [hslot] at hcached
      cases hcached
      exact .inr ⟨ctxm.registry, recv, args, hres⟩
    · exact .inl (hslot ▸ hcached)
  reject ctx a i s ctxm ctx₂ recv args t hs h₁ hres h₂ := by
    refine slotHistory_install (g := fun s' => (s'.recordResolution.install s.epoch (.cached t)).install
      s.epoch .failed) hs
      (trans_of SlotHistory (slotHistory_countCall _) (trans_of SlotHistory h₁ h₂)) (fun b j => ?_)
      (fun s' => ((sameEpoch_recordResolution s').trans (sameEpoch_install ..)).trans
        (sameEpoch_install ..)) fun s₂ t' hcached => ?_
    · rw [site?_modifySite, site?_modifySite]
      split
      · next hab =>
        obtain ⟨rfl, rfl⟩ := hab
        rw [Option.map_map]
        rfl
      · rfl
    · rcases install_slot (s₂.recordResolution.install s.epoch (.cached t)) s.epoch .failed with
        hslot | hslot
      · rw [hslot] at hcached
        cases hcached
      · rw [hslot] at hcached
        rcases install_slot s₂.recordResolution s.epoch (.cached t) with hslot' | hslot'
        · rw [hslot'] at hcached
          cases hcached
          exact .inr ⟨ctxm.registry, recv, args, hres⟩
        · exact .inl (hslot' ▸ hcached)

namespace Machine

/-- How a slow path of site `i` of array `a` ends when it stores nothing, given the outcome
`r` of its resolution and the context `ctx₂` the resolver left: a failure is counted and
reported; a target is counted, then run if it accepts the call and reported as
inconsistent if it does not. -/
def EndsUnstored (m a i : Nat) (recv : Value) (args : List Value) (d : CallDescriptor)
    (r : Except ResolutionFailure Target) (ctx₂ : Context) (out : Outcome Value)
    (ctx' : Context) : Prop :=
  match r with
  | .error f =>
    ctx' = ctx₂.modifySite a i CallSite.recordFailure ∧
      out = .error (f.toError ctx₂.registry d recv args)
  | .ok t =>
    if t.guard.accepts ctx₂.registry recv args then
      (runTarget m t recv args).run (ctx₂.modifySite a i CallSite.recordResolution) = .ok (out, ctx')
    else
      ctx' = ctx₂.modifySite a i CallSite.recordResolution ∧
        out = .error (.guardInconsistency i d.name)

/-- A slow path whose site was reset while its resolver ran ends as if it stored nothing:
the epoch it read is no longer the site's, so its installs change nothing but counters. -/
theorem slowPath_stale {m a i : Nat} {recv : Value} {args : List Value} {ctx ctx' : Context}
    {out : Outcome Value} (hrun : (slowPath (m + 1) a i recv args).run ctx = .ok (out, ctx'))
    {s : CallSite} (hs : (ctx.modifySite a i CallSite.recordMiss).site? a i = some s)
    {r : Except ResolutionFailure Target} {ctx₂ : Context}
    (hres : (resolveCounted m recv s.descriptor args).run (ctx.modifySite a i CallSite.recordMiss) =
      .ok (r, ctx₂))
    {s₂ : CallSite} (hs₂ : ctx₂.site? a i = some s₂)
    (hreset : s.stats.invalidations < s₂.stats.invalidations) :
    EndsUnstored m a i recv args s.descriptor r ctx₂ out ctx' := by
  have moved : s₂.epoch ≠ s.epoch := by
    obtain ⟨s₂', hs₂', follows⟩ :=
      ((keepsAll respects_slotHistory m).resolveCounted _ _ _ _ _ _ hres).1 a i s hs
    rw [hs₂] at hs₂'
    cases hs₂'
    obtain ⟨k, he, hi⟩ := follows.resets
    omega
  have unstored : ∀ (g : CallSite → CallSite), (∀ c, (g c).epoch = c.epoch) → ∀ slot : Slot,
      ctx₂.modifySite a i (fun c => (g c).install s.epoch slot) = ctx₂.modifySite a i g := by
    intro g hg slot
    refine Context.modifySite_congr fun c hc => ?_
    rw [hs₂] at hc
    cases hc
    exact CallSite.install_of_ne (by rw [hg]; exact moved) slot
  cases slowPath_succ_run hrun with
  | noSite hnone =>
    rw [hs] at hnone
    cases hnone
  | failed s' f ctx₂' hs' hres' =>
    rw [hs] at hs'
    cases hs'
    rw [hres] at hres'
    cases hres'
    exact ⟨unstored CallSite.recordFailure (fun _ => rfl) _, rfl⟩
  | ran s' t ctx₂' out ctx' hs' hres' hacc hrunT =>
    rw [hs] at hs'
    cases hs'
    rw [hres] at hres'
    cases hres'
    simp only [EndsUnstored, hacc, if_true]
    rwa [← unstored CallSite.recordResolution (fun _ => rfl) (.cached t)]
  | rejected s' t ctx₂' hs' hres' hacc =>
    rw [hs] at hs'
    cases hs'
    rw [hres] at hres'
    cases hres'
    simp only [EndsUnstored, hacc, Bool.false_eq_true, if_false]
    refine ⟨?_, trivial⟩
    rw [unstored CallSite.recordResolution (fun _ => rfl) (.cached t)]
    refine Context.modifySite_of_fixed fun c hc => ?_
    rw [Context.site?_modifySite_self, hs₂] at hc
    cases hc
    exact CallSite.install_of_ne (s := s₂.recordResolution) moved _

end Machine

/-- A fresh context has no sites, so no cached target. -/
theorem Context.fresh_cachedResolved (builtins hub : Bool) : (Context.fresh builtins hub).CachedResolved := by
  intro a i s t hs
  simp [Context.fresh, Context.site?, Context.anyArray?] at hs

open Machine in
/-- A site's slot changes only by resets and by installs under the epoch read before resolving;
a cached target came from a resolution, and a slow path overlapped by a reset stores nothing. -/
theorem slot_changes_only_by_reset_or_current_install :
    (∀ (fuel : Nat) (js : List Json) (ctx ctx' : Context) (outs : List Json),
      (runSteps fuel js).run ctx = .ok (outs, ctx') → ctx.SitesFollow ctx') ∧
    (∀ (fuel : Nat) (js : List Json) (builtins hub : Bool) (ctx' : Context) (outs : List Json),
      (runSteps fuel js).run (Context.fresh builtins hub) = .ok (outs, ctx') → ctx'.CachedResolved) ∧
    (∀ (m a i : Nat) (recv : Value) (args : List Value) (ctx ctx' : Context) (out : Outcome Value)
      (s : CallSite) (r : Except ResolutionFailure Target) (ctx₂ : Context) (s₂ : CallSite),
      (slowPath (m + 1) a i recv args).run ctx = .ok (out, ctx') →
      (ctx.modifySite a i CallSite.recordMiss).site? a i = some s →
      (resolveCounted m recv s.descriptor args).run (ctx.modifySite a i CallSite.recordMiss) =
        .ok (r, ctx₂) →
      ctx₂.site? a i = some s₂ → s.stats.invalidations < s₂.stats.invalidations →
      EndsUnstored m a i recv args s.descriptor r ctx₂ out ctx') := by
  refine ⟨fun fuel js ctx ctx' outs hrun => ?_, fun fuel js builtins hub ctx' outs hrun => ?_,
    fun m a i recv args ctx ctx' out s r ctx₂ s₂ hrun hs hres hs₂ hreset => ?_⟩
  · exact (runSteps_keeps respects_slotHistory fuel js ctx outs ctx' hrun).1
  · exact (runSteps_keeps respects_slotHistory fuel js _ outs ctx' hrun).2
      (Context.fresh_cachedResolved builtins hub)
  · exact slowPath_stale hrun hs hres hs₂ hreset

namespace ResetHook

/-- The method `m`, answering 1. -/
def answerOne : Method := { name := "m", params := [], body := .script (.const (.plain (.int 1))) }

/-- An instance call of `m`. -/
def callM : CallDescriptor := { name := "m", kind := .inst }

/-- A context that knows the class `A`, whose `m` answers 1, holds one array with one site
calling `m`, and has a hook that resets that site before the first resolution. -/
def hooked : Context :=
  { registry := (Registry.empty.defineClass { name := "A", methods := [answerOne] }).2,
    arrays := #[{ array := SiteArray.ofDescriptors "main" [callM] {} }],
    hooks := #[⟨1, true, [.obj [("op", .str "reset")]]⟩] }

/-- An instance of `A`. -/
def instA : Value := .object ⟨0, ⟨256⟩⟩

/-- The site once the call has counted its miss. -/
def missed : CallSite := { index := 0, descriptor := callM, stats := { misses := 1 } }

/-- The site once the hook has reset it. -/
def reset : CallSite :=
  { index := 0, descriptor := callM, stats := { misses := 1, invalidations := 1 }, epoch := 1 }

end ResetHook

open Machine ResetHook in
/-- A hook resets the site while the first call through it resolves: the call still runs
the method it found and answers 1, stores nothing, and leaves the slot empty. -/
theorem reset_during_resolution_leaves_slot_empty :
    ∃ (out : Outcome Value) (ctx' : Context) (r : Except ResolutionFailure Target) (ctx₂ : Context),
      (slowPath 8 0 0 instA []).run hooked = .ok (out, ctx') ∧
      (hooked.modifySite 0 0 CallSite.recordMiss).site? 0 0 = some missed ∧
      (resolveCounted 7 instA missed.descriptor []).run (hooked.modifySite 0 0 CallSite.recordMiss) =
        .ok (r, ctx₂) ∧
      ctx₂.site? 0 0 = some reset ∧ missed.stats.invalidations < reset.stats.invalidations ∧
      EndsUnstored 7 0 0 instA [] missed.descriptor r ctx₂ out ctx' ∧
      out = .ok (.int 1) ∧ (ctx'.site? 0 0).map CallSite.state = some .empty := by
  obtain ⟨out, ctx', hrun, hout, hempty⟩ : ∃ out ctx',
      (slowPath 8 0 0 instA []).run hooked = .ok (out, ctx') ∧ out = .ok (.int 1) ∧
        (ctx'.site? 0 0).map CallSite.state = some .empty := by
    refine ⟨?out, ?ctx', ?run, ?answer, ?slot⟩
    case run =>
      cbv
      simp only [runStep]
      cbv
      rfl
    all_goals cbv
  obtain ⟨r, ctx₂, hres, hs₂⟩ : ∃ r ctx₂,
      (resolveCounted 7 instA missed.descriptor []).run (hooked.modifySite 0 0 CallSite.recordMiss) =
        .ok (r, ctx₂) ∧ ctx₂.site? 0 0 = some reset := by
    refine ⟨?r, ?ctx₂, ?resolved, ?site⟩
    case resolved =>
      cbv
      simp only [runStep]
      cbv
      rfl
    cbv
  have hs : (hooked.modifySite 0 0 CallSite.recordMiss).site? 0 0 = some missed := by cbv
  have hreset : missed.stats.invalidations < reset.stats.invalidations := by decide
  exact ⟨out, ctx', r, ctx₂, hrun, hs, hres, hs₂, hreset,
    slot_changes_only_by_reset_or_current_install.2.2 7 0 0 instA [] hooked ctx' out missed r ctx₂
      reset hrun hs hres hs₂ hreset, hout, hempty⟩

end InlineCache
