import InlineCache.Proofs.Consistency
/-!
# A repeated call of the same shape hits

A slow path stores the target its resolution found and runs it once its re-check passes.
A later call through the same site with inputs of the same shape — a receiver built by the
same constructor with the same type, the same class when it is a class value, and arguments
of the same types — takes the fast path: it counts a hit, makes no resolver call and runs
the stored target. Three things make it so. The re-check of the first call passes as long
as the receiver's instance table is not replaced, and the target is stored under the epoch
the slow path read, which still holds when the site was not reset. Every change of a site's
slot is counted, by a miss or a reset, so a site that took neither since still holds the
target. And the target's guard captures the shape of the inputs it was resolved for, with
one exception: the byte accessor `getAt` asks for an integer value, not only for an argument
of the integer type, so a foreign object of that type misses.

Every change of a site at all is counted: over every run of a scenario's steps, a site
whose hits, misses and resets did not move is exactly as it was.
-/
namespace InlineCache

namespace Value

/-- Whether two values are built by the same constructor. -/
def sameKind : Value → Value → Bool
  | .none, .none | .bool _, .bool _ | .int _, .int _ | .float _, .float _ | .str _, .str _
  | .bytes _, .bytes _ | .object _, .object _ | .foreign .., .foreign .. | .cls _, .cls _ => true
  | _, _ => false

theorem isNone_of_sameKind {v v' : Value} (h : v.sameKind v' = true) (hv : v.isNone = false) :
    v'.isNone = false := by
  cases v' with
  | none => cases v <;> simp_all [sameKind, isNone]
  | _ => rfl

end Value

/-- A call `(recv', args')` has the shape of the call `(recv, args)`: its receiver is built
by the same constructor and has the same type, it is the same class when the first was a
class value, and its arguments have the same types. -/
structure SameShape (recv : Value) (args : List Value) (recv' : Value) (args' : List Value) :
    Prop where
  sameKind : recv.sameKind recv' = true
  typeId_eq : recv'.typeId = recv.typeId
  cls_eq : ∀ id, recv = .cls id → recv' = .cls id
  shape_eq : Value.shape args' = Value.shape args

namespace SameShape

variable {recv recv' : Value} {args args' : List Value}

theorem object {ref : ObjectRef} (h : SameShape (.object ref) args recv' args') :
    ∃ ref', recv' = .object ref' ∧ ref'.cls = ref.cls := by
  obtain ⟨hk, hty, -, -⟩ := h
  cases recv' with
  | object ref' => exact ⟨ref', rfl, hty⟩
  | _ => simp [Value.sameKind] at hk

theorem bytes {b : ByteArray} (h : SameShape (.bytes b) args recv' args') :
    ∃ b', recv' = .bytes b' := by
  obtain ⟨hk, -, -, -⟩ := h
  cases recv' with
  | bytes b' => exact ⟨b', rfl⟩
  | _ => simp [Value.sameKind] at hk

theorem sameTypes (h : SameShape recv args recv' args') :
    Guard.sameTypes (Value.shape args) args' = true := by
  simp [Guard.sameTypes, h.shape_eq]

theorem nil (h : SameShape recv [] recv' args') : args' = [] :=
  List.map_eq_nil_iff.1 h.shape_eq

theorem singleton {x : Value} (h : SameShape recv [x] recv' args') :
    ∃ x', args' = [x'] ∧ x'.typeId = x.typeId :=
  List.map_eq_singleton_iff.1 h.shape_eq

end SameShape

/-- A target found for some inputs accepts every input of the same shape in a registry where
the receiver's class has the table stamp the search saw, except that a byte accessor also
asks for integer values. -/
theorem Found.accepts_of_sameShape {reg reg' : Registry} {recv recv' : Value}
    {d : CallDescriptor} {args args' : List Value} {t : Target} (h : Found reg recv d args t)
    (hshape : SameShape recv args recv' args')
    (hstamp : ∀ ref c, recv = .object ref → reg.class? ref.cls = some c →
      ∃ c', reg'.class? ref.cls = some c' ∧ c'.stamp = c.stamp)
    (hindex : t.variant = .accessor → ∀ x ∈ args', ∃ n, x = .int n) :
    t.guard.accepts reg' recv' args' = true := by
  have types := hshape.sameTypes
  cases h with
  | selfDescribing ref c m hrecv hc =>
    subst hrecv
    obtain ⟨ref', rfl, hcls⟩ := hshape.object
    obtain ⟨c', hc', hst⟩ := hstamp ref c rfl hc
    simp [Target.selfDescribing, Guard.accepts, hcls, hc', hst, types]
  | foreign m => simp [Target.foreign, Guard.accepts, hshape.typeId_eq, types]
  | staticMethod id m hrecv =>
    rw [hshape.cls_eq id hrecv]
    simp [Target.staticMethod, Guard.accepts, types]
  | ctor id init hrecv =>
    rw [hshape.cls_eq id hrecv]
    simp [Target.ctor, Guard.accepts, types]
  | accessor b op hrecv hop =>
    subst hrecv
    obtain ⟨b', rfl⟩ := hshape.bytes
    rcases AccessorOp.forCall?_args hop with ⟨rfl, rfl⟩ | ⟨rfl, n, rfl⟩
    · simp [Target.accessor, Guard.accepts, hshape.nil]
    · obtain ⟨x, rfl, -⟩ := hshape.singleton
      obtain ⟨n', rfl⟩ := hindex rfl x (List.mem_singleton_self x)
      simp [Target.accessor, Guard.accepts]
  | operator op rhs hargs =>
    subst hargs
    obtain ⟨x, rfl, hx⟩ := hshape.singleton
    simp [Target.operator, Guard.accepts, hshape.typeId_eq, hx]

/-- A class whose revision is the same at the two ends of an evolution has the revision of
every state between, and the table stamp too. -/
theorem Registry.Evolves.revision_pinned {reg₀ reg₁ reg₂ : Registry} {id : TypeId} {c₁ : Class}
    (h₀ : reg₀.Evolves reg₁) (h₁ : reg₁.Evolves reg₂) (hc₁ : reg₁.class? id = some c₁)
    (hrev : (reg₂.class? id).map Class.revision = (reg₀.class? id).map Class.revision) :
    ∃ c₂, reg₂.class? id = some c₂ ∧ c₂.stamp = c₁.stamp := by
  obtain ⟨c₂, hc₂, succ₂⟩ := h₁.classes id c₁ hc₁
  rcases Option.eq_none_or_eq_some (reg₀.class? id) with hc₀ | ⟨c₀, hc₀⟩
  · rw [hc₂, hc₀] at hrev
    cases hrev
  · obtain ⟨c₁', hc₁', succ₁⟩ := h₀.classes id c₀ hc₀
    rw [hc₁] at hc₁'
    cases hc₁'
    rw [hc₂, hc₀] at hrev
    have same : c₂.revision = c₀.revision := Option.some.inj hrev
    have := succ₁.revision_le
    have := succ₂.revision_le
    exact ⟨c₂, hc₂, succ₂.stamp_eq_iff.2 (by omega)⟩

namespace Machine

/-- A call through a site whose slot holds a target that accepts the inputs counts a hit and
runs that target. -/
theorem callSite_hit {n a i : Nat} {recv : Value} {args : List Value} {safe : Bool}
    {ctx : Context} {s : CallSite} {t : Target} (hs : ctx.site? a i = some s)
    (hslot : s.slot = .cached t) (hnone : recv.isNone = false)
    (hacc : t.guard.accepts ctx.registry recv args = true) :
    (callSite (n + 1) a i recv args safe).run ctx =
      (runTarget n t recv args).run (ctx.modifySite a i CallSite.recordHit) := by
  obtain ⟨arr, harr, hsite⟩ := Option.bind_eq_some_iff.1 hs
  have htarget : s.target? = some t := by simp [CallSite.target?, hslot]
  rw [callSite]
  simp [StateT.run_bind, harr, hsite, hnone, htarget, hacc]

/-- A slow path whose resolution found `t` and whose re-check passed leaves `t` in the slot
for as long as the site takes no further miss and no reset. -/
theorem slot_cached_while_quiet {m a i : Nat} {recv : Value} {args : List Value}
    {ctx ctx₂ ctx₁ ctx₃ : Context} {out : Outcome Value} {s s₃ : CallSite} {t : Target}
    (hrun : (slowPath (m + 1) a i recv args).run ctx = .ok (out, ctx₁))
    (hs : (ctx.modifySite a i CallSite.recordMiss).site? a i = some s)
    (hres : (resolveCounted m recv s.descriptor args).run (ctx.modifySite a i CallSite.recordMiss) =
      .ok (.ok t, ctx₂))
    (hacc : t.guard.accepts ctx₂.registry recv args = true)
    (hlater : ctx₁.SlotHistory ctx₃) (hs₃ : ctx₃.site? a i = some s₃)
    (hmiss : s₃.stats.misses = s.stats.misses)
    (hreset : s₃.stats.invalidations = s.stats.invalidations) :
    s₃.slot = .cached t := by
  have hrunT := (slowPath_run_of_found hrun hs hres).1 hacc
  obtain ⟨s₂, hs₂, f₂⟩ :=
    ((keepsAll respects_slotHistory m).resolveCounted _ _ _ _ _ _ hres).1 a i s hs
  have stored := (CallSite.sameEpoch_recordResolution s₂).trans
    (CallSite.sameEpoch_install s₂.recordResolution s.epoch (.cached t))
  have hsI : (ctx₂.modifySite a i fun s' => s'.recordResolution.install s.epoch (.cached t)).site?
      a i = some (s₂.recordResolution.install s.epoch (.cached t)) := by
    rw [Context.site?_modifySite_self, hs₂]
    rfl
  obtain ⟨s₁, hs₁, f₁⟩ :=
    ((keepsAll respects_slotHistory m).runTarget _ _ _ _ _ _ hrunT).1 a i _ hsI
  obtain ⟨s₃', hs₃', f₃⟩ := hlater.1 a i s₁ hs₁
  rw [hs₃] at hs₃'
  cases hs₃'
  have after := f₁.trans f₃
  obtain ⟨k₂, he₂, hi₂⟩ := f₂.resets
  obtain ⟨k₃, he₃, hi₃⟩ := after.resets
  have unreset : k₂ = 0 ∧ k₃ = 0 := by
    have := stored.invalidations_eq
    omega
  have hslot : (s₂.recordResolution.install s.epoch (.cached t)).slot = .cached t := by
    rw [CallSite.install_of_eq (by simp [CallSite.recordResolution, he₂, unreset.1])]
  have quiet : s₃.stats.misses =
      (s₂.recordResolution.install s.epoch (.cached t)).stats.misses := by
    have := f₂.misses_le
    have := after.misses_le
    have := stored.misses_eq
    omega
  rcases after.quiet quiet with ⟨same, -⟩ | ⟨-, hlt⟩
  · exact same.trans hslot
  · have := stored.epoch_eq
    omega

/-- The registry a slow path's resolution left evolves into the one the slow path ends with. -/
theorem registryEvolves_after_resolution {m a i : Nat} {recv : Value} {args : List Value}
    {ctx ctx₂ ctx₁ : Context} {out : Outcome Value} {s : CallSite} {t : Target}
    (hrun : (slowPath (m + 1) a i recv args).run ctx = .ok (out, ctx₁))
    (hs : (ctx.modifySite a i CallSite.recordMiss).site? a i = some s)
    (hres : (resolveCounted m recv s.descriptor args).run (ctx.modifySite a i CallSite.recordMiss) =
      .ok (.ok t, ctx₂)) :
    ctx₂.RegistryEvolves ctx₁ := by
  obtain ⟨ran, rejected⟩ := slowPath_run_of_found hrun hs hres
  cases hacc : t.guard.accepts ctx₂.registry recv args with
  | true =>
    have evolves := (keepsAll respects_registryEvolves m).runTarget _ _ _ _ _ _ (ran hacc)
    exact evolves
  | false =>
    rw [(rejected hacc).2]
    exact Registry.Evolves.refl _

end Machine

/-- A target resolved in `regm` accepts its own inputs in every later registry `reg₂` when the
receiver's class has, in a registry later still, the revision it had before the search. -/
theorem accepts_of_revision_pinned {reg₀ regm reg₂ reg₃ : Registry} {recv : Value}
    {d : CallDescriptor} {args : List Value} {t : Target} (hr : resolve regm recv d args = .ok t)
    (e₀ : reg₀.Evolves regm) (e₂ : regm.Evolves reg₂) (e₃ : reg₂.Evolves reg₃)
    (htable : ∀ ref, recv = .object ref →
      (reg₃.class? ref.cls).map Class.revision = (reg₀.class? ref.cls).map Class.revision) :
    t.guard.accepts reg₂ recv args = true := by
  rw [← Bool.not_eq_false, resolve_rejects_iff hr e₂]
  rintro ⟨-, ref, c, c', rfl, hc, hc', hlt⟩
  obtain ⟨c₃, hc₃, hstamp⟩ := e₀.revision_pinned (e₂.trans e₃) hc (htable ref rfl)
  obtain ⟨c₃', hc₃', succ⟩ := e₃.classes ref.cls c' hc'
  rw [hc₃] at hc₃'
  cases hc₃'
  have same : c₃.revision = c.revision := congrArg TableStamp.revision hstamp
  have := succ.revision_le
  omega

namespace Machine

/-- A call with the shape of an earlier call whose resolution found `t` hits, while its site
took no further miss and no reset and the receiver's class kept the revision it had before
that resolution: the slot still holds `t`, and the call counts one hit and runs `t`. A byte
accessor asks for integer values as its arguments. -/
theorem sameShape_hits {m a i : Nat} {recv recv' : Value} {args args' : List Value}
    {ctx ctx₂ ctx₁ ctx₃ : Context} {out : Outcome Value} {s s₃ : CallSite} {t : Target}
    (hrun : (slowPath (m + 1) a i recv args).run ctx = .ok (out, ctx₁))
    (hs : (ctx.modifySite a i CallSite.recordMiss).site? a i = some s)
    (hres : (resolveCounted m recv s.descriptor args).run (ctx.modifySite a i CallSite.recordMiss) =
      .ok (.ok t, ctx₂))
    (hlater : ctx₁.SlotHistory ctx₃) (hevolves : ctx₁.RegistryEvolves ctx₃)
    (hs₃ : ctx₃.site? a i = some s₃) (hmiss : s₃.stats.misses = s.stats.misses)
    (hreset : s₃.stats.invalidations = s.stats.invalidations)
    (htable : ∀ ref, recv = .object ref →
      (ctx₃.registry.class? ref.cls).map Class.revision =
        (ctx.registry.class? ref.cls).map Class.revision)
    (hshape : SameShape recv args recv' args')
    (hindex : t.variant = .accessor → ∀ x ∈ args', ∃ n, x = .int n) :
    s₃.slot = .cached t ∧ ∀ n safe, (callSite (n + 1) a i recv' args' safe).run ctx₃ =
      (runTarget n t recv' args').run (ctx₃.modifySite a i CallSite.recordHit) := by
  obtain ⟨ctxm, before, hr, after⟩ :=
    (keepsAll respects_registryEvolves m).resolves _ _ _ _ _ _ hres
  have later : ctx₂.RegistryEvolves ctx₃ :=
    trans_of Context.RegistryEvolves (registryEvolves_after_resolution hrun hs hres) hevolves
  have hacc := accepts_of_revision_pinned hr before after later htable
  have hslot := slot_cached_while_quiet hrun hs hres hacc hlater hs₃ hmiss hreset
  have hacc' : t.guard.accepts ctx₃.registry recv' args' = true := by
    refine (resolve_found hr).accepts_of_sameShape hshape (fun ref c hrecv hc => ?_) hindex
    exact Registry.Evolves.revision_pinned before (after.trans later) hc (htable ref hrecv)
  have hnone := Value.isNone_of_sameKind hshape.sameKind (resolve_passes hr).1
  exact ⟨hslot, fun n safe => callSite_hit hs₃ hslot hnone hacc'⟩

end Machine

namespace CallSite

/-- Every change from `s` to `s'` is counted: hits, misses and resets only grow, and while
none of them moved the site is exactly as it was. -/
structure Counted (s s' : CallSite) : Prop where
  hits_le : s.stats.hits ≤ s'.stats.hits
  misses_le : s.stats.misses ≤ s'.stats.misses
  invalidations_le : s.stats.invalidations ≤ s'.stats.invalidations
  still : s'.stats.hits = s.stats.hits → s'.stats.misses = s.stats.misses →
    s'.stats.invalidations = s.stats.invalidations → s' = s

theorem Counted.refl (s : CallSite) : s.Counted s :=
  ⟨Nat.le_refl _, Nat.le_refl _, Nat.le_refl _, fun _ _ _ => rfl⟩

theorem Counted.trans {s₁ s₂ s₃ : CallSite} (h₁ : s₁.Counted s₂) (h₂ : s₂.Counted s₃) :
    s₁.Counted s₃ where
  hits_le := Nat.le_trans h₁.hits_le h₂.hits_le
  misses_le := Nat.le_trans h₁.misses_le h₂.misses_le
  invalidations_le := Nat.le_trans h₁.invalidations_le h₂.invalidations_le
  still hh hm hi := by
    have first : s₂ = s₁ := h₁.still (by have := h₂.hits_le; have := h₁.hits_le; omega)
      (by have := h₂.misses_le; have := h₁.misses_le; omega)
      (by have := h₂.invalidations_le; have := h₁.invalidations_le; omega)
    subst first
    exact h₂.still hh hm hi

/-- A change that counts a hit, a miss or a reset and may change anything else. -/
theorem counted_of_moved {s s' : CallSite} (hh : s.stats.hits ≤ s'.stats.hits)
    (hm : s.stats.misses ≤ s'.stats.misses)
    (hi : s.stats.invalidations ≤ s'.stats.invalidations)
    (moved : s.stats.hits < s'.stats.hits ∨ s.stats.misses < s'.stats.misses ∨
      s.stats.invalidations < s'.stats.invalidations) : s.Counted s' :=
  ⟨hh, hm, hi, fun h₁ h₂ h₃ => by omega⟩

theorem counted_reset_iterate (s : CallSite) (k : Nat) : s.Counted (reset^[k] s) := by
  rcases Nat.eq_zero_or_pos k with rfl | hk
  · exact .refl s
  · exact counted_of_moved (by simp) (by simp) (by simp) (.inr (.inr (by simp; omega)))

/-- A slow path's store after its miss changes no counter of hits, misses or resets. -/
theorem counted_of_miss {s s₂ s₃ : CallSite} (h : s.recordMiss.Counted s₂)
    (hh : s₃.stats.hits = s₂.stats.hits) (hm : s₃.stats.misses = s₂.stats.misses)
    (hi : s₃.stats.invalidations = s₂.stats.invalidations) : s.Counted s₃ := by
  have := h.hits_le
  have := h.misses_le
  have := h.invalidations_le
  simp only [recordMiss] at *
  exact counted_of_moved (by omega) (by omega) (by omega) (.inr (.inl (by omega)))

end CallSite

namespace Context

/-- Every site of `ctx` is still in `ctx'`, changed only in counted ways. -/
def SitesCounted (ctx ctx' : Context) : Prop :=
  ∀ a i s, ctx.site? a i = some s → ∃ s', ctx'.site? a i = some s' ∧ s.Counted s'

theorem SitesCounted.refl (ctx : Context) : ctx.SitesCounted ctx :=
  SitesRelate.of_site? CallSite.Counted.refl fun _ _ => rfl

theorem SitesCounted.trans {ctx₁ ctx₂ ctx₃ : Context} (h₁ : ctx₁.SitesCounted ctx₂)
    (h₂ : ctx₂.SitesCounted ctx₃) : ctx₁.SitesCounted ctx₃ :=
  SitesRelate.trans (P := CallSite.Counted) CallSite.Counted.trans h₁ h₂

instance : Std.Refl SitesCounted := ⟨SitesCounted.refl⟩

instance : IsTrans Context SitesCounted := ⟨fun _ _ _ => SitesCounted.trans⟩

instance : IsPreorder Context SitesCounted := {}

theorem sitesCounted_of_site? {ctx ctx' : Context} (h : ∀ a i, ctx'.site? a i = ctx.site? a i) :
    ctx.SitesCounted ctx' :=
  SitesRelate.of_site? CallSite.Counted.refl h

/-- Changing one site in a counted way. -/
theorem sitesCounted_modifySite {f : CallSite → CallSite} (hf : ∀ s : CallSite, s.Counted (f s))
    (ctx : Context) (a i : Nat) : ctx.SitesCounted (ctx.modifySite a i f) :=
  SitesRelate.modifySite CallSite.Counted.refl hf ctx a i

/-- What a slow path stores: the site at `(a, i)` of `ctx'` is that of `ctx₂` changed by
`g`, which moves no counter of hits, misses or resets. The run from the miss to `ctx₂` is
judged on its own. -/
theorem sitesCounted_install {ctx ctx₂ ctx' : Context} {a i : Nat} {g : CallSite → CallSite}
    (h : (ctx.modifySite a i CallSite.recordMiss).SitesCounted ctx₂)
    (hsite : ∀ b j, ctx'.site? b j =
      if a = b ∧ i = j then (ctx₂.site? b j).map g else ctx₂.site? b j)
    (hg : ∀ s : CallSite, (g s).stats.hits = s.stats.hits ∧
      (g s).stats.misses = s.stats.misses ∧ (g s).stats.invalidations = s.stats.invalidations) :
    ctx.SitesCounted ctx' := by
  refine SitesRelate.install h hsite fun _ s₂ counted => ?_
  obtain ⟨hh, hm, hi⟩ := hg s₂
  exact CallSite.counted_of_miss counted hh hm hi

/-- A step that calls no method resets sites, or adds new ones. -/
theorem sitesCounted_answer (ctx : Context) (st : Step) : ctx.SitesCounted (Queries.answer ctx st).2 := by
  intro a i s hs
  rcases Queries.answer_site ctx st a i with ⟨k, hk⟩ | ⟨hnone, -⟩
  · exact ⟨_, by rw [hk, hs]; rfl, CallSite.counted_reset_iterate s k⟩
  · rw [hs] at hnone
    cases hnone

end Context

open Context CallSite in
/-- Every primitive change of the machine changes sites only in counted ways. -/
theorem Machine.respects_sitesCounted : Machine.Respects SitesCounted where
  hit := sitesCounted_modifySite fun s =>
    counted_of_moved (by simp [recordHit]) (by simp [recordHit]) (by simp [recordHit])
      (.inl (by simp [recordHit]))
  log _ _ := sitesCounted_of_site? (site?_eq_of_arrays rfl)
  heap _ _ := sitesCounted_of_site? (site?_eq_of_arrays rfl)
  pin ctx a on := sitesCounted_of_site? (site?_pin ctx a on)
  depth _ _ := sitesCounted_of_site? (site?_eq_of_arrays rfl)
  setVar _ _ _ := sitesCounted_of_site? (site?_eq_of_arrays rfl)
  answer := sitesCounted_answer
  installFailed ctx a i s ctx₂ hs h :=
    sitesCounted_install h (fun b j => site?_modifySite ..) fun s' => by
      simp [recordFailure]
  installCached ctx a i s ctxm ctx₂ recv args t hs h₁ hres h₂ :=
    sitesCounted_install (trans_of SitesCounted h₁ h₂) (fun b j => site?_modifySite ..)
      fun s' => by simp [recordResolution]
  reject ctx a i s ctxm ctx₂ recv args t hs h₁ hres h₂ := by
    refine sitesCounted_install (g := fun s' => (s'.recordResolution.install s.epoch (.cached t)).install
      s.epoch .failed) (trans_of SitesCounted h₁ h₂) (fun b j => ?_) fun s' => by
        simp [recordResolution]
    rw [site?_modifySite, site?_modifySite]
    split
    · next hab =>
      obtain ⟨rfl, rfl⟩ := hab
      rw [Option.map_map]
      rfl
    · rfl

open Machine in
/-- A same-shape call hits the target a resolution stored while the site took no miss or reset
and the receiver's table stands; over every run, a site whose counters stay is unchanged. -/
theorem same_shape_call_hits_stored_target :
    (∀ (m a i : Nat) (recv : Value) (args : List Value) (ctx ctx₂ ctx₁ ctx₃ : Context)
      (out : Outcome Value) (s s₃ : CallSite) (t : Target) (recv' : Value) (args' : List Value),
      (slowPath (m + 1) a i recv args).run ctx = .ok (out, ctx₁) →
      (ctx.modifySite a i CallSite.recordMiss).site? a i = some s →
      (resolveCounted m recv s.descriptor args).run (ctx.modifySite a i CallSite.recordMiss) =
        .ok (.ok t, ctx₂) →
      ctx₁.SlotHistory ctx₃ → ctx₁.RegistryEvolves ctx₃ →
      ctx₃.site? a i = some s₃ → s₃.stats.misses = s.stats.misses →
      s₃.stats.invalidations = s.stats.invalidations →
      (∀ ref, recv = .object ref →
        (ctx₃.registry.class? ref.cls).map Class.revision =
          (ctx.registry.class? ref.cls).map Class.revision) →
      SameShape recv args recv' args' →
      (t.variant = .accessor → ∀ x ∈ args', ∃ n, x = .int n) →
      s₃.slot = .cached t ∧ ∀ n safe, (callSite (n + 1) a i recv' args' safe).run ctx₃ =
        (runTarget n t recv' args').run (ctx₃.modifySite a i CallSite.recordHit)) ∧
    (∀ (fuel : Nat) (js : List Json) (ctx ctx' : Context) (outs : List Json),
      (runSteps fuel js).run ctx = .ok (outs, ctx') → ctx.SitesCounted ctx') :=
  ⟨fun _ _ _ _ _ _ _ _ _ _ _ _ _ _ _ hrun hs hres hlater hevolves hs₃ hmiss hreset htable hshape
      hindex => sameShape_hits hrun hs hres hlater hevolves hs₃ hmiss hreset htable hshape hindex,
    fun fuel js ctx ctx' outs hrun => runSteps_keeps respects_sitesCounted fuel js ctx outs ctx' hrun⟩

namespace SecondInstance

/-- A context that knows the class `A`, whose `m` answers 1, and holds one array with one
site calling `m`. -/
def plain : Context :=
  { registry := (Registry.empty.defineClass { name := "A", methods := [ResetHook.answerOne] }).2,
    arrays := #[{ array := SiteArray.ofDescriptors "main" [ResetHook.callM] {} }] }

/-- Another instance of `A`. -/
def instB : Value := .object ⟨1, ⟨256⟩⟩

end SecondInstance

open Machine ResetHook SecondInstance in
/-- A call on one instance of `A` stores the method it found; a call on another instance of
`A` right after it hits and runs that method. -/
theorem second_instance_hits_stored_method :
    ∃ (out : Outcome Value) (ctx₁ ctx₂ : Context) (t : Target) (s₃ : CallSite),
      (slowPath 8 0 0 instA []).run plain = .ok (out, ctx₁) ∧
      (plain.modifySite 0 0 CallSite.recordMiss).site? 0 0 = some missed ∧
      (resolveCounted 7 instA missed.descriptor []).run (plain.modifySite 0 0 CallSite.recordMiss) =
        .ok (.ok t, ctx₂) ∧
      ctx₁.site? 0 0 = some s₃ ∧ SameShape instA [] instB [] ∧ s₃.slot = .cached t ∧
      (callSite 8 0 0 instB [] false).run ctx₁ =
        (runTarget 7 t instB []).run (ctx₁.modifySite 0 0 CallSite.recordHit) := by
  obtain ⟨out, ctx₁, ctx₂, t, s₃, hrun, hs, hres, hmethod, hs₃, hmiss, hreset, htable⟩ :
      ∃ (out : Outcome Value) (ctx₁ ctx₂ : Context) (t : Target) (s₃ : CallSite),
        (slowPath 8 0 0 instA []).run plain = .ok (out, ctx₁) ∧
        (plain.modifySite 0 0 CallSite.recordMiss).site? 0 0 = some missed ∧
        (resolveCounted 7 instA missed.descriptor []).run
          (plain.modifySite 0 0 CallSite.recordMiss) = .ok (.ok t, ctx₂) ∧
        t.variant = .selfDescribing ∧ ctx₁.site? 0 0 = some s₃ ∧
        s₃.stats.misses = missed.stats.misses ∧
        s₃.stats.invalidations = missed.stats.invalidations ∧
        (ctx₁.registry.class? ⟨256⟩).map Class.revision =
          (plain.registry.class? ⟨256⟩).map Class.revision := by
    refine ⟨?out, ?ctx₁, ?ctx₂, ?t, ?s₃, ?run, ?site, ?resolved, ?variant, ?site₃, ?misses, ?resets,
      ?table⟩
    case run => cbv; rfl
    case site => cbv
    case resolved => cbv; rfl
    case site₃ => cbv; rfl
    all_goals cbv
  have hshape : SameShape instA [] instB [] := ⟨rfl, rfl, (fun _ h => by cases h), rfl⟩
  have hit := same_shape_call_hits_stored_target.1 7 0 0 instA [] plain ctx₂ ctx₁ ctx₁ out missed
    s₃ t instB [] hrun hs hres (.refl ctx₁) (Registry.Evolves.refl _) hs₃ hmiss hreset
    (fun ref href => by cases href; exact htable) hshape
    (fun haccessor => by rw [hmethod] at haccessor; cases haccessor)
  exact ⟨out, ctx₁, ctx₂, t, s₃, hrun, hs, hres, hs₃, hshape, hit.1, hit.2 7 false⟩

namespace ByteIndex

/-- A context with the builtin types and one array whose one site calls `getAt`. -/
def indexSite : Context :=
  { Context.fresh true false with
    arrays := #[{ array := SiteArray.ofDescriptors "main" [callGetAt] {} }] }

/-- The byte sequence 7, 8, 9. -/
def bytes789 : Value := .bytes ⟨#[7, 8, 9]⟩

/-- A foreign object of the builtin kind `int`, wrapping 1. -/
def foreignOne : Value := .foreign 0 TypeId.int (.int 1)

end ByteIndex

open Machine ByteIndex in
/-- Bytes indexed by 0, then by a foreign `int` object: one shape, yet the second call misses,
since the stored accessor asks for an integer value. -/
theorem foreign_index_misses_stored_accessor :
    ∃ (out : Outcome Value) (ctx₁ ctx₂ : Context) (s : CallSite) (t : Target)
      (out' : Outcome Value) (ctx' : Context),
      (slowPath 8 0 0 bytes789 [.int 0]).run indexSite = .ok (out, ctx₁) ∧
      (indexSite.modifySite 0 0 CallSite.recordMiss).site? 0 0 = some s ∧
      (resolveCounted 7 bytes789 s.descriptor [.int 0]).run
        (indexSite.modifySite 0 0 CallSite.recordMiss) = .ok (.ok t, ctx₂) ∧
      t.variant = .accessor ∧ SameShape bytes789 [.int 0] bytes789 [foreignOne] ∧
      (callSite 8 0 0 bytes789 [foreignOne] false).run ctx₁ = .ok (out', ctx') ∧
      ctx'.calls = ctx₁.calls + 1 ∧ (ctx'.site? 0 0).map (·.stats.misses) = some 2 := by
  refine ⟨?out, ?ctx₁, ?ctx₂, ?s, ?t, ?out', ?ctx', ?run, ?site, ?resolved, ?accessor,
    ⟨rfl, rfl, (fun _ h => by cases h), rfl⟩, ?second, ?calls, ?misses⟩
  case run => cbv; rfl
  case site => cbv; rfl
  case resolved => cbv; rfl
  case second => cbv; rfl
  all_goals cbv

end InlineCache
