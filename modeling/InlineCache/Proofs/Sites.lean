import Mathlib.Logic.Function.Iterate
import Mathlib.Data.Nat.SuccPred
import InlineCache.Proofs.QuerySteps
/-!
# Where the sites of a context change

The sites of a scenario live in its arrays, and a site changes only through a change of its
own array: one site at a time by `modifySite`, or every site of an array by a reset of the
whole array. Marking an array as in use, dropping it and registering it with the hub leave
every site as it was.

Of the steps that call no method, only resets change a site, and each resets it some number
of times: once for a reset of the site or of its array, once per registration for the
hub's resets. A new array adds sites, with empty slots, and changes none.
-/
namespace InlineCache

namespace CallSite

theorem install_of_eq {s : CallSite} {e : Nat} (he : s.epoch = e) (slot : Slot) :
    s.install e slot = { s with slot } := by
  simp [install, he]

/-- An install under an epoch the site has left changes nothing. -/
theorem install_of_ne {s : CallSite} {e : Nat} (he : s.epoch ≠ e) (slot : Slot) :
    s.install e slot = s := by
  simp [install, he]

/-- An install either stores its slot or leaves the one there. -/
theorem install_slot (s : CallSite) (e : Nat) (slot : Slot) :
    (s.install e slot).slot = slot ∨ (s.install e slot).slot = s.slot := by
  unfold install
  split
  · exact .inl rfl
  · exact .inr rfl

/-- An install changes no counter. -/
@[simp] theorem install_stats (s : CallSite) (e : Nat) (slot : Slot) :
    (s.install e slot).stats = s.stats := by
  unfold install
  split <;> rfl

/-- A reading of a site that one reset leaves as it is, any number of resets leave as it is. -/
theorem reset_iterate_of_kept {β : Type} (f : CallSite → β) (hf : ∀ s, f s.reset = f s)
    (s : CallSite) (k : Nat) : f (reset^[k] s) = f s := by
  have kept : Function.Semiconj f reset id := hf
  rw [(kept.iterate_right k).eq s, Function.iterate_id, id]

/-- A count that one reset advances by one, `k` resets advance by `k`. -/
theorem reset_iterate_of_counted (f : CallSite → Nat) (hf : ∀ s, f s.reset = f s + 1)
    (s : CallSite) (k : Nat) : f (reset^[k] s) = f s + k := by
  have counted : Function.Semiconj f reset Nat.succ := hf
  rw [(counted.iterate_right k).eq s, Nat.succ_iterate]

@[simp] theorem reset_iterate_index (s : CallSite) (k : Nat) : (reset^[k] s).index = s.index :=
  reset_iterate_of_kept index (fun _ => rfl) s k

@[simp] theorem reset_iterate_descriptor (s : CallSite) (k : Nat) :
    (reset^[k] s).descriptor = s.descriptor :=
  reset_iterate_of_kept descriptor (fun _ => rfl) s k

/-- Each reset advances the epoch by one. -/
@[simp] theorem reset_iterate_epoch (s : CallSite) (k : Nat) :
    (reset^[k] s).epoch = s.epoch + k :=
  reset_iterate_of_counted epoch (fun _ => rfl) s k

/-- Each reset is counted as an invalidation. -/
@[simp] theorem reset_iterate_invalidations (s : CallSite) (k : Nat) :
    (reset^[k] s).stats.invalidations = s.stats.invalidations + k :=
  reset_iterate_of_counted (·.stats.invalidations) (fun _ => rfl) s k

@[simp] theorem reset_iterate_misses (s : CallSite) (k : Nat) :
    (reset^[k] s).stats.misses = s.stats.misses :=
  reset_iterate_of_kept (·.stats.misses) (fun _ => rfl) s k

@[simp] theorem reset_iterate_hits (s : CallSite) (k : Nat) :
    (reset^[k] s).stats.hits = s.stats.hits :=
  reset_iterate_of_kept (·.stats.hits) (fun _ => rfl) s k

/-- A site reset at least once has an empty slot. -/
theorem reset_iterate_slot (s : CallSite) {k : Nat} (hk : 0 < k) :
    (reset^[k] s).slot = .empty := by
  obtain ⟨k, rfl⟩ := Nat.exists_eq_add_of_lt hk
  rw [Nat.zero_add, Function.iterate_succ_apply']
  rfl

end CallSite

/-- Changing an element by two functions that agree on it is one change. -/
theorem Array.modify_congr {α : Type} {xs : Array α} {a : Nat} {f g : α → α}
    (h : ∀ e, xs[a]? = some e → f e = g e) : xs.modify a f = xs.modify a g := by
  apply Array.ext_getElem?
  intro b
  simp only [Array.getElem?_modify]
  split
  · next hab =>
    subst hab
    cases he : xs[a]? with
    | none => rfl
    | some e => simp [h e he]
  · rfl

/-- Changing an element by a function that leaves it as it is changes nothing. -/
theorem Array.modify_of_fixed {α : Type} {xs : Array α} {a : Nat} {f : α → α}
    (h : ∀ e, xs[a]? = some e → f e = e) : xs.modify a f = xs := by
  apply Array.ext_getElem?
  intro b
  simp only [Array.getElem?_modify]
  split
  · next hab =>
    subst hab
    cases he : xs[a]? with
    | none => rfl
    | some e => simp [h e he]
  · rfl

/-- Two changes of one element are one change, by their composition. -/
theorem Array.modify_modify {α : Type} (xs : Array α) (a : Nat) (f g : α → α) :
    (xs.modify a f).modify a g = xs.modify a (g ∘ f) := by
  apply Array.ext_getElem?
  intro b
  by_cases hab : a = b
  · subst hab
    simp only [Array.getElem?_modify, if_true, Option.map_map]
  · simp only [Array.getElem?_modify, hab, if_false]

namespace SiteArray

/-- Changing one site of an array leaves every other site alone. -/
theorem site?_modifySite (arr : SiteArray) (j : Nat) (f : CallSite → CallSite) (i : Nat) :
    (arr.modifySite j f).site? i = if j = i then (arr.site? i).map f else arr.site? i := by
  simp only [site?, modifySite, Array.getElem?_modify]

theorem site?_resetAll (arr : SiteArray) (i : Nat) :
    arr.resetAll.site? i = (arr.site? i).map CallSite.reset := by
  simp [site?, resetAll]

end SiteArray

namespace Context

theorem anyArray?_modifyArray (ctx : Context) (b a : Nat) (f : SiteArray → SiteArray) :
    (ctx.modifyArray b f).anyArray? a = if b = a then (ctx.anyArray? a).map f else ctx.anyArray? a := by
  simp only [anyArray?, modifyArray, Array.getElem?_modify]
  split <;> simp [Option.map_map, Function.comp_def]

theorem site?_modifyArray (ctx : Context) (b a i : Nat) (f : SiteArray → SiteArray) :
    (ctx.modifyArray b f).site? a i =
      if b = a then ((ctx.anyArray? a).map f).bind (·.site? i) else ctx.site? a i := by
  simp only [site?, anyArray?_modifyArray]
  split <;> rfl

/-- Changing one site leaves every other site alone. -/
theorem site?_modifySite (ctx : Context) (b j a i : Nat) (f : CallSite → CallSite) :
    (ctx.modifySite b j f).site? a i =
      if b = a ∧ j = i then (ctx.site? a i).map f else ctx.site? a i := by
  simp only [modifySite, site?_modifyArray]
  by_cases hb : b = a
  · subst hb
    simp only [site?, if_true, true_and]
    cases ctx.anyArray? b with
    | none => split <;> rfl
    | some arr => simp only [Option.map_some, Option.bind_some, SiteArray.site?_modifySite]
  · simp [hb]

@[simp] theorem site?_modifySite_self (ctx : Context) (a i : Nat) (f : CallSite → CallSite) :
    (ctx.modifySite a i f).site? a i = (ctx.site? a i).map f := by
  simp [site?_modifySite]

/-- Resetting a whole array resets each of its sites. -/
theorem site?_resetAll (ctx : Context) (b a i : Nat) :
    (ctx.modifyArray b SiteArray.resetAll).site? a i =
      if b = a then (ctx.site? a i).map CallSite.reset else ctx.site? a i := by
  rw [site?_modifyArray]
  simp only [site?]
  split
  · cases ctx.anyArray? a with
    | none => rfl
    | some arr => simp [SiteArray.site?_resetAll]
  · rfl

/-- Changing a site by two functions that agree on it is one change. -/
theorem modifySite_congr {ctx : Context} {a i : Nat} {f g : CallSite → CallSite}
    (h : ∀ c, ctx.site? a i = some c → f c = g c) : ctx.modifySite a i f = ctx.modifySite a i g := by
  simp only [modifySite, modifyArray, SiteArray.modifySite]
  congr 1
  refine Array.modify_congr fun e he => ?_
  have sites : e.array.sites.modify i f = e.array.sites.modify i g :=
    Array.modify_congr fun c hc => h c (by simp [site?, anyArray?, he, SiteArray.site?, hc])
  rw [sites]

@[simp] theorem modifySite_id (ctx : Context) (a i : Nat) : ctx.modifySite a i id = ctx := by
  simp only [modifySite, modifyArray, SiteArray.modifySite]
  have sites : ∀ e : ArrayEntry, e.array.sites.modify i id = e.array.sites :=
    fun _ => Array.modify_of_fixed fun _ _ => rfl
  simp only [sites]
  rw [Array.modify_of_fixed fun _ _ => rfl]

/-- Changing a site by a function that leaves it as it is changes nothing. -/
theorem modifySite_of_fixed {ctx : Context} {a i : Nat} {f : CallSite → CallSite}
    (h : ∀ c, ctx.site? a i = some c → f c = c) : ctx.modifySite a i f = ctx := by
  rw [modifySite_congr (g := id) h, modifySite_id]

/-- Two changes of one site are one change, by their composition. -/
theorem modifySite_modifySite (ctx : Context) (a i : Nat) (f g : CallSite → CallSite) :
    (ctx.modifySite a i f).modifySite a i g = ctx.modifySite a i (g ∘ f) := by
  simp only [modifySite, modifyArray, SiteArray.modifySite, Array.modify_modify]
  congr 2
  funext e
  simp only [Function.comp_apply, Array.modify_modify]

@[simp] theorem anyArray?_pin (ctx : Context) (b : Nat) (on : Bool) (a : Nat) :
    (ctx.pin b on).anyArray? a = ctx.anyArray? a := by
  simp only [anyArray?, pin, Array.getElem?_modify]
  split <;> simp [Option.map_map, Function.comp_def]

@[simp] theorem site?_pin (ctx : Context) (b : Nat) (on : Bool) (a i : Nat) :
    (ctx.pin b on).site? a i = ctx.site? a i := by
  simp [site?]

/-- The sites of a context are those of its arrays. -/
theorem site?_eq_of_arrays {ctx ctx' : Context} (h : ctx'.arrays = ctx.arrays) (a i : Nat) :
    ctx'.site? a i = ctx.site? a i := by
  simp [site?, anyArray?, h]

/-- The hub resets an array once for each of its registrations. -/
theorem site?_foldl_resetAll (a i : Nat) : ∀ (hub : List Nat) (ctx : Context),
    (hub.foldl (fun c b => c.modifyArray b SiteArray.resetAll) ctx).site? a i =
      (ctx.site? a i).map CallSite.reset^[hub.count a]
  | [], ctx => by simp
  | b :: rest, ctx => by
    rw [List.foldl_cons, site?_foldl_resetAll a i rest, site?_resetAll, List.count_cons]
    by_cases hb : b = a
    · subst hb
      simp [Option.map_map, ← Function.iterate_succ]
    · simp [hb]

/-- Telling the listeners of the registry resets each site some number of times. -/
theorem site?_notify (ctx : Context) (a i : Nat) :
    ∃ k, ctx.notify.site? a i = (ctx.site? a i).map CallSite.reset^[k] := by
  unfold notify
  split
  · refine ⟨(ctx.pruneHub.hub).count a, ?_⟩
    simp only [hubInvalidateAll]
    rw [site?_foldl_resetAll]
    rfl
  · exact ⟨0, by simp⟩

end Context

namespace Queries

theorem site?_redefine (ctx : Context) (route : Route) (reg : Registry) (a i : Nat) :
    ∃ k, (redefine ctx route reg).site? a i = (ctx.site? a i).map CallSite.reset^[k] := by
  cases route with
  | registry =>
    obtain ⟨k, hk⟩ := Context.site?_notify { ctx with registry := reg } a i
    refine ⟨k, ?_⟩
    simp only [redefine]
    rw [hk]
    rfl
  | direct => exact ⟨0, by simp [redefine, Context.site?, Context.anyArray?]⟩

/-- The sites of a new array have empty slots. -/
theorem ofDescriptors_slot {unit : String} {ds : List CallDescriptor} {cfg : DispatchConfig}
    {i : Nat} {c : CallSite} (h : (SiteArray.ofDescriptors unit ds cfg).site? i = some c) :
    c.slot = .empty := by
  simp only [SiteArray.site?, SiteArray.ofDescriptors, List.getElem?_toArray, List.getElem?_map,
    Option.map_eq_some_iff] at h
  obtain ⟨_, -, rfl⟩ := h
  rfl

theorem newArray_arrays (ctx : Context) (unit : String) (ds : List CallDescriptor)
    (cfg : DispatchConfig) (reg : Option Bool) :
    (newArray ctx unit ds cfg reg).2.arrays = ctx.arrays.push { array := .ofDescriptors unit ds cfg } := by
  simp only [newArray]
  split <;> rfl

/-- Replacing the array at `a` by a change of the array held there changes that array. -/
theorem modifyArray_heldArray (ctx : Context) (a : Nat) (f : SiteArray → SiteArray) :
    ctx.modifyArray a (fun _ => f (heldArray ctx a)) = ctx.modifyArray a f := by
  simp only [Context.modifyArray]
  congr 1
  refine Array.modify_congr fun e he => ?_
  simp [heldArray, Context.anyArray?, he]

/-- A step that calls no method resets a site some number of times, or adds it, with an
empty slot, in a new array. -/
theorem answer_site (ctx : Context) (s : Step) (a i : Nat) :
    (∃ k, (answer ctx s).2.site? a i = (ctx.site? a i).map CallSite.reset^[k]) ∨
      (ctx.site? a i = none ∧ ∀ c, (answer ctx s).2.site? a i = some c → c.slot = .empty) := by
  cases s with
  | newArray unit ds cfg reg =>
    have hsite : (answer ctx (.newArray unit ds cfg reg)).2.site? a i =
        if a = ctx.arrays.size then (SiteArray.ofDescriptors unit ds cfg).site? i
        else ctx.site? a i := by
      simp only [answer, Context.site?, Context.anyArray?, newArray_arrays, Array.getElem?_push]
      split <;> rfl
    by_cases ha : a = ctx.arrays.size
    · right
      rw [hsite, if_pos ha]
      refine ⟨by simp [Context.site?, Context.anyArray?, ha], fun c hc => ofDescriptors_slot hc⟩
    · left
      rw [hsite, if_neg ha]
      exact ⟨0, by simp⟩
  | reset b j =>
    left
    simp only [answer]
    split
    · rw [Context.site?_modifySite]
      split
      · exact ⟨1, rfl⟩
      · exact ⟨0, by simp⟩
    · exact ⟨0, by simp⟩
  | resetAll b =>
    left
    refine ⟨if b = a then 1 else 0, ?_⟩
    simp only [answer]
    rw [modifyArray_heldArray ctx b SiteArray.resetAll, Context.site?_resetAll]
    split <;> simp
  | hubInvalidateAll =>
    left
    refine ⟨ctx.pruneHub.hub.count a, ?_⟩
    simp only [answer, Context.hubInvalidateAll]
    rw [Context.site?_foldl_resetAll]
    rfl
  | dropArray b =>
    left
    refine ⟨0, ?_⟩
    simp only [answer]
    split
    · simp only [Context.site?, Context.anyArray?, Array.getElem?_modify]
      split <;> simp [Function.comp_def]
    · simp
  | defineMethod cls m route => exact .inl (site?_redefine ..)
  | defineStatic cls m route => exact .inl (site?_redefine ..)
  | removeMethod cls name route =>
    simp only [answer, removeMethod]
    split
    · exact .inl (site?_redefine ..)
    · exact .inl ⟨0, by simp⟩
  | defineForeignMethod ty m route => exact .inl (site?_redefine ..)
  | _ =>
    refine .inl ⟨0, ?_⟩
    rw [Function.iterate_zero, Option.map_id]
    apply Context.site?_eq_of_arrays
    simp only [answer, defineClass, defineForeign, setField, Context.pruneHub, Context.setVar]
    repeat' split
    all_goals rfl

end Queries

namespace Context

section Related

variable {P : CallSite → CallSite → Prop}

/-- Every site of `ctx` is still in `ctx'`, and `P` relates what it was to what it is. The
relations between contexts that follow single sites through a run are of this form. -/
def SitesRelate (P : CallSite → CallSite → Prop) (ctx ctx' : Context) : Prop :=
  ∀ a i s, ctx.site? a i = some s → ∃ s', ctx'.site? a i = some s' ∧ P s s'

theorem SitesRelate.of_site? (hP : ∀ s, P s s) {ctx ctx' : Context}
    (h : ∀ a i, ctx'.site? a i = ctx.site? a i) : ctx.SitesRelate P ctx' :=
  fun a i s hs => ⟨s, (h a i).trans hs, hP s⟩

theorem SitesRelate.trans (hP : ∀ {s₁ s₂ s₃}, P s₁ s₂ → P s₂ s₃ → P s₁ s₃)
    {ctx₁ ctx₂ ctx₃ : Context} (h₁ : ctx₁.SitesRelate P ctx₂) (h₂ : ctx₂.SitesRelate P ctx₃) :
    ctx₁.SitesRelate P ctx₃ := by
  intro a i s hs
  obtain ⟨s₂, hs₂, p₁⟩ := h₁ a i s hs
  obtain ⟨s₃, hs₃, p₂⟩ := h₂ a i s₂ hs₂
  exact ⟨s₃, hs₃, hP p₁ p₂⟩

/-- Changing one site by `f`, when `P` relates every site to its change. -/
theorem SitesRelate.modifySite (hP : ∀ s, P s s) {f : CallSite → CallSite}
    (hf : ∀ s, P s (f s)) (ctx : Context) (a i : Nat) : ctx.SitesRelate P (ctx.modifySite a i f) := by
  intro b j s hs
  rw [site?_modifySite]
  split
  · exact ⟨f s, by rw [hs]; rfl, hf s⟩
  · exact ⟨s, hs, hP s⟩

/-- What a slow path stores: the site at `(a, i)` of `ctx'` is that of `ctx₂` changed by `g`,
and `ctx₂` is where the run that began with the slow path's miss at that site ended. `P`
relates a site to the store after its miss when it relates the site with the miss counted to
what the run left. -/
theorem SitesRelate.install {ctx ctx₂ ctx' : Context} {a i : Nat} {g : CallSite → CallSite}
    (h : (ctx.modifySite a i CallSite.recordMiss).SitesRelate P ctx₂)
    (hsite : ∀ b j, ctx'.site? b j =
      if a = b ∧ i = j then (ctx₂.site? b j).map g else ctx₂.site? b j)
    (hg : ∀ s s₂, P s.recordMiss s₂ → P s (g s₂)) : ctx.SitesRelate P ctx' := by
  intro b j s₀ hs₀
  rw [hsite]
  split
  · next hab =>
    obtain ⟨rfl, rfl⟩ := hab
    obtain ⟨s₂, hs₂, p₂⟩ := h a i s₀.recordMiss (by rw [site?_modifySite_self, hs₀]; rfl)
    exact ⟨g s₂, by rw [hs₂]; rfl, hg s₀ s₂ p₂⟩
  · next hab => exact h b j s₀ (by rw [site?_modifySite, if_neg hab, hs₀])

end Related

end Context

end InlineCache
