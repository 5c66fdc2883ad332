import Mathlib
import InlineCache.Proofs.Sites
/-!
# How the steps that call no method change the arrays

A step that calls no method changes the arrays of a scenario in one of five ways: it leaves
them, adds a fresh array, drops one, resets one site, or resets whole arrays, once for each
index of a list. Registrations with the hub are such a list: a redefinition through the
registry resets every array registered with a listening hub once per registration.

From this one inversion, each site of the scenario is reset by a step exactly as often as the
step resets its array, which advances the array's generation by as much, and once more when
the step is the reset of that very site; and every site a step adds is fresh, in an array
that has not been reset.
-/
namespace InlineCache

namespace Queries

/-- The arrays after resetting the whole arrays at the indices of `as`, once for each. -/
def resetArrays (as : List Nat) (xs : Array ArrayEntry) : Array ArrayEntry :=
  as.foldl (fun xs b => xs.modify b fun e => { e with array := e.array.resetAll }) xs

/-- How a step that calls no method changes the arrays of a scenario: the reset of one site
resets that site, and every other step leaves the arrays, adds a fresh array, drops one, or
resets whole arrays, once for each index of a list. -/
inductive ArraysChange (direct : Option (Nat × Nat)) (xs : Array ArrayEntry) :
    Array ArrayEntry → Prop
  | same : direct = none → ArraysChange direct xs xs
  | push (unit : String) (ds : List CallDescriptor) (cfg : DispatchConfig) : direct = none →
      ArraysChange direct xs (xs.push { array := .ofDescriptors unit ds cfg })
  | drop (a : Nat) : direct = none →
      ArraysChange direct xs (xs.modify a fun e => { e with held := false })
  | reset (a i : Nat) : direct = some (a, i) →
      ArraysChange direct xs (xs.modify a fun e => { e with array := e.array.modifySite i CallSite.reset })
  | resetAll (as : List Nat) : direct = none → ArraysChange direct xs (resetArrays as xs)

end Queries

namespace Step

/-- The site a step resets by itself, if it is the reset of one site. -/
def directReset? : Step → Option (Nat × Nat)
  | .reset a i => some (a, i)
  | _ => none

end Step

namespace Context

/-- Resetting whole arrays, one index after another, changes the arrays only. -/
theorem foldl_modifyArray_resetAll (hub : List Nat) (ctx : Context) :
    hub.foldl (fun c b => c.modifyArray b SiteArray.resetAll) ctx =
      { ctx with arrays := Queries.resetArrays hub ctx.arrays } := by
  induction hub generalizing ctx with
  | nil => rfl
  | cons b rest ih =>
    rw [List.foldl_cons, ih]
    rfl

/-- Telling the listeners of the registry resets whole arrays, or nothing, and counts no
resolver call. -/
theorem notify_arrays (ctx : Context) :
    ∃ hub : List Nat, ctx.notify.arrays = Queries.resetArrays hub ctx.arrays ∧
      ctx.notify.calls = ctx.calls := by
  unfold notify
  split
  · refine ⟨ctx.pruneHub.hub, ?_⟩
    rw [hubInvalidateAll, foldl_modifyArray_resetAll]
    exact ⟨rfl, rfl⟩
  · exact ⟨[], rfl, rfl⟩

end Context

namespace Queries

theorem redefine_arrays (ctx : Context) (route : Route) (reg : Registry) :
    ∃ hub : List Nat, (redefine ctx route reg).arrays = resetArrays hub ctx.arrays ∧
      (redefine ctx route reg).calls = ctx.calls := by
  cases route with
  | registry => exact Context.notify_arrays { ctx with registry := reg }
  | direct => exact ⟨[], rfl, rfl⟩

/-- A step that calls no method changes the arrays in one of the ways of `ArraysChange`, and
counts no resolver call. -/
theorem answer_arrays (ctx : Context) (st : Step) :
    ArraysChange st.directReset? ctx.arrays (answer ctx st).2.arrays ∧
      (answer ctx st).2.calls = ctx.calls := by
  have redefined : ∀ (route : Route) (reg : Registry), st.directReset? = none →
      ArraysChange st.directReset? ctx.arrays (redefine ctx route reg).arrays ∧
        (redefine ctx route reg).calls = ctx.calls := by
    intro route reg hd
    obtain ⟨hub, harrays, hcalls⟩ := redefine_arrays ctx route reg
    rw [harrays]
    exact ⟨.resetAll hub hd, hcalls⟩
  cases st with
  | newArray unit ds cfg reg =>
    refine ⟨by simp only [answer]; rw [newArray_arrays]; exact .push unit ds cfg rfl, ?_⟩
    simp only [answer, newArray]
    split <;> rfl
  | reset a i =>
    simp only [answer]
    split
    · exact ⟨.reset a i rfl, rfl⟩
    · next hi =>
      refine ⟨?_, rfl⟩
      have unchanged :
          (ctx.arrays.modify a fun e => { e with array := e.array.modifySite i CallSite.reset }) =
            ctx.arrays := by
        refine Array.modify_of_fixed fun e he => ?_
        have hsize : e.array.sites.size ≤ i := by
          simp only [heldArray, Context.anyArray?, he, Option.map_some, Option.getD_some,
            SiteArray.size] at hi
          omega
        have sites : e.array.sites.modify i CallSite.reset = e.array.sites :=
          Array.modify_of_fixed fun c hc => by simp [Array.getElem?_eq_none hsize] at hc
        simp [SiteArray.modifySite, sites]
      have reset : ArraysChange (Step.reset a i).directReset? ctx.arrays
          (ctx.arrays.modify a fun e => { e with array := e.array.modifySite i CallSite.reset }) :=
        .reset a i rfl
      rwa [unchanged] at reset
  | resetAll a =>
    refine ⟨?_, rfl⟩
    have whole : (answer ctx (.resetAll a)).2.arrays = resetArrays [a] ctx.arrays := by
      simp only [answer]
      rw [modifyArray_heldArray ctx a SiteArray.resetAll]
      rfl
    rw [whole]
    exact .resetAll [a] rfl
  | hubInvalidateAll =>
    simp only [answer, Context.hubInvalidateAll, Context.foldl_modifyArray_resetAll]
    exact ⟨.resetAll _ rfl, rfl⟩
  | dropArray a =>
    simp only [answer]
    split
    · exact ⟨.drop a rfl, rfl⟩
    · exact ⟨.same rfl, rfl⟩
  | defineMethod cls m route => exact redefined _ _ rfl
  | defineStatic cls m route => exact redefined _ _ rfl
  | removeMethod cls name route =>
    simp only [answer, removeMethod]
    split
    · exact redefined _ _ rfl
    · exact ⟨.same rfl, rfl⟩
  | defineForeignMethod ty m route => exact redefined _ _ rfl
  | _ =>
    simp only [answer, defineClass, defineForeign, setField, Context.pruneHub, Context.setVar]
    repeat' split
    all_goals exact ⟨.same rfl, by trivial⟩

end Queries

namespace SiteArray

theorem resetAll_iterate_site? (arr : SiteArray) (k i : Nat) :
    (resetAll^[k] arr).site? i = (arr.site? i).map CallSite.reset^[k] := by
  induction k with
  | zero => simp
  | succ k ih =>
    rw [Function.iterate_succ_apply', site?_resetAll, ih, Option.map_map,
      ← Function.iterate_succ']

theorem resetAll_iterate_generation (arr : SiteArray) (k : Nat) :
    (resetAll^[k] arr).generation = arr.generation + k := by
  have counted : Function.Semiconj generation resetAll Nat.succ := fun _ => rfl
  rw [(counted.iterate_right k).eq arr, Nat.succ_iterate]

/-- The sites of a new array are fresh: no slot and no counts. -/
theorem ofDescriptors_fresh {unit : String} {ds : List CallDescriptor} {cfg : DispatchConfig}
    {i : Nat} {c : CallSite} (h : (ofDescriptors unit ds cfg).site? i = some c) :
    c.slot = .empty ∧ c.stats = {} := by
  simp only [site?, ofDescriptors, List.getElem?_toArray, List.getElem?_map,
    Option.map_eq_some_iff] at h
  obtain ⟨_, -, rfl⟩ := h
  exact ⟨rfl, rfl⟩

end SiteArray

namespace Queries

/-- Resetting whole arrays resets each array as many times as its index is listed. -/
theorem resetArrays_getElem? (as : List Nat) (xs : Array ArrayEntry) (a : Nat) :
    ((resetArrays as xs)[a]?).map (·.array) =
      ((xs[a]?).map (·.array)).map SiteArray.resetAll^[as.count a] := by
  induction as generalizing xs with
  | nil => simp [resetArrays]
  | cons b rest ih =>
    change ((resetArrays rest (xs.modify b fun e => { e with array := e.array.resetAll }))[a]?).map
      (·.array) = _
    rw [ih, Array.getElem?_modify, List.count_cons]
    by_cases hb : b = a
    · subst hb
      cases xs[b]? <;> simp [Function.iterate_succ]
    · simp [hb]

namespace ArraysChange

variable {d : Option (Nat × Nat)} {ctx ctx' : Context}

/-- A step that calls no method resets a site of the scenario as many times as it resets the
site's whole array, which advances the array's generation by as much, and once more when
it is the reset of that very site. -/
theorem site_resets {ys : Array ArrayEntry} (h : ArraysChange d ctx.arrays ys)
    (hys : ctx'.arrays = ys) {a i : Nat} {s : CallSite} (hs : ctx.site? a i = some s) :
    ∃ k, ctx'.site? a i = some (CallSite.reset^[k + if d = some (a, i) then 1 else 0] s) ∧
      (ctx'.anyArray? a).map (·.generation) = (ctx.anyArray? a).map (·.generation + k) := by
  obtain ⟨arr, harr, hsite⟩ := Option.bind_eq_some_iff.1 hs
  have hentry : ∃ e, ctx.arrays[a]? = some e ∧ e.array = arr := by
    simpa [Context.anyArray?] using harr
  obtain ⟨e, he, rfl⟩ := hentry
  have lookup : ctx'.anyArray? a = (ys[a]?).map (·.array) := by
    simp [Context.anyArray?, hys]
  cases h with
  | same hd =>
    have same : ctx'.anyArray? a = ctx.anyArray? a := by
      rw [lookup]
      rfl
    refine ⟨0, ?_, ?_⟩
    · simp [Context.site?, same, harr, hsite, hd]
    · simp [same]
  | push unit ds cfg hd =>
    have ha : a < ctx.arrays.size := by
      rcases Array.getElem?_eq_some_iff.1 he with ⟨ha, -⟩
      exact ha
    have same : ctx'.anyArray? a = ctx.anyArray? a := by
      rw [lookup, Array.getElem?_push, if_neg (Nat.ne_of_lt ha)]
      rfl
    refine ⟨0, ?_, ?_⟩
    · simp [Context.site?, same, harr, hsite, hd]
    · simp [same]
  | drop b hd =>
    have same : ctx'.anyArray? a = ctx.anyArray? a := by
      rw [lookup, Array.getElem?_modify]
      split
      · next hb => subst hb; simp [Context.anyArray?, he]
      · rfl
    refine ⟨0, ?_, ?_⟩
    · simp [Context.site?, same, harr, hsite, hd]
    · simp [same]
  | reset b j hd =>
    subst hd
    have after : ctx'.anyArray? a =
        if b = a then (ctx.anyArray? a).map (·.modifySite j CallSite.reset) else ctx.anyArray? a := by
      rw [lookup, Array.getElem?_modify]
      split
      · next hb => subst hb; simp [Context.anyArray?, he]
      · rfl
    refine ⟨0, ?_, ?_⟩
    · rw [Context.site?, after]
      by_cases hb : b = a
      · subst hb
        simp only [if_true, harr, Option.map_some, Option.bind_some, SiteArray.site?_modifySite,
          hsite]
        by_cases hj : j = i <;> simp [hj]
      · simp [hb, harr, hsite]
    · rw [after]
      split
      · simp [harr, SiteArray.modifySite]
      · simp
  | resetAll as hd =>
    have after : ctx'.anyArray? a = (ctx.anyArray? a).map SiteArray.resetAll^[as.count a] := by
      rw [lookup, resetArrays_getElem?]
      rfl
    refine ⟨as.count a, ?_, ?_⟩
    · simp [Context.site?, after, harr, SiteArray.resetAll_iterate_site?, hsite, hd]
    · simp [after, harr, SiteArray.resetAll_iterate_generation]

/-- The sites a step that calls no method adds are fresh: they are those of a new array, which
has not been reset. -/
theorem fresh {ys : Array ArrayEntry} (h : ArraysChange d ctx.arrays ys) (hys : ctx'.arrays = ys)
    {a i : Nat} {c : CallSite} (hs : ctx.site? a i = none) (hc : ctx'.site? a i = some c) :
    c.slot = .empty ∧ c.stats = {} ∧ ∃ arr, ctx'.anyArray? a = some arr ∧ arr.generation = 0 := by
  have lookup : ctx'.anyArray? a = (ys[a]?).map (·.array) := by
    simp [Context.anyArray?, hys]
  have old : ∀ f : SiteArray → SiteArray, (∀ arr, arr.site? i = none → (f arr).site? i = none) →
      ctx'.anyArray? a = (ctx.anyArray? a).map f → False := by
    intro f hf hf'
    rw [Context.site?, hf'] at hc
    rw [Context.site?] at hs
    cases harr : ctx.anyArray? a with
    | none => simp [harr] at hc
    | some arr =>
      simp only [harr, Option.map_some, Option.bind_some] at hc hs
      rw [hf arr hs] at hc
      cases hc
  cases h with
  | same hd => exact (old id (fun _ h => h) (by rw [lookup]; simp [Context.anyArray?])).elim
  | push unit ds cfg hd =>
    have site := hc
    rw [Context.site?, lookup, Array.getElem?_push] at site
    split at site
    · next ha =>
      simp only [Option.map_some, Option.bind_some] at site
      obtain ⟨hslot, hstats⟩ := SiteArray.ofDescriptors_fresh site
      refine ⟨hslot, hstats, SiteArray.ofDescriptors unit ds cfg, ?_, rfl⟩
      rw [lookup, Array.getElem?_push, if_pos ha]
      rfl
    · exact (old id (fun _ h => h)
        (by rw [lookup, Array.getElem?_push, if_neg ‹_›]; simp [Context.anyArray?])).elim
  | drop b hd =>
    refine (old id (fun _ h => h) ?_).elim
    rw [lookup, Array.getElem?_modify]
    split <;> simp [Context.anyArray?, Option.map_map, Function.comp_def]
  | reset b j hd =>
    refine (old (fun arr => if b = a then arr.modifySite j CallSite.reset else arr)
      (fun arr h => ?_) ?_).elim
    · split
      · simp [SiteArray.site?_modifySite, h]
      · exact h
    · rw [lookup, Array.getElem?_modify]
      split
      · next hb => subst hb; simp [Context.anyArray?, Option.map_map, Function.comp_def]
      · simp [Context.anyArray?, Function.comp_def]
  | resetAll as hd =>
    refine (old SiteArray.resetAll^[as.count a] (fun arr h => ?_) ?_).elim
    · rw [SiteArray.resetAll_iterate_site?, h]
      rfl
    · rw [lookup, resetArrays_getElem?]
      rfl

end ArraysChange

end Queries

end InlineCache
