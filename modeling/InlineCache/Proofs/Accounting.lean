import Mathlib
import InlineCache.Proofs.Runs
import InlineCache.Proofs.ArrayChanges
/-!
# Dispatch accounting

Every call that enters a site counts exactly one hit or one miss there, first. A miss makes
exactly one resolver call, and the slow path it starts counts exactly one outcome, a
resolution or a failure.

So every site has as many misses as resolutions and failures together, and the resolver
has made as many calls as all the sites of all the arrays have taken misses: the counts
move apart inside a slow path and meet again at its end, so both equalities hold between
any two steps, over every run of a scenario. Each equality is carried by a relation between
two contexts that every primitive change of the machine keeps (`PendingKept`, `CallsTrack`),
so that every run keeps it. An array's counters classify each of its sites once, count the
thrashing ones, and sum the counters of all of them.
-/
namespace InlineCache

/-- Summing a measure over a list with one element changed changes the sum by the change
of that element. -/
theorem List.sum_map_modify {α : Type} (l : List α) (i : Nat) (f : α → α) (g : α → Nat) :
    ((l.modify i f).map g).sum + ((l[i]?).map g).getD 0 =
      (l.map g).sum + ((l[i]?).map (g ∘ f)).getD 0 := by
  induction l generalizing i with
  | nil => simp
  | cons x xs ih =>
    cases i with
    | zero => simp [Nat.add_comm, Nat.add_left_comm]
    | succ i =>
      have rest := ih i
      simp only [List.modify_succ_cons, List.map_cons, List.sum_cons, List.getElem?_cons_succ]
      omega

/-- A change of one element that keeps its measure keeps the sum. -/
theorem List.sum_map_modify_of_eq {α : Type} (l : List α) (i : Nat) (f : α → α) (g : α → Nat)
    (hf : ∀ x, g (f x) = g x) : ((l.modify i f).map g).sum = (l.map g).sum := by
  have step := List.sum_map_modify l i f g
  have same : ((l[i]?).map (g ∘ f)).getD 0 = ((l[i]?).map g).getD 0 := by
    cases l[i]? <;> simp [hf]
  omega

namespace SiteArray

/-- The misses of all the sites of an array. -/
def misses (arr : SiteArray) : Nat := (arr.sites.toList.map (·.stats.misses)).sum

theorem misses_modifySite (arr : SiteArray) (i : Nat) (f : CallSite → CallSite) :
    (arr.modifySite i f).misses + ((arr.site? i).map (·.stats.misses)).getD 0 =
      arr.misses + ((arr.site? i).map fun s => (f s).stats.misses).getD 0 := by
  simp only [misses, modifySite, site?, Array.toList_modify, ← Array.getElem?_toList]
  exact List.sum_map_modify _ i f _

theorem misses_resetAll (arr : SiteArray) : arr.resetAll.misses = arr.misses := by
  simp only [misses, resetAll, Array.toList_map, List.map_map]
  rfl

theorem misses_ofDescriptors (unit : String) (ds : List CallDescriptor) (cfg : DispatchConfig) :
    (ofDescriptors unit ds cfg).misses = 0 := by
  simp [misses, ofDescriptors, Function.comp_def, List.map_const']

end SiteArray

namespace Context

/-- The misses of all the sites of all the arrays a scenario made. -/
def totalMisses (ctx : Context) : Nat := (ctx.arrays.toList.map (·.array.misses)).sum

/-- Changing the entries of the arrays in a way that keeps each array's misses keeps the
total. -/
theorem totalMisses_modify (ctx : Context) (a : Nat) (g : ArrayEntry → ArrayEntry)
    (hg : ∀ e, (g e).array.misses = e.array.misses) :
    { ctx with arrays := ctx.arrays.modify a g }.totalMisses = ctx.totalMisses := by
  simp only [totalMisses, Array.toList_modify]
  exact List.sum_map_modify_of_eq _ a g _ hg

/-- Changing one site changes the total by the change of that site's misses. -/
theorem totalMisses_modifySite (ctx : Context) (a i : Nat) (f : CallSite → CallSite) :
    (ctx.modifySite a i f).totalMisses + ((ctx.site? a i).map (·.stats.misses)).getD 0 =
      ctx.totalMisses + ((ctx.site? a i).map fun s => (f s).stats.misses).getD 0 := by
  simp only [totalMisses, modifySite, modifyArray, Array.toList_modify, site?, anyArray?,
    ← Array.getElem?_toList]
  have step := List.sum_map_modify ctx.arrays.toList a
    (fun e => { e with array := e.array.modifySite i f }) (·.array.misses)
  cases he : ctx.arrays.toList[a]? with
  | none => simp_all
  | some e =>
    have site := SiteArray.misses_modifySite e.array i f
    simp only [he, Option.map_some, Option.getD_some, Function.comp_def] at step
    simp only [Option.map_some, Option.bind_some]
    omega

end Context

namespace Queries

namespace ArraysChange

variable {d : Option (Nat × Nat)} {ctx : Context}

/-- A step that calls no method changes no site's misses. -/
theorem misses_eq {ys : Array ArrayEntry} (h : ArraysChange d ctx.arrays ys) :
    (ys.toList.map (·.array.misses)).sum = ctx.totalMisses := by
  cases h with
  | same hd => rfl
  | push unit ds cfg hd => simp [Context.totalMisses, SiteArray.misses_ofDescriptors]
  | drop b hd =>
    rw [Array.toList_modify]
    exact List.sum_map_modify_of_eq _ b _ _ fun _ => rfl
  | reset b j hd =>
    rw [Array.toList_modify]
    refine List.sum_map_modify_of_eq _ b _ _ fun e => ?_
    have := SiteArray.misses_modifySite e.array j CallSite.reset
    have kept : ((e.array.site? j).map fun s => (CallSite.reset s).stats.misses).getD 0 =
        ((e.array.site? j).map (·.stats.misses)).getD 0 := by
      cases e.array.site? j <;> rfl
    simp only at this ⊢
    omega
  | resetAll as hd =>
    clear hd
    induction as generalizing ctx with
    | nil => rfl
    | cons b rest ih =>
      change ((resetArrays rest (ctx.modifyArray b SiteArray.resetAll).arrays).toList.map
        (·.array.misses)).sum = _
      rw [ih]
      exact Context.totalMisses_modify ctx b _ fun e => SiteArray.misses_resetAll e.array

end ArraysChange

end Queries

namespace CallSite

/-- Resetting a site counts the resets and no other counter. -/
theorem reset_iterate_stats (s : CallSite) (k : Nat) :
    (reset^[k] s).stats = { s.stats with invalidations := s.stats.invalidations + k } := by
  induction k generalizing s with
  | zero => rfl
  | succ k ih =>
    rw [Function.iterate_succ_apply, ih]
    simp only [reset, Nat.add_assoc, Nat.add_comm 1 k]

/-- The misses of a site that no resolution and no failure has answered yet. -/
def pending (s : CallSite) : Int := s.stats.misses - (s.stats.resolutions + s.stats.failures)

@[simp] theorem pending_recordHit (s : CallSite) : s.recordHit.pending = s.pending := rfl

@[simp] theorem pending_recordMiss (s : CallSite) : s.recordMiss.pending = s.pending + 1 := by
  simp only [pending, recordMiss]
  omega

@[simp] theorem pending_recordResolution (s : CallSite) :
    s.recordResolution.pending = s.pending - 1 := by
  simp only [pending, recordResolution]
  omega

@[simp] theorem pending_recordFailure (s : CallSite) : s.recordFailure.pending = s.pending - 1 := by
  simp only [pending, recordFailure]
  omega

@[simp] theorem pending_install (s : CallSite) (e : Nat) (slot : Slot) :
    (s.install e slot).pending = s.pending := by
  simp [pending]

@[simp] theorem pending_reset_iterate (s : CallSite) (k : Nat) :
    (reset^[k] s).pending = s.pending := by
  simp [pending, reset_iterate_stats]

/-- A site is balanced when each of its misses has been answered by a resolution or a failure. -/
theorem pending_eq_zero_iff (s : CallSite) :
    s.pending = 0 ↔ s.stats.misses = s.stats.resolutions + s.stats.failures := by
  simp only [pending]
  omega

end CallSite

namespace Context

/-- Every site keeps its unanswered misses, and every new site has none. -/
def PendingKept (ctx ctx' : Context) : Prop :=
  (∀ a i s, ctx.site? a i = some s → ∃ s', ctx'.site? a i = some s' ∧ s'.pending = s.pending) ∧
    ∀ a i s', ctx.site? a i = none → ctx'.site? a i = some s' → s'.pending = 0

theorem PendingKept.refl (ctx : Context) : ctx.PendingKept ctx :=
  ⟨fun _ _ s hs => ⟨s, hs, rfl⟩, fun _ _ _ hnone hs => by rw [hnone] at hs; cases hs⟩

theorem PendingKept.trans {ctx₁ ctx₂ ctx₃ : Context} (h₁ : ctx₁.PendingKept ctx₂)
    (h₂ : ctx₂.PendingKept ctx₃) : ctx₁.PendingKept ctx₃ := by
  refine ⟨SitesRelate.trans (P := fun s s' => s'.pending = s.pending) (fun p₂ p₃ => p₃.trans p₂) h₁.1 h₂.1, fun a i s₃ hnone hs₃ => ?_⟩
  cases hs₂ : ctx₂.site? a i with
  | none => exact h₂.2 a i s₃ hs₂ hs₃
  | some s₂ =>
    obtain ⟨s₃', hs₃', p₃⟩ := h₂.1 a i s₂ hs₂
    rw [hs₃] at hs₃'
    cases hs₃'
    rw [p₃]
    exact h₁.2 a i s₂ hnone hs₂

instance : Std.Refl PendingKept := ⟨PendingKept.refl⟩

instance : IsTrans Context PendingKept := ⟨fun _ _ _ => PendingKept.trans⟩

instance : IsPreorder Context PendingKept := {}

theorem pendingKept_of_site? {ctx ctx' : Context} (h : ∀ a i, ctx'.site? a i = ctx.site? a i) :
    ctx.PendingKept ctx' := by
  refine ⟨SitesRelate.of_site? (P := fun s s' => s'.pending = s.pending) (fun _ => rfl) h, fun a i s hnone hs => ?_⟩
  rw [h, hnone] at hs
  cases hs

/-- Changing one site in a way that keeps its unanswered misses. -/
theorem pendingKept_modifySite {f : CallSite → CallSite} (hf : ∀ s, (f s).pending = s.pending)
    (ctx : Context) (a i : Nat) : ctx.PendingKept (ctx.modifySite a i f) := by
  refine ⟨SitesRelate.modifySite (P := fun s s' => s'.pending = s.pending) (fun _ => rfl) hf ctx a i, fun b j s hnone hs => ?_⟩
  rw [site?_modifySite, hnone] at hs
  split at hs <;> cases hs

/-- A site that took a miss was there before it. -/
theorem exists_site?_of_miss {ctx : Context} {a i : Nat} {s : CallSite}
    (hs : (ctx.modifySite a i CallSite.recordMiss).site? a i = some s) :
    ∃ s₀, ctx.site? a i = some s₀ ∧ s₀.recordMiss = s := by
  rw [site?_modifySite_self, Option.map_eq_some_iff] at hs
  exact hs

/-- A miss and the resolver call it makes change no other site. -/
theorem site?_miss_of_ne (ctx : Context) {a i b j : Nat} (hab : ¬(a = b ∧ i = j)) :
    (ctx.modifySite a i CallSite.recordMiss).countCall.site? b j = ctx.site? b j := by
  rw [site?_countCall, site?_modifySite, if_neg hab]

/-- What a slow path stores answers the miss it took: the site at `(a, i)` of the result is
that of `ctx₂` changed by `g`, which answers one miss. The run from the miss to `ctx₂` is judged
on its own. -/
theorem pendingKept_install {ctx ctx₂ : Context} {a i : Nat} {s : CallSite}
    {g : CallSite → CallSite} (hs : (ctx.modifySite a i CallSite.recordMiss).site? a i = some s)
    (h : (ctx.modifySite a i CallSite.recordMiss).countCall.PendingKept ctx₂)
    (hg : ∀ s, (g s).pending = s.pending - 1) : ctx.PendingKept (ctx₂.modifySite a i g) := by
  refine ⟨SitesRelate.install h.1 (fun b j => site?_modifySite ..) fun _ s₂ p₂ => ?_,
    fun b j s₁ hnone hs₁ => ?_⟩
  · rw [hg, p₂, CallSite.pending_recordMiss]
    omega
  · obtain ⟨s₀, hs₀, -⟩ := exists_site?_of_miss hs
    rw [site?_modifySite] at hs₁
    split at hs₁
    · next hab =>
      obtain ⟨rfl, rfl⟩ := hab
      rw [hs₀] at hnone
      cases hnone
    · next hab => exact h.2 b j s₁ ((site?_miss_of_ne ctx hab).trans hnone) hs₁

/-- A step that calls no method resets sites, which keeps their misses answered as they were,
or adds fresh sites. -/
theorem pendingKept_answer (ctx : Context) (st : Step) : ctx.PendingKept (Queries.answer ctx st).2 := by
  have change := (Queries.answer_arrays ctx st).1
  refine ⟨fun a i s hs => ?_, fun a i s' hnone hs' => ?_⟩
  · obtain ⟨k, hk, -⟩ := change.site_resets rfl hs
    exact ⟨_, hk, CallSite.pending_reset_iterate s _⟩
  · obtain ⟨-, hstats, -⟩ := change.fresh rfl hnone hs'
    simp [CallSite.pending, hstats]

end Context

open Context CallSite in
/-- Every primitive change of the machine keeps each site's unanswered misses, except inside a
slow path, which answers the miss it took. -/
theorem Machine.respects_pendingKept : Machine.Respects PendingKept where
  hit := pendingKept_modifySite fun s => pending_recordHit s
  log _ _ := pendingKept_of_site? (site?_eq_of_arrays rfl)
  heap _ _ := pendingKept_of_site? (site?_eq_of_arrays rfl)
  pin ctx a on := pendingKept_of_site? (site?_pin ctx a on)
  depth _ _ := pendingKept_of_site? (site?_eq_of_arrays rfl)
  setVar _ _ _ := pendingKept_of_site? (site?_eq_of_arrays rfl)
  answer := pendingKept_answer
  installFailed ctx a i s ctx₂ hs h := pendingKept_install hs h fun s' => by simp
  installCached ctx a i s ctxm ctx₂ recv args t hs h₁ hres h₂ :=
    pendingKept_install hs (trans_of PendingKept h₁ h₂) fun s' => by simp
  reject ctx a i s ctxm ctx₂ recv args t hs h₁ hres h₂ := by
    rw [modifySite_modifySite]
    exact pendingKept_install hs (trans_of PendingKept h₁ h₂) fun s' => by simp

namespace Context

/-- A change of one site that keeps its misses keeps the total. -/
theorem totalMisses_modifySite_of_eq (ctx : Context) (a i : Nat) (f : CallSite → CallSite)
    (hf : ∀ s : CallSite, (f s).stats.misses = s.stats.misses) :
    (ctx.modifySite a i f).totalMisses = ctx.totalMisses := by
  have step := ctx.totalMisses_modifySite a i f
  cases hs : ctx.site? a i with
  | none => simpa [hs] using step
  | some s =>
    simp only [hs, Option.map_some, Option.getD_some, hf] at step
    omega

/-- A miss at a site that is there adds one to the total. -/
theorem totalMisses_miss {ctx : Context} {a i : Nat} {s : CallSite} (hs : ctx.site? a i = some s) :
    (ctx.modifySite a i CallSite.recordMiss).totalMisses = ctx.totalMisses + 1 := by
  have step := ctx.totalMisses_modifySite a i CallSite.recordMiss
  simp only [hs, Option.map_some, Option.getD_some, CallSite.recordMiss] at step
  omega

/-- The resolver calls grow by as much as the misses of all the sites together. -/
def CallsTrack (ctx ctx' : Context) : Prop :=
  ctx'.calls + ctx.totalMisses = ctx.calls + ctx'.totalMisses

theorem CallsTrack.refl (ctx : Context) : ctx.CallsTrack ctx := rfl

theorem CallsTrack.trans {ctx₁ ctx₂ ctx₃ : Context} (h₁ : ctx₁.CallsTrack ctx₂)
    (h₂ : ctx₂.CallsTrack ctx₃) : ctx₁.CallsTrack ctx₃ := by
  unfold CallsTrack at *
  omega

instance : Std.Refl CallsTrack := ⟨CallsTrack.refl⟩

instance : IsTrans Context CallsTrack := ⟨fun _ _ _ => CallsTrack.trans⟩

instance : IsPreorder Context CallsTrack := {}

theorem callsTrack_of_eq {ctx ctx' : Context} (hmisses : ctx'.totalMisses = ctx.totalMisses)
    (hcalls : ctx'.calls = ctx.calls) : ctx.CallsTrack ctx' := by
  unfold CallsTrack
  omega

/-- The resolver call of a slow path is counted with its miss, and what it stores moves no
miss. The run from the miss to `ctx₂` is judged on its own. -/
theorem callsTrack_install {ctx ctx₂ : Context} {a i : Nat} {s : CallSite}
    {g : CallSite → CallSite} (hs : (ctx.modifySite a i CallSite.recordMiss).site? a i = some s)
    (h : (ctx.modifySite a i CallSite.recordMiss).countCall.CallsTrack ctx₂)
    (hg : ∀ s : CallSite, (g s).stats.misses = s.stats.misses) :
    ctx.CallsTrack (ctx₂.modifySite a i g) := by
  obtain ⟨s₀, hs₀, -⟩ := exists_site?_of_miss hs
  have missed : (ctx.modifySite a i CallSite.recordMiss).countCall.totalMisses =
      ctx.totalMisses + 1 := totalMisses_miss hs₀
  have called : (ctx.modifySite a i CallSite.recordMiss).countCall.calls = ctx.calls + 1 := rfl
  have stored := totalMisses_modifySite_of_eq ctx₂ a i g hg
  have kept : (ctx₂.modifySite a i g).calls = ctx₂.calls := rfl
  unfold CallsTrack at h ⊢
  omega

end Context

open Context CallSite in
/-- Every primitive change of the machine moves the resolver calls and the misses of all the
sites together: a miss and its resolver call are counted in the same slow path, and nothing
else moves either. -/
theorem Machine.respects_callsTrack : Machine.Respects CallsTrack where
  hit ctx a i := callsTrack_of_eq (totalMisses_modifySite_of_eq ctx a i recordHit fun _ => rfl) rfl
  log _ _ := callsTrack_of_eq rfl rfl
  heap _ _ := callsTrack_of_eq rfl rfl
  pin ctx a on := callsTrack_of_eq (totalMisses_modify ctx a _ fun _ => rfl) rfl
  depth _ _ := callsTrack_of_eq rfl rfl
  setVar _ _ _ := callsTrack_of_eq rfl rfl
  answer ctx st := callsTrack_of_eq (Queries.answer_arrays ctx st).1.misses_eq
    (Queries.answer_arrays ctx st).2
  installFailed ctx a i s ctx₂ hs h := callsTrack_install hs h fun s' => by simp [recordFailure]
  installCached ctx a i s ctxm ctx₂ recv args t hs h₁ hres h₂ :=
    callsTrack_install hs (trans_of CallsTrack h₁ h₂) fun s' => by simp [recordResolution]
  reject ctx a i s ctxm ctx₂ recv args t hs h₁ hres h₂ := by
    rw [modifySite_modifySite]
    exact callsTrack_install hs (trans_of CallsTrack h₁ h₂) fun s' => by simp [recordResolution]

namespace Context

/-- The generation of the array at `a`, zero where there is none. -/
def generation (ctx : Context) (a : Nat) : Nat := ((ctx.anyArray? a).map (·.generation)).getD 0

theorem generation_modifySite (ctx : Context) (b j a : Nat) (f : CallSite → CallSite) :
    (ctx.modifySite b j f).generation a = ctx.generation a := by
  simp only [generation, modifySite, anyArray?_modifyArray]
  split
  · cases ctx.anyArray? a <;> rfl
  · rfl

end Context

namespace SiteArray

/-- The array's counters classify every site once, by the state of its slot. -/
theorem stats_sites (arr : SiteArray) : arr.stats.sites = arr.size := by
  unfold stats
  apply Array.foldl_induction (fun i (acc : ArrayStats) => acc.sites = i) rfl
  intro i acc ih
  simp only [ArrayStats.sites] at ih ⊢
  split <;> split <;> simp only <;> omega

/-- The array's counters count the sites resolved more often than the threshold. -/
theorem stats_thrashing (arr : SiteArray) :
    arr.stats.thrashing = (arr.sites.toList.filter (·.isThrashing arr.config)).length := by
  unfold stats
  have whole : arr.sites.toList.take arr.sites.size = arr.sites.toList := by
    rw [← Array.length_toList, List.take_length]
  rw [← whole]
  apply Array.foldl_induction (fun i (acc : ArrayStats) =>
    acc.thrashing = ((arr.sites.toList.take i).filter (·.isThrashing arr.config)).length) rfl
  intro i acc ih
  rw [List.take_add_one, List.filter_append, List.length_append, ← ih]
  simp only [Array.getElem?_toList, Array.getElem?_eq_getElem i.isLt, Option.toList_some]
  split <;> split <;> simp_all

/-- The array's totals are the sums of its sites' counters: so is every measure of the
counters that adds. -/
theorem stats_totals (arr : SiteArray) {f : SiteStats → Nat}
    (hadd : ∀ x y, f (x.add y) = f x + f y) (hzero : f {} = 0) :
    f arr.stats.totals = (arr.sites.toList.map fun s => f s.stats).sum := by
  unfold stats
  have whole : arr.sites.toList.take arr.sites.size = arr.sites.toList := by
    rw [← Array.length_toList, List.take_length]
  rw [← whole]
  apply Array.foldl_induction (fun i (acc : ArrayStats) =>
    f acc.totals = ((arr.sites.toList.take i).map fun s => f s.stats).sum) hzero
  intro i acc ih
  rw [List.take_add_one, List.map_append, List.sum_append, ← ih]
  simp only [Array.getElem?_toList, Array.getElem?_eq_getElem i.isLt, Option.toList_some]
  split <;> split <;> simp [hadd]

end SiteArray

namespace Machine

/-- A call through a site counts one hit and runs the stored target, or takes the slow path,
whose first act is to count one miss; a null-safe call on `none` counts nothing and changes
nothing. -/
theorem callSite_enters {n a i : Nat} {recv : Value} {args : List Value} {safe : Bool}
    {ctx : Context} {s : CallSite} (hs : ctx.site? a i = some s) :
    ((safe && recv.isNone) = true ∧
        (callSite (n + 1) a i recv args safe).run ctx = .ok (.ok .none, ctx)) ∨
      (∃ t, s.target? = some t ∧ t.guard.accepts ctx.registry recv args = true ∧
        (callSite (n + 1) a i recv args safe).run ctx =
          (runTarget n t recv args).run (ctx.modifySite a i CallSite.recordHit)) ∨
      (callSite (n + 1) a i recv args safe).run ctx = (slowPath n a i recv args).run ctx := by
  obtain ⟨arr, harr, hsite⟩ := Option.bind_eq_some_iff.1 hs
  rw [callSite]
  simp only [StateT.run_bind, StateT.run_get, pure_bind, harr, hsite]
  split
  · next hnone => exact .inl ⟨hnone, rfl⟩
  · split
    · next t htarget =>
      split
      · next hacc =>
        refine .inr (.inl ⟨t, htarget, hacc, ?_⟩)
        simp [StateT.run_bind]
      · exact .inr (.inr rfl)
    · exact .inr (.inr rfl)

end Machine

namespace Context

@[simp] theorem site?_fresh (builtins hub : Bool) (a i : Nat) :
    (fresh builtins hub).site? a i = none := by
  simp [fresh, site?, anyArray?]

@[simp] theorem totalMisses_fresh (builtins hub : Bool) : (fresh builtins hub).totalMisses = 0 := by
  simp [fresh, totalMisses]

@[simp] theorem generation_fresh (builtins hub : Bool) (a : Nat) : (fresh builtins hub).generation a = 0 := by
  simp [fresh, generation, anyArray?]

end Context

end InlineCache
