import Mathlib
import InlineCache.Proofs.Accounting
/-!
# Every invalidation is a reset

A site counts one invalidation for each of its resets: one for each step that resets that
very site, and one for each reset of its whole array, which the array counts as its
generation. Whole arrays are reset by the step that resets one array, by the hub's reset of
its live registrations, and by every redefinition the hub hears through the registry, once
for each live registration of the array. Nothing else moves either counter: hits, misses,
what a slow path stores and every other step leave them as they are.

A run of the machine is written out as the primitive changes it is made of (`Machine.Changes`),
with the steps it answered, each with the context it was answered in. Every run has such a
path, and along every path the generation of each array grows by the whole resets of the
answered steps, and the invalidations of each site by those and by its own resets. From a
fresh context, then, every site's invalidations are its own resets and its array's
generation.
-/
namespace InlineCache

namespace Context

/-- The arrays a redefinition by `route` resets whole: the hub's live registrations, when the
redefinition goes through the registry and the hub listens to it. -/
def heardResets (ctx : Context) : Route → List Nat
  | .registry => if ctx.hubListens then ctx.pruneHub.hub else []
  | .direct => []

theorem lt_size_of_mem_pruneHub {ctx : Context} {a : Nat} (h : a ∈ ctx.pruneHub.hub) :
    a < ctx.arrays.size := by
  simp only [pruneHub, List.mem_filter, alive] at h
  cases ha : ctx.arrays[a]? with
  | none => simp [ha] at h
  | some e => exact (Array.getElem?_eq_some_iff.1 ha).1

theorem lt_size_of_mem_heardResets {ctx : Context} {route : Route} {a : Nat}
    (h : a ∈ ctx.heardResets route) : a < ctx.arrays.size := by
  cases route with
  | registry =>
    simp only [heardResets] at h
    split at h
    · exact lt_size_of_mem_pruneHub h
    · simp at h
  | direct => simp [heardResets] at h

theorem generation_of_anyArray? {ctx ctx' : Context} (h : ∀ a, ctx'.anyArray? a = ctx.anyArray? a)
    (a : Nat) : ctx'.generation a = ctx.generation a := by
  simp [generation, h]

/-- Resetting arrays of the scenario whole, once for each listing, advances each one's
generation by the times it is listed. -/
theorem generation_resetArrays {ctx ctx' : Context} {as : List Nat}
    (h : ctx'.arrays = Queries.resetArrays as ctx.arrays) (has : ∀ b ∈ as, b < ctx.arrays.size)
    (a : Nat) : ctx'.generation a = ctx.generation a + as.count a := by
  have after : ctx'.anyArray? a = (ctx.anyArray? a).map SiteArray.resetAll^[as.count a] := by
    simp only [anyArray?, h]
    exact Queries.resetArrays_getElem? as ctx.arrays a
  cases he : ctx.anyArray? a with
  | none =>
    have unlisted : as.count a = 0 := by
      refine List.count_eq_zero.2 fun ha => ?_
      simp [anyArray?, Array.getElem?_eq_getElem (has a ha)] at he
    simp [generation, after, he, unlisted]
  | some arr => simp [generation, after, he, SiteArray.resetAll_iterate_generation]

end Context

namespace Step

/-- The arrays a step resets whole, each once for every time it is listed: the reset of an
array the scenario made, the hub's reset of its live registrations, and a redefinition that
the hub hears through the registry. A removal redefines only when the class has the name. -/
def wholeResets (ctx : Context) : Step → List Nat
  | .resetAll a => if a < ctx.arrays.size then [a] else []
  | .hubInvalidateAll => ctx.pruneHub.hub
  | .defineMethod _ _ route | .defineStatic _ _ route | .defineForeignMethod _ _ route =>
    ctx.heardResets route
  | .removeMethod cls name route =>
    if ((ctx.registry.class? cls).bind (·.removeMethod? name)).isSome then ctx.heardResets route
    else []
  | _ => []

/-- Whether the step resets the site `i` of the array `a` by itself: it is the reset of that
site, and the site is there. -/
def resetsSite (ctx : Context) (a i : Nat) (st : Step) : Bool :=
  st.directReset? == some (a, i) && (ctx.site? a i).isSome

end Step

namespace Queries

/-- A redefinition resets whole the arrays the hub hears it for. -/
theorem redefine_arrays_eq (ctx : Context) (route : Route) (reg : Registry) :
    (redefine ctx route reg).arrays = resetArrays (ctx.heardResets route) ctx.arrays := by
  cases route with
  | registry =>
    simp only [redefine, Context.notify, Context.heardResets]
    split
    · rw [Context.hubInvalidateAll, Context.foldl_modifyArray_resetAll]
      rfl
    · rfl
  | direct => rfl

/-- A step advances the generation of each array by the times it resets the array whole. -/
theorem answer_generation (ctx : Context) (st : Step) (a : Nat) :
    (answer ctx st).2.generation a = ctx.generation a + (st.wholeResets ctx).count a := by
  have heard : ∀ (route : Route) (reg : Registry),
      (redefine ctx route reg).generation a = ctx.generation a + (ctx.heardResets route).count a :=
    fun route reg => Context.generation_resetArrays (redefine_arrays_eq ctx route reg)
      (fun _ => Context.lt_size_of_mem_heardResets) a
  cases st with
  | newArray unit ds cfg reg =>
    simp only [Step.wholeResets, List.count_nil, Nat.add_zero]
    simp only [answer, Context.generation, Context.anyArray?, newArray_arrays, Array.getElem?_push]
    split
    · next ha =>
      subst ha
      simp [SiteArray.ofDescriptors]
    · rfl
  | reset b i =>
    simp only [answer, Step.wholeResets, List.count_nil, Nat.add_zero]
    split
    · exact Context.generation_modifySite ctx b i a _
    · rfl
  | resetAll b =>
    have whole : (answer ctx (.resetAll b)).2.arrays = resetArrays [b] ctx.arrays := by
      simp only [answer]
      rw [modifyArray_heldArray ctx b SiteArray.resetAll]
      rfl
    simp only [Step.wholeResets]
    split
    · next hb =>
      exact Context.generation_resetArrays whole (fun c hc => by simpa [List.mem_singleton.1 hc]) a
    · next hb =>
      have unchanged : resetArrays [b] ctx.arrays = ctx.arrays := by
        simp only [resetArrays, List.foldl_cons, List.foldl_nil]
        exact Array.modify_of_fixed fun e he => absurd (Array.getElem?_eq_some_iff.1 he).1 hb
      rw [unchanged] at whole
      simpa using Context.generation_of_anyArray? (fun c => by simp [Context.anyArray?, whole]) a
  | hubInvalidateAll =>
    have whole : (answer ctx .hubInvalidateAll).2.arrays =
        resetArrays ctx.pruneHub.hub ctx.arrays := by
      simp only [answer, Context.hubInvalidateAll, Context.foldl_modifyArray_resetAll]
      rfl
    exact Context.generation_resetArrays whole (fun _ => Context.lt_size_of_mem_pruneHub) a
  | dropArray b =>
    simp only [answer, Step.wholeResets, List.count_nil, Nat.add_zero]
    split
    · refine Context.generation_of_anyArray? (fun c => ?_) a
      simp only [Context.anyArray?, Array.getElem?_modify]
      split <;> simp [Option.map_map, Function.comp_def]
    · rfl
  | defineMethod cls m route => exact heard route _
  | defineStatic cls m route => exact heard route _
  | removeMethod cls name route =>
    simp only [answer, removeMethod, Step.wholeResets]
    cases found : (ctx.registry.class? cls).bind (·.removeMethod? name) with
    | some c' => exact heard route _
    | none => simp
  | defineForeignMethod ty m route => exact heard route _
  | _ =>
    simp only [answer, defineClass, defineForeign, setField, Context.pruneHub, Context.setVar,
      Step.wholeResets, List.count_nil, Nat.add_zero]
    repeat' split
    all_goals rfl

/-- A step resets a site of the scenario once for each whole reset of its array, and once
more when it is the reset of that very site. -/
theorem answer_site_resets (ctx : Context) (st : Step) {a i : Nat} {s : CallSite}
    (hs : ctx.site? a i = some s) :
    (answer ctx st).2.site? a i = some (CallSite.reset^[(st.wholeResets ctx).count a +
      if st.directReset? = some (a, i) then 1 else 0] s) := by
  obtain ⟨k, hk, hgen⟩ := (answer_arrays ctx st).1.site_resets rfl hs
  obtain ⟨arr, harr, -⟩ := Option.bind_eq_some_iff.1 hs
  have moved : (answer ctx st).2.generation a = ctx.generation a + k := by
    simp only [Context.generation, hgen, harr, Option.map_some, Option.getD_some]
  have counted := answer_generation ctx st a
  rwa [show k = (st.wholeResets ctx).count a by omega] at hk

end Queries

namespace Machine

/-- A run of the machine written out as the primitive changes it is made of, those of
`Respects`, with the steps it answered, each with the context it was answered in, oldest
first. A slow path is a miss with its resolver call, the run of its resolution, and what it
stores: a failure, a target, or a failure in place of a target that rejects its inputs. -/
inductive Changes : Context → List (Context × Step) → Context → Prop
  | refl (ctx : Context) : Changes ctx [] ctx
  | hit (ctx : Context) (a i : Nat) : Changes ctx [] (ctx.modifySite a i CallSite.recordHit)
  | log (ctx : Context) (log : Array HookEntry) : Changes ctx [] { ctx with log }
  | heap (ctx : Context) (heap : Heap) : Changes ctx [] { ctx with heap }
  | pin (ctx : Context) (a : Nat) (on : Bool) : Changes ctx [] (ctx.pin a on)
  | depth (ctx : Context) (depth : Nat) : Changes ctx [] { ctx with depth }
  | setVar (ctx : Context) (name : String) (v : Value) : Changes ctx [] (ctx.setVar name v)
  | answer (ctx : Context) (st : Step) : Changes ctx [(ctx, st)] (Queries.answer ctx st).2
  | miss (ctx : Context) (a i : Nat) :
      Changes ctx [] (ctx.modifySite a i CallSite.recordMiss).countCall
  | storeFailure (ctx : Context) (a i e : Nat) :
      Changes ctx [] (ctx.modifySite a i fun s => s.recordFailure.install e .failed)
  | storeTarget (ctx : Context) (a i e : Nat) (t : Target) :
      Changes ctx [] (ctx.modifySite a i fun s => s.recordResolution.install e (.cached t))
  | storeRejection (ctx : Context) (a i e : Nat) :
      Changes ctx [] (ctx.modifySite a i fun s => s.install e .failed)
  | trans {ctx₁ ctx₂ ctx₃ : Context} {t₁ t₂ : List (Context × Step)} :
      Changes ctx₁ t₁ ctx₂ → Changes ctx₂ t₂ ctx₃ → Changes ctx₁ (t₁ ++ t₂) ctx₃

/-- `ctx'` is reached from `ctx` through primitive changes. -/
def Reaches (ctx ctx' : Context) : Prop := ∃ t, Changes ctx t ctx'

instance : Std.Refl Reaches := ⟨fun ctx => ⟨[], .refl ctx⟩⟩

instance : IsTrans Context Reaches := ⟨fun _ _ _ ⟨_, h₁⟩ ⟨_, h₂⟩ => ⟨_, h₁.trans h₂⟩⟩

instance : IsPreorder Context Reaches := {}

/-- Every primitive change is a path of one change, and a slow path one of its miss, its
resolution and what it stores. -/
theorem respects_reaches : Respects Reaches where
  hit ctx a i := ⟨[], .hit ctx a i⟩
  log ctx log := ⟨[], .log ctx log⟩
  heap ctx heap := ⟨[], .heap ctx heap⟩
  pin ctx a on := ⟨[], .pin ctx a on⟩
  depth ctx depth := ⟨[], .depth ctx depth⟩
  setVar ctx name v := ⟨[], .setVar ctx name v⟩
  answer ctx st := ⟨_, .answer ctx st⟩
  installFailed ctx a i s ctx₂ _ h := by
    obtain ⟨_, resolution⟩ := h
    exact ⟨_, ((Changes.miss ctx a i).trans resolution).trans (.storeFailure ctx₂ a i s.epoch)⟩
  installCached ctx a i s ctxm ctx₂ recv args t _ h₁ _ h₂ := by
    obtain ⟨_, before⟩ := h₁
    obtain ⟨_, after⟩ := h₂
    exact ⟨_, (((Changes.miss ctx a i).trans before).trans after).trans
      (.storeTarget ctx₂ a i s.epoch t)⟩
  reject ctx a i s ctxm ctx₂ recv args t _ h₁ _ h₂ := by
    obtain ⟨_, before⟩ := h₁
    obtain ⟨_, after⟩ := h₂
    exact ⟨_, ((((Changes.miss ctx a i).trans before).trans after).trans
      (.storeTarget ctx₂ a i s.epoch t)).trans (.storeRejection _ a i s.epoch)⟩

/-- How often the answered steps `t` reset the array `a` whole. -/
def arrayResets (t : List (Context × Step)) (a : Nat) : Nat :=
  (t.map fun p => (p.2.wholeResets p.1).count a).sum

/-- How many of the answered steps `t` reset the site `i` of the array `a` by itself. -/
def siteResets (t : List (Context × Step)) (a i : Nat) : Nat :=
  t.countP fun p => p.2.resetsSite p.1 a i

@[simp] theorem arrayResets_nil (a : Nat) : arrayResets [] a = 0 := rfl

@[simp] theorem siteResets_nil (a i : Nat) : siteResets [] a i = 0 := rfl

@[simp] theorem arrayResets_append (t₁ t₂ : List (Context × Step)) (a : Nat) :
    arrayResets (t₁ ++ t₂) a = arrayResets t₁ a + arrayResets t₂ a := by
  simp [arrayResets]

@[simp] theorem siteResets_append (t₁ t₂ : List (Context × Step)) (a i : Nat) :
    siteResets (t₁ ++ t₂) a i = siteResets t₁ a i + siteResets t₂ a i := by
  simp [siteResets]

/-- The resets from `ctx` to `ctx'` are those of the answered steps `t`: each array's
generation grows by the whole resets of `t`, each site's invalidations by those and by the
site's own resets in `t`, and a site new in `ctx'` has as many invalidations as its own
resets and its array's generation. -/
structure ResetsAlong (t : List (Context × Step)) (ctx ctx' : Context) : Prop where
  generation : ∀ a, ctx'.generation a = ctx.generation a + arrayResets t a
  kept : ∀ a i s, ctx.site? a i = some s → ∃ s', ctx'.site? a i = some s' ∧
    s'.stats.invalidations = s.stats.invalidations + arrayResets t a + siteResets t a i
  new : ∀ a i s', ctx.site? a i = none → ctx'.site? a i = some s' →
    s'.stats.invalidations = siteResets t a i + ctx'.generation a
  absent : ∀ a i, ctx'.site? a i = none → siteResets t a i = 0

namespace ResetsAlong

variable {ctx₁ ctx₂ ctx₃ : Context} {t₁ t₂ : List (Context × Step)}

theorem trans (h₁ : ResetsAlong t₁ ctx₁ ctx₂) (h₂ : ResetsAlong t₂ ctx₂ ctx₃) :
    ResetsAlong (t₁ ++ t₂) ctx₁ ctx₃ := by
  refine ⟨fun a => ?_, fun a i s hs => ?_, fun a i s₃ hnone hs₃ => ?_, fun a i hnone => ?_⟩
  · rw [h₂.generation, h₁.generation, arrayResets_append]
    omega
  · obtain ⟨s₂, hs₂, i₂⟩ := h₁.kept a i s hs
    obtain ⟨s₃, hs₃, i₃⟩ := h₂.kept a i s₂ hs₂
    refine ⟨s₃, hs₃, ?_⟩
    rw [i₃, i₂, arrayResets_append, siteResets_append]
    omega
  · cases hs₂ : ctx₂.site? a i with
    | none =>
      rw [siteResets_append, h₁.absent a i hs₂, h₂.new a i s₃ hs₂ hs₃]
      omega
    | some s₂ =>
      obtain ⟨s₃', hs₃', i₃⟩ := h₂.kept a i s₂ hs₂
      rw [hs₃] at hs₃'
      cases hs₃'
      rw [i₃, h₁.new a i s₂ hnone hs₂, h₂.generation, siteResets_append]
      omega
  · have earlier : ctx₂.site? a i = none := by
      cases hs₂ : ctx₂.site? a i with
      | none => rfl
      | some s₂ =>
        obtain ⟨s₃, hs₃, -⟩ := h₂.kept a i s₂ hs₂
        rw [hs₃] at hnone
        cases hnone
    rw [siteResets_append, h₁.absent a i earlier, h₂.absent a i hnone]

/-- A change that keeps every site's invalidations and every array's generation answers no
step and resets nothing. -/
theorem quiet {ctx ctx' : Context}
    (hsite : ∀ a i, (ctx'.site? a i).map (·.stats.invalidations) =
      (ctx.site? a i).map (·.stats.invalidations))
    (hgen : ∀ a, ctx'.generation a = ctx.generation a) : ResetsAlong [] ctx ctx' := by
  refine ⟨fun a => by simp [hgen], fun a i s hs => ?_, fun a i s' hnone hs' => ?_,
    fun _ _ _ => rfl⟩
  · have same := hsite a i
    rw [hs, Option.map_some] at same
    obtain ⟨s', hs', hinv⟩ := Option.map_eq_some_iff.1 same
    exact ⟨s', hs', by simp [hinv]⟩
  · have same := hsite a i
    rw [hnone, hs'] at same
    cases same

theorem of_arrays {ctx ctx' : Context} (h : ctx'.arrays = ctx.arrays) : ResetsAlong [] ctx ctx' :=
  quiet (fun a i => by rw [Context.site?_eq_of_arrays h])
    (Context.generation_of_anyArray? fun a => by simp [Context.anyArray?, h])

/-- Changing one site in a way that keeps its invalidations. -/
theorem modifySite {f : CallSite → CallSite}
    (hf : ∀ s : CallSite, (f s).stats.invalidations = s.stats.invalidations) (ctx : Context)
    (a i : Nat) : ResetsAlong [] ctx (ctx.modifySite a i f) := by
  refine quiet (fun b j => ?_) fun b => Context.generation_modifySite ctx a i b f
  rw [Context.site?_modifySite]
  split
  · cases ctx.site? b j <;> simp [hf]
  · rfl

/-- A step's answer resets each site once for each whole reset of its array, and once more
when the step is the reset of that very site; the sites it adds are fresh, in new arrays. -/
theorem answer (ctx : Context) (st : Step) : ResetsAlong [(ctx, st)] ctx (Queries.answer ctx st).2 := by
  have change := (Queries.answer_arrays ctx st).1
  have single : ∀ a, arrayResets [(ctx, st)] a = (st.wholeResets ctx).count a := by
    simp [arrayResets]
  refine ⟨fun a => ?_, fun a i s hs => ?_, fun a i s' hnone hs' => ?_, fun a i hnone => ?_⟩
  · rw [Queries.answer_generation, single]
  · refine ⟨_, Queries.answer_site_resets ctx st hs, ?_⟩
    by_cases hd : st.directReset? = some (a, i)
    · simp [siteResets, Step.resetsSite, single, hd, hs, CallSite.reset]
      omega
    · simp [siteResets, Step.resetsSite, single, hd]
  · obtain ⟨-, hstats, arr, harr, hzero⟩ := change.fresh rfl hnone hs'
    simp [siteResets, Step.resetsSite, hnone, Context.generation, harr, hzero, hstats]
  · cases hs : ctx.site? a i with
    | none => simp [siteResets, Step.resetsSite, hs]
    | some s =>
      rw [Queries.answer_site_resets ctx st hs] at hnone
      cases hnone

end ResetsAlong

/-- Along every path of primitive changes, the resets are those of the steps it answered. -/
theorem Changes.resetsAlong {ctx ctx' : Context} {t : List (Context × Step)} (h : Changes ctx t ctx') :
    ResetsAlong t ctx ctx' := by
  induction h with
  | refl ctx => exact .of_arrays rfl
  | hit ctx a i => exact .modifySite (f := CallSite.recordHit) (fun _ => rfl) ctx a i
  | log ctx log => exact .of_arrays rfl
  | heap ctx heap => exact .of_arrays rfl
  | pin ctx a on =>
    exact .quiet (fun b j => by rw [Context.site?_pin])
      (Context.generation_of_anyArray? (Context.anyArray?_pin ctx a on))
  | depth ctx depth => exact .of_arrays rfl
  | setVar ctx name v => exact .of_arrays rfl
  | answer ctx st => exact .answer ctx st
  | miss ctx a i =>
    exact (ResetsAlong.modifySite (f := CallSite.recordMiss) (fun _ => rfl) ctx a i).trans
      (.of_arrays rfl)
  | storeFailure ctx a i e => exact .modifySite (fun s => by simp [CallSite.recordFailure]) ctx a i
  | storeTarget ctx a i e t => exact .modifySite (fun s => by simp [CallSite.recordResolution]) ctx a i
  | storeRejection ctx a i e => exact .modifySite (fun s => by simp) ctx a i
  | trans _ _ ih₁ ih₂ => exact ih₁.trans ih₂

end Machine

open Machine in
/-- Dispatch accounting. A call that enters a site counts one hit and runs the stored target,
or takes the slow path, which counts one miss, makes one resolver call and counts one outcome.
Over every run from a fresh context, misses balance resolutions and failures, resolver calls
balance all misses, and each site's invalidations are its own resets and its array's
generation, which counts the whole resets of the array. -/
theorem dispatch_counters_balance :
    (∀ (n a i : Nat) (recv : Value) (args : List Value) (safe : Bool) (ctx : Context)
      (s : CallSite), ctx.site? a i = some s →
      ((safe && recv.isNone) = true ∧
          (callSite (n + 1) a i recv args safe).run ctx = .ok (.ok .none, ctx)) ∨
        (∃ t, s.target? = some t ∧ t.guard.accepts ctx.registry recv args = true ∧
          (callSite (n + 1) a i recv args safe).run ctx =
            (runTarget n t recv args).run (ctx.modifySite a i CallSite.recordHit)) ∨
        (callSite (n + 1) a i recv args safe).run ctx = (slowPath n a i recv args).run ctx) ∧
    (∀ (m a i : Nat) (recv : Value) (args : List Value) (ctx ctx' : Context) (out : Outcome Value),
      (slowPath (m + 1) a i recv args).run ctx = .ok (out, ctx') →
        SlowPathRun m a i recv args ctx out ctx') ∧
    (∀ (builtins hub : Bool) (fuel : Nat) (js outs : List Json) (ctx' : Context),
      (runSteps fuel js).run (Context.fresh builtins hub) = .ok (outs, ctx') →
      (∀ a i s, ctx'.site? a i = some s →
          s.stats.misses = s.stats.resolutions + s.stats.failures) ∧
        ctx'.calls = ctx'.totalMisses ∧
        ∃ t, Changes (Context.fresh builtins hub) t ctx' ∧
          ∀ a, ctx'.generation a = arrayResets t a ∧
            ∀ i s, ctx'.site? a i = some s →
              s.stats.invalidations = siteResets t a i + ctx'.generation a) ∧
    (∀ (ctx : Context) (st : Step) (a i : Nat) (s : CallSite), ctx.site? a i = some s →
      (Queries.answer ctx st).2.site? a i = some (CallSite.reset^[(st.wholeResets ctx).count a +
          if st.directReset? = some (a, i) then 1 else 0] s) ∧
        (Queries.answer ctx st).2.generation a = ctx.generation a + (st.wholeResets ctx).count a) ∧
    (∀ arr : SiteArray, arr.stats.sites = arr.size ∧
      arr.stats.thrashing = (arr.sites.toList.filter (·.isThrashing arr.config)).length ∧
      ∀ f : SiteStats → Nat, (∀ x y, f (x.add y) = f x + f y) → f {} = 0 →
        f arr.stats.totals = (arr.sites.toList.map fun s => f s.stats).sum) := by
  refine ⟨fun _ _ _ _ _ _ _ _ hs => callSite_enters hs, fun _ _ _ _ _ _ _ _ hrun =>
    slowPath_succ_run hrun, fun builtins hub fuel js outs ctx' hrun => ?_,
    fun ctx st a _ _ hs => ⟨Queries.answer_site_resets ctx st hs, Queries.answer_generation ctx st a⟩,
    fun arr => ⟨arr.stats_sites, arr.stats_thrashing, fun _ hadd hzero => arr.stats_totals hadd hzero⟩⟩
  have pending := runSteps_keeps respects_pendingKept fuel js _ outs ctx' hrun
  have called := runSteps_keeps respects_callsTrack fuel js _ outs ctx' hrun
  obtain ⟨t, path⟩ := runSteps_keeps respects_reaches fuel js _ outs ctx' hrun
  have resets := path.resetsAlong
  refine ⟨fun a i s hs => (CallSite.pending_eq_zero_iff s).1 (pending.2 a i s (by simp) hs), ?_,
    t, path, fun a => ⟨by simpa using resets.generation a, fun i s hs => resets.new a i s (by simp) hs⟩⟩
  have none : (Context.fresh builtins hub).calls = 0 := rfl
  have zero := Context.totalMisses_fresh builtins hub
  unfold Context.CallsTrack at called
  omega

namespace TwoSites

/-- A call of `m` with no arguments. -/
def callM : CallDescriptor := { name := "m", kind := .inst }

/-- A context holding one array of two sites calling `m`. -/
def held : Context :=
  { registry := Registry.empty, arrays := #[{ array := SiteArray.ofDescriptors "main" [callM, callM] {} }] }

/-- The second site of that array, fresh. -/
def second : CallSite := { index := 1, descriptor := callM }

end TwoSites

open TwoSites in
/-- Resetting one site counts one invalidation there and leaves the array's generation. -/
theorem site_reset_counts_one_invalidation :
    held.site? 0 1 = some second ∧
      (Queries.answer held (.reset 0 1)).2.site? 0 1 = some second.reset ∧
      (Queries.answer held (.reset 0 1)).2.generation 0 = held.generation 0 := by
  have hs : held.site? 0 1 = some second := rfl
  obtain ⟨hsite, hgen⟩ := dispatch_counters_balance.2.2.2.1 held (.reset 0 1) 0 1 second hs
  have unreset : (Step.reset 0 1).wholeResets held = [] := rfl
  rw [unreset, List.count_nil, Nat.add_zero] at hgen
  exact ⟨hs, by simpa [unreset, Step.directReset?] using hsite, hgen⟩

end InlineCache
