import Mathlib
import InlineCache.Script.Reading
import InlineCache.Proofs.Resolution
/-!
# Reading changes only the heap

Reading a step looks names up in the context and builds the values the step describes. The
values are built on the heap, and nothing else of the context changes: the registry, the
arrays and their sites, the hooks and the counters are as they were. Each reading is made
of lookups, field decodings that do not see the context, and builds, so the frame follows
from one lemma per way of combining them, and one per reading.

The frame is stated for any reflexive and transitive relation between contexts that the
builds respect: what holds of every build then holds of every reading.
-/
namespace InlineCache

namespace Context

/-- `ctx'` is `ctx` with another heap. -/
def OnlyHeap (ctx ctx' : Context) : Prop := ∃ heap : Heap, ctx' = { ctx with heap }

theorem OnlyHeap.refl (ctx : Context) : ctx.OnlyHeap ctx := ⟨ctx.heap, rfl⟩

theorem OnlyHeap.trans {ctx₁ ctx₂ ctx₃ : Context} :
    ctx₁.OnlyHeap ctx₂ → ctx₂.OnlyHeap ctx₃ → ctx₁.OnlyHeap ctx₃
  | ⟨_, h₁⟩, ⟨heap, h₂⟩ => ⟨heap, by rw [h₂, h₁]⟩

instance : Std.Refl OnlyHeap := ⟨OnlyHeap.refl⟩

instance : IsTrans Context OnlyHeap := ⟨fun _ _ _ => OnlyHeap.trans⟩

instance : IsPreorder Context OnlyHeap := {}

mutual

/-- Building a described value changes only the heap. -/
theorem materialize_onlyHeap : ∀ {ctx : Context} {spec : ValueSpec} {v : Value} {ctx' : Context},
    ctx.materialize spec = .ok (v, ctx') → ctx.OnlyHeap ctx'
  | ctx, .plain _, _, _, h => by
    rw [materialize] at h
    cases h
    exact .refl ctx
  | ctx, .obj cls fields, _, _, h => by
    rw [materialize] at h
    obtain ⟨c, -, hc⟩ := bind_eq_ok.1 h
    split at hc
    next v heap _ =>
    have made : ctx.OnlyHeap { ctx with heap } := ⟨heap, rfl⟩
    dsimp only at hc
    split at hc
    · exact made.trans (setFields_onlyHeap hc)
    · cases hc
      exact made
  | ctx, .cls name, _, _, h => by
    rw [materialize] at h
    obtain ⟨c, -, hc⟩ := bind_eq_ok.1 h
    cases pure_eq_ok.1 hc
    exact .refl ctx
  | ctx, .foreign ty payload, _, _, h => by
    rw [materialize] at h
    obtain ⟨t, -, ht⟩ := bind_eq_ok.1 h
    obtain ⟨⟨p, ctx₁⟩, hp, hv⟩ := bind_eq_ok.1 ht
    cases pure_eq_ok.1 hv
    exact (materialize_onlyHeap hp).trans ⟨_, rfl⟩
  | ctx, .var name, _, _, h => by
    rw [materialize] at h
    split at h
    · cases h
      exact .refl ctx
    · cases h
  | ctx, .invalid why, _, _, h => by
    rw [materialize] at h
    cases h

/-- Setting described fields changes only the heap. -/
theorem setFields_onlyHeap : ∀ {ctx : Context} {r : ObjectRef} {fields : List (String × ValueSpec)}
    {v : Value} {ctx' : Context}, ctx.setFields r fields = .ok (v, ctx') → ctx.OnlyHeap ctx'
  | ctx, _, [], _, _, h => by
    rw [setFields] at h
    cases h
    exact .refl ctx
  | ctx, r, (k, spec) :: rest, _, _, h => by
    rw [setFields] at h
    obtain ⟨⟨v₁, ctx₁⟩, h₁, h₂⟩ := bind_eq_ok.1 h
    have set : ctx₁.OnlyHeap { ctx₁ with heap := ctx₁.heap.setField r k v₁ } := ⟨_, rfl⟩
    exact (materialize_onlyHeap h₁).trans (set.trans (setFields_onlyHeap h₂))

end

/-- Building described values in order changes only the heap. -/
theorem materializeAll_onlyHeap : ∀ {ctx : Context} {specs : List ValueSpec} {vs : List Value}
    {ctx' : Context}, ctx.materializeAll specs = .ok (vs, ctx') → ctx.OnlyHeap ctx'
  | ctx, [], _, _, h => by
    rw [materializeAll] at h
    cases h
    exact .refl ctx
  | ctx, spec :: rest, _, _, h => by
    rw [materializeAll] at h
    obtain ⟨⟨v, ctx₁⟩, h₁, h₂⟩ := bind_eq_ok.1 h
    obtain ⟨⟨vs, ctx₂⟩, h₂, h₃⟩ := bind_eq_ok.1 h₂
    cases pure_eq_ok.1 h₃
    exact (materialize_onlyHeap h₁).trans (materializeAll_onlyHeap h₂)

end Context

namespace Reading

open Decode

/-- A reading whose every success relates its start to its end by `F`. -/
def Framed (F : Context → Context → Prop) {α : Type} (r : Reading α) : Prop :=
  ∀ ctx a ctx', r.run ctx = .ok (a, ctx') → F ctx ctx'

/-- Every build relates its start to its end by `F`. -/
def Builds (F : Context → Context → Prop) : Prop :=
  ∀ ctx spec v ctx', Context.materialize ctx spec = .ok (v, ctx') → F ctx ctx'

theorem onlyHeap_builds : Builds Context.OnlyHeap :=
  fun _ _ _ _ h => Context.materialize_onlyHeap h

variable {F : Context → Context → Prop} [IsPreorder Context F]

section Combinators

variable {α β : Type}

theorem Framed.pure (x : α) : Framed F (pure x : Reading α) := by
  intro ctx a ctx' h
  rw [StateT.run_pure, pure_eq_ok] at h
  cases h
  exact refl_of F ctx

theorem Framed.bind {m : Reading α} {f : α → Reading β} (hm : Framed F m)
    (hf : ∀ a, Framed F (f a)) : Framed F (m >>= f) := by
  intro ctx b ctx' h
  rw [StateT.run_bind] at h
  obtain ⟨⟨a, ctx₁⟩, h₁, h₂⟩ := bind_eq_ok.1 h
  exact trans_of F (hm ctx a ctx₁ h₁) (hf a ctx₁ b ctx' h₂)

omit [IsPreorder Context F] in
theorem Framed.get_bind {f : Context → Reading α} (hf : ∀ c, Framed F (f c)) :
    Framed F (get >>= f) := by
  intro ctx a ctx' h
  rw [StateT.run_bind, StateT.run_get, pure_bind] at h
  exact hf ctx ctx a ctx' h

theorem Framed.lift (x : Decoded α) : Framed F (liftM x : Reading α) := by
  intro ctx a ctx' h
  rw [liftM, StateT.run_monadLift] at h
  obtain ⟨_, -, h'⟩ := bind_eq_ok.1 h
  cases pure_eq_ok.1 h'
  exact refl_of F ctx

omit [IsPreorder Context F] in
theorem Framed.throw (e : String) : Framed F (throw e : Reading α) := by
  intro ctx a ctx' h
  cases h

omit [IsPreorder Context F] in
/-- What follows a failure is never run. -/
theorem Framed.throw_bind (e : String) (f : α → Reading β) :
    Framed F (MonadExcept.throw e >>= f : Reading β) := by
  intro ctx a ctx' h
  cases h

omit [IsPreorder Context F] in
theorem Framed.map (f : α → β) {m : Reading α} (hm : Framed F m) : Framed F (f <$> m) := by
  intro ctx b ctx' h
  rw [StateT.run_map] at h
  cases hrun : m.run ctx with
  | error e =>
    rw [hrun] at h
    cases h
  | ok p =>
    rw [hrun] at h
    cases h
    exact hm ctx p.1 p.2 hrun

theorem Framed.mapM {f : α → Reading β} (hf : ∀ a, Framed F (f a)) :
    ∀ xs : List α, Framed F (xs.mapM f)
  | [] => by rw [List.mapM_nil]; exact .pure _
  | x :: rest => by
    rw [List.mapM_cons]
    exact .bind (hf x) fun _ => .bind (Framed.mapM hf rest) fun _ => .pure _

end Combinators

theorem array_framed (j : Json) : Framed F (array j) := by
  unfold array
  exact .bind (.lift _) fun _ => .get_bind fun _ => .bind (.lift _) fun _ => .pure _

theorem site_framed (j : Json) : Framed F (site j) := .lift _

theorem classNamed_framed (name : String) : Framed F (classNamed name) := by
  unfold classNamed
  exact .get_bind fun _ => .lift _

theorem foreignNamed_framed (name : String) : Framed F (foreignNamed name) := by
  unfold foreignNamed
  exact .get_bind fun _ => .lift _

theorem typeId_framed (j : Json) : Framed F (typeId j) := by
  unfold typeId
  split
  · split
    · exact .pure _
    · refine .get_bind fun _ => ?_
      split
      · exact .pure _
      · exact .bind (foreignNamed_framed _) fun _ => .pure _
  · split
    · exact .pure _
    · exact .throw _
  · exact .throw _

theorem typeMember_framed (j : Json) (key : String) : Framed F (typeMember j key) := by
  unfold typeMember
  split
  · exact typeId_framed _
  · exact .throw _

theorem typeList_framed (j : Json) (key : String) : Framed F (typeList j key) := by
  unfold typeList
  exact .bind (.lift _) fun _ => .mapM typeId_framed _

theorem paramType_framed (j : Json) : Framed F (paramType j) := by
  unfold paramType
  split
  · exact .pure _
  · exact .map _ (typeId_framed _)

theorem paramList_framed (j : Json) (key : String) : Framed F (paramList j key) := by
  unfold paramList
  exact .bind (.lift _) fun _ => .mapM paramType_framed _

theorem argKind_framed (j : Json) : Framed F (argKind j) := by
  unfold argKind
  split
  · exact .pure _
  · exact .map _ (typeId_framed _)

theorem method_framed (name : String) (j : Json) : Framed F (method name j) := by
  unfold method
  refine .bind (paramList_framed _ _) fun _ => ?_
  dsimp only
  split
  · exact .bind (.lift _) fun _ => .pure _
  · exact .bind (.pure _) fun _ => .pure _

theorem methods_framed (j : Json) (key name : String) : Framed F (methods j key name) := by
  unfold methods
  exact .bind (.lift _) fun _ => .mapM (method_framed _) _

theorem methodMember_framed (j : Json) (key name : String) :
    Framed F (methodMember j key name) := by
  unfold methodMember
  split
  · exact method_framed _ _
  · exact .throw _

theorem descriptor_framed (j : Json) : Framed F (descriptor j) := by
  unfold descriptor
  refine .bind (.lift _) fun kind => ?_
  dsimp only
  split
  on_goal 2 => split
  all_goals first
    | refine .bind (.pure _) fun _ => ?_
    | refine .bind (.throw _) fun _ => ?_
  all_goals
    split
    · exact .bind (.pure _) fun _ => .pure _
    · exact .bind (.mapM argKind_framed _) fun _ => .pure _
    · exact .bind (.throw _) fun _ => .pure _

theorem callMember_framed (j : Json) (what : String) : Framed F (callMember j what) := by
  unfold callMember
  split
  · exact descriptor_framed _
  · exact .throw _

theorem config_framed (j : Json) : Framed F (config j) := by
  unfold config
  dsimp only
  repeat' first
    | exact .pure _
    | exact .throw _
    | exact .lift _
    | split
    | refine .bind ?_ fun _ => ?_

theorem guard_framed (j : Json) : Framed F (guard j) := by
  unfold guard
  refine .bind (.lift _) fun _ => ?_
  split
  · exact .bind (.lift _) fun _ => .bind (classNamed_framed _) fun _ =>
      .bind (typeList_framed _ _) fun _ => .pure _
  · exact .bind (typeMember_framed _ _) fun _ => .bind (typeList_framed _ _) fun _ => .pure _
  · exact .bind (.lift _) fun _ => .bind (classNamed_framed _) fun _ =>
      .bind (typeList_framed _ _) fun _ => .pure _
  · exact .bind (.lift _) fun _ => .bind (classNamed_framed _) fun _ =>
      .bind (typeList_framed _ _) fun _ => .pure _
  · exact .pure _
  · exact .bind (typeMember_framed _ _) fun _ => .bind (typeMember_framed _ _) fun _ => .pure _
  · exact .throw _

theorem invocable_framed (j : Json) : Framed F (invocable j) := by
  unfold invocable
  refine .bind (.lift _) fun _ => ?_
  split
  · exact .map _ (methodMember_framed _ _ _)
  · exact .bind (.lift _) fun _ => .bind (classNamed_framed _) fun _ =>
      .bind (methodMember_framed _ _ _) fun _ => .pure _
  · refine .bind (.lift _) fun _ => ?_
    split
    · exact .pure _
    · exact .throw _
  · refine .bind (.lift _) fun _ => ?_
    split
    · exact .pure _
    · exact .throw _
  · exact .throw _

theorem target_framed (j : Json) : Framed F (target j) := by
  unfold target
  dsimp only
  repeat' first
    | exact .pure _
    | exact .throw _
    | exact .lift _
    | exact guard_framed _
    | exact invocable_framed _
    | exact typeMember_framed _ _
    | exact typeList_framed _ _
    | split
    | refine .bind ?_ fun _ => ?_

theorem methodsFound_framed (j : Json) (constructors : Bool) :
    Framed F (methodsFound j constructors) := by
  unfold methodsFound
  refine .bind (.lift _) fun _ => ?_
  split
  · refine .bind (classNamed_framed _) fun _ => .get_bind fun _ => ?_
    split
    · exact .pure _
    · split
      · exact .pure _
      · exact .pure _
  · exact .throw _
  · exact .bind (.lift _) fun _ => .bind (foreignNamed_framed _) fun _ => .pure _

theorem rawTypeId_framed (j : Json) : Framed F (rawTypeId j) := by
  unfold rawTypeId
  split
  · split
    · exact .pure _
    · exact .throw _
  · exact .throw _

theorem tableOp_framed (count : Nat) (j : Json) : Framed F (tableOp count j) := by
  unfold tableOp
  dsimp only
  split
  · exact .throw_bind _ _
  refine .bind (.lift _) fun _ => ?_
  split
  · exact .map _ (methodMember_framed _ _ _)
  · exact .map _ (.lift _)
  · exact .map _ (.lift _)
  · exact .map _ (.lift _)
  · exact .map _ (.lift _)
  · exact .pure _
  · exact .throw _


section Builds

variable (hb : Builds F)
include hb

omit [IsPreorder Context F] in
theorem build_framed (spec : ValueSpec) : Framed F (build spec) :=
  fun ctx _ ctx' h => hb ctx spec _ ctx' h

theorem buildAll_framed : ∀ specs : List ValueSpec, Framed F (buildAll specs)
  | [] => fun ctx vs ctx' h => by
    have built : ctx.materializeAll [] = .ok (vs, ctx') := h
    rw [Context.materializeAll] at built
    cases built
    exact refl_of F ctx
  | spec :: rest => fun ctx vs ctx' h => by
    have built : ctx.materializeAll (spec :: rest) = .ok (vs, ctx') := h
    rw [Context.materializeAll] at built
    obtain ⟨⟨v, ctx₁⟩, h₁, h₂⟩ := bind_eq_ok.1 built
    obtain ⟨⟨vs, ctx₂⟩, h₂, h₃⟩ := bind_eq_ok.1 h₂
    cases pure_eq_ok.1 h₃
    exact trans_of F (hb ctx spec v ctx₁ h₁) (buildAll_framed rest ctx₁ vs ctx' h₂)

omit [IsPreorder Context F] in
theorem value_framed (j : Json) (key : String) : Framed F (value j key) := build_framed hb _

theorem values_framed (j : Json) (key : String) : Framed F (values j key) := by
  unfold values
  exact .bind (.lift _) fun _ => buildAll_framed hb _

theorem shown_framed (j : Json) : Framed F (shown j) := by
  unfold shown
  refine .bind (.lift _) fun _ => ?_
  split
  · exact .map _ (value_framed hb _ _)
  · exact .bind (.lift _) fun _ => .map _ (classNamed_framed _)
  · refine .bind (value_framed hb _ _) fun _ => ?_
    split
    · exact .pure _
    · exact .throw _
  · exact .bind (.lift _) fun _ => .map _ (foreignNamed_framed _)
  · refine .bind (value_framed hb _ _) fun _ => ?_
    split
    · exact .pure _
    · exact .throw _
  · exact .map _ (methodsFound_framed _ _)
  · exact .bind (array_framed _) fun _ => .bind (site_framed _) fun _ => .pure _
  · exact .map _ (array_framed _)
  · exact .throw _

/-- Every step is read by lookups, decodings and builds, so reading it changes only the
heap. -/
theorem stepOf_framed (j : Json) (op : String) : Framed F (stepOf j op) := by
  unfold stepOf
  dsimp only
  split
  all_goals repeat' with_reducible first
    | exact .pure _
    | exact .throw _
    | exact .throw_bind _ _
    | exact .lift _
    | exact value_framed hb _ _
    | exact values_framed hb _ _
    | exact array_framed _
    | exact site_framed _
    | exact classNamed_framed _
    | exact foreignNamed_framed _
    | exact typeId_framed _
    | exact typeMember_framed _ _
    | exact paramList_framed _ _
    | exact methods_framed _ _ _
    | exact methodMember_framed _ _ _
    | exact .mapM descriptor_framed _
    | exact callMember_framed _ _
    | exact config_framed _
    | exact methodsFound_framed _ _
    | exact shown_framed hb _
    | exact target_framed _
    | exact rawTypeId_framed _
    | refine .map _ ?_
    | split
    | refine .bind ?_ fun _ => ?_

theorem step_framed (j : Json) : Framed F (step j) := by
  unfold step
  exact .bind (.lift _) fun _ => stepOf_framed hb _ _

end Builds

end Reading

end InlineCache
