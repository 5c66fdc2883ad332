import Mathlib.Data.List.Forall2
import InlineCache.Dispatch.Resolve
import InlineCache.Proofs.Redefinition
/-!
# What overload selection looks at

Scoring a candidate reads, of each argument, only its type, whether it is an instance, and
for an instance whether its class inherits from the declared type. Two argument lists that
agree on these, position by position, score every candidate alike and so select the same
method or fail alike. The statements below let the registry differ between the two sides,
so that one selection made earlier can be compared with one made later.
-/
namespace InlineCache

namespace Value

/-- Whether the value is an instance of a class. -/
def isObject : Value → Bool
  | .object _ => true
  | _ => false

end Value

/-- A value whose kind agrees with the registry: it is an instance exactly when its type
is a class. Every value a scenario makes is such a value. -/
def Registry.Typed (reg : Registry) (v : Value) : Prop := v.isObject = (reg.class? v.typeId).isSome

instance (reg : Registry) (v : Value) : Decidable (reg.Typed v) :=
  inferInstanceAs (Decidable (_ = _))

/-- Two arguments, each read against its own registry, that overload selection cannot
tell apart: same type, both instances or neither, and the same superclasses. -/
structure ArgAlike (reg reg' : Registry) (x x' : Value) : Prop where
  typeId_eq : x.typeId = x'.typeId
  isObject_eq : x.isObject = x'.isObject
  subclass_eq : ∀ t, reg.isSubclassOf x.typeId t = reg'.isSubclassOf x'.typeId t

/-- Arguments of the same type, each agreeing with its registry, are alike across
redefinitions. -/
theorem ArgAlike.of_typed {reg reg' : Registry} {x x' : Value} (h : reg.Redefines reg')
    (hx : reg.Typed x) (hx' : reg'.Typed x') (htype : x.typeId = x'.typeId) :
    ArgAlike reg reg' x x' where
  typeId_eq := htype
  isObject_eq := by
    rw [hx, hx', ← htype]
    cases hc : reg.class? x.typeId with
    | none => simp [h.class?_eq_none hc]
    | some c =>
      obtain ⟨c', hc', -⟩ := h.evolves.classes _ c hc
      simp [hc']
  subclass_eq t := by rw [← htype, h.isSubclassOf_eq]

/-- Argument lists of one shape are alike position by position, when arguments of one type
are alike as long as those of the first list satisfy `P` and those of the second `P'`. -/
theorem ArgAlike.forall₂_of_shape {reg reg' : Registry} {P P' : Value → Prop}
    (alike : ∀ x x', P x → P' x' → x.typeId = x'.typeId → ArgAlike reg reg' x x')
    {a a' : List Value} (ha : ∀ x ∈ a, P x) (ha' : ∀ x ∈ a', P' x)
    (hshape : Value.shape a = Value.shape a') : List.Forall₂ (ArgAlike reg reg') a a' := by
  have types : List.Forall₂ (fun x x' : Value => x.typeId = x'.typeId) a a' := by
    have same : List.Forall₂ (· = ·) (Value.shape a) (Value.shape a') := by
      rw [List.forall₂_eq_eq_eq]
      exact hshape
    simpa only [Value.shape, List.forall₂_map_left_iff, List.forall₂_map_right_iff] using same
  obtain ⟨hlen, htype⟩ := List.forall₂_iff_zip.1 types
  refine List.forall₂_iff_zip.2 ⟨hlen, fun hmem => ?_⟩
  exact alike _ _ (ha _ (List.of_mem_zip hmem).1) (ha' _ (List.of_mem_zip hmem).2) (htype hmem)

/-- Argument lists of the same shape, each agreeing with its registry, are alike
position by position across redefinitions. -/
theorem argAlike_of_shape {reg reg' : Registry} (h : reg.Redefines reg') {a a' : List Value}
    (ha : ∀ x ∈ a, reg.Typed x) (ha' : ∀ x ∈ a', reg'.Typed x)
    (hshape : Value.shape a = Value.shape a') : List.Forall₂ (ArgAlike reg reg') a a' :=
  ArgAlike.forall₂_of_shape (fun _ _ hx hx' htype => ArgAlike.of_typed h hx hx' htype) ha ha' hshape

/-- An argument is scored alike by every parameter type on both sides. -/
theorem ParamType.score_congr {reg reg' : Registry} {x x' : Value} (h : ArgAlike reg reg' x x')
    (p : ParamType) : p.score reg x = p.score reg' x' := by
  cases p with
  | any => rfl
  | exact t =>
    obtain ⟨htype, hobject, hsub⟩ := h
    simp only [score, htype]
    split
    · rfl
    · cases x <;> cases x' <;> simp_all [Value.isObject, Value.typeId]

/-- Arguments that are alike position by position give every method the same score. -/
theorem Method.matchScore_congr {reg reg' : Registry} {a a' : List Value}
    (h : List.Forall₂ (ArgAlike reg reg') a a') (m : Method) :
    m.matchScore reg a = m.matchScore reg' a' := by
  have sums : ∀ (ps : List ParamType) (total : Nat),
      (ps.zip a).foldlM (fun total pa => (· + total) <$> pa.1.score reg pa.2) total =
        (ps.zip a').foldlM (fun total pa => (· + total) <$> pa.1.score reg' pa.2) total := by
    induction h with
    | nil => intro ps total; simp
    | cons hx _ ih =>
      intro ps total
      cases ps with
      | nil => rfl
      | cons p ps =>
        simp only [List.zip_cons_cons, List.foldlM_cons, ParamType.score_congr hx p]
        cases p.score reg' _ with
        | none => rfl
        | some s => exact ih ps (s + total)
  simp only [matchScore, h.length_eq, sums]

/-- Considering one more candidate depends on the arguments only through the scores. -/
theorem Leader.consider_congr {reg reg' : Registry} {a a' : List Value}
    (h : List.Forall₂ (ArgAlike reg reg') a a') :
    Leader.consider reg a = Leader.consider reg' a' := by
  funext best m
  simp only [Leader.consider, Method.matchScore_congr h m]

/-- Arguments that are alike position by position select the same candidate, or fail in
the same way, from any list of candidates. -/
theorem selectMostSpecific_congr {reg reg' : Registry} {a a' : List Value}
    (h : List.Forall₂ (ArgAlike reg reg') a a') (cands : List Method) :
    selectMostSpecific reg cands a = selectMostSpecific reg' cands a' := by
  simp only [selectMostSpecific, Leader.consider_congr h]

end InlineCache
