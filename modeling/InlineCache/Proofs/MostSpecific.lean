import Mathlib
import InlineCache.Dispatch.Resolve
import InlineCache.Proofs.Redefinition
/-!
# Overload selection picks the one best candidate

Selection makes one pass over the candidates, keeping the best-scoring candidate seen so
far and how many share its score. This module states the rule that pass implements, with
no pass in it. A parameter scores an argument 0 when it is untyped, 2 when it declares the
argument's own type, and 1 when it declares a proper ancestor of the class of an instance;
any other argument is refused, and so is an argument list of the wrong length. A candidate
scores the sum over its parameters. The rule takes the best score any candidate reaches
and answers the one candidate that reaches it, or that several do and how many, or that
none accepts the arguments.

The main statement is that selection agrees with the rule on every list of candidates, and
so does not depend on the order in which the candidates are listed.
-/
namespace InlineCache

namespace Specificity

/-- How well a parameter accepts an argument, as the rule reads. -/
def paramScore (reg : Registry) : ParamType → Value → Option Nat
  | .any, _ => some 0
  | .exact t, arg =>
    if arg.typeId = t then some 2
    else match arg with
      | .object r =>
        match reg.class? r.cls with
        | some c => if t ∈ c.lineage then some 1 else none
        | none => none
      | _ => none

/-- A candidate's score: the sum of its parameters' scores, when it has one parameter per
argument and every parameter accepts its argument. -/
def score (reg : Registry) (m : Method) (args : List Value) : Option Nat :=
  if m.params.length = args.length then
    ((m.params.zip args).mapM fun pa => paramScore reg pa.1 pa.2).map List.sum
  else none

/-- The best score a candidate reaches, if any candidate accepts the arguments. -/
def best (reg : Registry) (cands : List Method) (args : List Value) : Option Nat :=
  (cands.filterMap fun m => score reg m args).max?

/-- The candidates that reach the score `s`, in order. -/
def reaching (reg : Registry) (cands : List Method) (args : List Value) (s : Nat) :
    List Method :=
  cands.filter fun m => score reg m args == some s

/-- The answer for the candidates that reach the best score: the one of them, or the
number of them when there are several. -/
def verdict : List Method → Except ResolutionFailure Method
  | [m] => .ok m
  | tied => .error (.ambiguous tied.length)

/-- Overload selection as the rule states it. -/
def choose (reg : Registry) (cands : List Method) (args : List Value) :
    Except ResolutionFailure Method :=
  match best reg cands args with
  | none => .error .methodNotFound
  | some s => verdict (reaching reg cands args s)

end Specificity

open Specificity

/-- An instance scores 1 against a type only through the lineage of its class: its own
id is scored 2 before. -/
theorem ParamType.score_eq_paramScore (reg : Registry) (p : ParamType) (arg : Value) :
    p.score reg arg = paramScore reg p arg := by
  cases p with
  | any => rfl
  | exact t =>
    simp only [ParamType.score, paramScore, beq_iff_eq]
    split
    · rfl
    · next hne =>
      cases arg with
      | object r =>
        simp only [Registry.isSubclassOf]
        rcases Option.eq_none_or_eq_some (reg.class? r.cls) with hc | ⟨c, hc⟩
        · simp only [hc]
          rfl
        · have hid : c.id = r.cls := Registry.class?_id hc
          have hself : c.id ≠ t := by
            rw [hid]
            exact hne
          simp [hc, Class.isSubclassOf, Class.ancestry, Ne.symm hself]
      | _ => rfl

/-- The running total of a candidate's scoring is the sum of the scores read so far. -/
theorem foldlM_score_eq (reg : Registry) :
    ∀ (pas : List (ParamType × Value)) (total : Nat),
      pas.foldlM (fun total pa => (· + total) <$> pa.1.score reg pa.2) total =
        (pas.mapM fun pa => paramScore reg pa.1 pa.2).map (·.sum + total)
  | [], total => by simp
  | pa :: rest, total => by
    rw [List.foldlM_cons, List.mapM_cons, ParamType.score_eq_paramScore]
    cases paramScore reg pa.1 pa.2 with
    | none => rfl
    | some s =>
      change List.foldlM _ (s + total) rest = _
      rw [foldlM_score_eq reg rest (s + total)]
      cases rest.mapM (fun pa => paramScore reg pa.1 pa.2) with
      | none => rfl
      | some ss =>
        change some (ss.sum + (s + total)) = some ((s :: ss).sum + total)
        rw [List.sum_cons]
        congr 1
        omega

/-- A candidate's score is the one the rule gives. -/
theorem Method.matchScore_eq_score (reg : Registry) (m : Method) (args : List Value) :
    m.matchScore reg args = score reg m args := by
  unfold Method.matchScore score
  by_cases hlen : m.params.length = args.length
  · simp only [hlen, bne_self_eq_false, Bool.false_eq_true, if_false, if_true,
      foldlM_score_eq, Nat.add_zero]
  · simp [hlen, Ne.symm hlen]

namespace Specificity

variable {reg : Registry} {args : List Value}

theorem best_eq_some_iff {cands : List Method} {s : Nat} :
    best reg cands args = some s ↔
      (∃ m ∈ cands, score reg m args = some s) ∧
        ∀ m ∈ cands, ∀ v, score reg m args = some v → v ≤ s := by
  simp only [best, List.max?_eq_some_iff, List.mem_filterMap]
  constructor
  · rintro ⟨attained, bound⟩
    exact ⟨attained, fun m hm v hv => bound v ⟨m, hm, hv⟩⟩
  · rintro ⟨attained, bound⟩
    refine ⟨attained, ?_⟩
    rintro v ⟨m, hm, hv⟩
    exact bound m hm v hv

theorem best_eq_none_iff {cands : List Method} :
    best reg cands args = none ↔ ∀ m ∈ cands, score reg m args = none := by
  simp [best, List.max?_eq_none_iff, List.filterMap_eq_nil_iff]

/-- The best score is reached by some candidate. -/
theorem reaching_ne_nil {cands : List Method} {s : Nat} (h : best reg cands args = some s) :
    reaching reg cands args s ≠ [] := by
  obtain ⟨⟨m, hm, hs⟩, -⟩ := best_eq_some_iff.1 h
  intro hnil
  have : m ∈ reaching reg cands args s := List.mem_filter.2 ⟨hm, by simp [hs]⟩
  rw [hnil] at this
  cases this

/-- No candidate reaches a score above the best. -/
theorem reaching_of_best_lt {cands : List Method} {s v : Nat} (h : best reg cands args = some s)
    (hlt : s < v) : reaching reg cands args v = [] := by
  obtain ⟨-, bound⟩ := best_eq_some_iff.1 h
  refine List.filter_eq_nil_iff.2 fun m hm hv => ?_
  have hle := bound m hm v (by simpa using hv)
  omega

theorem reaching_append_singleton (seen : List Method) (x : Method) (s : Nat) :
    reaching reg (seen ++ [x]) args s =
      reaching reg seen args s ++ if score reg x args = some s then [x] else [] := by
  simp only [reaching, List.filter_append, List.filter_cons, List.filter_nil, beq_iff_eq]

/-- A candidate that refuses the arguments changes no score the rule reads. -/
theorem best_append_none {seen : List Method} {x : Method} (hx : score reg x args = none) :
    best reg (seen ++ [x]) args = best reg seen args := by
  simp [best, List.filterMap_append, hx]

/-- A candidate that scores `v` raises the best score to `v` when it was lower. -/
theorem best_append_some {seen : List Method} {x : Method} {v : Nat}
    (hx : score reg x args = some v) :
    best reg (seen ++ [x]) args = some ((best reg seen args).elim v (max · v)) := by
  rw [best_eq_some_iff]
  cases hb : best reg seen args with
  | none =>
    have none_seen := best_eq_none_iff.1 hb
    refine ⟨⟨x, by simp, hx⟩, fun m hm w hw => ?_⟩
    rcases List.mem_append.1 hm with hm | hm
    · rw [none_seen m hm] at hw
      cases hw
    · rw [List.mem_singleton.1 hm, hx] at hw
      cases hw
      exact Nat.le_refl _
  | some s =>
    obtain ⟨⟨m₀, hm₀, hs⟩, bound⟩ := best_eq_some_iff.1 hb
    refine ⟨?_, fun m hm w hw => ?_⟩
    · by_cases hle : v ≤ s
      · exact ⟨m₀, by simp [hm₀], by simp [hs, Nat.max_eq_left hle]⟩
      · exact ⟨x, by simp, by simp [hx, Nat.max_eq_right (Nat.le_of_not_le hle)]⟩
    · rcases List.mem_append.1 hm with hm | hm
      · exact Nat.le_trans (bound m hm w hw) (Nat.le_max_left s v)
      · rw [List.mem_singleton.1 hm, hx] at hw
        cases hw
        exact Nat.le_max_right _ _

/-- What a pass over `seen` has gathered: the first candidate of the best score, that
score, and how many candidates reach it. -/
def leader (reg : Registry) (args : List Value) (seen : List Method) : Option Leader :=
  (best reg seen args).bind fun s =>
    match reaching reg seen args s with
    | m :: rest => some ⟨m, s, rest.length + 1⟩
    | [] => none

theorem leader_nil : leader reg args [] = none := rfl

/-- The leader of a pass is one of the candidates it has seen: the first to reach the best
score. -/
theorem leader_method_mem {seen : List Method} {b : Leader} (h : leader reg args seen = some b) :
    b.method ∈ seen := by
  obtain ⟨s, -, hlead⟩ := Option.bind_eq_some_iff.1 h
  split at hlead
  · next m rest hr =>
    cases hlead
    have reaches : m ∈ reaching reg seen args s := by
      rw [hr]
      exact List.mem_cons_self ..
    exact (List.mem_filter.1 reaches).1
  · cases hlead

/-- One step of the pass keeps what it has gathered. -/
theorem consider_leader (seen : List Method) (x : Method) :
    Leader.consider reg args (leader reg args seen) x = leader reg args (seen ++ [x]) := by
  unfold Leader.consider
  rw [Method.matchScore_eq_score]
  cases hx : score reg x args with
  | none =>
    have same : ∀ s, reaching reg (seen ++ [x]) args s = reaching reg seen args s := by
      intro s
      simp [reaching_append_singleton, hx]
    simp only [leader, best_append_none hx, same]
  | some v =>
    cases hb : best reg seen args with
    | none =>
      have nobody : reaching reg seen args v = [] :=
        List.filter_eq_nil_iff.2 fun m hm => by simp [best_eq_none_iff.1 hb m hm]
      simp [leader, hb, best_append_some hx, reaching_append_singleton, nobody, hx]
    | some s =>
      obtain ⟨m, rest, hr⟩ := List.exists_cons_of_ne_nil (reaching_ne_nil hb)
      have hlead : leader reg args seen = some ⟨m, s, rest.length + 1⟩ := by
        simp [leader, hb, hr]
      rw [hlead]
      simp only
      by_cases hlt : v < s
      · have hmax : max s v = s := Nat.max_eq_left (Nat.le_of_lt hlt)
        have hne : v ≠ s := Nat.ne_of_lt hlt
        simp [leader, best_append_some hx, hb, hmax, reaching_append_singleton, hr, hx, hne, hlt]
      · by_cases heq : v = s
        · subst heq
          simp [leader, best_append_some hx, hb, reaching_append_singleton, hr, hx]
        · have hgt : s < v := by omega
          have hmax : max s v = v := Nat.max_eq_right (Nat.le_of_lt hgt)
          have nobody := reaching_of_best_lt hb hgt
          simp [leader, best_append_some hx, hb, hmax, reaching_append_singleton, nobody, hx,
            hlt, heq]

/-- The pass over the rest of the candidates ends with what the rule gathers from all. -/
theorem foldl_consider_leader (seen : List Method) :
    ∀ rest : List Method,
      rest.foldl (Leader.consider reg args) (leader reg args seen) = leader reg args (seen ++ rest)
  | [] => by simp
  | x :: rest => by
    rw [List.foldl_cons, consider_leader, foldl_consider_leader (seen ++ [x]) rest,
      List.append_assoc, List.singleton_append]

/-- The best score of a list is that of any reordering of it. -/
theorem best_perm {cands cands' : List Method} (h : cands.Perm cands') :
    best reg cands args = best reg cands' args := by
  cases hb : best reg cands args with
  | none =>
    refine (best_eq_none_iff.2 fun m hm => best_eq_none_iff.1 hb m (h.mem_iff.2 hm)).symm
  | some s =>
    obtain ⟨⟨m, hm, hs⟩, bound⟩ := best_eq_some_iff.1 hb
    exact (best_eq_some_iff.2 ⟨⟨m, h.mem_iff.1 hm, hs⟩,
      fun m' hm' v hv => bound m' (h.mem_iff.2 hm') v hv⟩).symm

theorem verdict_perm {l l' : List Method} (h : l.Perm l') : verdict l = verdict l' := by
  cases l with
  | nil => rw [List.nil_perm.1 h]
  | cons m rest =>
    cases rest with
    | nil => rw [List.perm_singleton.1 h.symm]
    | cons m₂ rest =>
      obtain ⟨n, n₂, rest', rfl⟩ : ∃ n n₂ rest', l' = n :: n₂ :: rest' := by
        match l', h.length_eq with
        | n :: n₂ :: rest', _ => exact ⟨n, n₂, rest', rfl⟩
      simp only [verdict, h.length_eq]

/-- The rule does not depend on the order of the candidates. -/
theorem choose_perm {cands cands' : List Method} (h : cands.Perm cands') :
    choose reg cands args = choose reg cands' args := by
  unfold choose
  rw [best_perm h]
  cases best reg cands' args with
  | none => rfl
  | some s => exact verdict_perm (h.filter _)

end Specificity

/-- Overload selection follows the scoring rule: a single best candidate is chosen, several are
ambiguous with their number, none is not found, whatever the order of the candidates. -/
theorem selectMostSpecific_picks_unique_best (reg : Registry) (cands : List Method)
    (args : List Value) :
    (∀ m : Method, m.matchScore reg args = score reg m args) ∧
      selectMostSpecific reg cands args = choose reg cands args ∧
      ∀ cands' : List Method, cands'.Perm cands →
        selectMostSpecific reg cands' args = selectMostSpecific reg cands args := by
  have agrees : ∀ cs : List Method, selectMostSpecific reg cs args = choose reg cs args := by
    intro cs
    have pass : cs.foldl (Leader.consider reg args) none = leader reg args cs := by
      have := @foldl_consider_leader reg args [] cs
      rwa [leader_nil, List.nil_append] at this
    unfold selectMostSpecific choose
    rw [pass]
    cases hb : best reg cs args with
    | none => simp [leader, hb]
    | some s =>
      obtain ⟨m, rest, hr⟩ := List.exists_cons_of_ne_nil (reaching_ne_nil hb)
      cases rest with
      | nil => simp [leader, hb, hr, verdict]
      | cons m₂ rest => simp [leader, hb, hr, verdict]
  refine ⟨fun m => Method.matchScore_eq_score reg m args, agrees cands, fun cands' h => ?_⟩
  rw [agrees, agrees, choose_perm h]

namespace Specificity

/-- A method of one parameter of the type `p`. -/
def unary (p : ParamType) : Method := { name := "f", params := [p], body := .primitive .intAbs }

end Specificity

/-- Two overloads that declare the argument's own type tie above one that takes any value,
and selection reports both of them whichever way the three are listed. -/
theorem tied_overloads_ambiguous_in_any_order :
    [unary .any, unary (.exact TypeId.int), unary (.exact TypeId.int)].Perm
        [unary (.exact TypeId.int), unary .any, unary (.exact TypeId.int)] ∧
      selectMostSpecific Registry.empty
          [unary .any, unary (.exact TypeId.int), unary (.exact TypeId.int)] [.int 5] =
        selectMostSpecific Registry.empty
          [unary (.exact TypeId.int), unary .any, unary (.exact TypeId.int)] [.int 5] ∧
      choose Registry.empty [unary (.exact TypeId.int), unary .any, unary (.exact TypeId.int)]
        [.int 5] = .error (.ambiguous 2) := by
  have hperm : [unary .any, unary (.exact TypeId.int), unary (.exact TypeId.int)].Perm
      [unary (.exact TypeId.int), unary .any, unary (.exact TypeId.int)] := List.Perm.swap _ _ _
  obtain ⟨-, -, reordered⟩ := selectMostSpecific_picks_unique_best Registry.empty
    [unary (.exact TypeId.int), unary .any, unary (.exact TypeId.int)] [.int 5]
  exact ⟨hperm, reordered _ hperm, rfl⟩

end InlineCache
