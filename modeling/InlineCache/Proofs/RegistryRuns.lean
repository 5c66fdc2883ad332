import Mathlib
import InlineCache.Proofs.QuerySteps
import InlineCache.Proofs.FreshIds
/-!
# Runs of registry steps

The steps that define types and redefine methods change the registry; every other step
that calls no method leaves it alone. What a step does to the registry depends on the
registry and the step only, not on the arrays, the hub or the names the scenario has
given: `Step.onRegistry` says it once, and the registry after a run of steps is its fold.

A class the registry knows stays known under its id, and what a step does to it depends on
the class and the step only (`Step.onClass`): a definition of a new type, a change of
another class and a change of a foreign type leave it as it is.
-/
namespace InlineCache

namespace Step

/-- What a step that calls no method does to the registry. -/
def onRegistry (reg : Registry) : Step → Registry
  | .defineClass spec => (reg.defineClass spec).2
  | .defineForeign name ms => (reg.defineForeign name ms).2
  | .allocateTypeId => reg.allocate.2
  | .defineMethod cls m _ => reg.updateClass cls (·.defineMethod m)
  | .defineStatic cls m _ => reg.updateClass cls (·.defineStatic m)
  | .removeMethod cls name _ =>
    match (reg.class? cls).bind (·.removeMethod? name) with
    | some c' => reg.updateClass cls fun _ => c'
    | none => reg
  | .defineForeignMethod ty m _ => reg.updateForeign ty (·.defineMethod m)
  | _ => reg

/-- What a step does to the class `c`, known under `id`. -/
def onClass (id : TypeId) (c : Class) : Step → Class
  | .defineMethod cls m _ => if cls = id then c.defineMethod m else c
  | .defineStatic cls m _ => if cls = id then c.defineStatic m else c
  | .removeMethod cls name _ => if cls = id then (c.removeMethod? name).getD c else c
  | _ => c

end Step

namespace Queries

/-- The registry after a step is the step's effect on the registry before it. -/
theorem answer_registry (ctx : Context) (s : Step) :
    (answer ctx s).2.registry = s.onRegistry ctx.registry := by
  cases s with
  | removeMethod cls name route =>
    simp only [answer, removeMethod, Step.onRegistry]
    cases (ctx.registry.class? cls).bind (·.removeMethod? name) with
    | some c' => simp
    | none => rfl
  | _ =>
    simp only [answer, Step.onRegistry, defineClass, defineForeign, defineMethod,
      defineForeignMethod, newArray, setField, redefine_registry, Context.hubInvalidateAll_registry,
      Context.pruneHub_registry, Bool.false_eq_true, ite_true, ite_false]
    repeat' split
    all_goals rfl

/-- The registry after a run of steps is the fold of their effects. -/
theorem foldl_answer_registry (steps : List Step) (ctx : Context) :
    (steps.foldl (fun c s => (answer c s).2) ctx).registry = steps.foldl Step.onRegistry ctx.registry := by
  induction steps generalizing ctx with
  | nil => rfl
  | cons s rest ih => simp only [List.foldl_cons, ih, answer_registry]

end Queries

namespace Registry

/-- A known class, after the classes of `cls` are changed by `f`: changed when it is one of
them, as it was otherwise. -/
theorem class?_updateClass_of {reg : Registry} {id cls : TypeId} {c : Class} {f : Class → Class}
    (hf : ∀ k : Class, k.id = cls → (f k).id = cls) (hc : reg.class? id = some c) :
    (reg.updateClass cls f).class? id = some (if cls = id then f c else c) := by
  by_cases hcls : cls = id
  · subst hcls
    rw [class?_updateClass_self hf, hc, if_pos rfl]
    rfl
  · rw [class?_updateClass_ne hf (Ne.symm hcls), hc, if_neg hcls]

/-- A removal that goes through was made of a class the registry has under `cls`, and what
it made keeps that id. -/
theorem removal_found {reg : Registry} {cls : TypeId} {name : String} {c' : Class}
    (found : (reg.class? cls).bind (·.removeMethod? name) = some c') :
    ∃ c, reg.class? cls = some c ∧ c.removeMethod? name = some c' ∧ c'.id = cls := by
  obtain ⟨c, hc, removed⟩ := Option.bind_eq_some_iff.1 found
  exact ⟨c, hc, removed, (Class.removeMethod?_eq_some removed).2.1.trans (class?_id hc)⟩

end Registry

namespace Step

/-- A step finds a known class under its id and leaves there what it makes of it. -/
theorem class?_onRegistry {reg : Registry} {id : TypeId} {c : Class} (hc : reg.class? id = some c)
    (s : Step) : (s.onRegistry reg).class? id = some (s.onClass id c) := by
  cases s with
  | defineClass spec => simp [onRegistry, onClass, Registry.class?_defineClass, hc]
  | defineForeign name ms => simpa [onRegistry, onClass] using hc
  | allocateTypeId => simpa [onRegistry, onClass] using hc
  | defineMethod cls m route =>
    exact Registry.class?_updateClass_of (f := (·.defineMethod m)) (fun _ h => h) hc
  | defineStatic cls m route =>
    exact Registry.class?_updateClass_of (f := (·.defineStatic m)) (fun _ h => h) hc
  | removeMethod cls name route =>
    simp only [onRegistry, onClass]
    split
    · next c' found =>
      obtain ⟨k, hk, removed, hid⟩ := Registry.removal_found found
      rw [Registry.class?_updateClass_of (fun _ _ => hid) hc]
      by_cases hcls : cls = id
      · subst hcls
        rw [hc] at hk
        cases hk
        rw [if_pos rfl, if_pos rfl, removed]
        rfl
      · rw [if_neg hcls, if_neg hcls]
    · next none =>
      by_cases hcls : cls = id
      · subst hcls
        rw [hc, Option.bind_some] at none
        rw [hc, if_pos rfl, none]
        rfl
      · rw [hc, if_neg hcls]
  | defineForeignMethod ty m route => simpa [onRegistry, onClass] using hc
  | _ => simpa [onRegistry, onClass] using hc

/-- What a step makes of a class is a later state of it. -/
theorem successor_onClass (id : TypeId) (c : Class) (s : Step) : c.Successor (s.onClass id c) := by
  cases s with
  | defineMethod cls m _ =>
    by_cases hcls : cls = id
    · simp only [onClass, if_pos hcls]
      exact c.successor_defineMethod m
    · simp only [onClass, if_neg hcls]
      exact .refl c
  | defineStatic cls m _ =>
    by_cases hcls : cls = id
    · simp only [onClass, if_pos hcls]
      exact c.successor_defineStatic m
    · simp only [onClass, if_neg hcls]
      exact .refl c
  | removeMethod cls name _ =>
    by_cases hcls : cls = id
    · simp only [onClass, if_pos hcls]
      cases hr : c.removeMethod? name with
      | none => exact .refl c
      | some c' => exact Class.successor_removeMethod hr
    · simp only [onClass, if_neg hcls]
      exact .refl c
  | _ => exact .refl c

end Step

/-- A known class stays known through a run, as the fold of what each step makes of it. -/
theorem Registry.class?_foldl_onRegistry {id : TypeId} :
    ∀ (steps : List Step) {reg : Registry} {c : Class}, reg.class? id = some c →
      (steps.foldl Step.onRegistry reg).class? id = some (steps.foldl (fun k s => s.onClass id k) c)
  | [], _, _, hc => hc
  | s :: rest, _, _, hc => class?_foldl_onRegistry rest (s.class?_onRegistry hc)

end InlineCache
