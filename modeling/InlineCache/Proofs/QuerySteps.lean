import InlineCache.Script.Queries
import InlineCache.Proofs.Redefinition
/-!
# What the steps that call no method change

Telling the registry's listeners resets arrays and leaves the registry alone, so a
redefinition changes the registry in the same way whether or not the hub listens: by one
class or foreign type, which stays a later state of itself. A run of redefinitions
therefore knows the same classes, with the same ancestors, as the registry it started
from.
-/
namespace InlineCache

namespace Context

@[simp] theorem modifyArray_registry (ctx : Context) (a : Nat) (f : SiteArray → SiteArray) :
    (ctx.modifyArray a f).registry = ctx.registry := rfl

@[simp] theorem pruneHub_registry (ctx : Context) : ctx.pruneHub.registry = ctx.registry := rfl

/-- Resetting arrays through the hub leaves the registry alone. -/
@[simp] theorem hubInvalidateAll_registry (ctx : Context) :
    ctx.hubInvalidateAll.2.registry = ctx.registry := by
  have keeps : ∀ (hub : List Nat) (c : Context),
      (hub.foldl (fun c a => c.modifyArray a SiteArray.resetAll) c).registry = c.registry := by
    intro hub
    induction hub with
    | nil => intro c; rfl
    | cons a rest ih => intro c; simp [ih]
  simp [hubInvalidateAll, keeps]

@[simp] theorem notify_registry (ctx : Context) : ctx.notify.registry = ctx.registry := by
  unfold notify
  split <;> simp

end Context

namespace Step

/-- Whether the step redefines a method of a class or of a foreign type, through the
registry or directly. -/
def isRedefinition : Step → Bool
  | .defineMethod .. | .defineStatic .. | .removeMethod .. | .defineForeignMethod .. => true
  | _ => false

end Step

namespace Queries

@[simp] theorem redefine_registry (ctx : Context) (route : Route) (reg : Registry) :
    (redefine ctx route reg).registry = reg := by
  cases route <;> simp [redefine]

/-- A redefinition step changes the registry by redefinitions only. -/
theorem answer_redefines {ctx : Context} {s : Step} (hs : s.isRedefinition) :
    ctx.registry.Redefines (answer ctx s).2.registry := by
  cases s with
  | defineMethod cls m route =>
    simp only [answer, defineMethod, Bool.false_eq_true, ite_false, redefine_registry]
    exact Registry.redefines_updateClass (fun c hc => hc) fun c _ => c.successor_defineMethod m
  | defineStatic cls m route =>
    simp only [answer, defineMethod, ite_true, redefine_registry]
    exact Registry.redefines_updateClass (fun c hc => hc) fun c _ => c.successor_defineStatic m
  | removeMethod cls name route =>
    simp only [answer, removeMethod]
    split
    · next c' found =>
      obtain ⟨c, hc, removed⟩ := Option.bind_eq_some_iff.1 found
      have hid : c'.id = cls := (Class.removeMethod?_eq_some removed).2.1.trans (Registry.class?_id hc)
      simp only [redefine_registry]
      refine Registry.redefines_updateClass (fun _ _ => hid) fun k hk => ?_
      rw [hc] at hk
      cases hk
      exact Class.successor_removeMethod removed
    · exact .refl _
  | defineForeignMethod ty m route =>
    simp only [answer, defineForeignMethod, redefine_registry]
    exact Registry.redefines_updateForeign _ ty m
  | _ => simp [Step.isRedefinition] at hs

/-- A run of redefinition steps changes the registry by redefinitions only. -/
theorem foldl_answer_redefines {steps : List Step} (hsteps : ∀ s ∈ steps, s.isRedefinition)
    (ctx : Context) : ctx.registry.Redefines (steps.foldl (fun c s => (answer c s).2) ctx).registry := by
  induction steps generalizing ctx with
  | nil => exact .refl _
  | cons s rest ih =>
    have first : ctx.registry.Redefines (answer ctx s).2.registry :=
      answer_redefines (hsteps s (by simp))
    exact first.trans (ih (fun s' hs' => hsteps s' (by simp [hs'])) _)

/-- Every step that calls no method leaves a later state of the registry: definitions add
classes and foreign types, redefinitions replace tables, and the other steps leave it. -/
theorem answer_evolves (ctx : Context) (s : Step) :
    ctx.registry.Evolves (answer ctx s).2.registry := by
  cases s with
  | defineClass spec =>
    simp only [answer, defineClass]
    exact Registry.evolves_defineClass _ _
  | defineForeign name ms =>
    simp only [answer, defineForeign]
    exact Registry.evolves_defineForeign _ _ _
  | allocateTypeId =>
    simp only [answer]
    exact Registry.evolves_allocate _
  | defineMethod cls m route => exact (answer_redefines rfl).evolves
  | defineStatic cls m route => exact (answer_redefines rfl).evolves
  | removeMethod cls name route => exact (answer_redefines rfl).evolves
  | defineForeignMethod ty m route => exact (answer_redefines rfl).evolves
  | _ =>
    have same : ∀ reg', reg' = ctx.registry → ctx.registry.Evolves reg' := fun _ h => h ▸ .refl _
    apply same
    simp only [answer, newArray, setField, Context.hubInvalidateAll_registry,
      Context.pruneHub_registry]
    repeat' split
    all_goals rfl

end Queries

end InlineCache
