import Mathlib
import InlineCache.Proofs.RegistryRuns
import InlineCache.Proofs.TableGuard
/-!
# Table stamps mark every replacement

A class's instance table is replaced by the definition of an instance method of the class
and by the removal of a name the table has, and by nothing else: a static method, the
removal of a name the table lacks, a new type and any change of another class or of a
foreign type leave it in place. Each replacement moves the table's revision on by one, and
the version counts every redefinition, the static ones included.

A table guard captured from a class compares the class's stamp, its id and the revision
of its table, so it accepts an instance of the class, with arguments of the captured
types, exactly as long as no step has replaced the table since the capture. A replaced
table has a stamp that no class had before, in any earlier registry, and a guard accepts
instances of its own class only.
-/
namespace InlineCache

namespace Step

/-- Whether the step replaces the instance table of `c`, known under `id`: it defines an
instance method of the class, or removes a name the table has. -/
def replacesTable (id : TypeId) (c : Class) : Step → Bool
  | .defineMethod cls _ _ => cls == id
  | .removeMethod cls name _ => cls == id && c.methods.contains name
  | _ => false

/-- Whether the step redefines `c`, known under `id`: it defines an instance or a static
method of the class, or removes a name its instance table has. -/
def redefines (id : TypeId) (c : Class) : Step → Bool
  | .defineMethod cls _ _ | .defineStatic cls _ _ => cls == id
  | .removeMethod cls name _ => cls == id && c.methods.contains name
  | _ => false

/-- A removal leaves the class as it is unless it names the class and a name its table has;
then the table loses the name and both stamps move on. -/
theorem onClass_removeMethod (id cls : TypeId) (c : Class) (name : String) (route : Route) :
    (removeMethod cls name route).onClass id c =
      if cls == id && c.methods.contains name then
        { c with methods := c.methods.erase name, version := c.version + 1,
                 revision := c.revision + 1 }
      else c := by
  by_cases hcls : cls = id
  · simp only [onClass, if_pos hcls, Class.removeMethod?]
    split <;> simp [*]
  · simp [onClass, hcls]

/-- A step moves the table revision of the class on exactly when it replaces the table. -/
theorem revision_onClass (id : TypeId) (c : Class) (s : Step) :
    (s.onClass id c).revision = c.revision + if s.replacesTable id c then 1 else 0 := by
  cases s with
  | defineMethod cls m _ =>
    by_cases hcls : cls = id
    · simp [onClass, replacesTable, hcls]
    · simp [onClass, replacesTable, hcls]
  | defineStatic cls m _ =>
    by_cases hcls : cls = id
    · simp [onClass, replacesTable, hcls]
    · simp [onClass, replacesTable, hcls]
  | removeMethod cls name _ =>
    cases h : (cls == id && c.methods.contains name) <;> simp [onClass_removeMethod, replacesTable, h]
  | _ => simp [onClass, replacesTable]

/-- A step moves the version of the class on exactly when it redefines the class. -/
theorem version_onClass (id : TypeId) (c : Class) (s : Step) :
    (s.onClass id c).version = c.version + if s.redefines id c then 1 else 0 := by
  cases s with
  | defineMethod cls m _ =>
    by_cases hcls : cls = id
    · simp [onClass, redefines, hcls, Class.defineMethod]
    · simp [onClass, redefines, hcls]
  | defineStatic cls m _ =>
    by_cases hcls : cls = id
    · simp [onClass, redefines, hcls, Class.defineStatic]
    · simp [onClass, redefines, hcls]
  | removeMethod cls name _ =>
    cases h : (cls == id && c.methods.contains name) <;> simp [onClass_removeMethod, redefines, h]
  | _ => simp [onClass, redefines]

end Step

namespace Class

/-- The number of steps of a run that `p` picks for the class `c`, known under `id`, each
judged on the class as the step finds it. -/
def countSteps (p : TypeId → Class → Step → Bool) (id : TypeId) : Class → List Step → Nat
  | _, [] => 0
  | c, s :: rest => (if p id c s then 1 else 0) + countSteps p id (s.onClass id c) rest

/-- What a run makes of a class is a later state of it. -/
theorem successor_foldl_onClass (id : TypeId) :
    ∀ (steps : List Step) (c : Class), c.Successor (steps.foldl (fun k s => s.onClass id k) c)
  | [], c => .refl c
  | s :: rest, c => (s.successor_onClass id c).trans (successor_foldl_onClass id rest _)

/-- A measure of the class that each step moves on by one exactly when `p` picks the step
is moved on, over a run, by the number of steps `p` picks. -/
theorem foldl_onClass_counts (p : TypeId → Class → Step → Bool) (f : Class → Nat) (id : TypeId)
    (step : ∀ c s, f (s.onClass id c) = f c + if p id c s then 1 else 0) :
    ∀ (steps : List Step) (c : Class),
      f (steps.foldl (fun k s => s.onClass id k) c) = f c + c.countSteps p id steps
  | [], c => rfl
  | s :: rest, c => by
    have later := foldl_onClass_counts p f id step rest (s.onClass id c)
    simp only [List.foldl_cons, countSteps] at later ⊢
    rw [later, step]
    omega

/-- The table revision of a class after a run counts the replacements of its table. -/
theorem revision_foldl_onClass (id : TypeId) (steps : List Step) (c : Class) :
    (steps.foldl (fun k s => s.onClass id k) c).revision =
      c.revision + c.countSteps Step.replacesTable id steps :=
  foldl_onClass_counts Step.replacesTable (·.revision) id (fun c s => s.revision_onClass id c) steps c

/-- The version of a class after a run counts its redefinitions. -/
theorem version_foldl_onClass (id : TypeId) (steps : List Step) (c : Class) :
    (steps.foldl (fun k s => s.onClass id k) c).version =
      c.version + c.countSteps Step.redefines id steps :=
  foldl_onClass_counts Step.redefines (·.version) id (fun c s => s.version_onClass id c) steps c

end Class

namespace Guard

/-- A table guard accepts an instance exactly when its class has the captured stamp and the
arguments have the captured types. -/
theorem dispatchTable_accepts_iff {reg : Registry} {stamp : TableStamp} {table : MethodTable}
    {shape : List TypeId} {ref : ObjectRef} {args : List Value} :
    (Guard.dispatchTable stamp table shape).accepts reg (.object ref) args = true ↔
      (∃ c, reg.class? ref.cls = some c ∧ c.stamp = stamp) ∧ shape = Value.shape args := by
  simp only [accepts, sameTypes, Bool.and_eq_true, beq_iff_eq]
  cases reg.class? ref.cls with
  | none => simp
  | some c => simp

/-- A table guard accepts instances of the stamp's class only. -/
theorem dispatchTable_accepts_owner {reg : Registry} {stamp : TableStamp} {table : MethodTable}
    {shape : List TypeId} {v : Value} {args : List Value}
    (h : (Guard.dispatchTable stamp table shape).accepts reg v args = true) :
    ∃ addr, v = .object ⟨addr, stamp.owner⟩ := by
  obtain ⟨ref, c, rfl, hc, hstamp, -⟩ := accepts_dispatchTable h
  refine ⟨ref.addr, ?_⟩
  rw [← hstamp, Class.stamp_owner, Registry.class?_id hc]

/-- A table guard rejects whatever is no instance of the stamp's class, in every registry. -/
theorem dispatchTable_rejects {reg : Registry} {stamp : TableStamp} {table : MethodTable}
    {shape : List TypeId} {v : Value} {args : List Value}
    (hv : ∀ addr, v ≠ .object ⟨addr, stamp.owner⟩) :
    (Guard.dispatchTable stamp table shape).accepts reg v args = false := by
  cases h : (Guard.dispatchTable stamp table shape).accepts reg v args with
  | false => rfl
  | true =>
    obtain ⟨addr, rfl⟩ := dispatchTable_accepts_owner h
    exact absurd rfl (hv addr)

end Guard

/-- A step that leaves a class's table in place leaves the verdict of every table guard of
that class as it was, on every receiver. -/
theorem Guard.dispatchTable_accepts_onRegistry {reg : Registry} {c : Class} {s : Step}
    (hc : reg.class? c.id = some c) (hkeep : s.replacesTable c.id c = false)
    {stamp : TableStamp} (howner : stamp.owner = c.id) (table : MethodTable) (shape : List TypeId)
    (v : Value) (args : List Value) :
    (Guard.dispatchTable stamp table shape).accepts (s.onRegistry reg) v args =
      (Guard.dispatchTable stamp table shape).accepts reg v args := by
  by_cases hinst : ∃ addr, v = .object ⟨addr, c.id⟩
  · obtain ⟨addr, rfl⟩ := hinst
    have same : (s.onClass c.id c).stamp = c.stamp := by
      have rev := s.revision_onClass c.id c
      rw [hkeep] at rev
      exact ((s.successor_onClass c.id c).stamp_eq_iff).2 (by simpa using rev)
    rw [Bool.eq_iff_iff, dispatchTable_accepts_iff, dispatchTable_accepts_iff,
      s.class?_onRegistry hc, hc]
    simp [same]
  · have other : ∀ addr, v ≠ .object ⟨addr, stamp.owner⟩ := fun addr h => hinst ⟨addr, howner ▸ h⟩
    rw [dispatchTable_rejects other, dispatchTable_rejects other]

/-- Along a run, the table guard of a target found on a class accepts an instance of the
class, with arguments of the captured types, exactly while no step has replaced the class's
table. -/
theorem Guard.selfDescribing_accepts_foldl {reg : Registry} {C : Class}
    (hC : reg.class? C.id = some C) (m : Method) (args₀ : List Value) (steps : List Step)
    {addr : Nat} {args : List Value} (hshape : Value.shape args = Value.shape args₀) :
    (Target.selfDescribing C m args₀).guard.accepts (steps.foldl Step.onRegistry reg)
        (.object ⟨addr, C.id⟩) args = true ↔ C.countSteps Step.replacesTable C.id steps = 0 := by
  have later := Registry.class?_foldl_onRegistry steps hC
  have stamp_iff := (Class.successor_foldl_onClass C.id steps C).stamp_eq_iff
  have rev := Class.revision_foldl_onClass C.id steps C
  simp only [Target.selfDescribing, Guard.dispatchTable_accepts_iff, later, Option.some.injEq,
    exists_eq_left', stamp_iff, rev, hshape, and_true]
  omega

/-- A step that replaces a class's table gives the class a stamp that no class had in any
earlier registry of the run. -/
theorem Step.replaced_stamp_new {reg : Registry} {steps : List Step} {s : Step} {id k : TypeId}
    {c c₀ : Class} (hc₀ : reg.class? k = some c₀)
    (hc : (steps.foldl Step.onRegistry reg).class? id = some c) (hrep : s.replacesTable id c = true) :
    (s.onClass id c).stamp ≠ c₀.stamp := by
  intro same
  by_cases hk : k = id
  · subst hk
    rw [Registry.class?_foldl_onRegistry steps hc₀, Option.some.injEq] at hc
    subst hc
    have grew := (Class.successor_foldl_onClass k steps c₀).revision_le
    have moved := s.revision_onClass k (steps.foldl (fun c s => s.onClass k c) c₀)
    have revisions := congrArg TableStamp.revision same
    simp only [hrep, if_true, Class.stamp_revision] at moved revisions
    omega
  · have owners := congrArg TableStamp.owner same
    simp only [Class.stamp_owner, (s.successor_onClass id c).id_eq, Registry.class?_id hc,
      Registry.class?_id hc₀] at owners
    exact hk owners.symm

/-- Removing a name a class's table lacks answers that nothing was removed and changes
nothing: not the registry, so neither the table nor the version, and no array, so no
listener hears of it. -/
theorem Queries.answer_removeMethod_absent {ctx : Context} {cls : TypeId} {c : Class}
    {name : String} (hc : ctx.registry.class? cls = some c) (absent : c.methods.contains name = false)
    (route : Route) :
    Queries.answer ctx (.removeMethod cls name route) =
      (.obj [("removed", .bool false), ("version", .int c.version)], ctx) := by
  have none : c.removeMethod? name = none := Class.removeMethod?_eq_none.2 absent
  simp only [Queries.answer, Queries.removeMethod, Queries.versionOf, hc, Option.bind_some, none,
    Option.map_some, Option.getD_some]

/-- A table guard accepts exactly while no step replaced its class's table: replacements take
fresh stamps, other steps keep every verdict, and the guard accepts its own class only. -/
theorem table_guards_detect_exactly_table_replacements :
    (∀ (ctx : Context) (C : Class) (m : Method) (args₀ : List Value) (steps : List Step),
      ctx.registry.class? C.id = some C →
      ∃ C', (steps.foldl (fun c s => (Queries.answer c s).2) ctx).registry.class? C.id = some C' ∧
        C'.version = C.version + C.countSteps Step.redefines C.id steps ∧
        ∀ (addr : Nat) (args : List Value), Value.shape args = Value.shape args₀ →
          ((Target.selfDescribing C m args₀).guard.accepts
              (steps.foldl (fun c s => (Queries.answer c s).2) ctx).registry
              (.object ⟨addr, C.id⟩) args = true ↔
            C.countSteps Step.replacesTable C.id steps = 0)) ∧
    (∀ (ctx : Context) (steps : List Step) (s : Step) (id k : TypeId) (c c₀ : Class),
      ctx.registry.class? k = some c₀ →
      (steps.foldl (fun c s => (Queries.answer c s).2) ctx).registry.class? id = some c →
      s.replacesTable id c = true →
      ∃ c', (Queries.answer (steps.foldl (fun c s => (Queries.answer c s).2) ctx) s).2.registry.class? id =
        some c' ∧ c'.stamp ≠ c₀.stamp) ∧
    (∀ (ctx : Context) (s : Step) (C c : Class) (m : Method) (args₀ : List Value) (v : Value)
      (args : List Value), ctx.registry.class? C.id = some c → s.replacesTable C.id c = false →
      (Target.selfDescribing C m args₀).guard.accepts (Queries.answer ctx s).2.registry v args =
        (Target.selfDescribing C m args₀).guard.accepts ctx.registry v args) ∧
    (∀ (ctx : Context) (cls : TypeId) (c : Class) (name : String) (route : Route),
      ctx.registry.class? cls = some c → c.methods.contains name = false →
      Queries.answer ctx (.removeMethod cls name route) =
        (.obj [("removed", .bool false), ("version", .int c.version)], ctx)) ∧
    ∀ (C : Class) (m : Method) (args₀ : List Value) (reg : Registry) (v : Value) (args : List Value),
      (Target.selfDescribing C m args₀).guard.accepts reg v args = true →
        ∃ addr, v = .object ⟨addr, C.id⟩ := by
  refine ⟨?_, ?_, ?_, fun _ _ _ _ route hc absent => Queries.answer_removeMethod_absent hc absent route,
    fun C _ _ _ _ _ h => Guard.dispatchTable_accepts_owner h⟩
  · intro ctx C m args₀ steps hC
    rw [Queries.foldl_answer_registry]
    exact ⟨_, Registry.class?_foldl_onRegistry steps hC, Class.version_foldl_onClass C.id steps C,
      fun addr args hshape => Guard.selfDescribing_accepts_foldl hC m args₀ steps hshape⟩
  · intro ctx steps s id k c c₀ hc₀ hc hrep
    rw [Queries.foldl_answer_registry] at hc
    rw [Queries.answer_registry, Queries.foldl_answer_registry, s.class?_onRegistry hc]
    exact ⟨_, rfl, Step.replaced_stamp_new hc₀ hc hrep⟩
  · intro ctx s C c m args₀ v args hc hkeep
    have hid : c.id = C.id := Registry.class?_id hc
    rw [Queries.answer_registry]
    exact Guard.dispatchTable_accepts_onRegistry (hid ▸ hc) (hid ▸ hkeep) hid.symm _ _ v args

namespace ShapeClass

/-- The method `name` of no parameters answering 0. -/
def returningZero (name : String) : Method :=
  { name, params := [], body := .script (.const (.plain (.int 0))) }

/-- A context that knows the class `Shape`, with `area` and `sides`. -/
def context : Context :=
  { registry := (Registry.empty.defineClass
      { name := "Shape", methods := [returningZero "area", returningZero "sides"] }).2 }

/-- `Shape` as it was defined. -/
def shape : Class :=
  ClassSpec.build { name := "Shape", methods := [returningZero "area", returningZero "sides"] } ⟨256⟩

/-- Removing `area` twice, directly. -/
def removeAreaTwice : List Step :=
  [.removeMethod ⟨256⟩ "area" .direct, .removeMethod ⟨256⟩ "area" .direct]

end ShapeClass

open ShapeClass in
/-- Removing `area` from `Shape` twice replaces the table once: the version is 1, and a
guard captured before no longer accepts an instance. -/
theorem removing_twice_replaces_once :
    context.registry.class? shape.id = some shape ∧
      ∃ C', (removeAreaTwice.foldl (fun c s => (Queries.answer c s).2) context).registry.class? shape.id =
          some C' ∧ C'.version = 1 ∧
        (Target.selfDescribing shape (returningZero "area") []).guard.accepts
          (removeAreaTwice.foldl (fun c s => (Queries.answer c s).2) context).registry
          (.object ⟨0, shape.id⟩) [] = false := by
  have known : context.registry.class? shape.id = some shape := rfl
  obtain ⟨C', later, version, accepts⟩ :=
    table_guards_detect_exactly_table_replacements.1 context shape (returningZero "area") []
      removeAreaTwice known
  have once : shape.countSteps Step.replacesTable shape.id removeAreaTwice = 1 := by decide
  have counted : shape.countSteps Step.redefines shape.id removeAreaTwice = 1 := by decide
  refine ⟨known, C', later, by rw [version, counted]; rfl, ?_⟩
  cases h : (Target.selfDescribing shape (returningZero "area") []).guard.accepts
    (removeAreaTwice.foldl (fun c s => (Queries.answer c s).2) context).registry (.object ⟨0, shape.id⟩) []
  · rfl
  · have := (accepts 0 [] rfl).1 h
    omega

end InlineCache
