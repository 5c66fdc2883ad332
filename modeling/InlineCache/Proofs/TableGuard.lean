import InlineCache.Proofs.QuerySteps
import InlineCache.Proofs.Resolution
import InlineCache.Proofs.Selection
/-!
# Table guards without invalidation

A self-describing target is guarded by the stamp of its receiver's class table and by the
exact types of its arguments. The search that made it read the class's own table and, when
the name was not there, the tables of the ancestors up to the first one that had it. When
every table that search read is still in place, a search in a registry changed only by
redefinitions finds the same overloads, and arguments of the same types make selection
pick the same method: the guard alone keeps the cached choice right, with no hub to reset
the site.

The condition cannot be dropped. When the method was inherited, replacing the ancestor's
table leaves the receiver's class and its stamp as they were, so the guard still accepts
while a fresh search finds the new method.
-/
namespace InlineCache

namespace Class

/-- The classes of a chain that a search for `name` reads, nearest first: those up to and
including the first whose instance table has the name. -/
def searched (name : String) : List Class → List Class
  | [] => []
  | k :: rest => k :: if k.methods.contains name then [] else searched name rest

end Class

/-- A table guard accepts only an instance of a class that has the captured stamp, with
arguments of the captured shape. -/
theorem Guard.accepts_dispatchTable {reg : Registry} {stamp : TableStamp} {table : MethodTable}
    {shape : List TypeId} {recv : Value} {args : List Value}
    (h : (Guard.dispatchTable stamp table shape).accepts reg recv args) :
    ∃ ref c, recv = .object ref ∧ reg.class? ref.cls = some c ∧ c.stamp = stamp ∧
      shape = Value.shape args := by
  simp only [accepts] at h
  split at h
  · next ref =>
    cases hc : reg.class? ref.cls with
    | none => simp [hc] at h
    | some c =>
      simp only [hc, Bool.and_eq_true, beq_iff_eq, sameTypes] at h
      exact ⟨ref, c, rfl, hc, h.1, h.2⟩
  · cases h

namespace Registry

/-- A search along a list of ids reads only the tables of the classes it passes: when each
of them still has its table in a redefined registry, the search finds the same table. -/
theorem find?_methods_congr {reg reg' : Registry} (h : reg.Redefines reg') (name : String) :
    ∀ ids : List TypeId,
      (∀ k ∈ Class.searched name (ids.filterMap reg.class?),
        (reg'.class? k.id).map Class.methods = some k.methods) →
      ((ids.filterMap reg'.class?).find? (·.methods.contains name)).map Class.methods =
        ((ids.filterMap reg.class?).find? (·.methods.contains name)).map Class.methods
  | [], _ => rfl
  | id :: rest, hread => by
    cases hc : reg.class? id with
    | none =>
      rw [List.filterMap_cons_none hc] at hread ⊢
      rw [List.filterMap_cons_none (h.class?_eq_none hc)]
      exact find?_methods_congr h name rest hread
    | some k =>
      obtain ⟨k', hk', -⟩ := h.evolves.classes id k hc
      rw [List.filterMap_cons_some hc] at hread ⊢
      rw [List.filterMap_cons_some hk']
      have same : k'.methods = k.methods := by
        have read := hread k (by simp [Class.searched])
        rw [class?_id hc, hk'] at read
        exact Option.some.inj read
      cases hname : k.methods.contains name with
      | true => simp only [List.find?_cons, same, hname, Option.map_some]
      | false =>
        have rest_read : ∀ j ∈ Class.searched name (rest.filterMap reg.class?),
            (reg'.class? j.id).map Class.methods = some j.methods :=
          fun j hj => hread j (by simp [Class.searched, hname, hj])
        simp only [List.find?_cons, same, hname]
        exact find?_methods_congr h name rest rest_read

/-- The instance overloads found for a later state of a class are the ones found before,
when every table the search read is still in place. -/
theorem findMethods_congr {reg reg' : Registry} (h : reg.Redefines reg') {c c' : Class}
    (hsucc : c.Successor c') (name : String)
    (hread : ∀ k ∈ Class.searched name (reg.ancestors c),
      (reg'.class? k.id).map Class.methods = some k.methods) :
    reg'.findMethods c' name = reg.findMethods c name := by
  have found := find?_methods_congr h name c.ancestry hread
  unfold findMethods ancestors
  rw [hsucc.ancestry_eq]
  revert found
  cases (c.ancestry.filterMap reg'.class?).find? (·.methods.contains name) <;>
    cases (c.ancestry.filterMap reg.class?).find? (·.methods.contains name) <;> simp_all

end Registry

/-- The instance search in a redefined registry runs the same method as before, when every
table the first search read is in place and the arguments are alike. -/
theorem Resolve.instanceCall_invocable_of_read {reg reg' : Registry} (h : reg.Redefines reg')
    {ref ref' : ObjectRef} {c : Class} {d : CallDescriptor} {a a' : List Value}
    (hcls : ref'.cls = ref.cls) (hc : reg.class? ref.cls = some c)
    (halike : List.Forall₂ (ArgAlike reg reg') a a')
    (hread : ∀ k ∈ Class.searched d.name (reg.ancestors c),
      (reg'.class? k.id).map Class.methods = some k.methods) :
    (instanceCall reg' (.object ref') d a').map Target.invocable =
      (instanceCall reg (.object ref) d a).map Target.invocable := by
  obtain ⟨c', hc', hsucc⟩ := h.evolves.classes _ c hc
  simp only [instanceCall, hcls, hc, hc', Registry.findMethods_congr h hsucc d.name hread,
    ← selectMostSpecific_congr halike]
  cases selectMostSpecific reg (reg.findMethods c d.name) a <;> rfl

/-- After any redefinitions, a table guard that accepts an instance call stands for a fresh
resolution, provided every table the resolution read is still in place. -/
theorem dispatchTable_guard_sound_of_tables_read {ctx later : Context} {steps : List Step}
    (hsteps : ∀ s ∈ steps, s.isRedefinition)
    (hlater : later = steps.foldl (fun c s => (Queries.answer c s).2) ctx)
    {ref₀ : ObjectRef} {c : Class} {recv : Value} {d : CallDescriptor} {a₀ a : List Value}
    {t : Target} (hres : resolve ctx.registry (.object ref₀) d a₀ = .ok t)
    (hv : t.variant = .selfDescribing) (hc : ctx.registry.class? ref₀.cls = some c)
    (htyped₀ : ∀ x ∈ a₀, ctx.registry.Typed x) (htyped : ∀ x ∈ a, later.registry.Typed x)
    (hacc : t.guard.accepts later.registry recv a)
    (hread : ∀ k ∈ Class.searched d.name (ctx.registry.ancestors c),
      (later.registry.class? k.id).map Class.methods = some k.methods) :
    ∃ t', resolve later.registry recv d a = .ok t' ∧ t'.invocable = t.invocable := by
  have hreg : ctx.registry.Redefines later.registry :=
    hlater ▸ Queries.foldl_answer_redefines hsteps ctx
  obtain ⟨ref₁, c₁, m, hobj, hc₁, -, rfl⟩ := resolve_selfDescribing hres hv
  cases hobj
  rw [hc] at hc₁
  cases hc₁
  obtain ⟨ref, c', rfl, hc', hstamp, hshape⟩ := Guard.accepts_dispatchTable hacc
  have hcls : ref.cls = ref₀.cls := by
    have owner := congrArg TableStamp.owner hstamp
    simp only [Class.stamp_owner] at owner
    rw [← Registry.class?_id hc', owner, Registry.class?_id hc]
  have halike := argAlike_of_shape hreg htyped₀ htyped hshape
  have same := resolve_object_invocable hcls hshape.symm
    (Resolve.instanceCall_invocable_of_read hreg hcls hc halike hread)
  rw [hres] at same
  cases hfresh : resolve later.registry (.object ref) d a with
  | error e =>
    rw [hfresh] at same
    cases same
  | ok t' =>
    rw [hfresh] at same
    exact ⟨t', rfl, by injection same⟩

namespace TwoClasses

/-- The method `m` answering `n`. -/
def answering (n : Int64) : Method :=
  { name := "m", params := [], body := .script (.const (.plain (.int n))) }

/-- The class `B`, under `A`, with the instance methods `own`. -/
def classB (own : List Method) : Class :=
  ClassSpec.build { name := "B", lineage := [⟨256⟩], methods := own } ⟨257⟩

/-- A context that knows `A`, whose `m` answers 1, and `B` under it; the hub does not
listen. -/
def context (own : List Method) : Context :=
  { registry := ((Registry.empty.defineClass { name := "A", methods := [answering 1] }).2.defineClass
      { name := "B", lineage := [⟨256⟩], methods := own }).2 }

/-- An instance of `B`. -/
def instB : Value := .object ⟨0, ⟨257⟩⟩

/-- An instance call of `m`. -/
def callM : CallDescriptor := { name := "m", kind := .inst }

/-- `A`'s `m` redefined through the registry, to answer 2. -/
def redefineA : Step := .defineMethod ⟨256⟩ (answering 2) .registry

/-- The context after the redefinition. -/
def later (own : List Method) : Context :=
  [redefineA].foldl (fun c s => (Queries.answer c s).2) (context own)

/-- The target of a call of `m` on `B` that runs the method answering `n`. -/
def cachedOn (own : List Method) (n : Int64) : Target :=
  Target.selfDescribing (classB own) (answering n) []

end TwoClasses

open TwoClasses in
/-- A method of `B`'s own table outlives the redefinition of `A`'s method of the same name:
the guard accepts, and a fresh resolution runs `B`'s method. -/
theorem own_method_outlives_ancestor_redefinition :
    resolve (context [answering 3]).registry instB callM [] = .ok (cachedOn [answering 3] 3) ∧
      (cachedOn [answering 3] 3).guard.accepts (later [answering 3]).registry instB [] ∧
      ∃ t', resolve (later [answering 3]).registry instB callM [] = .ok t' ∧
        t'.invocable = (cachedOn [answering 3] 3).invocable := by
  have searched_B : Class.searched "m"
      ((context [answering 3]).registry.ancestors (classB [answering 3])) = [classB [answering 3]] :=
    rfl
  have hread : ∀ k ∈ Class.searched "m"
      ((context [answering 3]).registry.ancestors (classB [answering 3])),
      ((later [answering 3]).registry.class? k.id).map Class.methods = some k.methods := by
    rw [searched_B]
    intro k hk
    rw [List.mem_singleton] at hk
    subst hk
    rfl
  exact ⟨rfl, rfl, @dispatchTable_guard_sound_of_tables_read (context [answering 3])
    (later [answering 3]) [redefineA] (by decide) rfl ⟨0, ⟨257⟩⟩ (classB [answering 3]) instB
    callM [] [] (cachedOn [answering 3] 3) rfl rfl rfl (by simp) (by simp) rfl hread⟩

open TwoClasses in
/-- A redefinition of an inherited method passes the table guard: `A`'s table is replaced,
`B`'s stamp is not, and a fresh resolution runs the new method. -/
theorem inherited_redefinition_escapes_table_guard :
    resolve (context []).registry instB callM [] = .ok (cachedOn [] 1) ∧
      (cachedOn [] 1).guard.accepts (later []).registry instB [] ∧
      resolve (later []).registry instB callM [] = .ok (cachedOn [] 2) ∧
      (cachedOn [] 2).invocable ≠ (cachedOn [] 1).invocable := by
  refine ⟨rfl, rfl, rfl, ?_⟩
  simp [cachedOn, Target.selfDescribing, answering]

end InlineCache
