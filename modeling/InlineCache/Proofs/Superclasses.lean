import Mathlib
import InlineCache.Proofs.IdAllocation
/-!
# Superclass chains

A class records the ids of its superclass and of the classes above it, nearest first, as
they were when it was defined, and the registry finds every class by its id. Following
superclass links through the registry is a walk: a class, its superclass, that class's
superclass, and so on, until a class without one.

A class is only defined on top of a class the registry has. It records that class followed
by that class's own line, so each link of a walk leads to a class whose line is one shorter.
The walk therefore ends, passes no class twice, is at most as long as the registry has
classes, and is the chain the registry's searches go through: a class inherits from a type
exactly when the type is on it, and a search for a method name answers the overloads of the
nearest class on it whose table has the name.

Ids fall along every chain as long as the id counter has not wrapped: a class takes the next
id, which lies above every id handed out before it, so above its superclass's. After
`2 ^ 32 - 256` ids the counter wraps, and a class defined then has a smaller id than the
class it extends.
-/
namespace InlineCache

namespace Registry

/-- Following superclass links through the registry from a class visits `chain`, that class
first, and stops at a class without a superclass. -/
inductive SuperChain (reg : Registry) : Class → List Class → Prop
  | root {c : Class} : c.superclass? = none → SuperChain reg c [c]
  | link {c k : Class} {s : TypeId} {ks : List Class} : c.superclass? = some s →
      reg.class? s = some k → SuperChain reg k ks → SuperChain reg c (c :: ks)

namespace SuperChain

variable {reg : Registry}

/-- The walk from a class is determined by the registry. -/
theorem unique {c : Class} {ks ks' : List Class} (h : reg.SuperChain c ks)
    (h' : reg.SuperChain c ks') : ks = ks' := by
  induction h generalizing ks' with
  | root none =>
    cases h' with
    | root _ => rfl
    | link some _ _ => rw [none] at some; cases some
  | link sup found _ ih =>
    cases h' with
    | root none => rw [sup] at none; cases none
    | link sup' found' rest' =>
      rw [sup, Option.some.injEq] at sup'
      subst sup'
      rw [found, Option.some.injEq] at found'
      subst found'
      rw [ih rest']

/-- A walk from a class of the registry visits only classes of the registry. -/
theorem mem_classes {c : Class} {ks : List Class} (h : reg.SuperChain c ks) (hc : c ∈ reg.classes) :
    ∀ k ∈ ks, k ∈ reg.classes := by
  induction h with
  | root _ =>
    intro k hk
    rw [List.mem_singleton] at hk
    exact hk ▸ hc
  | link _ found _ ih =>
    intro k hk
    rcases List.mem_cons.1 hk with rfl | hk
    · exact hc
    · exact ih (List.mem_of_find?_eq_some found) k hk

end SuperChain

/-- Every class of the registry recorded the line of a class the registry has: a class with
a superclass finds it under its id, and the rest of the class's line is that class's own
line. -/
def Linked (reg : Registry) : Prop :=
  ∀ id c s rest, reg.class? id = some c → c.lineage = s :: rest →
    ∃ k, reg.class? s = some k ∧ k.lineage = rest

/-- Every class's superclass has a smaller id than the class. -/
def Descending (reg : Registry) : Prop :=
  ∀ id c s, reg.class? id = some c → c.superclass? = some s → s.raw.toNat < c.id.raw.toNat

end Registry

namespace Step

/-- A class definition extends a class the registry has, or no class: the superclass a class
builder is given is a class already defined. -/
def ParentKnown (reg : Registry) : Step → Prop
  | .defineClass spec => spec.lineage = [] ∨ ∃ id k, reg.class? id = some k ∧ spec.lineage = k.ancestry
  | _ => True

variable {reg : Registry} {x : TypeId} {c' : Class}

/-- A class defined with a superclass extends a class the registry has: the superclass is that
class's id and the rest of the new line is that class's own line. -/
theorem ParentKnown.found_of_lineage {spec : ClassSpec} (parent : (defineClass spec).ParentKnown reg)
    {s : TypeId} {rest : List TypeId} (line : (spec.build x).lineage = s :: rest) :
    ∃ y k, reg.class? y = some k ∧ s = k.id ∧ rest = k.lineage := by
  simp only [ParentKnown] at parent
  rcases parent with noParent | ⟨y, k, hk, extended⟩
  · simp [ClassSpec.build, noParent] at line
  · have ancestry : k.id :: k.lineage = s :: rest := by
      rw [← line]
      exact extended.symm
    obtain ⟨rfl, rfl⟩ := List.cons.inj ancestry
    exact ⟨y, k, hk, rfl, rfl⟩

/-- A class found under an id that named no class is the one a class definition just made,
under the id it took. -/
theorem class?_onRegistry_of_none (s : Step) (none : reg.class? x = none)
    (h : (s.onRegistry reg).class? x = some c') :
    ∃ spec, s = .defineClass spec ∧ reg.allocate.1 = x ∧ c' = spec.build x := by
  cases s with
  | defineClass spec =>
    rw [onRegistry, Registry.class?_defineClass, none, Option.none_or] at h
    split at h
    · next fresh =>
      cases h
      exact ⟨spec, rfl, fresh, by rw [fresh]⟩
    · cases h
  | defineMethod cls m _ =>
    rw [onRegistry, Registry.class?_updateClass (f := (·.defineMethod m)) (fun _ same => same),
      none] at h
    cases h
  | defineStatic cls m _ =>
    rw [onRegistry, Registry.class?_updateClass (f := (·.defineStatic m)) (fun _ same => same),
      none] at h
    cases h
  | removeMethod cls name _ =>
    simp only [onRegistry] at h
    split at h
    · next found =>
      obtain ⟨-, -, -, hid⟩ := Registry.removal_found found
      rw [Registry.class?_updateClass (fun _ _ => hid), none] at h
      cases h
    · rw [none] at h
      cases h
  | _ => simp [onRegistry, none] at h

/-- A class found before a step is found after it as a later state of itself, and one found
only after it is the class the step defines. -/
theorem class?_onRegistry_cases (s : Step) (h : (s.onRegistry reg).class? x = some c') :
    (∃ c, reg.class? x = some c ∧ c.Successor c') ∨
      ∃ spec, s = .defineClass spec ∧ reg.class? x = none ∧ reg.allocate.1 = x ∧
        c' = spec.build x := by
  cases hold : reg.class? x with
  | some c =>
    have after := s.class?_onRegistry hold
    rw [h, Option.some.injEq] at after
    exact .inl ⟨c, rfl, after ▸ s.successor_onClass x c⟩
  | none =>
    obtain ⟨spec, rfl, fresh, rfl⟩ := s.class?_onRegistry_of_none hold h
    exact .inr ⟨spec, rfl, rfl, fresh, rfl⟩

end Step

namespace Registry

/-- Every class a run defines extends a class the registry has at that point, or none. -/
def ParentsKnown : Registry → List Step → Prop
  | _, [] => True
  | reg, s :: rest => s.ParentKnown reg ∧ (s.onRegistry reg).ParentsKnown rest

/-- A class found under some id is found under its own. -/
theorem class?_self {reg : Registry} {id : TypeId} {c : Class} (h : reg.class? id = some c) :
    reg.class? c.id = some c := by
  rw [class?_id h]
  exact h

/-- A class found before a step is found after it, with the same line. -/
theorem lineage_onRegistry {reg : Registry} {id : TypeId} {k : Class} (hk : reg.class? id = some k)
    (s : Step) : ∃ k', (s.onRegistry reg).class? id = some k' ∧ k'.lineage = k.lineage :=
  ⟨_, s.class?_onRegistry hk, (s.successor_onClass id k).lineage_eq⟩

namespace Linked

/-- A registry without classes. -/
theorem of_classes_nil {reg : Registry} (h : reg.classes = []) : reg.Linked := by
  intro id c _ _ hc
  simp [class?, h] at hc

/-- A step keeps every line linked when the class it defines, if any, extends a known class. -/
theorem onRegistry {reg : Registry} (h : reg.Linked) (s : Step) (parent : s.ParentKnown reg) :
    (s.onRegistry reg).Linked := by
  intro x c' sup rest found line
  rcases s.class?_onRegistry_cases found with ⟨c, old, later⟩ | ⟨spec, rfl, -, -, rfl⟩
  · obtain ⟨k, hk, krest⟩ := h x c sup rest old (later.lineage_eq ▸ line)
    obtain ⟨k', hk', same⟩ := lineage_onRegistry hk _
    exact ⟨k', hk', same.trans krest⟩
  · obtain ⟨y, k, hk, rfl, rfl⟩ := parent.found_of_lineage line
    exact lineage_onRegistry (class?_self hk) _

/-- With every line linked, the walk from a class of the registry is the chain of classes
its line names, which the registry's searches go through. -/
theorem walk {reg : Registry} (h : reg.Linked) :
    ∀ (l : List TypeId) {id : TypeId} {c : Class}, reg.class? id = some c → c.lineage = l →
      reg.SuperChain c (reg.ancestors c) ∧ (reg.ancestors c).map (·.id) = c.ancestry
  | [], _, c, found, line => by
    have chain : reg.ancestors c = [c] := by
      simp [ancestors, Class.ancestry, line, class?_self found]
    rw [chain]
    exact ⟨.root (by simp [Class.superclass?, line]), by simp [Class.ancestry, line]⟩
  | s :: rest, id, c, found, line => by
    obtain ⟨k, hk, krest⟩ := h id c s rest found line
    obtain ⟨above, aboveIds⟩ := walk h rest hk krest
    have chain : reg.ancestors c = c :: reg.ancestors k := by
      simp only [ancestors, Class.ancestry, line, List.filterMap_cons, class?_self found,
        class?_id hk, krest]
    rw [chain]
    refine ⟨.link (by simp [Class.superclass?, line]) hk above, ?_⟩
    rw [List.map_cons, aboveIds, Class.ancestry, Class.ancestry, line, class?_id hk, krest]

/-- Along a walk from a class of the registry, each class has a shorter line than the one
before: a walk passes no class twice. -/
theorem walk_lineage_falls {reg : Registry} (h : reg.Linked) {c : Class} {ks : List Class}
    (walk : reg.SuperChain c ks) {id : TypeId} (found : reg.class? id = some c) :
    ks.Pairwise (fun a b => b.lineage.length < a.lineage.length) ∧
      ∀ b ∈ ks, b.lineage.length ≤ c.lineage.length := by
  induction walk generalizing id with
  | root _ => simp
  | @link c k s ks sup hk _ ih =>
    obtain ⟨falls, below⟩ := ih hk
    have shorter : k.lineage.length < c.lineage.length := by
      obtain ⟨tail, line⟩ := List.head?_eq_some_iff.1 sup
      obtain ⟨k', hk', krest⟩ := h id c s tail found line
      rw [hk, Option.some.injEq] at hk'
      rw [hk', krest, line, List.length_cons]
      omega
    refine ⟨List.pairwise_cons.2 ⟨fun b hb => Nat.lt_of_le_of_lt (below b hb) shorter, falls⟩, ?_⟩
    intro b hb
    rcases List.mem_cons.1 hb with rfl | hb
    · exact Nat.le_refl _
    · exact Nat.le_of_lt (Nat.lt_of_le_of_lt (below b hb) shorter)

/-- A run keeps every line linked when each class it defines extends a known class. -/
theorem foldl_onRegistry :
    ∀ (steps : List Step) {reg : Registry}, reg.Linked → reg.ParentsKnown steps →
      (steps.foldl Step.onRegistry reg).Linked
  | [], _, h, _ => h
  | s :: rest, _, h, ⟨parent, parents⟩ => foldl_onRegistry rest (h.onRegistry s parent) parents

end Linked

namespace Descending

/-- A registry without classes. -/
theorem of_classes_nil {reg : Registry} (h : reg.classes = []) : reg.Descending := by
  intro id c _ hc
  simp [class?, h] at hc

/-- A step keeps superclass ids below class ids when the class it defines, if any, extends a
known class and the counter has room for the id it takes. -/
theorem onRegistry {reg : Registry} (h : reg.Descending) (ids : reg.IdsApart) (s : Step)
    (parent : s.ParentKnown reg) (room : reg.bound + (if s.takesId then 1 else 0) ≤ 2 ^ 32) :
    (s.onRegistry reg).Descending := by
  intro x c' sup found above
  rcases s.class?_onRegistry_cases found with ⟨c, old, later⟩ | ⟨spec, rfl, -, fresh, rfl⟩
  · rw [later.id_eq]
    exact h x c sup old (by rw [Class.superclass?, ← later.lineage_eq]; exact above)
  · obtain ⟨tail, line⟩ := List.head?_eq_some_iff.1 above
    obtain ⟨y, k, hk, rfl, -⟩ := parent.found_of_lineage line
    have below : k.id.raw.toNat < reg.bound :=
      ids.lt_bound (List.mem_append_left _ (List.mem_map_of_mem (List.mem_of_find?_eq_some
        (class?_self hk))))
    have taken : reg.allocate.1.raw.toNat = reg.bound :=
      nextId_toNat (by simp [Step.takesId] at room; omega)
    simpa [ClassSpec.build, ← fresh, taken] using below

/-- A run keeps superclass ids below class ids while the counter has room for the ids it
takes, when each class it defines extends a known class. -/
theorem foldl_onRegistry :
    ∀ (steps : List Step) {reg : Registry}, reg.Descending → reg.IdsApart →
      reg.ParentsKnown steps → reg.bound + steps.countP Step.takesId ≤ 2 ^ 32 →
      (steps.foldl Step.onRegistry reg).Descending
  | [], _, h, _, _, _ => h
  | s :: rest, reg, h, ids, ⟨parent, parents⟩, room => by
    rw [List.countP_cons] at room
    have next : (s.onRegistry reg).bound = reg.bound + if s.takesId then 1 else 0 := by
      simp only [bound, Step.allocated_onRegistry]
      omega
    exact foldl_onRegistry rest (h.onRegistry ids s parent (by omega))
      (ids.onRegistry s (by omega)) parents (by omega)

end Descending

/-- `result` is what a search of `chain` for the name `n` answers, nearest first, reading
the table `table` picks of each class: the overloads of `n`, in table order, of the first
class whose table has the name, or nothing when no table on the chain has it. -/
def NearestOverloads (table : Class → MethodTable) (chain : List Class) (n : String)
    (result : List Method) : Prop :=
  (∃ pre k post, chain = pre ++ k :: post ∧ (∀ j ∈ pre, (table j).contains n = false) ∧
      (table k).contains n = true ∧ result = (table k).lookup n) ∨
    ((∀ k ∈ chain, (table k).contains n = false) ∧ result = [])

namespace NearestOverloads

variable {table : Class → MethodTable} {chain : List Class} {n : String}

/-- Searching the chain for the first class whose table has the name and reading the name's
overloads there is the nearest-first search. -/
theorem of_search :
    NearestOverloads table chain n
      (match chain.find? (fun j => (table j).contains n) with
        | some k => (table k).lookup n
        | none => []) := by
  cases found : chain.find? (fun j => (table j).contains n) with
  | some k =>
    obtain ⟨has, pre, post, split, before⟩ := List.find?_eq_some_iff_append.1 found
    exact .inl ⟨pre, k, post, split, fun j hj => by simpa using before j hj, has, rfl⟩
  | none => exact .inr ⟨fun k hk => by simpa using List.find?_eq_none.1 found k hk, rfl⟩

end NearestOverloads

/-- A search for instance methods answers those of the nearest class on the chain that has
the name. -/
theorem findMethods_nearest (reg : Registry) (c : Class) (n : String) :
    NearestOverloads (·.methods) (reg.ancestors c) n (reg.findMethods c n) :=
  NearestOverloads.of_search

/-- A search for static methods answers those of the nearest class on the chain that has
the name. -/
theorem findStatics_nearest (reg : Registry) (c : Class) (n : String) :
    NearestOverloads (·.statics) (reg.ancestors c) n (reg.findStatics c n) :=
  NearestOverloads.of_search

/-- With every line linked, a class inherits from a type exactly when the type is the id of
a class on its chain. -/
theorem Linked.isSubclassOf_iff {reg : Registry} (h : reg.Linked) {id : TypeId} {c : Class}
    (found : reg.class? id = some c) (t : TypeId) :
    c.isSubclassOf t = true ↔ ∃ k ∈ reg.ancestors c, k.id = t := by
  rw [Class.isSubclassOf, List.contains_iff_mem, ← (h.walk _ found rfl).2, List.mem_map]

/-- With every line linked, the chain of a class of the registry passes no class twice and
so has at most as many classes as the registry. -/
theorem Linked.ancestors_length_le {reg : Registry} (h : reg.Linked) {id : TypeId} {c : Class}
    (found : reg.class? id = some c) :
    (reg.ancestors c).Nodup ∧ (reg.ancestors c).length ≤ reg.classes.length := by
  have walk := (h.walk _ found rfl).1
  have distinct : (reg.ancestors c).Nodup :=
    (h.walk_lineage_falls walk found).1.imp fun falls same => by subst same; omega
  exact ⟨distinct, distinct.length_le_of_subset
    (walk.mem_classes (List.mem_of_find?_eq_some found))⟩

/-- Taking ids changes only the counter. -/
theorem foldl_allocateTypeId (n : Nat) (reg : Registry) :
    (List.replicate n Step.allocateTypeId).foldl Step.onRegistry reg =
      { reg with allocated := reg.allocated + n } := by
  induction n generalizing reg with
  | zero => rfl
  | succ n ih =>
    rw [List.replicate_succ, List.foldl_cons, ih]
    simp only [Step.onRegistry, allocate, Nat.add_assoc, Nat.add_comm 1 n]

/-- Parents are known along a joined run when they are along its first part, and along its
second part from where the first one ends. -/
theorem parentsKnown_append :
    ∀ (l₁ l₂ : List Step) (reg : Registry),
      reg.ParentsKnown (l₁ ++ l₂) ↔
        reg.ParentsKnown l₁ ∧ (l₁.foldl Step.onRegistry reg).ParentsKnown l₂
  | [], _, _ => by simp only [List.nil_append, ParentsKnown, List.foldl_nil, true_and]
  | s :: l₁, l₂, reg => by
    simp only [List.cons_append, ParentsKnown, List.foldl_cons, parentsKnown_append l₁ l₂,
      and_assoc]

/-- A run that only takes ids defines no class. -/
theorem parentsKnown_allocateTypeId (n : Nat) (reg : Registry) :
    reg.ParentsKnown (List.replicate n Step.allocateTypeId) := by
  induction n generalizing reg with
  | zero => trivial
  | succ n ih => exact ⟨trivial, ih _⟩

end Registry

/-- While the id counter has room, in every registry run where each class extends a class
already defined, a class's superclass has a smaller id, and its superclass walk ends, is
unique, repeats no class and is the chain that subclass tests and method searches follow,
nearest class first. -/
theorem superclass_chains_end_and_are_searched_nearest_first :
    ∀ (builtins hub : Bool) (steps : List Step),
      (Context.fresh builtins hub).registry.ParentsKnown steps →
      steps.countP Step.takesId ≤ 2 ^ 32 - TypeId.firstUser →
      ∀ (id : TypeId) (c : Class),
        (steps.foldl Step.onRegistry (Context.fresh builtins hub).registry).class? id = some c →
        let reg := steps.foldl Step.onRegistry (Context.fresh builtins hub).registry
        (∀ s, c.superclass? = some s → s.raw.toNat < c.id.raw.toNat) ∧
        reg.SuperChain c (reg.ancestors c) ∧
        (∀ ks, reg.SuperChain c ks → ks = reg.ancestors c) ∧
        (reg.ancestors c).Nodup ∧ (reg.ancestors c).length ≤ reg.classes.length ∧
        (∀ t, c.isSubclassOf t = true ↔ ∃ k ∈ reg.ancestors c, k.id = t) ∧
        ∀ n, Registry.NearestOverloads (·.methods) (reg.ancestors c) n (reg.findMethods c n) ∧
          Registry.NearestOverloads (·.statics) (reg.ancestors c) n (reg.findStatics c n) := by
  intro builtins hub steps parents few id c found reg
  have start : (Context.fresh builtins hub).registry.classes = [] ∧
      (Context.fresh builtins hub).registry.allocated = 0 ∧
      (Context.fresh builtins hub).registry.IdsApart := by
    cases builtins
    · exact ⟨rfl, rfl, Registry.IdsApart.empty⟩
    · exact ⟨rfl, rfl, Registry.IdsApart.withBuiltins⟩
  have linked : reg.Linked := Registry.Linked.foldl_onRegistry steps (.of_classes_nil start.1) parents
  have walk := (linked.walk _ found rfl).1
  have bounded := linked.ancestors_length_le found
  refine ⟨fun s sup => ?_, walk, fun ks other => other.unique walk, bounded.1, bounded.2,
    linked.isSubclassOf_iff found,
    fun n => ⟨Registry.findMethods_nearest reg c n, Registry.findStatics_nearest reg c n⟩⟩
  have room : (Context.fresh builtins hub).registry.bound + steps.countP Step.takesId ≤ 2 ^ 32 := by
    simp only [Registry.bound, start.2.1, TypeId.firstUser] at few ⊢
    omega
  exact Registry.Descending.foldl_onRegistry steps (.of_classes_nil start.1) start.2.2 parents room
    id c s found sup

/-- The class `Shape`, then `Square` extending it. -/
def shapeThenSquare : List Step :=
  [.defineClass { name := "Shape" }, .defineClass { name := "Square", lineage := [⟨256⟩] }]

/-- `Square` takes the id 257 and extends `Shape`, of the smaller id 256. -/
theorem square_extends_smaller_id :
    (Context.fresh false false).registry.ParentsKnown shapeThenSquare ∧
      shapeThenSquare.countP Step.takesId ≤ 2 ^ 32 - TypeId.firstUser ∧
      (shapeThenSquare.foldl Step.onRegistry (Context.fresh false false).registry).class? ⟨257⟩ =
        some (ClassSpec.build { name := "Square", lineage := [⟨256⟩] } ⟨257⟩) ∧
      (⟨256⟩ : TypeId).raw.toNat <
        (ClassSpec.build { name := "Square", lineage := [⟨256⟩] } ⟨257⟩).id.raw.toNat := by
  have parents : (Context.fresh false false).registry.ParentsKnown shapeThenSquare :=
    ⟨.inl rfl, .inr ⟨⟨256⟩, ClassSpec.build { name := "Shape" } ⟨256⟩, rfl, rfl⟩, trivial⟩
  have few : shapeThenSquare.countP Step.takesId ≤ 2 ^ 32 - TypeId.firstUser := by decide
  have found : (shapeThenSquare.foldl Step.onRegistry (Context.fresh false false).registry).class?
      ⟨257⟩ = some (ClassSpec.build { name := "Square", lineage := [⟨256⟩] } ⟨257⟩) := rfl
  exact ⟨parents, few, found, (superclass_chains_end_and_are_searched_nearest_first false false
    shapeThenSquare parents few ⟨257⟩ _ found).1 ⟨256⟩ rfl⟩

/-- `Shape`, then as many ids as bring the counter to its end, then `Square` extending
`Shape`. -/
def squareAfterWrap : List Step :=
  [.defineClass { name := "Shape" }] ++ List.replicate (2 ^ 32 - 257) .allocateTypeId ++
    [.defineClass { name := "Square", lineage := [⟨256⟩] }]

/-- Past the end of the counter the ids start again from 0: `Square` extends `Shape`, a class
already defined, and takes the id 0, below the id 256 of its superclass. -/
theorem square_after_wrap_extends_larger_id :
    (Context.fresh false false).registry.ParentsKnown squareAfterWrap ∧
      (squareAfterWrap.foldl Step.onRegistry (Context.fresh false false).registry).class? ⟨0⟩ =
        some (ClassSpec.build { name := "Square", lineage := [⟨256⟩] } ⟨0⟩) ∧
      (ClassSpec.build { name := "Square", lineage := [⟨256⟩] } ⟨0⟩).superclass? = some ⟨256⟩ ∧
      ¬ (⟨256⟩ : TypeId).raw.toNat <
        (ClassSpec.build { name := "Square", lineage := [⟨256⟩] } ⟨0⟩).id.raw.toNat := by
  have full : ([Step.defineClass { name := "Shape" }] ++
      List.replicate (2 ^ 32 - 257) Step.allocateTypeId).foldl Step.onRegistry
        (Context.fresh false false).registry =
      { classes := [ClassSpec.build { name := "Shape" } ⟨256⟩], allocated := 2 ^ 32 - 256,
        foreignTypes := [] } := by
    rw [List.foldl_append, Registry.foldl_allocateTypeId]
    rfl
  refine ⟨?_, ?_, rfl, by decide⟩
  · rw [squareAfterWrap, Registry.parentsKnown_append, Registry.parentsKnown_append, full]
    exact ⟨⟨⟨.inl rfl, trivial⟩, Registry.parentsKnown_allocateTypeId _ _⟩,
      .inr ⟨⟨256⟩, ClassSpec.build { name := "Shape" } ⟨256⟩, rfl, rfl⟩, trivial⟩
  · rw [squareAfterWrap, List.foldl_append, full]
    rfl

end InlineCache
