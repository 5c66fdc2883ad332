import InlineCache.Dispatch.Guard
/-!
# How classes and the registry change under redefinition

A class is never replaced by another: a redefinition swaps one of its method tables and
keeps its id, its name, its line of ancestors and its constructors. The instance table
is swapped only together with a step of its revision, so a class whose revision is
unchanged still has the very table it had. `Class.Successor` states this for one class
and `Registry.Evolves` for the whole registry; every registry operation of the program
is an evolution, and evolutions compose.
-/
namespace InlineCache

namespace Class

@[simp] theorem defineMethod_id (c : Class) (m : Method) : (c.defineMethod m).id = c.id := rfl
@[simp] theorem defineMethod_lineage (c : Class) (m : Method) :
    (c.defineMethod m).lineage = c.lineage := rfl
@[simp] theorem defineMethod_revision (c : Class) (m : Method) :
    (c.defineMethod m).revision = c.revision + 1 := rfl
@[simp] theorem defineMethod_methods (c : Class) (m : Method) :
    (c.defineMethod m).methods = c.methods.insert m := rfl
@[simp] theorem defineMethod_statics (c : Class) (m : Method) :
    (c.defineMethod m).statics = c.statics := rfl
@[simp] theorem defineStatic_id (c : Class) (m : Method) : (c.defineStatic m).id = c.id := rfl
@[simp] theorem defineStatic_lineage (c : Class) (m : Method) :
    (c.defineStatic m).lineage = c.lineage := rfl
@[simp] theorem defineStatic_revision (c : Class) (m : Method) :
    (c.defineStatic m).revision = c.revision := rfl
@[simp] theorem defineStatic_methods (c : Class) (m : Method) :
    (c.defineStatic m).methods = c.methods := rfl

/-- Removing a name the instance table has makes the same class without the name, one
revision further. -/
theorem removeMethod?_eq_some {c c' : Class} {name : String} (h : c.removeMethod? name = some c') :
    c.methods.contains name = true ∧ c'.id = c.id ∧ c'.lineage = c.lineage ∧
      c'.constructors = c.constructors ∧ c'.revision = c.revision + 1 ∧
      c'.methods = c.methods.erase name := by
  unfold removeMethod? at h
  split at h
  · cases h
    exact ⟨‹_›, rfl, rfl, rfl, rfl, rfl⟩
  · exact absurd h (by simp)

/-- Removing a name the instance table lacks does nothing. -/
theorem removeMethod?_eq_none {c : Class} {name : String} :
    c.removeMethod? name = none ↔ c.methods.contains name = false := by
  unfold removeMethod?
  split <;> simp_all

/-- The stamp of a class names its id and the revision of its instance table. -/
@[simp] theorem stamp_owner (c : Class) : c.stamp.owner = c.id := rfl
@[simp] theorem stamp_revision (c : Class) : c.stamp.revision = c.revision := rfl

/-- `c'` is a later state of the class `c`: the same class, with an instance table that
is either the same one or one of a later revision. -/
structure Successor (c c' : Class) : Prop where
  id_eq : c'.id = c.id
  lineage_eq : c'.lineage = c.lineage
  constructors_eq : c'.constructors = c.constructors
  revision_le : c.revision ≤ c'.revision
  methods_eq : c'.revision = c.revision → c'.methods = c.methods

namespace Successor

@[refl] theorem refl (c : Class) : c.Successor c :=
  ⟨rfl, rfl, rfl, Nat.le_refl _, fun _ => rfl⟩

theorem trans {c₁ c₂ c₃ : Class} (h₁ : c₁.Successor c₂) (h₂ : c₂.Successor c₃) :
    c₁.Successor c₃ where
  id_eq := h₂.id_eq.trans h₁.id_eq
  lineage_eq := h₂.lineage_eq.trans h₁.lineage_eq
  constructors_eq := h₂.constructors_eq.trans h₁.constructors_eq
  revision_le := Nat.le_trans h₁.revision_le h₂.revision_le
  methods_eq := fun same => by
    have low := h₁.revision_le
    have high := h₂.revision_le
    rw [h₂.methods_eq (by omega), h₁.methods_eq (by omega)]

theorem ancestry_eq {c c' : Class} (h : c.Successor c') : c'.ancestry = c.ancestry := by
  simp only [ancestry, h.id_eq, h.lineage_eq]

theorem isSubclassOf_eq {c c' : Class} (h : c.Successor c') (t : TypeId) :
    c'.isSubclassOf t = c.isSubclassOf t := by
  simp only [isSubclassOf, h.ancestry_eq]

/-- Two successors of a class with the same table revision have the same stamp. -/
theorem stamp_eq_iff {c c' : Class} (h : c.Successor c') :
    c'.stamp = c.stamp ↔ c'.revision = c.revision := by
  simp only [stamp, TableStamp.mk.injEq, h.id_eq, true_and]

end Successor

theorem successor_defineMethod (c : Class) (m : Method) : c.Successor (c.defineMethod m) :=
  ⟨rfl, rfl, rfl, Nat.le_succ _, fun h => absurd h (by simp)⟩

theorem successor_defineStatic (c : Class) (m : Method) : c.Successor (c.defineStatic m) :=
  ⟨rfl, rfl, rfl, Nat.le_refl _, fun _ => rfl⟩

theorem successor_removeMethod {c c' : Class} {name : String} (h : c.removeMethod? name = some c') :
    c.Successor c' := by
  obtain ⟨-, hid, hlineage, hctors, hrev, -⟩ := removeMethod?_eq_some h
  exact ⟨hid, hlineage, hctors, by omega, fun same => absurd same (by omega)⟩

end Class

namespace Registry

/-- A class is found under its own id. -/
theorem class?_id {reg : Registry} {id : TypeId} {c : Class} (h : reg.class? id = some c) :
    c.id = id := by
  simpa using List.find?_some h

/-- Changing the classes of one id, into classes of that id, is seen under that id only. -/
theorem class?_updateClass {reg : Registry} {id : TypeId} {f : Class → Class}
    (hf : ∀ c : Class, c.id = id → (f c).id = id) (k : TypeId) :
    (reg.updateClass id f).class? k = (reg.class? k).map fun c => if c.id == id then f c else c := by
  have same : ((fun c : Class => c.id == k) ∘ fun c => if c.id == id then f c else c) =
      fun c => c.id == k := by
    funext c
    by_cases hc : c.id = id
    · simp [hc, hf c hc]
    · simp [hc]
  simp only [updateClass, class?, List.find?_map, same]

/-- The class under the id that was changed is the changed class. -/
theorem class?_updateClass_self {reg : Registry} {id : TypeId} {f : Class → Class}
    (hf : ∀ c : Class, c.id = id → (f c).id = id) :
    (reg.updateClass id f).class? id = (reg.class? id).map f := by
  rw [class?_updateClass hf]
  cases h : reg.class? id with
  | none => rfl
  | some c => simp [class?_id h]

/-- Classes under other ids are untouched. -/
theorem class?_updateClass_ne {reg : Registry} {id k : TypeId} {f : Class → Class}
    (hf : ∀ c : Class, c.id = id → (f c).id = id) (hk : k ≠ id) :
    (reg.updateClass id f).class? k = reg.class? k := by
  rw [class?_updateClass hf]
  cases h : reg.class? k with
  | none => rfl
  | some c =>
    have : c.id ≠ id := by rw [class?_id h]; exact hk
    simp [this]

/-- Changing a foreign type leaves every class alone. -/
@[simp] theorem class?_updateForeign (reg : Registry) (id : TypeId) (f : ForeignType → ForeignType)
    (k : TypeId) : (reg.updateForeign id f).class? k = reg.class? k := rfl

/-- A foreign type is found under its own id. -/
theorem foreign?_id {reg : Registry} {id : TypeId} {t : ForeignType} (h : reg.foreign? id = some t) :
    t.id = id := by
  simpa using List.find?_some h

/-- Changing the foreign types of one id, without changing any id, is seen under that id
only. -/
theorem foreign?_updateForeign {reg : Registry} {id : TypeId} {f : ForeignType → ForeignType}
    (hf : ∀ t, (f t).id = t.id) (k : TypeId) :
    (reg.updateForeign id f).foreign? k =
      (reg.foreign? k).map fun t => if t.id == id then f t else t := by
  have same : ((fun t : ForeignType => t.id == k) ∘ fun t => if t.id == id then f t else t) =
      fun t => t.id == k := by
    funext t
    by_cases ht : t.id = id <;> simp [ht, hf]
  simp only [updateForeign, foreign?, List.find?_map, same]

/-- Changing a class leaves every foreign type alone. -/
@[simp] theorem foreign?_updateClass (reg : Registry) (id : TypeId) (f : Class → Class)
    (k : TypeId) : (reg.updateClass id f).foreign? k = reg.foreign? k := rfl

/-- The registry `reg'` is a later state of `reg`: every class it knew is still there as
a later state of itself, and every foreign type is still there under its id. New classes
and foreign types may have come. -/
structure Evolves (reg reg' : Registry) : Prop where
  classes : ∀ id c, reg.class? id = some c → ∃ c', reg'.class? id = some c' ∧ c.Successor c'
  foreign : ∀ id t, reg.foreign? id = some t → ∃ t', reg'.foreign? id = some t'

namespace Evolves

@[refl] theorem refl (reg : Registry) : reg.Evolves reg :=
  ⟨fun _ c h => ⟨c, h, Class.Successor.refl c⟩, fun _ t h => ⟨t, h⟩⟩

theorem trans {reg₁ reg₂ reg₃ : Registry} (h₁ : reg₁.Evolves reg₂) (h₂ : reg₂.Evolves reg₃) :
    reg₁.Evolves reg₃ where
  classes id c hc := by
    obtain ⟨c₂, hc₂, s₁⟩ := h₁.classes id c hc
    obtain ⟨c₃, hc₃, s₂⟩ := h₂.classes id c₂ hc₂
    exact ⟨c₃, hc₃, s₁.trans s₂⟩
  foreign id t ht := by
    obtain ⟨t₂, ht₂⟩ := h₁.foreign id t ht
    exact h₂.foreign id t₂ ht₂

end Evolves

/-- Changing the class of one id into a later state of itself is an evolution. -/
theorem evolves_updateClass {reg : Registry} {id : TypeId} {f : Class → Class}
    (hid : ∀ c : Class, c.id = id → (f c).id = id)
    (hf : ∀ c, reg.class? id = some c → c.Successor (f c)) : reg.Evolves (reg.updateClass id f) where
  classes k c hc := by
    by_cases hk : k = id
    · subst hk
      exact ⟨f c, by rw [class?_updateClass_self hid, hc]; rfl, hf c hc⟩
    · exact ⟨c, by rw [class?_updateClass_ne hid hk, hc], Class.Successor.refl c⟩
  foreign k t ht := ⟨t, by simpa using ht⟩

/-- Changing the methods of a foreign type is an evolution. -/
theorem evolves_updateForeign (reg : Registry) (id : TypeId) (m : Method) :
    reg.Evolves (reg.updateForeign id (·.defineMethod m)) where
  classes k c hc := ⟨c, by simpa using hc, Class.Successor.refl c⟩
  foreign k t ht := by
    rw [foreign?_updateForeign (f := (·.defineMethod m)) (fun _ => rfl), ht]
    exact ⟨_, rfl⟩

/-- Taking a fresh id is an evolution. -/
theorem evolves_allocate (reg : Registry) : reg.Evolves reg.allocate.2 :=
  ⟨fun _ c h => ⟨c, h, Class.Successor.refl c⟩, fun _ t h => ⟨t, h⟩⟩

/-- Defining a class adds it after the classes known, which keep their ids. -/
theorem evolves_defineClass (reg : Registry) (spec : ClassSpec) :
    reg.Evolves (reg.defineClass spec).2 where
  classes k c hc := by
    refine ⟨c, ?_, Class.Successor.refl c⟩
    simp only [defineClass, allocate, class?, List.find?_append] at hc ⊢
    rw [hc]
    rfl
  foreign k t ht := ⟨t, ht⟩

/-- Registering a foreign type replaces the one of the same id and leaves the others. -/
theorem foreign?_registerForeign (reg : Registry) (t : ForeignType) (k : TypeId) :
    (reg.registerForeign t).foreign? k = if t.id = k then some t else reg.foreign? k := by
  simp only [registerForeign, foreign?, List.find?_append]
  have filtered : ∀ l : List ForeignType, (l.filter (·.id != t.id)).find? (·.id == k) =
      if t.id = k then none else l.find? (·.id == k) := by
    intro l
    induction l with
    | nil => simp
    | cons x rest ih =>
      by_cases hx : x.id = t.id <;> by_cases hk : x.id = k
      · simp_all
      · simp_all
      · subst hk
        simp_all [Ne.symm hx]
      · simp_all
  rw [filtered]
  split <;> simp_all

/-- Defining a foreign type registers it under a fresh id; every known type keeps one. -/
theorem evolves_defineForeign (reg : Registry) (name : String) (ms : List Method) :
    reg.Evolves (reg.defineForeign name ms).2 where
  classes k c hc := ⟨c, hc, Class.Successor.refl c⟩
  foreign k t ht := by
    simp only [defineForeign, foreign?_registerForeign]
    split
    · exact ⟨_, rfl⟩
    · exact ⟨t, ht⟩

/-- The registry `reg'` is `reg` after redefinitions only: it evolved from `reg` and knows
no class that `reg` did not know. -/
structure Redefines (reg reg' : Registry) : Prop where
  evolves : reg.Evolves reg'
  class?_isSome : ∀ id, (reg'.class? id).isSome → (reg.class? id).isSome

namespace Redefines

@[refl] theorem refl (reg : Registry) : reg.Redefines reg :=
  ⟨Evolves.refl reg, fun _ h => h⟩

theorem trans {reg₁ reg₂ reg₃ : Registry} (h₁ : reg₁.Redefines reg₂) (h₂ : reg₂.Redefines reg₃) :
    reg₁.Redefines reg₃ :=
  ⟨h₁.evolves.trans h₂.evolves, fun id h => h₁.class?_isSome id (h₂.class?_isSome id h)⟩

theorem class?_eq_none {reg reg' : Registry} (h : reg.Redefines reg') {id : TypeId}
    (hid : reg.class? id = none) : reg'.class? id = none := by
  cases hid' : reg'.class? id with
  | none => rfl
  | some c' =>
    have := h.class?_isSome id (by simp [hid'])
    simp [hid] at this

/-- Redefinitions never change which classes inherit from which. -/
theorem isSubclassOf_eq {reg reg' : Registry} (h : reg.Redefines reg') (cls t : TypeId) :
    reg'.isSubclassOf cls t = reg.isSubclassOf cls t := by
  unfold isSubclassOf
  cases hc : reg.class? cls with
  | none => rw [h.class?_eq_none hc]
  | some c =>
    obtain ⟨c', hc', succ⟩ := h.evolves.classes cls c hc
    simp only [hc', succ.isSubclassOf_eq]

end Redefines

theorem redefines_updateClass {reg : Registry} {id : TypeId} {f : Class → Class}
    (hid : ∀ c : Class, c.id = id → (f c).id = id)
    (hf : ∀ c, reg.class? id = some c → c.Successor (f c)) :
    reg.Redefines (reg.updateClass id f) where
  evolves := evolves_updateClass hid hf
  class?_isSome k := by simp [class?_updateClass hid]

theorem redefines_updateForeign (reg : Registry) (id : TypeId) (m : Method) :
    reg.Redefines (reg.updateForeign id (·.defineMethod m)) :=
  ⟨evolves_updateForeign reg id m, fun k h => by simpa using h⟩

end Registry

end InlineCache
