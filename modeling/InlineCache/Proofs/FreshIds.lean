import Mathlib
import InlineCache.Proofs.Selection
/-!
# Fresh type ids

The registry hands out the ids 256, 257, … in turn, as 32-bit words. As long as the counter
has not wrapped, every id it has handed out lies below its bound, `256 + allocated`, each
class and each foreign type of the user has an id of its own, and the ids of classes are
apart from those of the builtin kinds. A value a scenario makes names only types the
registry knows: an instance a known class, a foreign object a known foreign type.

Under these conditions a value's type id tells what kind of value it is: an instance
exactly when its type is a class. Defining new types, which is all that happens to the
registry between two redefinitions, keeps every type below the old bound as it was, so two
values of one type, each known to its own registry, cannot be told apart by overload
selection, and the classes along a known chain stay the same classes.
-/
namespace InlineCache

namespace TypeId

/-- The builtin kinds that have method tables: `bool`, `int`, `float`, `str` and `bytes`. -/
def HasTable (t : TypeId) : Prop := 1 ≤ t.raw.toNat ∧ t.raw.toNat ≤ 5

end TypeId

namespace Registry

/-- The ids below the bound have been handed out or belong to builtin kinds. -/
def bound (reg : Registry) : Nat := TypeId.firstUser + reg.allocated

/-- An id the registry has handed out to a user type. -/
def Issued (reg : Registry) (id : TypeId) : Prop :=
  TypeId.firstUser ≤ id.raw.toNat ∧ id.raw.toNat < reg.bound

/-- The registry's ids are fresh: the counter has not wrapped, every class has an id handed
out to it and a chain of such ids, every foreign type is a builtin kind or has an id handed
out to it, and no id is both a class and a foreign type. -/
structure Sound (reg : Registry) : Prop where
  bound_le : reg.bound ≤ 2 ^ 32
  class_issued : ∀ id c, reg.class? id = some c → reg.Issued id ∧ ∀ k ∈ c.lineage, reg.Issued k
  foreign_kind : ∀ id t, reg.foreign? id = some t → id.HasTable ∨ reg.Issued id
  apart : ∀ id c, reg.class? id = some c → reg.foreign? id = none

/-- A value whose types the registry knows: an instance of a known class, a foreign object of
a known foreign type wrapping such a value, or a value of a builtin kind. -/
def Knows (reg : Registry) : Value → Prop
  | .object r => (reg.class? r.cls).isSome
  | .foreign _ ty p => (reg.foreign? ty).isSome ∧ reg.Knows p
  | _ => True

/-- `reg'` is `reg` with new types only: the counter has moved on and every id below the old
bound names what it named. -/
structure Extends (reg reg' : Registry) : Prop where
  allocated_le : reg.allocated ≤ reg'.allocated
  class?_eq : ∀ id : TypeId, id.raw.toNat < reg.bound → reg'.class? id = reg.class? id
  foreign?_eq : ∀ id : TypeId, id.raw.toNat < reg.bound → reg'.foreign? id = reg.foreign? id

namespace Extends

@[refl] theorem refl (reg : Registry) : reg.Extends reg :=
  ⟨Nat.le_refl _, fun _ _ => rfl, fun _ _ => rfl⟩

theorem bound_le {reg reg' : Registry} (h : reg.Extends reg') : reg.bound ≤ reg'.bound := by
  have := h.allocated_le
  simp only [bound]
  omega

theorem trans {reg₁ reg₂ reg₃ : Registry} (h₁ : reg₁.Extends reg₂) (h₂ : reg₂.Extends reg₃) :
    reg₁.Extends reg₃ where
  allocated_le := Nat.le_trans h₁.allocated_le h₂.allocated_le
  class?_eq id hid := (h₂.class?_eq id (Nat.lt_of_lt_of_le hid h₁.bound_le)).trans (h₁.class?_eq id hid)
  foreign?_eq id hid :=
    (h₂.foreign?_eq id (Nat.lt_of_lt_of_le hid h₁.bound_le)).trans (h₁.foreign?_eq id hid)

/-- The classes along a chain of ids below the old bound are the same classes. -/
theorem ancestors_eq {reg reg' : Registry} (h : reg.Extends reg') {c : Class}
    (hc : ∀ k ∈ c.ancestry, k.raw.toNat < reg.bound) : reg'.ancestors c = reg.ancestors c := by
  unfold ancestors
  exact List.filterMap_congr fun k hk => h.class?_eq k (hc k hk)

/-- Whether a class below the old bound inherits from a type is decided as it was. -/
theorem isSubclassOf_eq {reg reg' : Registry} (h : reg.Extends reg') {cls : TypeId}
    (hcls : cls.raw.toNat < reg.bound) (t : TypeId) :
    reg'.isSubclassOf cls t = reg.isSubclassOf cls t := by
  simp only [Registry.isSubclassOf, h.class?_eq cls hcls]

end Extends

theorem Issued.lt_bound {reg : Registry} {id : TypeId} (h : reg.Issued id) : id.raw.toNat < reg.bound :=
  h.2

theorem firstUser_le_bound (reg : Registry) : TypeId.firstUser ≤ reg.bound := by
  simp [bound]

namespace Sound

variable {reg : Registry} (hs : reg.Sound)
include hs

/-- The chain of a known class lies below the bound. -/
theorem ancestry_lt {id : TypeId} {c : Class} (hc : reg.class? id = some c) :
    ∀ k ∈ c.ancestry, k.raw.toNat < reg.bound := by
  obtain ⟨hid, hline⟩ := hs.class_issued id c hc
  have own : c.id = id := class?_id hc
  intro k hk
  simp only [Class.ancestry, List.mem_cons] at hk
  rcases hk with rfl | hk
  · rw [own]
    exact hid.lt_bound
  · exact (hline k hk).lt_bound

/-- Ids below the first user id are no class. -/
theorem class?_of_lt_firstUser {id : TypeId} (hid : id.raw.toNat < TypeId.firstUser) :
    reg.class? id = none := by
  cases hc : reg.class? id with
  | none => rfl
  | some c =>
    have := (hs.class_issued id c hc).1.1
    omega

end Sound

/-- The builtin kinds without a registry type have ids 0 to 6. -/
theorem typeId_lt_firstUser_of_not_registered :
    ∀ v : Value, (∀ r, v ≠ .object r) → (∀ a ty p, v ≠ .foreign a ty p) →
      v.typeId.raw.toNat < TypeId.firstUser
  | .none, _, _ | .bool _, _, _ | .int _, _, _ | .float _, _, _ | .str _, _, _
  | .bytes _, _, _ | .cls _, _, _ => by simp only [Value.typeId]; decide
  | .object r, h, _ => absurd rfl (h r)
  | .foreign a ty p, _, h => absurd rfl (h a ty p)

namespace Knows

variable {reg : Registry} (hs : reg.Sound)
include hs

/-- A known value's type lies below the bound. -/
theorem typeId_lt {v : Value} (hv : reg.Knows v) : v.typeId.raw.toNat < reg.bound := by
  cases v with
  | object r =>
    obtain ⟨c, hc⟩ := Option.isSome_iff_exists.1 hv
    exact (hs.class_issued _ c hc).1.lt_bound
  | foreign a ty p =>
    obtain ⟨t, ht⟩ := Option.isSome_iff_exists.1 hv.1
    rcases hs.foreign_kind _ t ht with kind | issued
    · have := reg.firstUser_le_bound
      simp only [TypeId.HasTable] at kind
      simp only [Value.typeId, TypeId.firstUser] at this ⊢
      omega
    · exact issued.lt_bound
  | _ =>
    exact Nat.lt_of_lt_of_le (typeId_lt_firstUser_of_not_registered _ (by simp) (by simp))
      reg.firstUser_le_bound

/-- A known value is an instance exactly when its type is a class. -/
theorem typed {v : Value} (hv : reg.Knows v) : reg.Typed v := by
  unfold Registry.Typed
  cases v with
  | object r => simpa [Value.isObject, Value.typeId] using hv.symm
  | foreign a ty p =>
    obtain ⟨t, ht⟩ := Option.isSome_iff_exists.1 hv.1
    cases hc : reg.class? ty with
    | none => simp [Value.isObject, Value.typeId, hc]
    | some c => simp [hs.apart ty c hc] at ht
  | _ =>
    rw [hs.class?_of_lt_firstUser (typeId_lt_firstUser_of_not_registered _ (by simp) (by simp))]
    rfl

/-- A known value stays known when new types are defined. -/
theorem mono {reg' : Registry} (h : reg.Extends reg') : ∀ {v : Value}, reg.Knows v → reg'.Knows v
  | .object r, hv => by
    have hlt := typeId_lt hs (v := .object r) hv
    simpa [Knows, h.class?_eq r.cls hlt] using hv
  | .foreign a ty p, hv => by
    have hlt := typeId_lt hs (v := .foreign a ty p) hv
    exact ⟨by simpa [h.foreign?_eq ty hlt] using hv.1, mono h hv.2⟩
  | .none, _ | .bool _, _ | .int _, _ | .float _, _ | .str _, _ | .bytes _, _ | .cls _, _ => trivial

end Knows

/-- Two values of one type, each known to its own registry, the later one made of the
earlier by new types only, are alike to overload selection. -/
theorem argAlike_of_extends {reg reg' : Registry} (hs : reg.Sound) (hs' : reg'.Sound)
    (h : reg.Extends reg') {x x' : Value} (hx : reg.Knows x) (hx' : reg'.Knows x')
    (htype : x.typeId = x'.typeId) : ArgAlike reg reg' x x' where
  typeId_eq := htype
  isObject_eq := by
    rw [hx.typed hs, hx'.typed hs', ← htype, h.class?_eq _ (hx.typeId_lt hs)]
  subclass_eq t := by rw [← htype, h.isSubclassOf_eq (hx.typeId_lt hs)]

/-- Argument lists of one shape, each known to its own registry, are alike position by
position. -/
theorem argsAlike_of_extends {reg reg' : Registry} (hs : reg.Sound) (hs' : reg'.Sound)
    (h : reg.Extends reg') {a a' : List Value} (ha : ∀ x ∈ a, reg.Knows x)
    (ha' : ∀ x ∈ a', reg'.Knows x) (hshape : Value.shape a = Value.shape a') :
    List.Forall₂ (ArgAlike reg reg') a a' :=
  ArgAlike.forall₂_of_shape (fun _ _ hx hx' htype => argAlike_of_extends hs hs' h hx hx' htype)
    ha ha' hshape

/-- A known value stays known in every later state of the registry. -/
theorem Knows.of_evolves {reg reg' : Registry} (h : reg.Evolves reg') :
    ∀ {v : Value}, reg.Knows v → reg'.Knows v
  | .object r, hv => by
    obtain ⟨c, hc⟩ := Option.isSome_iff_exists.1 hv
    obtain ⟨c', hc', -⟩ := h.classes _ c hc
    simp [Knows, hc']
  | .foreign a ty p, hv => by
    obtain ⟨t, ht⟩ := Option.isSome_iff_exists.1 hv.1
    obtain ⟨t', ht'⟩ := h.foreign _ t ht
    exact ⟨by simp [ht'], of_evolves h hv.2⟩
  | .none, _ | .bool _, _ | .int _, _ | .float _, _ | .str _, _ | .bytes _, _ | .cls _, _ => trivial

/-! ### Handing out ids keeps the registry sound

Every definition takes the next id. While the counter has room, that id is the bound itself:
no class and no foreign type has it yet, and every id below it reads as before. -/

theorem Issued.mono {reg reg' : Registry} (h : reg.bound ≤ reg'.bound) {id : TypeId}
    (hid : reg.Issued id) : reg'.Issued id :=
  ⟨hid.1, Nat.lt_of_lt_of_le hid.2 h⟩

/-- The next id is the bound while the counter has room. -/
theorem nextId_toNat {reg : Registry} (h : reg.bound < 2 ^ 32) : reg.nextId.toNat = reg.bound :=
  UInt32.toNat_ofNat_of_lt' h

@[simp] theorem allocate_bound (reg : Registry) : reg.allocate.2.bound = reg.bound + 1 := by
  simp only [allocate, bound]
  omega

@[simp] theorem allocate_class? (reg : Registry) (k : TypeId) : reg.allocate.2.class? k = reg.class? k :=
  rfl

@[simp] theorem allocate_foreign? (reg : Registry) (k : TypeId) :
    reg.allocate.2.foreign? k = reg.foreign? k :=
  rfl

namespace Sound

variable {reg : Registry} (hs : reg.Sound)
include hs

/-- No class and no foreign type has an id at or past the bound. -/
theorem class?_of_bound_le {id : TypeId} (hid : reg.bound ≤ id.raw.toNat) : reg.class? id = none := by
  cases hc : reg.class? id with
  | none => rfl
  | some c =>
    have := (hs.class_issued id c hc).1.lt_bound
    omega

theorem foreign?_of_bound_le {id : TypeId} (hid : reg.bound ≤ id.raw.toNat) :
    reg.foreign? id = none := by
  cases ht : reg.foreign? id with
  | none => rfl
  | some t =>
    have := reg.firstUser_le_bound
    rcases hs.foreign_kind id t ht with ⟨-, hi⟩ | issued
    · simp only [TypeId.firstUser] at this
      omega
    · have := issued.lt_bound
      omega

/-- The id handed out next, with room left, is no class's and no foreign type's. -/
theorem allocate_fresh (hb : reg.bound < 2 ^ 32) :
    reg.allocate.1.raw.toNat = reg.bound ∧ reg.class? reg.allocate.1 = none ∧
      reg.foreign? reg.allocate.1 = none := by
  have fresh : reg.allocate.1.raw.toNat = reg.bound := nextId_toNat hb
  exact ⟨fresh, hs.class?_of_bound_le (Nat.le_of_eq fresh.symm),
    hs.foreign?_of_bound_le (Nat.le_of_eq fresh.symm)⟩

/-- The id handed out next, with room left, is none of the ids below the bound. -/
theorem allocate_ne (hb : reg.bound < 2 ^ 32) {id : TypeId} (hid : id.raw.toNat < reg.bound) :
    reg.allocate.1 ≠ id := by
  intro same
  have fresh := (hs.allocate_fresh hb).1
  rw [same] at fresh
  omega

/-- A class's id and chain stay handed out in a registry with a larger bound. -/
theorem class_issued_of_le {reg' : Registry} (grows : reg.bound ≤ reg'.bound) {id : TypeId}
    {c : Class} (hc : reg.class? id = some c) : reg'.Issued id ∧ ∀ k ∈ c.lineage, reg'.Issued k := by
  obtain ⟨hid, hline⟩ := hs.class_issued id c hc
  exact ⟨hid.mono grows, fun k hk => (hline k hk).mono grows⟩

/-- A bare allocation keeps the registry sound while the counter has room. -/
theorem allocate (hb : reg.bound + 1 ≤ 2 ^ 32) : reg.allocate.2.Sound where
  bound_le := by simpa using hb
  class_issued id c hc := hs.class_issued_of_le (by simp) (by simpa using hc)
  foreign_kind id t ht := (hs.foreign_kind id t (by simpa using ht)).imp_right (Issued.mono (by simp))
  apart id c hc := by simpa using hs.apart id c (by simpa using hc)

end Sound

/-- A bare allocation only moves the counter on. -/
theorem Extends.allocate (reg : Registry) : reg.Extends reg.allocate.2 :=
  ⟨by simp [Registry.allocate], fun _ _ => rfl, fun _ _ => rfl⟩

/-- After a class definition, the old classes are found first; the new one under its own id. -/
theorem class?_defineClass (reg : Registry) (s : ClassSpec) (k : TypeId) :
    (reg.defineClass s).2.class? k =
      (reg.class? k).or (if reg.allocate.1 = k then some (s.build reg.allocate.1) else none) := by
  simp only [defineClass, class?, List.find?_append, List.find?_singleton, beq_iff_eq]
  rfl

@[simp] theorem defineClass_foreign? (reg : Registry) (s : ClassSpec) (k : TypeId) :
    (reg.defineClass s).2.foreign? k = reg.foreign? k := rfl

@[simp] theorem defineClass_bound (reg : Registry) (s : ClassSpec) :
    (reg.defineClass s).2.bound = reg.bound + 1 := allocate_bound reg

theorem defineClass_fst (reg : Registry) (s : ClassSpec) :
    (reg.defineClass s).1 = s.build reg.allocate.1 := rfl

/-- Defining a class whose chain was handed out keeps the registry sound while the counter
has room. -/
theorem Sound.defineClass {reg : Registry} (hs : reg.Sound) {s : ClassSpec}
    (hline : ∀ k ∈ s.lineage, reg.Issued k) (hb : reg.bound + 1 ≤ 2 ^ 32) :
    (reg.defineClass s).2.Sound where
  bound_le := by simpa using hb
  class_issued id c hc := by
    have grows : reg.bound ≤ (reg.defineClass s).2.bound := by simp
    rw [class?_defineClass] at hc
    cases hold : reg.class? id with
    | some c₀ =>
      rw [hold, Option.some_or] at hc
      cases hc
      exact hs.class_issued_of_le grows hold
    | none =>
      rw [hold, Option.none_or] at hc
      split at hc
      · next hk =>
        cases hc
        have fresh := (hs.allocate_fresh (by omega)).1
        refine ⟨⟨?_, ?_⟩, fun k hk' => (hline k hk').mono grows⟩
        · rw [← hk, fresh]
          exact reg.firstUser_le_bound
        · rw [← hk, fresh]
          simp
      · cases hc
  foreign_kind id t ht :=
    (hs.foreign_kind id t (by simpa using ht)).imp_right (Issued.mono (by simp))
  apart id c hc := by
    rw [class?_defineClass] at hc
    cases hold : reg.class? id with
    | some c₀ => simpa using hs.apart id c₀ hold
    | none =>
      rw [hold, Option.none_or] at hc
      split at hc
      · next hk =>
        rw [defineClass_foreign?, ← hk]
        exact (hs.allocate_fresh (by omega)).2.2
      · cases hc

/-- Defining a class keeps every id below the old bound as it was. -/
theorem Extends.defineClass {reg : Registry} (hs : reg.Sound) (s : ClassSpec)
    (hb : reg.bound + 1 ≤ 2 ^ 32) : reg.Extends (reg.defineClass s).2 where
  allocated_le := by simp [Registry.defineClass, Registry.allocate]
  class?_eq id hid := by
    rw [class?_defineClass]
    cases hold : reg.class? id with
    | some c => rfl
    | none => simp [hs.allocate_ne (by omega) hid]
  foreign?_eq _ _ := rfl

/-- After a foreign type is defined, it is found under the id just handed out. -/
theorem foreign?_defineForeign (reg : Registry) (name : String) (ms : List Method) (k : TypeId) :
    (reg.defineForeign name ms).2.foreign? k =
      if reg.allocate.1 = k then some (reg.defineForeign name ms).1 else reg.foreign? k := by
  simp only [defineForeign, foreign?_registerForeign]
  rfl

@[simp] theorem defineForeign_class? (reg : Registry) (name : String) (ms : List Method) (k : TypeId) :
    (reg.defineForeign name ms).2.class? k = reg.class? k := rfl

@[simp] theorem defineForeign_bound (reg : Registry) (name : String) (ms : List Method) :
    (reg.defineForeign name ms).2.bound = reg.bound + 1 := allocate_bound reg

theorem defineForeign_id (reg : Registry) (name : String) (ms : List Method) :
    (reg.defineForeign name ms).1.id = reg.allocate.1 := rfl

/-- Defining a foreign type keeps the registry sound while the counter has room. -/
theorem Sound.defineForeign {reg : Registry} (hs : reg.Sound) (name : String) (ms : List Method)
    (hb : reg.bound + 1 ≤ 2 ^ 32) : (reg.defineForeign name ms).2.Sound where
  bound_le := by simpa using hb
  class_issued id c hc := hs.class_issued_of_le (by simp) (by simpa using hc)
  foreign_kind id t ht := by
    have grows : reg.bound ≤ (reg.defineForeign name ms).2.bound := by simp
    rw [foreign?_defineForeign] at ht
    split at ht
    · next hk =>
      have fresh := (hs.allocate_fresh (by omega)).1
      refine .inr ⟨?_, ?_⟩
      · rw [← hk, fresh]
        exact reg.firstUser_le_bound
      · rw [← hk, fresh]
        simp
    · exact (hs.foreign_kind id t ht).imp_right (Issued.mono grows)
  apart id c hc := by
    rw [defineForeign_class?] at hc
    rw [foreign?_defineForeign, if_neg, hs.apart id c hc]
    rintro rfl
    rw [(hs.allocate_fresh (by omega)).2.1] at hc
    cases hc

/-- Defining a foreign type keeps every id below the old bound as it was. -/
theorem Extends.defineForeign {reg : Registry} (hs : reg.Sound) (name : String) (ms : List Method)
    (hb : reg.bound + 1 ≤ 2 ^ 32) : reg.Extends (reg.defineForeign name ms).2 where
  allocated_le := by simp [Registry.defineForeign, Registry.registerForeign, Registry.allocate]
  class?_eq _ _ := rfl
  foreign?_eq id hid := by rw [foreign?_defineForeign, if_neg (hs.allocate_ne (by omega) hid)]

/-- Replacing a class by a later state of itself keeps the registry sound. -/
theorem Sound.updateClass {reg : Registry} (hs : reg.Sound) {id : TypeId} {f : Class → Class}
    (hid : ∀ c : Class, c.id = id → (f c).id = id)
    (hf : ∀ c, reg.class? id = some c → c.Successor (f c)) : (reg.updateClass id f).Sound where
  bound_le := hs.bound_le
  class_issued k c hc := by
    rw [class?_updateClass hid] at hc
    obtain ⟨c₀, hc₀, rfl⟩ := Option.map_eq_some_iff.1 hc
    obtain ⟨hk, hline⟩ := hs.class_issued k c₀ hc₀
    refine ⟨hk, ?_⟩
    split
    · next he =>
      have same : c₀.id = id := by simpa using he
      rw [(hf c₀ (by rw [← same, class?_id hc₀]; exact hc₀)).lineage_eq]
      exact hline
    · exact hline
  foreign_kind k t ht := hs.foreign_kind k t (by simpa using ht)
  apart k c hc := by
    rw [class?_updateClass hid] at hc
    obtain ⟨c₀, hc₀, -⟩ := Option.map_eq_some_iff.1 hc
    simpa using hs.apart k c₀ hc₀

/-- Adding a method to a foreign type keeps the registry sound. -/
theorem Sound.updateForeign {reg : Registry} (hs : reg.Sound) (id : TypeId) (m : Method) :
    (reg.updateForeign id (·.defineMethod m)).Sound where
  bound_le := hs.bound_le
  class_issued k c hc := hs.class_issued k c (by simpa using hc)
  foreign_kind k t ht := by
    rw [foreign?_updateForeign (f := (·.defineMethod m)) (fun _ => rfl)] at ht
    obtain ⟨t₀, ht₀, -⟩ := Option.map_eq_some_iff.1 ht
    exact hs.foreign_kind k t₀ ht₀
  apart k c hc := by
    rw [foreign?_updateForeign (f := (·.defineMethod m)) (fun _ => rfl),
      hs.apart k c (by simpa using hc)]
    rfl

end Registry

end InlineCache
