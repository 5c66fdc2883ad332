import Mathlib
import InlineCache.Proofs.RegistryRuns
/-!
# Handing out type ids

The registry hands out the ids of new types from one counter: a class definition, a foreign
type definition and a bare allocation each take the next id and answer with it; no other
step takes one. In every run the `k`-th id handed out is `256 + allocated + k` as a 32-bit
word, so from the empty or the builtin registry it is `256 + k`.

The word wraps. While fewer than `2 ^ 32 - 256` ids have been handed out, they count up from
256, apart from each other and from every builtin kind, and each class and each foreign type
of the registry has an id of its own: a class's id was handed out to it, and so was a
foreign type's unless it is the table of a builtin kind. The id after those is 0, the id of
the absent value, and the ids after it repeat the builtin ids and then the user ids.
-/
namespace InlineCache

namespace Step

/-- Whether a step takes an id from the registry's counter. -/
def takesId : Step → Bool
  | .defineClass _ | .defineForeign _ _ | .allocateTypeId => true
  | _ => false

/-- A step moves the counter on by one exactly when it takes an id. -/
theorem allocated_onRegistry (reg : Registry) (s : Step) :
    (s.onRegistry reg).allocated = reg.allocated + if s.takesId then 1 else 0 := by
  cases s with
  | removeMethod cls name _ =>
    simp only [onRegistry, takesId]
    split <;> rfl
  | _ => rfl

end Step

/-- A step that takes an id answers with the id the counter hands out next. -/
theorem Queries.answer_of_takesId (ctx : Context) {s : Step} (hs : s.takesId = true) :
    (Queries.answer ctx s).1 = .obj [("type_id", Render.typeId ctx.registry.allocate.1)] := by
  cases s with
  | defineClass spec => simp only [Queries.answer, Queries.defineClass]; rfl
  | defineForeign name ms => simp only [Queries.answer, Queries.defineForeign]; rfl
  | allocateTypeId => simp only [Queries.answer]
  | _ => cases hs

namespace Registry

/-- The ids a run of steps takes from the registry's counter, in order. -/
def idsTaken : Registry → List Step → List TypeId
  | _, [] => []
  | reg, s :: rest => (if s.takesId then [reg.allocate.1] else []) ++ (s.onRegistry reg).idsTaken rest

/-- The counter after a run has moved on by the number of steps that took an id. -/
theorem allocated_foldl_onRegistry :
    ∀ (steps : List Step) (reg : Registry),
      (steps.foldl Step.onRegistry reg).allocated = reg.allocated + steps.countP Step.takesId
  | [], _ => rfl
  | s :: rest, reg => by
    rw [List.foldl_cons, allocated_foldl_onRegistry rest, Step.allocated_onRegistry, List.countP_cons]
    omega

/-- The `k`-th id of a run is the counter's word `k` places on. -/
theorem idsTaken_eq :
    ∀ (steps : List Step) (reg : Registry),
      reg.idsTaken steps =
        (List.range (steps.countP Step.takesId)).map
          fun k => TypeId.ofNat (TypeId.firstUser + reg.allocated + k)
  | [], _ => rfl
  | s :: rest, reg => by
    rw [idsTaken, idsTaken_eq rest, Step.allocated_onRegistry, List.countP_cons]
    cases s.takesId
    · simp
    · rw [if_pos rfl, if_pos rfl, List.range_succ_eq_map, List.map_cons, List.map_map,
        List.singleton_append]
      congr 1
      apply List.map_congr_left
      intro k _
      rw [Function.comp_apply, Nat.succ_eq_add_one,
        show TypeId.firstUser + reg.allocated + (k + 1) = TypeId.firstUser + (reg.allocated + 1) + k by omega]

/-- A word read back below `2 ^ 32` is the number it was made of. -/
theorem ofNat_raw_toNat {n : Nat} (h : n < 2 ^ 32) : (TypeId.ofNat n).raw.toNat = n :=
  UInt32.toNat_ofNat_of_lt' h

/-- While the counter has room, the ids of a run are the numbers that follow the bound. -/
theorem idsTaken_raw {steps : List Step} {reg : Registry}
    (hroom : reg.bound + steps.countP Step.takesId ≤ 2 ^ 32) :
    (reg.idsTaken steps).map (·.raw.toNat) =
      (List.range (steps.countP Step.takesId)).map (reg.bound + ·) := by
  rw [idsTaken_eq, List.map_map]
  apply List.map_congr_left
  intro k hk
  rw [List.mem_range] at hk
  exact ofNat_raw_toNat (by simp only [bound] at hroom; omega)

/-- While the counter has room, the ids of a run are apart and none is a builtin id. -/
theorem idsTaken_fresh {steps : List Step} {reg : Registry}
    (hroom : reg.bound + steps.countP Step.takesId ≤ 2 ^ 32) :
    (reg.idsTaken steps).Nodup ∧ ∀ id ∈ reg.idsTaken steps, id.isBuiltin = false := by
  have raw := idsTaken_raw hroom
  refine ⟨List.Nodup.of_map (·.raw.toNat) ?_, fun id hid => ?_⟩
  · rw [raw]
    exact List.nodup_range.map (add_right_injective reg.bound)
  · have : id.raw.toNat ∈ (List.range (steps.countP Step.takesId)).map (reg.bound + ·) := by
      rw [← raw]
      exact List.mem_map_of_mem hid
    obtain ⟨k, -, hk⟩ := List.mem_map.1 this
    have := reg.firstUser_le_bound
    simp only [TypeId.isBuiltin, decide_eq_false_iff_not]
    omega

/-- With room left, the id handed out next is one the registry that counts it has issued. -/
theorem issued_allocate {reg reg' : Registry} (hb : reg.bound < 2 ^ 32)
    (grows : reg'.bound = reg.bound + 1) : reg'.Issued reg.allocate.1 := by
  have fresh : reg.allocate.1.raw.toNat = reg.bound := nextId_toNat hb
  have := reg.firstUser_le_bound
  exact ⟨by omega, by omega⟩

/-- The ids of the registry's classes. -/
def classIds (reg : Registry) : List TypeId := reg.classes.map (·.id)

/-- The ids of the registry's foreign types. -/
def foreignIds (reg : Registry) : List TypeId := reg.foreignTypes.map (·.id)

/-- Each class and each foreign type has an id of its own: a class an id handed out to it,
a foreign type too unless it is the table of a builtin kind. -/
structure IdsApart (reg : Registry) : Prop where
  nodup : (reg.classIds ++ reg.foreignIds).Nodup
  class_issued : ∀ id ∈ reg.classIds, reg.Issued id
  foreign_kind : ∀ id ∈ reg.foreignIds, id.HasTable ∨ reg.Issued id

namespace IdsApart

/-- The empty registry has no types. -/
theorem empty : Registry.empty.IdsApart where
  nodup := List.nodup_nil
  class_issued _ h := by cases h
  foreign_kind _ h := by cases h

/-- The builtin registry holds the tables of the builtin kinds, each under its own id. -/
theorem withBuiltins : Registry.withBuiltins.IdsApart where
  nodup := by decide
  class_issued _ h := by cases h
  foreign_kind id h := by
    have ids : Registry.withBuiltins.foreignIds = [⟨4⟩, ⟨2⟩, ⟨3⟩, ⟨1⟩, ⟨5⟩] := rfl
    rw [ids] at h
    left
    simp only [List.mem_cons, List.not_mem_nil, or_false] at h
    rcases h with rfl | rfl | rfl | rfl | rfl <;> exact ⟨by decide, by decide⟩

/-- Only the ids and the counter matter: a registry with the same ids and a counter at least
as far on keeps them apart. -/
theorem of_ids {reg reg' : Registry} (h : reg.IdsApart) (hc : reg'.classIds = reg.classIds)
    (hf : reg'.foreignIds = reg.foreignIds) (grows : reg.bound ≤ reg'.bound) : reg'.IdsApart where
  nodup := by rw [hc, hf]; exact h.nodup
  class_issued id hid := (h.class_issued id (hc ▸ hid)).mono grows
  foreign_kind id hid := (h.foreign_kind id (hf ▸ hid)).imp_right (Issued.mono grows)

variable {reg : Registry} (h : reg.IdsApart)
include h

/-- Every class and every foreign type has an id below the bound. -/
theorem lt_bound {id : TypeId} (hid : id ∈ reg.classIds ++ reg.foreignIds) : id.raw.toNat < reg.bound := by
  rcases List.mem_append.1 hid with hc | hf
  · exact (h.class_issued id hc).lt_bound
  · rcases h.foreign_kind id hf with ⟨-, hi⟩ | issued
    · have := reg.firstUser_le_bound
      simp only [TypeId.firstUser] at this
      omega
    · exact issued.lt_bound

/-- The id the counter hands out next, with room left, is no class's and no foreign type's. -/
theorem allocate_not_mem (hb : reg.bound < 2 ^ 32) : reg.allocate.1 ∉ reg.classIds ++ reg.foreignIds :=
  fun hmem => by
    have := h.lt_bound hmem
    rw [show reg.allocate.1.raw.toNat = reg.bound from nextId_toNat hb] at this
    omega

/-- A bare allocation only moves the counter on. -/
theorem allocate : reg.allocate.2.IdsApart := h.of_ids rfl rfl (by simp)

/-- Defining a class keeps every type's id its own while the counter has room. -/
theorem defineClass (s : ClassSpec) (hb : reg.bound < 2 ^ 32) : (reg.defineClass s).2.IdsApart where
  nodup := by
    have fresh := h.allocate_not_mem hb
    have ids : (reg.defineClass s).2.classIds ++ (reg.defineClass s).2.foreignIds =
        reg.classIds ++ reg.allocate.1 :: reg.foreignIds := by
      simp [classIds, foreignIds, Registry.defineClass, Registry.allocate, ClassSpec.build]
    rw [ids, List.nodup_middle, List.nodup_cons]
    exact ⟨fresh, h.nodup⟩
  class_issued id hid := by
    have grows : reg.bound ≤ (reg.defineClass s).2.bound := by simp
    simp only [classIds, Registry.defineClass, List.map_append, List.mem_append, List.map_cons,
      List.map_nil, List.mem_singleton] at hid
    rcases hid with old | new
    · exact (h.class_issued id old).mono grows
    · rw [show id = reg.allocate.1 from new]
      exact issued_allocate hb (by simp)
  foreign_kind id hid :=
    (h.foreign_kind id hid).imp_right (Issued.mono (by simp))

/-- Defining a foreign type keeps every type's id its own while the counter has room. -/
theorem defineForeign (name : String) (ms : List Method) (hb : reg.bound < 2 ^ 32) :
    (reg.defineForeign name ms).2.IdsApart where
  nodup := by
    have fresh := h.allocate_not_mem hb
    have kept : (reg.foreignTypes.filter (·.id != reg.allocate.1)).map (·.id) ⊆ reg.foreignIds :=
      (List.filter_sublist.map _).subset
    have ids : (reg.defineForeign name ms).2.classIds ++ (reg.defineForeign name ms).2.foreignIds =
        reg.classIds ++ ((reg.foreignTypes.filter (·.id != reg.allocate.1)).map (·.id) ++
          [reg.allocate.1]) := by
      simp [classIds, foreignIds, Registry.defineForeign, Registry.registerForeign, Registry.allocate]
    rw [ids, List.nodup_append]
    obtain ⟨classesNodup, foreignNodup, apart⟩ := List.nodup_append.1 h.nodup
    refine ⟨classesNodup, ?_, fun a ha b hb => ?_⟩
    · rw [List.nodup_append]
      refine ⟨(List.filter_sublist.map _).nodup foreignNodup, List.nodup_singleton _, ?_⟩
      intro a ha b hb
      rw [List.mem_singleton] at hb
      obtain ⟨t, ht, rfl⟩ := List.mem_map.1 ha
      subst hb
      simpa using (List.mem_filter.1 ht).2
    · rcases List.mem_append.1 hb with old | hnew
      · exact apart a ha b (kept old)
      · rw [List.mem_singleton] at hnew
        rintro rfl
        exact fresh (List.mem_append_left _ (hnew ▸ ha))
  class_issued id hid := (h.class_issued id hid).mono (by simp)
  foreign_kind id hid := by
    have grows : reg.bound ≤ (reg.defineForeign name ms).2.bound := by simp
    simp only [foreignIds, Registry.defineForeign, Registry.registerForeign, Registry.allocate,
      List.map_append, List.mem_append, List.map_cons, List.map_nil, List.mem_singleton] at hid
    rcases hid with old | new
    · exact (h.foreign_kind id ((List.filter_sublist.map _).subset old)).imp_right (Issued.mono grows)
    · rw [new]
      exact .inr (issued_allocate hb (by simp))

/-- Changing classes into classes of the same id keeps every type's id its own. -/
theorem updateClass {id : TypeId} {f : Class → Class} (hf : ∀ c : Class, c.id = id → (f c).id = id) :
    (reg.updateClass id f).IdsApart := by
  refine h.of_ids ?_ rfl le_rfl
  simp only [classIds, Registry.updateClass, List.map_map]
  apply List.map_congr_left
  intro c _
  simp only [Function.comp_apply]
  split
  · next he =>
    have same : c.id = id := by simpa using he
    exact (hf c same).trans same.symm
  · rfl

/-- Adding a method to a foreign type keeps every type's id its own. -/
theorem updateForeign (id : TypeId) (m : Method) : (reg.updateForeign id (·.defineMethod m)).IdsApart := by
  refine h.of_ids rfl ?_ le_rfl
  simp only [foreignIds, Registry.updateForeign, List.map_map]
  apply List.map_congr_left
  intro t _
  simp only [Function.comp_apply]
  split <;> rfl

end IdsApart

/-- A step keeps every type's id its own, given room for the id it takes. -/
theorem IdsApart.onRegistry {reg : Registry} (h : reg.IdsApart) (s : Step)
    (hroom : reg.bound + (if s.takesId then 1 else 0) ≤ 2 ^ 32) : (s.onRegistry reg).IdsApart := by
  cases s with
  | defineClass spec => exact h.defineClass spec (by simp [Step.takesId] at hroom; omega)
  | defineForeign name ms => exact h.defineForeign name ms (by simp [Step.takesId] at hroom; omega)
  | allocateTypeId => exact h.allocate
  | defineMethod cls m _ => exact h.updateClass fun _ hc => hc
  | defineStatic cls m _ => exact h.updateClass fun _ hc => hc
  | removeMethod cls name _ =>
    simp only [Step.onRegistry]
    split
    · next c' found =>
      obtain ⟨-, -, -, hid⟩ := removal_found found
      exact h.updateClass fun _ _ => hid
    · exact h
  | defineForeignMethod ty m _ => exact h.updateForeign ty m
  | _ => exact h

/-- A run keeps every type's id its own while the counter has room for the ids it takes. -/
theorem IdsApart.foldl_onRegistry :
    ∀ (steps : List Step) {reg : Registry}, reg.IdsApart →
      reg.bound + steps.countP Step.takesId ≤ 2 ^ 32 → (steps.foldl Step.onRegistry reg).IdsApart
  | [], _, h, _ => h
  | s :: rest, reg, h, hroom => by
    rw [List.countP_cons] at hroom
    have next : (s.onRegistry reg).bound = reg.bound + if s.takesId then 1 else 0 := by
      simp only [bound, Step.allocated_onRegistry]
      omega
    exact foldl_onRegistry rest (h.onRegistry s (by omega)) (by omega)

end Registry

/-- The counter is a 32-bit word: from the empty registry, the id handed out after
`2 ^ 32 - 256` others is 0, the id of the absent value, and not `2 ^ 32`. -/
theorem id_after_full_counter_is_none :
    (Registry.empty.idsTaken (List.replicate (2 ^ 32 - 255) .allocateTypeId))[2 ^ 32 - 256]? =
      some TypeId.none := by
  rw [Registry.idsTaken_eq, List.countP_replicate,
    if_pos (show Step.takesId .allocateTypeId = true from rfl), List.getElem?_map,
    List.getElem?_range (by omega)]
  decide

/-- The `k`-th id taken is `256 + k` as a 32-bit word; while at most `2 ^ 32 - 256` have been
taken, the ids are distinct, none is builtin, and no two registered types share one. -/
theorem ids_are_fresh_while_the_counter_has_room (builtins hub : Bool) (steps : List Step) :
    (∀ (ctx : Context) (s : Step), s.takesId = true →
      (Queries.answer ctx s).1 = .obj [("type_id", Render.typeId ctx.registry.allocate.1)]) ∧
    (Context.fresh builtins hub).registry.idsTaken steps =
      (List.range (steps.countP Step.takesId)).map (fun k => TypeId.ofNat (TypeId.firstUser + k)) ∧
    (steps.countP Step.takesId ≤ 2 ^ 32 - TypeId.firstUser →
      ((Context.fresh builtins hub).registry.idsTaken steps).map (·.raw.toNat) =
        (List.range (steps.countP Step.takesId)).map (TypeId.firstUser + ·) ∧
      ((Context.fresh builtins hub).registry.idsTaken steps).Nodup ∧
      (∀ id ∈ (Context.fresh builtins hub).registry.idsTaken steps, id.isBuiltin = false) ∧
      (steps.foldl Step.onRegistry (Context.fresh builtins hub).registry).IdsApart) := by
  refine ⟨fun ctx s hs => Queries.answer_of_takesId ctx hs, ?_⟩
  have start : (Context.fresh builtins hub).registry.allocated = 0 ∧
      (Context.fresh builtins hub).registry.IdsApart := by
    cases builtins
    · exact ⟨rfl, Registry.IdsApart.empty⟩
    · exact ⟨rfl, Registry.IdsApart.withBuiltins⟩
  have bound : (Context.fresh builtins hub).registry.bound = TypeId.firstUser := by
    simp [Registry.bound, start.1]
  refine ⟨by simp [Registry.idsTaken_eq, start.1], fun hn => ?_⟩
  have hroom : (Context.fresh builtins hub).registry.bound + steps.countP Step.takesId ≤ 2 ^ 32 := by
    rw [bound]
    simp only [TypeId.firstUser] at hn ⊢
    omega
  obtain ⟨nodup, notBuiltin⟩ := Registry.idsTaken_fresh hroom
  refine ⟨?_, nodup, notBuiltin, start.2.foldl_onRegistry steps hroom⟩
  rw [Registry.idsTaken_raw hroom, bound]

/-- A class, a bare allocation and a foreign type, defined in turn. -/
def threeNewTypes : List Step :=
  [.defineClass { name := "Shape" }, .allocateTypeId, .defineForeign "Point" []]

/-- After the builtin kinds, a bare allocation answers 256, and a class, a bare allocation
and a foreign type defined in turn take the ids 256, 257 and 258. -/
theorem new_types_take_256_257_258 :
    (Queries.answer (Context.fresh true false) .allocateTypeId).1 = .obj [("type_id", .int 256)] ∧
      threeNewTypes.countP Step.takesId ≤ 2 ^ 32 - TypeId.firstUser ∧
      ((Context.fresh true false).registry.idsTaken threeNewTypes).map (·.raw.toNat) = [256, 257, 258] := by
  have few : threeNewTypes.countP Step.takesId ≤ 2 ^ 32 - TypeId.firstUser := by decide
  refine ⟨?_, few, ?_⟩
  · rw [(ids_are_fresh_while_the_counter_has_room true false threeNewTypes).1 _ _ rfl]
    rfl
  · rw [((ids_are_fresh_while_the_counter_has_room true false threeNewTypes).2.2 few).1]
    decide

end InlineCache
