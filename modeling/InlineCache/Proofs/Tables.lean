import Mathlib
import InlineCache.Proofs.Runs
import InlineCache.Proofs.RegistryRuns
/-!
# The shape of method tables

A method table lists each name once, with the overloads of that name in the order they
came. Every table the program builds, from the empty table by adding methods and removing
names, has one shape: a listed name has at least one overload, its overloads carry the name,
and no two of them have the same parameter list. Reading a table therefore shows a name
exactly when it has overloads of it.

Adding a method changes the overloads of its name only: the overload with the same
parameter list is replaced where it stands, or the method goes last. Removing a name drops
its overloads and leaves the others. Tables are values, so the table a change starts from
is never altered; a guard or a class that holds it keeps reading the same overloads.

The tables of classes and foreign types are built this way, so every table of every
registry a scenario reaches has that shape.
-/
namespace InlineCache

namespace MethodTable

/-- The overloads a table may list under `name`: at least one, each carrying the name, no two
with the same parameter list. -/
structure OverloadsOf (name : String) (ms : List Method) : Prop where
  ne_nil : ms ≠ []
  named : ∀ m ∈ ms, m.name = name
  params_nodup : (ms.map Method.params).Nodup

/-- The shape every table of the program has. -/
structure WellFormed (t : MethodTable) : Prop where
  /-- Each name is listed once. -/
  names_nodup : (t.entries.map Prod.fst).Nodup
  overloads : ∀ e ∈ t.entries, OverloadsOf e.1 e.2

/-- The tables the program builds: the empty table, and what adding a method to such a
table, or removing a name from it, makes. -/
inductive Reachable : MethodTable → Prop
  | empty : Reachable empty
  | insert {t : MethodTable} (m : Method) : Reachable t → Reachable (t.insert m)
  | erase {t : MethodTable} (name : String) : Reachable t → Reachable (t.erase name)

/-! ### Reading a table -/

/-- A name the table lacks is in no entry. -/
theorem find?_of_contains_false {t : MethodTable} {n : String} (h : t.contains n = false) :
    t.entries.find? (fun e => e.1 == n) = none := by
  rw [List.find?_eq_none]
  intro e he hn
  have listed : t.contains n = true := List.any_eq_true.2 ⟨e, he, hn⟩
  simp [h] at listed

/-- A name the table lacks has no overloads. -/
theorem lookup_of_contains_false {t : MethodTable} {n : String} (h : t.contains n = false) :
    t.lookup n = [] := by
  simp [lookup, find?_of_contains_false h]

/-- A name the table lists is found in an entry of that name. -/
theorem find?_of_contains {t : MethodTable} {n : String} (h : t.contains n = true) :
    ∃ e, t.entries.find? (fun e => e.1 == n) = some e ∧ e.1 = n := by
  cases hf : t.entries.find? (fun e => e.1 == n) with
  | none =>
    obtain ⟨e, he, hn⟩ := List.any_eq_true.1 h
    exact absurd hn (List.find?_eq_none.1 hf e he)
  | some e => exact ⟨e, rfl, by simpa using List.find?_some hf⟩

/-- A name the table lists is read from the first entry that lists it. -/
theorem exists_lookup_of_contains {t : MethodTable} {n : String} (h : t.contains n = true) :
    ∃ e ∈ t.entries, e.1 = n ∧ t.lookup n = e.2 := by
  obtain ⟨e, hf, hname⟩ := find?_of_contains h
  exact ⟨e, List.mem_of_find?_eq_some hf, hname, by simp [lookup, hf]⟩

/-- In a table that lists each name once, a name is read from its entry. -/
theorem lookup_eq_of_mem {t : MethodTable} (hw : t.WellFormed) {e : String × List Method}
    (he : e ∈ t.entries) : t.lookup e.1 = e.2 := by
  have listed : t.contains e.1 = true := List.any_eq_true.2 ⟨e, he, by simp⟩
  obtain ⟨e', he', hname, hlookup⟩ := exists_lookup_of_contains listed
  rw [hlookup, List.inj_on_of_nodup_map hw.names_nodup he' he hname]

/-- What a well-formed table shows of a name it lists: the overloads of its entry. -/
theorem WellFormed.lookup_overloads {t : MethodTable} (hw : t.WellFormed) {n : String}
    (h : t.contains n = true) : OverloadsOf n (t.lookup n) := by
  obtain ⟨e, he, rfl, hlookup⟩ := exists_lookup_of_contains h
  rw [hlookup]
  exact hw.overloads e he

/-- A well-formed table lists a name exactly when it has overloads of it. -/
theorem WellFormed.contains_iff {t : MethodTable} (hw : t.WellFormed) (n : String) :
    t.contains n = true ↔ t.lookup n ≠ [] := by
  constructor
  · exact fun h => (hw.lookup_overloads h).ne_nil
  · intro hne
    cases h : t.contains n with
    | true => rfl
    | false => exact absurd (lookup_of_contains_false h) hne

/-! ### Adding an overload -/

/-- Overloads that keep a name's parameter lists apart: adding a method replaces the one
with its parameter list, where it stands, or puts the method last. -/
theorem addOverload_eq {ms : List Method} (h : (ms.map Method.params).Nodup) (m : Method) :
    addOverload ms m =
      if ∃ k ∈ ms, k.params = m.params then ms.map fun k => if k.params = m.params then m else k
      else ms ++ [m] := by
  have same : ∀ k : Method, k.sameSignature m = true ↔ k.params = m.params := by
    simp [Method.sameSignature]
  have found : (ms.any fun k => k.sameSignature m) = true ↔ ∃ k ∈ ms, k.params = m.params := by
    simp [List.any_eq_true, same]
  unfold addOverload
  by_cases hex : ∃ k ∈ ms, k.params = m.params
  · rw [if_pos (found.2 hex), if_pos hex]
    have hi : ms.findIdx (fun k => k.sameSignature m) < ms.length :=
      List.findIdx_lt_length_of_exists (by simpa [same] using hex)
    have hsig : ms[ms.findIdx (fun k => k.sameSignature m)].params = m.params :=
      (same _).1 (List.findIdx_getElem (w := hi))
    apply List.ext_getElem (by simp)
    intro j hj _
    rw [List.getElem_set, List.getElem_map]
    by_cases hj' : ms.findIdx (fun k => k.sameSignature m) = j
    · subst hj'
      simp [hsig]
    · have hlen : j < ms.length := by simpa using hj
      have other : ms[j].params ≠ m.params := by
        intro hp
        have := (@List.Nodup.getElem_inj_iff _ _ h j (by simpa using hlen)
          (ms.findIdx (fun k => k.sameSignature m)) (by simpa using hi)).1 (by simp [hp, hsig])
        exact hj' this.symm
      simp [hj', other]
  · rw [if_neg (fun h => hex (found.1 h)), if_neg hex]

/-- Adding to the overloads of the method's own name keeps them overloads of that name. -/
theorem OverloadsOf.addOverload {ms : List Method} {m : Method} (h : OverloadsOf m.name ms) :
    OverloadsOf m.name (addOverload ms m) := by
  rw [addOverload_eq h.params_nodup]
  split
  · next hex =>
    have params_same : (ms.map fun k => if k.params = m.params then m else k).map Method.params =
        ms.map Method.params := by
      simp only [List.map_map]
      exact List.map_congr_left fun k _ => by by_cases hk : k.params = m.params <;> simp [hk]
    refine ⟨by simpa using h.ne_nil, fun k hk => ?_, by rw [params_same]; exact h.params_nodup⟩
    obtain ⟨k₀, hk₀, rfl⟩ := List.mem_map.1 hk
    by_cases hp : k₀.params = m.params
    · simp [hp]
    · simpa [hp] using h.named k₀ hk₀
  · next hex =>
    refine ⟨by simp, fun k hk => ?_, ?_⟩
    · rcases List.mem_append.1 hk with hk | hk
      · exact h.named k hk
      · rw [List.mem_singleton.1 hk]
    · rw [List.map_append, List.nodup_append]
      refine ⟨h.params_nodup, by simp, ?_⟩
      simp only [List.map_cons, List.map_nil, List.mem_singleton, List.mem_map]
      rintro _ ⟨k, hk, rfl⟩ _ rfl hp
      exact hex ⟨k, hk, hp⟩

/-- A lone method is an overload list of its name. -/
theorem OverloadsOf.single (m : Method) : OverloadsOf m.name [m] :=
  ⟨by simp, by simp, by simp⟩

/-- The entries after adding a method to a name the table lists: the entry of that name
gets the method, and every entry keeps its name. -/
def addTo (m : Method) (e : String × List Method) : String × List Method :=
  if e.1 == m.name then (e.1, addOverload e.2 m) else e

@[simp] theorem addTo_fst (m : Method) (e : String × List Method) : (addTo m e).1 = e.1 := by
  unfold addTo
  split <;> rfl

theorem insert_of_contains {t : MethodTable} {m : Method} (h : t.contains m.name = true) :
    t.insert m = ⟨t.entries.map (addTo m)⟩ := by
  simp only [insert, h, if_true]
  rfl

theorem insert_of_contains_false {t : MethodTable} {m : Method} (h : t.contains m.name = false) :
    t.insert m = ⟨t.entries ++ [(m.name, [m])]⟩ := by
  simp [insert, h]

/-- Entries that keep their names are found under the same names. -/
theorem find?_map_addTo (t : MethodTable) (m : Method) (n : String) :
    (t.entries.map (addTo m)).find? (fun e => e.1 == n) =
      (t.entries.find? (fun e => e.1 == n)).map (addTo m) := by
  have names : (fun e : String × List Method => e.1 == n) ∘ addTo m = fun e => e.1 == n :=
    funext fun e => by simp
  rw [List.find?_map, names]

/-- Adding a method touches the overloads of its name only. -/
theorem lookup_insert_of_ne (t : MethodTable) {m : Method} {n : String} (hn : n ≠ m.name) :
    (t.insert m).lookup n = t.lookup n := by
  cases hc : t.contains m.name with
  | true =>
    rw [insert_of_contains hc]
    simp only [lookup, find?_map_addTo]
    cases hf : t.entries.find? (fun e => e.1 == n) with
    | none => rfl
    | some e =>
      have hname : e.1 = n := by simpa using List.find?_some hf
      simp [addTo, hname, hn]
  | false =>
    rw [insert_of_contains_false hc]
    have skip : [(m.name, [m])].find? (fun e => e.1 == n) = none := by simp [Ne.symm hn]
    simp only [lookup, List.find?_append, skip, Option.or_none]

/-- Adding a method makes its overloads of the old ones as `addOverload` says. -/
theorem lookup_insert_self (t : MethodTable) (m : Method) :
    (t.insert m).lookup m.name = addOverload (t.lookup m.name) m := by
  cases hc : t.contains m.name with
  | true =>
    rw [insert_of_contains hc]
    obtain ⟨e, hf, hname⟩ := find?_of_contains hc
    simp only [lookup, find?_map_addTo, hf, Option.map_some]
    simp [addTo, hname]
  | false =>
    rw [insert_of_contains_false hc, lookup_of_contains_false hc]
    simp [lookup, List.find?_append, find?_of_contains_false hc, addOverload]

/-- Adding a method keeps a table well-formed. -/
theorem WellFormed.insert {t : MethodTable} (hw : t.WellFormed) (m : Method) :
    (t.insert m).WellFormed := by
  cases hc : t.contains m.name with
  | true =>
    rw [insert_of_contains hc]
    refine ⟨?_, fun e he => ?_⟩
    · have names : Prod.fst ∘ addTo m = Prod.fst := funext (addTo_fst m)
      simpa only [List.map_map, names] using hw.names_nodup
    · obtain ⟨e₀, he₀, rfl⟩ := List.mem_map.1 he
      by_cases hname : e₀.1 = m.name
      · have own := hw.overloads e₀ he₀
        rw [hname] at own
        simpa [addTo, hname] using own.addOverload
      · simpa [addTo, hname] using hw.overloads e₀ he₀
  | false =>
    rw [insert_of_contains_false hc]
    have fresh : m.name ∉ t.entries.map Prod.fst := by
      intro hmem
      obtain ⟨e, he, hname⟩ := List.mem_map.1 hmem
      have listed : t.contains m.name = true := List.any_eq_true.2 ⟨e, he, by simp [hname]⟩
      simp [hc] at listed
    refine ⟨?_, fun e he => ?_⟩
    · rw [List.map_append, List.nodup_append]
      refine ⟨hw.names_nodup, by simp, ?_⟩
      simp only [List.map_cons, List.map_nil, List.mem_singleton]
      rintro a ha _ rfl rfl
      exact fresh ha
    · rcases List.mem_append.1 he with he | he
      · exact hw.overloads e he
      · rw [List.mem_singleton.1 he]
        exact OverloadsOf.single m

/-! ### Removing a name -/

/-- Removing a name leaves none of its overloads. -/
theorem lookup_erase_self (t : MethodTable) (name : String) : (t.erase name).lookup name = [] := by
  apply lookup_of_contains_false
  simp [erase, contains, List.any_filter]

/-- Removing a name leaves it unlisted. -/
theorem contains_erase_self (t : MethodTable) (name : String) :
    (t.erase name).contains name = false := by
  simp [erase, contains, List.any_filter]

/-- Removing a name leaves the overloads of every other name. -/
theorem lookup_erase_of_ne (t : MethodTable) {name n : String} (hn : n ≠ name) :
    (t.erase name).lookup n = t.lookup n := by
  have same : (fun e : String × List Method => decide ((e.1 != name) = true ∧ (e.1 == n) = true)) =
      fun e => e.1 == n := by
    funext e
    by_cases he : e.1 = n
    · simp [he, hn]
    · simp [he]
  simp only [erase, lookup, List.find?_filter, same]

/-- Removing a name keeps a table well-formed. -/
theorem WellFormed.erase {t : MethodTable} (hw : t.WellFormed) (name : String) :
    (t.erase name).WellFormed where
  names_nodup := hw.names_nodup.sublist (List.filter_sublist.map Prod.fst)
  overloads e he := hw.overloads e (List.mem_of_mem_filter he)

/-- Every table the program builds is well-formed. -/
theorem Reachable.wellFormed {t : MethodTable} (h : t.Reachable) : t.WellFormed := by
  induction h with
  | empty => exact ⟨List.nodup_nil, fun e he => absurd he List.not_mem_nil⟩
  | insert m _ ih => exact ih.insert m
  | erase name _ ih => exact ih.erase name

/-- A table built from a list of methods is built by adding them one by one. -/
theorem reachable_ofMethods (ms : List Method) : (ofMethods ms).Reachable := by
  have grows : ∀ (ms : List Method) (t : MethodTable), t.Reachable → (ms.foldl insert t).Reachable := by
    intro ms
    induction ms with
    | nil => exact fun t ht => ht
    | cons m rest ih => exact fun t ht => ih _ (ht.insert m)
  exact grows ms empty .empty

end MethodTable

/-- Removing an instance method leaves the static table as it was. -/
theorem Class.removeMethod?_statics {c c' : Class} {name : String} (h : c.removeMethod? name = some c') :
    c'.statics = c.statics := by
  unfold Class.removeMethod? at h
  split at h
  · cases h
    rfl
  · cases h

namespace Registry

/-- Every method table of the registry was built by the table operations: both tables of
each class and the table of each foreign type. -/
structure TablesReachable (reg : Registry) : Prop where
  classes : ∀ c ∈ reg.classes, c.methods.Reachable ∧ c.statics.Reachable
  foreign : ∀ t ∈ reg.foreignTypes, t.methods.Reachable

namespace TablesReachable

theorem empty : Registry.empty.TablesReachable :=
  ⟨fun _ h => absurd h List.not_mem_nil, fun _ h => absurd h List.not_mem_nil⟩

theorem registerForeign {reg : Registry} (h : reg.TablesReachable) {t : ForeignType}
    (ht : t.methods.Reachable) : (reg.registerForeign t).TablesReachable where
  classes := h.classes
  foreign t' ht' := by
    rcases List.mem_append.1 ht' with old | new
    · exact h.foreign t' (List.mem_of_mem_filter old)
    · rw [List.mem_singleton.1 new]
      exact ht

/-- The builtin kinds' tables are built from their methods. -/
theorem withBuiltins : Registry.withBuiltins.TablesReachable := by
  have grows : ∀ (ts : List ForeignType) (reg : Registry), (∀ t ∈ ts, t.methods.Reachable) →
      reg.TablesReachable → (ts.foldl Registry.registerForeign reg).TablesReachable := by
    intro ts
    induction ts with
    | nil => exact fun _ _ h => h
    | cons t rest ih =>
      intro reg hts h
      exact ih _ (fun t' ht' => hts t' (List.mem_cons_of_mem t ht'))
        (h.registerForeign (hts t List.mem_cons_self))
  apply grows _ _ _ empty
  intro t ht
  simp only [builtinTypes, List.mem_cons, List.not_mem_nil, or_false] at ht
  rcases ht with rfl | rfl | rfl | rfl | rfl <;> exact MethodTable.reachable_ofMethods _

/-- Changing the classes of one id keeps the tables built, when the changed classes' tables
are built. -/
theorem updateClass {reg : Registry} (h : reg.TablesReachable) {id : TypeId} {f : Class → Class}
    (hf : ∀ c ∈ reg.classes, c.id = id → (f c).methods.Reachable ∧ (f c).statics.Reachable) :
    (reg.updateClass id f).TablesReachable where
  classes c hc := by
    obtain ⟨c₀, hc₀, rfl⟩ := List.mem_map.1 hc
    by_cases hid : c₀.id = id
    · simpa [hid] using hf c₀ hc₀ hid
    · simpa [hid] using h.classes c₀ hc₀
  foreign := h.foreign

/-- Adding a method to a foreign type keeps the tables built. -/
theorem updateForeign {reg : Registry} (h : reg.TablesReachable) (id : TypeId) (m : Method) :
    (reg.updateForeign id (·.defineMethod m)).TablesReachable where
  classes := h.classes
  foreign t ht := by
    obtain ⟨t₀, ht₀, rfl⟩ := List.mem_map.1 ht
    by_cases hid : t₀.id = id
    · simpa [hid, ForeignType.defineMethod] using (h.foreign t₀ ht₀).insert m
    · simpa [hid] using h.foreign t₀ ht₀

/-- Every step keeps the tables of the registry built by the table operations. -/
theorem onRegistry {reg : Registry} (h : reg.TablesReachable) (s : Step) :
    (s.onRegistry reg).TablesReachable := by
  cases s with
  | defineClass spec =>
    refine ⟨fun c hc => ?_, h.foreign⟩
    rcases List.mem_append.1 hc with old | new
    · exact h.classes c old
    · rw [List.mem_singleton.1 new]
      exact ⟨MethodTable.reachable_ofMethods _, MethodTable.reachable_ofMethods _⟩
  | defineForeign name ms =>
    have allocated : reg.allocate.2.TablesReachable := ⟨h.classes, h.foreign⟩
    exact allocated.registerForeign (MethodTable.reachable_ofMethods ms)
  | allocateTypeId => exact ⟨h.classes, h.foreign⟩
  | defineMethod cls m route =>
    exact h.updateClass fun c hc _ => ⟨(h.classes c hc).1.insert m, (h.classes c hc).2⟩
  | defineStatic cls m route =>
    exact h.updateClass fun c hc _ => ⟨(h.classes c hc).1, (h.classes c hc).2.insert _⟩
  | removeMethod cls name route =>
    simp only [Step.onRegistry]
    split
    · next c' found =>
      obtain ⟨c₀, hc₀, removed, -⟩ := removal_found found
      have mem : c₀ ∈ reg.classes := List.mem_of_find?_eq_some hc₀
      have methods := (Class.removeMethod?_eq_some removed).2.2.2.2.2
      refine h.updateClass fun _ _ _ => ⟨?_, ?_⟩
      · rw [methods]
        exact (h.classes c₀ mem).1.erase name
      · rw [Class.removeMethod?_statics removed]
        exact (h.classes c₀ mem).2
    · exact h
  | defineForeignMethod ty m route => exact h.updateForeign ty m
  | _ => exact h

end TablesReachable

end Registry

namespace Context

/-- The tables of the registry stay built by the table operations from `ctx` to `ctx'`. -/
def TablesKept (ctx ctx' : Context) : Prop :=
  ctx.registry.TablesReachable → ctx'.registry.TablesReachable

instance : Std.Refl TablesKept := ⟨fun _ h => h⟩

instance : IsTrans Context TablesKept := ⟨fun _ _ _ h₁ h₂ h => h₂ (h₁ h)⟩

instance : IsPreorder Context TablesKept := {}

end Context

open Context in
/-- Only the steps that call no method change the registry, and each keeps its tables built. -/
theorem Machine.respects_tablesKept : Machine.Respects TablesKept where
  hit _ _ _ h := h
  log _ _ h := h
  heap _ _ h := h
  pin _ _ _ h := h
  depth _ _ h := h
  setVar _ _ _ h := h
  answer ctx s h := by
    rw [Queries.answer_registry]
    exact h.onRegistry s
  installFailed _ _ _ _ _ _ h := h
  installCached _ _ _ _ _ _ _ _ _ _ h₁ _ h₂ := trans_of TablesKept h₁ h₂
  reject _ _ _ _ _ _ _ _ _ _ h₁ _ h₂ := trans_of TablesKept h₁ h₂

/-- Every table the program builds is well formed; adding replaces the overload of the same
parameters in place or appends, removing drops the name, and other names read as before. -/
theorem built_tables_keep_their_shape :
    (∀ t : MethodTable, t.Reachable →
      (∀ n, t.contains n = true → MethodTable.OverloadsOf n (t.lookup n)) ∧
      (∀ n, t.contains n = true ↔ t.lookup n ≠ []) ∧
      (∀ m : Method, (t.insert m).Reachable ∧
        (t.insert m).lookup m.name =
          (if ∃ k ∈ t.lookup m.name, k.params = m.params then
            (t.lookup m.name).map fun k => if k.params = m.params then m else k
          else t.lookup m.name ++ [m]) ∧
        ∀ n, n ≠ m.name → (t.insert m).lookup n = t.lookup n) ∧
      ∀ name, (t.erase name).Reachable ∧ (t.erase name).contains name = false ∧
        (t.erase name).lookup name = [] ∧ ∀ n, n ≠ name → (t.erase name).lookup n = t.lookup n) ∧
    (∀ ms : List Method, (MethodTable.ofMethods ms).Reachable) ∧
    ∀ (builtins hub : Bool) (fuel : Nat) (js outs : List Json) (ctx' : Context),
      (Machine.runSteps fuel js).run (Context.fresh builtins hub) = .ok (outs, ctx') →
      (∀ c ∈ ctx'.registry.classes, c.methods.Reachable ∧ c.statics.Reachable) ∧
        ∀ t ∈ ctx'.registry.foreignTypes, t.methods.Reachable := by
  refine ⟨fun t ht => ?_, MethodTable.reachable_ofMethods, fun builtins hub fuel js outs ctx' hrun => ?_⟩
  · have hw := ht.wellFormed
    have apart : ∀ m : Method, ((t.lookup m.name).map Method.params).Nodup := by
      intro m
      cases hc : t.contains m.name with
      | true => exact (hw.lookup_overloads hc).params_nodup
      | false => simp [MethodTable.lookup_of_contains_false hc]
    refine ⟨fun n hn => hw.lookup_overloads hn, hw.contains_iff, fun m => ⟨ht.insert m, ?_,
      fun n hn => t.lookup_insert_of_ne hn⟩, fun name => ⟨ht.erase name, t.contains_erase_self name,
      t.lookup_erase_self name, fun n hn => t.lookup_erase_of_ne hn⟩⟩
    rw [t.lookup_insert_self m, MethodTable.addOverload_eq (apart m)]
  · have start : (Context.fresh builtins hub).registry.TablesReachable := by
      cases builtins
      · exact Registry.TablesReachable.empty
      · exact Registry.TablesReachable.withBuiltins
    have kept := Machine.runSteps_keeps Machine.respects_tablesKept fuel js _ outs ctx' hrun start
    exact ⟨kept.classes, kept.foreign⟩

namespace SizeTable

/-- The method `size` answering `n`. -/
def size (n : Int64) : Method :=
  { name := "size", params := [], body := .script (.const (.plain (.int n))) }

/-- The table built from `size` answering 1. -/
def original : MethodTable := MethodTable.ofMethods [size 1]

end SizeTable

open SizeTable in
/-- Adding `size` answering 2 to a table of `size` answering 1 replaces the overload, while
the table it started from still answers 1. -/
theorem redefined_size_replaces_its_overload :
    original.Reachable ∧ (original.insert (size 2)).lookup "size" = [size 2] ∧
      original.lookup "size" = [size 1] := by
  have reach : original.Reachable := built_tables_keep_their_shape.2.1 [size 1]
  have added := ((built_tables_keep_their_shape.1 original reach).2.2.1 (size 2)).2.1
  have before : original.lookup "size" = [size 1] := rfl
  refine ⟨reach, ?_, before⟩
  rw [show "size" = (size 2).name from rfl, added]
  simp [before, size]

end InlineCache
