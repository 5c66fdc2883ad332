import InlineCache.Proofs.FreshIds
import InlineCache.Proofs.TableGuard
import InlineCache.Proofs.MostSpecific
/-!
# Guards that keep a resolution

A target's guard compares type ids, a class value or the identity of an instance table
with the call's inputs. When nothing but new types has happened to the registry since the
resolution, every input the guard accepts is resolved afresh to the same kind of target
running the same thing: the class of an instance, the table of a foreign or builtin kind,
the class of a static call or a constructor and the operands of an operator are all read off
the type ids the guard compared.

One case escapes the guard. A byte sequence and a foreign object of the builtin kind
`bytes` have one type id, but the search serves the byte accessors to byte sequences before
it looks at the kind's table. A method of that table named as an accessor, once cached for a
foreign object, is therefore run for a byte sequence that a fresh search gives the accessor.
The statements below exclude that case by asking that the table of `bytes` have no method
of those names.
-/
namespace InlineCache

namespace AccessorOp

/-- The names the byte accessors answer to. -/
def names : List String := ["size", "length", "getAt"]

theorem name_mem_of_forCall? {name : String} {args : List Value} {op : AccessorOp}
    (h : forCall? name args = some op) : name ∈ names := by
  unfold forCall? at h
  split at h <;> simp_all [names]

/-- A name that is no accessor's is never served an accessor. -/
theorem forCall?_of_not_mem {name : String} (h : name ∉ names) (args : List Value) :
    forCall? name args = none := by
  cases hop : forCall? name args with
  | none => rfl
  | some op => exact absurd (name_mem_of_forCall? hop) h

/-- Inputs a byte-sequence guard accepts are served the accessor that was served to the
inputs it was made for. -/
theorem forCall?_of_accepts {reg : Registry} {name : String} {args₀ args : List Value}
    {op : AccessorOp} {recv : Value} (h₀ : forCall? name args₀ = some op)
    (hacc : (Guard.byteSequence (op == .getAt)).accepts reg recv args = true) :
    forCall? name args = some op := by
  simp only [Guard.accepts] at hacc
  split at hacc
  · unfold forCall? at h₀
    split at h₀ <;> cases h₀
    · simp_all [List.isEmpty_iff, forCall?]
    · simp_all [List.isEmpty_iff, forCall?]
    · simp only [beq_self_eq_true, if_true] at hacc
      split at hacc
      · rfl
      · cases hacc
  · cases hacc

/-- An accessor is served arguments of the shape its target records: none, or one integer. -/
theorem shape_of_forCall? {name : String} {args : List Value} {op : AccessorOp}
    (h : forCall? name args = some op) : Value.shape args = (Target.accessor op).paramTypes := by
  unfold forCall? at h
  split at h <;> cases h <;> rfl

end AccessorOp

/-- A value with a type id other than null's is not null. -/
theorem Value.isNone_of_typeId_ne {v : Value} (h : v.typeId ≠ TypeId.none) : v.isNone = false := by
  cases v with
  | none => exact absurd rfl h
  | _ => rfl

namespace Registry

/-- The table of the builtin kind `bytes` has no method named as a byte accessor. -/
def AccessorsUnshadowed (reg : Registry) : Prop :=
  ∀ t, reg.foreign? TypeId.bytes = some t → ∀ name ∈ AccessorOp.names, t.methods.lookup name = []

namespace Sound

variable {reg : Registry} (hs : reg.Sound)
include hs

/-- A type with a table is neither null's nor that of class values. -/
theorem table_id {id : TypeId} {ft : ForeignType} (h : reg.foreign? id = some ft) :
    id ≠ TypeId.none ∧ id ≠ TypeId.class := by
  have hid : id.raw.toNat ≠ 0 ∧ id.raw.toNat ≠ 6 := by
    rcases hs.foreign_kind id ft h with ⟨lo, hi⟩ | ⟨lo, -⟩
    · constructor <;> omega
    · simp only [TypeId.firstUser] at lo
      constructor <;> omega
  exact ⟨fun e => hid.1 (by rw [e]; rfl), fun e => hid.2 (by rw [e]; rfl)⟩

/-- A known value other than null has a type id other than null's. -/
theorem typeId_ne_none {v : Value} (hv : reg.Knows v) (hn : v.isNone = false) :
    v.typeId ≠ TypeId.none := by
  cases v with
  | none => cases hn
  | object r =>
    obtain ⟨c, hc⟩ := Option.isSome_iff_exists.1 hv
    have issued := (hs.class_issued _ c hc).1.1
    intro e
    simp only [Value.typeId] at e
    simp [e, TypeId.none, TypeId.firstUser] at issued
  | foreign a ty p =>
    obtain ⟨t, ht⟩ := Option.isSome_iff_exists.1 hv.1
    exact (hs.table_id ht).1
  | _ => simp only [Value.typeId]; decide

/-- The instance search on a known receiver whose type has a table, when it is served no byte
accessor, searches that table. -/
theorem instanceCall_of_table {recv : Value} (hk : reg.Knows recv) {ft : ForeignType}
    (hft : reg.foreign? recv.typeId = some ft) {d : CallDescriptor} {args : List Value}
    (hbytes : ∀ b, recv = .bytes b → AccessorOp.forCall? d.name args = none) :
    Resolve.instanceCall reg recv d args =
      (selectMostSpecific reg (ft.methods.lookup d.name) args >>= fun m =>
        pure (Target.foreign recv m args)) := by
  cases recv with
  | none => exact absurd rfl (hs.table_id hft).1
  | object r =>
    obtain ⟨c, hc⟩ := Option.isSome_iff_exists.1 hk
    simp [Value.typeId, hs.apart _ c hc] at hft
  | cls id => exact absurd rfl (hs.table_id hft).2
  | foreign a ty p =>
    simp only [Value.typeId] at hft
    simp only [Resolve.instanceCall, hft]
  | bytes b => simp only [Resolve.instanceCall, hbytes b rfl, Resolve.builtinCall, hft]
  | bool _ | int _ | float _ | str _ => simp only [Resolve.instanceCall, Resolve.builtinCall, hft]

end Sound

namespace Extends

variable {reg reg' : Registry} (h : reg.Extends reg') {c : Class}
  (hc : ∀ k ∈ c.ancestry, k.raw.toNat < reg.bound)
include h hc

theorem findMethods_eq (name : String) : reg'.findMethods c name = reg.findMethods c name := by
  simp only [findMethods, h.ancestors_eq hc]

theorem findStatics_eq (name : String) : reg'.findStatics c name = reg.findStatics c name := by
  simp only [findStatics, h.ancestors_eq hc]

end Extends

end Registry

/-- The method selection chooses is one of the candidates. -/
theorem selectMostSpecific_mem {reg : Registry} {cands : List Method} {args : List Value}
    {m : Method} (h : selectMostSpecific reg cands args = .ok m) : m ∈ cands := by
  have pass : cands.foldl (Leader.consider reg args) none = Specificity.leader reg args cands := by
    have := @Specificity.foldl_consider_leader reg args [] cands
    rwa [Specificity.leader_nil, List.nil_append] at this
  unfold selectMostSpecific at h
  rw [pass] at h
  split at h
  · cases h
  · next b hb =>
    split at h
    · cases h
      exact Specificity.leader_method_mem hb
    · cases h

namespace Guard

theorem accepts_exactTypes {reg : Registry} {t : TypeId} {shape : List TypeId} {recv : Value}
    {args : List Value} (h : (Guard.exactTypes t shape).accepts reg recv args = true) :
    recv.typeId = t ∧ shape = Value.shape args := by
  simpa [accepts, sameTypes] using h

theorem accepts_sameClass {reg : Registry} {cls : TypeId} {shape : List TypeId} {recv : Value}
    {args : List Value} (h : (Guard.sameClass cls shape).accepts reg recv args = true) :
    recv = .cls cls ∧ shape = Value.shape args := by
  simp only [accepts] at h
  split at h
  · simpa [sameTypes] using h
  · cases h

theorem accepts_ctor {reg : Registry} {cls : TypeId} {shape : List TypeId} {recv : Value}
    {args : List Value} (h : (Guard.ctor cls shape).accepts reg recv args = true) :
    recv = .cls cls ∧ shape = Value.shape args := by
  simp only [accepts] at h
  split at h
  · simpa [sameTypes] using h
  · cases h

theorem accepts_operands {reg : Registry} {lhs rhs : TypeId} {recv : Value}
    {args : List Value} (h : (Guard.operands lhs rhs).accepts reg recv args = true) :
    ∃ arg, args = [arg] ∧ recv.typeId = lhs ∧ arg.typeId = rhs := by
  simp only [accepts] at h
  split at h
  · simp only [Bool.and_eq_true, beq_iff_eq] at h
    exact ⟨_, rfl, h⟩
  · cases h

theorem accepts_byteSequence {reg : Registry} {indexArg : Bool} {recv : Value}
    {args : List Value} (h : (Guard.byteSequence indexArg).accepts reg recv args = true) :
    ∃ b, recv = .bytes b := by
  simp only [accepts] at h
  split at h
  · exact ⟨_, rfl⟩
  · cases h

end Guard

namespace Resolve

/-- A builtin call searches the table of the receiver's kind. -/
theorem builtinCall_eq_ok {reg : Registry} {recv : Value} {name : String} {args : List Value}
    {t : Target} (h : builtinCall reg recv name args = .ok t) :
    ∃ ft m, reg.foreign? recv.typeId = some ft ∧
      selectMostSpecific reg (ft.methods.lookup name) args = .ok m ∧
      t = Target.foreign recv m args := by
  unfold builtinCall at h
  split at h
  · cases h
  · next ft hft =>
    obtain ⟨m, hm, ht⟩ := bind_eq_ok.1 h
    exact ⟨ft, m, hft, hm, (pure_eq_ok.1 ht).symm⟩

end Resolve

/-! The search by each kind of descriptor, past its two checks. -/

theorem resolve_passes {reg : Registry} {recv : Value} {d : CallDescriptor} {args : List Value}
    {t : Target} (h : resolve reg recv d args = .ok t) :
    recv.isNone = false ∧ d.admits args = true := by
  unfold resolve at h
  split at h
  · cases h
  split at h
  · cases h
  next hn hadm =>
  simpa using And.intro hn hadm

section Kinds

variable {reg : Registry} {recv : Value} {d : CallDescriptor} {args : List Value}

theorem resolve_ctor {id : TypeId} {c : Class} (hadm : d.admits args = true)
    (hkind : d.kind = .ctor) (hc : reg.class? id = some c) :
    resolve reg (.cls id) d args = (do
      let init ← selectMostSpecific reg c.constructors args
      return Target.ctor id init args) := by
  simp [resolve, Value.isNone, hadm, hkind, hc]

theorem resolve_ctor_inv {t : Target} (h : resolve reg recv d args = .ok t)
    (hkind : d.kind = .ctor) :
    ∃ id c init, recv = .cls id ∧ reg.class? id = some c ∧
      selectMostSpecific reg c.constructors args = .ok init ∧ t = Target.ctor id init args := by
  obtain ⟨hn, hadm⟩ := resolve_passes h
  simp only [resolve, hn, hadm, hkind, Bool.false_eq_true, Bool.not_true, ite_false] at h
  split at h
  · next id =>
    split at h
    · next c hc =>
      obtain ⟨init, hinit, ht⟩ := bind_eq_ok.1 h
      exact ⟨id, c, init, rfl, hc, hinit, (pure_eq_ok.1 ht).symm⟩
    · cases h
  · cases h

theorem resolve_stat {id : TypeId} (hadm : d.admits args = true) (hkind : d.kind = .stat) :
    resolve reg (.cls id) d args = Resolve.staticCall reg id d args := by
  simp [resolve, Value.isNone, hadm, hkind]

theorem resolve_stat_inv {t : Target} (h : resolve reg recv d args = .ok t)
    (hkind : d.kind = .stat) : ∃ id, recv = .cls id ∧ Resolve.staticCall reg id d args = .ok t := by
  obtain ⟨hn, hadm⟩ := resolve_passes h
  simp only [resolve, hn, hadm, hkind, Bool.false_eq_true, Bool.not_true, ite_false] at h
  split at h
  · exact ⟨_, rfl, h⟩
  · cases h

theorem resolve_oper (hn : recv.isNone = false) (hadm : d.admits args = true)
    (hkind : d.kind = .oper) : resolve reg recv d args = Resolve.operatorCall reg recv d args := by
  simp [resolve, hn, hadm, hkind]

theorem resolve_inst (hn : recv.isNone = false) (hadm : d.admits args = true)
    (hkind : d.kind = .inst) : resolve reg recv d args = Resolve.instanceCall reg recv d args := by
  simp [resolve, hn, hadm, hkind]

end Kinds

/-! ### A hit runs what a fresh search would

Throughout, a target was resolved in the registry `reg₀` for known inputs, and its guard
accepts other known inputs in `reg`, which is `reg₀` with new types only. -/

section Transparent

variable {reg₀ reg : Registry} {d : CallDescriptor} {args₀ args : List Value}

/-- Selection among one list of candidates decides alike for known arguments of one shape. -/
theorem select_transparent (hs₀ : reg₀.Sound) (hs : reg.Sound) (hext : reg₀.Extends reg)
    (hka₀ : ∀ x ∈ args₀, reg₀.Knows x) (hka : ∀ x ∈ args, reg.Knows x)
    (hshape : Value.shape args₀ = Value.shape args) (cands : List Method) :
    selectMostSpecific reg cands args = selectMostSpecific reg₀ cands args₀ :=
  (selectMostSpecific_congr (Registry.argsAlike_of_extends hs₀ hs hext hka₀ hka hshape) cands).symm

namespace Resolve

/-- A foreign target: the guard compared the receiver's type, so the fresh search reads the
same table, and it is served no byte accessor, since the table of bytes has no method of an
accessor's name. -/
theorem foreign_transparent (hs₀ : reg₀.Sound) (hs : reg.Sound) (hext : reg₀.Extends reg)
    (hu : reg₀.AccessorsUnshadowed) {recv₀ recv : Value} (hk₀ : reg₀.Knows recv₀)
    (hk : reg.Knows recv) (hka₀ : ∀ x ∈ args₀, reg₀.Knows x) (hka : ∀ x ∈ args, reg.Knows x)
    {ft : ForeignType} {m : Method} (hft : reg₀.foreign? recv₀.typeId = some ft)
    (hm : selectMostSpecific reg₀ (ft.methods.lookup d.name) args₀ = .ok m)
    (hacc : (Target.foreign recv₀ m args₀).guard.accepts reg recv args = true) :
    recv.isNone = false ∧ Value.shape args = Value.shape args₀ ∧ recv.typeId = recv₀.typeId ∧
      instanceCall reg recv d args = .ok (Target.foreign recv₀ m args₀) := by
  obtain ⟨htype, hshape⟩ := Guard.accepts_exactTypes hacc
  have hft' : reg.foreign? recv.typeId = some ft := by
    rw [htype, hext.foreign?_eq _ (hk₀.typeId_lt hs₀), hft]
  have hbytes : ∀ b, recv = .bytes b → AccessorOp.forCall? d.name args = none := by
    rintro b rfl
    refine AccessorOp.forCall?_of_not_mem (fun hname => ?_) args
    have hbytes₀ : reg₀.foreign? TypeId.bytes = some ft := by
      rw [← hft, ← htype]
      rfl
    rw [hu ft hbytes₀ d.name hname] at hm
    exact List.not_mem_nil (selectMostSpecific_mem hm)
  refine ⟨Value.isNone_of_typeId_ne (hs.table_id hft').1, hshape.symm, htype, ?_⟩
  rw [hs.instanceCall_of_table hk hft' hbytes, select_transparent hs₀ hs hext hka₀ hka hshape, hm]
  simp only [Target.foreign, htype, hshape]
  rfl

/-- A self-describing target: the guard compared the stamp of the instance's class, which
names the class, so the fresh search reads the same class and the same chain. -/
theorem selfDescribing_transparent (hs₀ : reg₀.Sound) (hs : reg.Sound) (hext : reg₀.Extends reg)
    (hka₀ : ∀ x ∈ args₀, reg₀.Knows x) (hka : ∀ x ∈ args, reg.Knows x) {r₀ : ObjectRef}
    {c : Class} {m : Method} {recv : Value} (hc : reg₀.class? r₀.cls = some c)
    (hm : selectMostSpecific reg₀ (reg₀.findMethods c d.name) args₀ = .ok m)
    (hacc : (Target.selfDescribing c m args₀).guard.accepts reg recv args = true) :
    recv.isNone = false ∧ Value.shape args = Value.shape args₀ ∧ recv.typeId = r₀.cls ∧
      instanceCall reg recv d args = .ok (Target.selfDescribing c m args₀) := by
  obtain ⟨r, c', rfl, hc', hstamp, hshape⟩ := Guard.accepts_dispatchTable hacc
  have hcls : r.cls = r₀.cls := by
    have owner := congrArg TableStamp.owner hstamp
    simp only [Class.stamp_owner, Registry.class?_id hc', Registry.class?_id hc] at owner
    exact owner
  have hc'' : reg.class? r.cls = some c := by
    rw [hcls, hext.class?_eq _ (hs₀.class_issued _ c hc).1.lt_bound, hc]
  refine ⟨rfl, hshape.symm, hcls, ?_⟩
  simp only [instanceCall, hc'', hext.findMethods_eq (hs₀.ancestry_lt hc),
    select_transparent hs₀ hs hext hka₀ hka hshape, hm]
  simp only [Target.selfDescribing, hshape]
  rfl

/-- A static target: the guard compared the class value, so the fresh search reads the same
class and the same chain. -/
theorem staticCall_transparent (hs₀ : reg₀.Sound) (hs : reg.Sound) (hext : reg₀.Extends reg)
    (hka₀ : ∀ x ∈ args₀, reg₀.Knows x) (hka : ∀ x ∈ args, reg.Knows x) {id : TypeId}
    {t : Target} {recv : Value} (h₀ : staticCall reg₀ id d args₀ = .ok t)
    (hacc : t.guard.accepts reg recv args = true) :
    recv = .cls id ∧ Value.shape args = Value.shape args₀ ∧ staticCall reg id d args = .ok t := by
  unfold staticCall at h₀
  split at h₀
  · cases h₀
  · next c hc =>
    obtain ⟨m, hm, ht⟩ := bind_eq_ok.1 h₀
    cases pure_eq_ok.1 ht
    obtain ⟨rfl, hshape⟩ := Guard.accepts_sameClass hacc
    have hc' : reg.class? id = some c := by
      rw [hext.class?_eq _ (hs₀.class_issued _ c hc).1.lt_bound, hc]
    refine ⟨rfl, hshape.symm, ?_⟩
    simp only [staticCall, hc', hext.findStatics_eq (hs₀.ancestry_lt hc),
      select_transparent hs₀ hs hext hka₀ hka hshape, hm]
    simp only [Target.staticMethod, hshape]
    rfl

/-- The instance search: every target it makes keeps the receiver's type and the arguments'
shape in its guard, and the fresh search makes the same target. -/
theorem instanceCall_transparent (hs₀ : reg₀.Sound) (hs : reg.Sound) (hext : reg₀.Extends reg)
    (hu : reg₀.AccessorsUnshadowed) {recv₀ recv : Value} (hk₀ : reg₀.Knows recv₀)
    (hk : reg.Knows recv) (hka₀ : ∀ x ∈ args₀, reg₀.Knows x) (hka : ∀ x ∈ args, reg.Knows x)
    {t : Target} (h₀ : instanceCall reg₀ recv₀ d args₀ = .ok t)
    (hacc : t.guard.accepts reg recv args = true) :
    recv.isNone = false ∧ Value.shape args = Value.shape args₀ ∧ recv.typeId = recv₀.typeId ∧
      instanceCall reg recv d args = .ok t := by
  unfold instanceCall at h₀
  split at h₀
  · cases h₀
  · next r₀ =>
    split at h₀
    · cases h₀
    · next c hc =>
      obtain ⟨m, hm, ht⟩ := bind_eq_ok.1 h₀
      cases pure_eq_ok.1 ht
      exact selfDescribing_transparent hs₀ hs hext hka₀ hka hc hm hacc
  · obtain ⟨rfl, hshape, hstatic⟩ := staticCall_transparent hs₀ hs hext hka₀ hka h₀ hacc
    exact ⟨rfl, hshape, rfl, hstatic⟩
  · split at h₀
    · cases h₀
    · next ft hft =>
      obtain ⟨m, hm, ht⟩ := bind_eq_ok.1 h₀
      cases pure_eq_ok.1 ht
      exact foreign_transparent hs₀ hs hext hu hk₀ hk hka₀ hka hft hm hacc
  · split at h₀
    · next op hop =>
      cases h₀
      obtain ⟨b, rfl⟩ := Guard.accepts_byteSequence hacc
      have hop' := AccessorOp.forCall?_of_accepts hop hacc
      refine ⟨rfl, ?_, rfl, by simp only [instanceCall, hop']⟩
      rw [AccessorOp.shape_of_forCall? hop, AccessorOp.shape_of_forCall? hop']
    · obtain ⟨ft, m, hft, hm, rfl⟩ := builtinCall_eq_ok h₀
      exact foreign_transparent hs₀ hs hext hu hk₀ hk hka₀ hka hft hm hacc
  · obtain ⟨ft, m, hft, hm, rfl⟩ := builtinCall_eq_ok h₀
    exact foreign_transparent hs₀ hs hext hu hk₀ hk hka₀ hka hft hm hacc

/-- The operator search falls back on the instance search for inputs of one receiver type and
one shape alike. -/
theorem operatorCall_congr {recv₀ recv : Value} (htype : recv.typeId = recv₀.typeId)
    (hshape : Value.shape args = Value.shape args₀)
    (hinst : instanceCall reg recv d args = instanceCall reg₀ recv₀ d args₀) :
    operatorCall reg recv d args = operatorCall reg₀ recv₀ d args₀ := by
  rw [operatorCall_eq, operatorCall_eq, htype, hshape, hinst]

/-- The operator search: a builtin operator's guard compared both operand types, and
otherwise the instance search decides. -/
theorem operatorCall_transparent (hs₀ : reg₀.Sound) (hs : reg.Sound) (hext : reg₀.Extends reg)
    (hu : reg₀.AccessorsUnshadowed) {recv₀ recv : Value} (hk₀ : reg₀.Knows recv₀)
    (hk : reg.Knows recv) (hka₀ : ∀ x ∈ args₀, reg₀.Knows x) (hka : ∀ x ∈ args, reg.Knows x)
    (hn₀ : recv₀.isNone = false) {t : Target} (h₀ : operatorCall reg₀ recv₀ d args₀ = .ok t)
    (hacc : t.guard.accepts reg recv args = true) :
    recv.isNone = false ∧ Value.shape args = Value.shape args₀ ∧
      operatorCall reg recv d args = .ok t := by
  have fallback : instanceCall reg₀ recv₀ d args₀ = .ok t →
      recv.isNone = false ∧ Value.shape args = Value.shape args₀ ∧
        operatorCall reg recv d args = .ok t := fun hinst => by
    obtain ⟨hn, hshape, htype, hinst'⟩ :=
      instanceCall_transparent hs₀ hs hext hu hk₀ hk hka₀ hka hinst hacc
    exact ⟨hn, hshape, (operatorCall_congr htype hshape (hinst'.trans hinst.symm)).trans h₀⟩
  rw [operatorCall_eq] at h₀
  split at h₀
  · next op rhs hop hsh =>
    split at h₀
    · next hsup =>
      cases h₀
      obtain ⟨arg, rfl, htype, harg⟩ := Guard.accepts_operands hacc
      have hshape : Value.shape [arg] = Value.shape args₀ := by
        rw [hsh]
        simp [Value.shape, harg]
      have hn : recv.isNone = false :=
        Value.isNone_of_typeId_ne (htype ▸ hs₀.typeId_ne_none hk₀ hn₀)
      refine ⟨hn, hshape, ?_⟩
      simp only [operatorCall_eq, hop, hshape, hsh, htype, hsup, if_true]
    · exact fallback h₀
  · exact fallback h₀

end Resolve

/-- A target resolved for known inputs in a sound registry, whose guard accepts other known
inputs in the registry after new types only, is what a fresh search of those inputs finds:
a hit runs exactly what a miss would run. The table of `bytes` must have no method named as a
byte accessor; one that does is the one case a guard does not tell apart. -/
theorem resolve_transparent (hs₀ : reg₀.Sound) (hs : reg.Sound) (hext : reg₀.Extends reg)
    (hu : reg₀.AccessorsUnshadowed) {recv₀ recv : Value} (hk₀ : reg₀.Knows recv₀)
    (hk : reg.Knows recv) (hka₀ : ∀ x ∈ args₀, reg₀.Knows x) (hka : ∀ x ∈ args, reg.Knows x)
    {t : Target} (h₀ : resolve reg₀ recv₀ d args₀ = .ok t)
    (hacc : t.guard.accepts reg recv args = true) : resolve reg recv d args = .ok t := by
  obtain ⟨hn₀, hadm₀⟩ := resolve_passes h₀
  have hadm : Value.shape args = Value.shape args₀ → d.admits args = true := fun hshape =>
    (d.admits_congr hshape).trans hadm₀
  cases hkind : d.kind with
  | ctor =>
    obtain ⟨id, c, init, rfl, hc, hinit, rfl⟩ := resolve_ctor_inv h₀ hkind
    obtain ⟨rfl, hshape⟩ := Guard.accepts_ctor hacc
    have hc' : reg.class? id = some c := by
      rw [hext.class?_eq _ (hs₀.class_issued _ c hc).1.lt_bound, hc]
    rw [resolve_ctor (hadm hshape.symm) hkind hc',
      select_transparent hs₀ hs hext hka₀ hka hshape, hinit]
    simp only [Target.ctor, hshape]
    rfl
  | stat =>
    obtain ⟨id, rfl, hstatic₀⟩ := resolve_stat_inv h₀ hkind
    obtain ⟨rfl, hshape, hstatic⟩ :=
      Resolve.staticCall_transparent hs₀ hs hext hka₀ hka hstatic₀ hacc
    rw [resolve_stat (hadm hshape) hkind, hstatic]
  | oper =>
    rw [resolve_oper hn₀ hadm₀ hkind] at h₀
    obtain ⟨hn, hshape, hop⟩ :=
      Resolve.operatorCall_transparent hs₀ hs hext hu hk₀ hk hka₀ hka hn₀ h₀ hacc
    rw [resolve_oper hn (hadm hshape) hkind, hop]
  | inst =>
    rw [resolve_inst hn₀ hadm₀ hkind] at h₀
    obtain ⟨hn, hshape, -, hinst⟩ :=
      Resolve.instanceCall_transparent hs₀ hs hext hu hk₀ hk hka₀ hka h₀ hacc
    rw [resolve_inst hn (hadm hshape) hkind, hinst]

end Transparent

end InlineCache
