import InlineCache.Dispatch.Resolve
/-!
# What a resolution returns

Each variant of target comes out of one branch of the search. A self-describing target
comes only from the instance search on an instance whose class is known: it holds the
class's table stamp, its instance table and the argument shape seen, and runs the method
that overload selection chose among the class's instance overloads.

For an instance receiver the rest of the search reads type ids only: whether the
descriptor admits the arguments, and whether a builtin operator handles the operands. Two
instance calls whose receivers have one class and whose arguments have one shape are
therefore resolved to the same thing whenever their instance searches are.
-/
namespace InlineCache

theorem bind_eq_ok {ε α β : Type} {x : Except ε α} {f : α → Except ε β} {b : β} :
    (x >>= f) = .ok b ↔ ∃ a, x = .ok a ∧ f a = .ok b := by
  cases x <;> simp [bind, Except.bind]

theorem pure_eq_ok {ε α : Type} {a b : α} : (pure a : Except ε α) = .ok b ↔ a = b := by
  simp [pure, Except.pure]

namespace Resolve

theorem staticCall_variant {reg : Registry} {cls : TypeId} {d : CallDescriptor}
    {args : List Value} {t : Target} (h : staticCall reg cls d args = .ok t) :
    t.variant = .staticTarget := by
  unfold staticCall at h
  split at h
  · cases h
  · obtain ⟨m, -, ht⟩ := bind_eq_ok.1 h
    rw [← pure_eq_ok.1 ht]
    rfl

theorem builtinCall_variant {reg : Registry} {recv : Value} {name : String} {args : List Value}
    {t : Target} (h : builtinCall reg recv name args = .ok t) : t.variant = .foreignInstance := by
  unfold builtinCall at h
  split at h
  · cases h
  · obtain ⟨m, -, ht⟩ := bind_eq_ok.1 h
    rw [← pure_eq_ok.1 ht]
    rfl

/-- A self-describing target of the instance search was made for an instance of a known
class, from the method selection chose among the class's instance overloads. -/
theorem instanceCall_selfDescribing {reg : Registry} {recv : Value} {d : CallDescriptor}
    {args : List Value} {t : Target} (h : instanceCall reg recv d args = .ok t)
    (hv : t.variant = .selfDescribing) :
    ∃ ref c m, recv = .object ref ∧ reg.class? ref.cls = some c ∧
      selectMostSpecific reg (reg.findMethods c d.name) args = .ok m ∧
      t = Target.selfDescribing c m args := by
  unfold instanceCall at h
  split at h
  · cases h
  · next ref =>
    split at h
    · cases h
    · next c hc =>
      obtain ⟨m, hm, ht⟩ := bind_eq_ok.1 h
      exact ⟨ref, c, m, rfl, hc, hm, (pure_eq_ok.1 ht).symm⟩
  · rw [staticCall_variant h] at hv
    cases hv
  · split at h
    · cases h
    · obtain ⟨m, -, ht⟩ := bind_eq_ok.1 h
      rw [← pure_eq_ok.1 ht] at hv
      cases hv
  · split at h
    · cases h
      cases hv
    · rw [builtinCall_variant h] at hv
      cases hv
  · rw [builtinCall_variant h] at hv
    cases hv

/-- The operator search makes a self-describing target only through the instance search. -/
theorem operatorCall_selfDescribing {reg : Registry} {recv : Value} {d : CallDescriptor}
    {args : List Value} {t : Target} (h : operatorCall reg recv d args = .ok t)
    (hv : t.variant = .selfDescribing) : instanceCall reg recv d args = .ok t := by
  unfold operatorCall at h
  split at h
  · split at h
    · split at h
      · cases h
        cases hv
      · exact h
    · exact h
  · exact h

end Resolve

/-- A self-describing target was resolved for an instance of a known class, from the
method that selection chose among the class's instance overloads. -/
theorem resolve_selfDescribing {reg : Registry} {recv : Value} {d : CallDescriptor}
    {args : List Value} {t : Target} (h : resolve reg recv d args = .ok t)
    (hv : t.variant = .selfDescribing) :
    ∃ ref c m, recv = .object ref ∧ reg.class? ref.cls = some c ∧
      selectMostSpecific reg (reg.findMethods c d.name) args = .ok m ∧
      t = Target.selfDescribing c m args := by
  unfold resolve at h
  split at h
  · cases h
  split at h
  · cases h
  split at h
  · split at h
    · split at h
      · obtain ⟨m, -, ht⟩ := bind_eq_ok.1 h
        rw [← pure_eq_ok.1 ht] at hv
        cases hv
      · cases h
    · cases h
  · split at h
    · rw [Resolve.staticCall_variant h] at hv
      cases hv
    · cases h
  · exact Resolve.instanceCall_selfDescribing (Resolve.operatorCall_selfDescribing h hv) hv
  · exact Resolve.instanceCall_selfDescribing h hv

/-- Arguments always have their own shape. -/
@[simp] theorem Guard.sameTypes_shape (args : List Value) : Guard.sameTypes (Value.shape args) args = true := by
  simp [Guard.sameTypes]

namespace Resolve

/-- A static target accepts its class value and arguments whatever the registry. -/
theorem staticCall_accepts {reg : Registry} {cls : TypeId} {d : CallDescriptor}
    {args : List Value} {t : Target} (h : staticCall reg cls d args = .ok t) (reg' : Registry) :
    t.guard.accepts reg' (.cls cls) args = true := by
  unfold staticCall at h
  split at h
  · cases h
  · obtain ⟨m, -, ht⟩ := bind_eq_ok.1 h
    rw [← pure_eq_ok.1 ht]
    simp [Target.staticMethod, Guard.accepts]

/-- A target of a builtin kind's table accepts its receiver and arguments whatever the
registry. -/
theorem builtinCall_accepts {reg : Registry} {recv : Value} {name : String} {args : List Value}
    {t : Target} (h : builtinCall reg recv name args = .ok t) (reg' : Registry) :
    t.guard.accepts reg' recv args = true := by
  unfold builtinCall at h
  split at h
  · cases h
  · obtain ⟨m, -, ht⟩ := bind_eq_ok.1 h
    rw [← pure_eq_ok.1 ht]
    simp [Target.foreign, Guard.accepts]

/-- Every target of the instance search but a self-describing one accepts its receiver and
arguments whatever the registry. -/
theorem instanceCall_accepts {reg : Registry} {recv : Value} {d : CallDescriptor}
    {args : List Value} {t : Target} (h : instanceCall reg recv d args = .ok t)
    (hv : t.variant ≠ .selfDescribing) (reg' : Registry) : t.guard.accepts reg' recv args = true := by
  unfold instanceCall at h
  split at h
  · cases h
  · split at h
    · cases h
    · obtain ⟨m, -, ht⟩ := bind_eq_ok.1 h
      rw [← pure_eq_ok.1 ht] at hv
      exact absurd rfl hv
  · exact staticCall_accepts h reg'
  · split at h
    · cases h
    · obtain ⟨m, -, ht⟩ := bind_eq_ok.1 h
      rw [← pure_eq_ok.1 ht]
      simp [Target.foreign, Guard.accepts]
  · split at h
    · next op hop =>
      cases h
      unfold AccessorOp.forCall? at hop
      split at hop <;> cases hop <;> simp [Target.accessor, Guard.accepts]
    · exact builtinCall_accepts h reg'
  · exact builtinCall_accepts h reg'

/-- Every target of the operator search but a self-describing one accepts its receiver and
arguments whatever the registry. -/
theorem operatorCall_accepts {reg : Registry} {recv : Value} {d : CallDescriptor}
    {args : List Value} {t : Target} (h : operatorCall reg recv d args = .ok t)
    (hv : t.variant ≠ .selfDescribing) (reg' : Registry) : t.guard.accepts reg' recv args = true := by
  unfold operatorCall at h
  split at h
  · split at h
    · split at h
      · cases h
        simp [Target.operator, Guard.accepts]
      · exact instanceCall_accepts h hv reg'
    · exact instanceCall_accepts h hv reg'
  · exact instanceCall_accepts h hv reg'

end Resolve

/-- A resolved target that is not self-describing accepts the receiver and arguments it was
resolved for, whatever the registry: only a table guard reads the registry. -/
theorem resolve_accepts {reg : Registry} {recv : Value} {d : CallDescriptor} {args : List Value}
    {t : Target} (h : resolve reg recv d args = .ok t) (hv : t.variant ≠ .selfDescribing)
    (reg' : Registry) : t.guard.accepts reg' recv args = true := by
  unfold resolve at h
  split at h
  · cases h
  split at h
  · cases h
  split at h
  · split at h
    · split at h
      · obtain ⟨m, -, ht⟩ := bind_eq_ok.1 h
        rw [← pure_eq_ok.1 ht]
        simp [Target.ctor, Guard.accepts]
      · cases h
    · cases h
  · split at h
    · exact Resolve.staticCall_accepts h reg'
    · cases h
  · exact Resolve.operatorCall_accepts h hv reg'
  · exact Resolve.instanceCall_accepts h hv reg'

/-- Whether a descriptor admits arguments depends on their types only. -/
theorem CallDescriptor.all_fits_congr :
    ∀ (ks : List ArgKind) {a a' : List Value}, Value.shape a = Value.shape a' →
      (ks.zip a).all (fun p => fits p.1 p.2) = (ks.zip a').all (fun p => fits p.1 p.2)
  | [], _, _, _ => by simp
  | _ :: _, [], [], _ => rfl
  | k :: ks, x :: a, x' :: a', hshape => by
    simp only [Value.shape, List.map_cons, List.cons.injEq] at hshape
    have head : fits k x = fits k x' := by cases k <;> simp [fits, hshape.1]
    simp only [List.zip_cons_cons, List.all_cons, head, all_fits_congr ks hshape.2]
  | _ :: _, [], _ :: _, hshape => by simp [Value.shape] at hshape
  | _ :: _, _ :: _, [], hshape => by simp [Value.shape] at hshape

theorem CallDescriptor.admits_congr (d : CallDescriptor) {a a' : List Value}
    (hshape : Value.shape a = Value.shape a') : d.admits a = d.admits a' := by
  have hlen : a.length = a'.length := by simpa [Value.shape] using congrArg List.length hshape
  simp only [admits, hlen, all_fits_congr d.params hshape]

/-- The operator search reads the receiver's type and the arguments' shape before it falls
back on the instance search. -/
theorem Resolve.operatorCall_eq (reg : Registry) (recv : Value) (d : CallDescriptor)
    (args : List Value) : operatorCall reg recv d args =
      match BinaryOp.ofMethodName? d.name, Value.shape args with
      | some op, [rhs] =>
        if op.supports recv.typeId rhs then .ok (Target.operator op recv.typeId rhs)
        else instanceCall reg recv d args
      | _, _ => instanceCall reg recv d args := by
  unfold operatorCall
  rcases args with _ | ⟨x, _ | ⟨y, rest⟩⟩ <;> cases BinaryOp.ofMethodName? d.name <;> rfl

/-- Two instance calls by one descriptor, on instances of one class with arguments of one
shape, run the same thing whenever their instance searches do. -/
theorem resolve_object_invocable {reg reg' : Registry} {ref ref' : ObjectRef}
    {d : CallDescriptor} {a a' : List Value} (hcls : ref'.cls = ref.cls)
    (hshape : Value.shape a' = Value.shape a)
    (hinst : (Resolve.instanceCall reg' (.object ref') d a').map Target.invocable =
      (Resolve.instanceCall reg (.object ref) d a).map Target.invocable) :
    (resolve reg' (.object ref') d a').map Target.invocable =
      (resolve reg (.object ref) d a).map Target.invocable := by
  obtain ⟨name, params, kind⟩ := d
  simp only [resolve, Value.isNone, Bool.false_eq_true, ite_false,
    CallDescriptor.admits_congr _ hshape]
  split
  · rfl
  · cases kind with
    | ctor => rfl
    | stat => rfl
    | inst => exact hinst
    | oper =>
      simp only [Resolve.operatorCall_eq, hshape, Value.typeId, hcls]
      split
      · next _ _ op rhs _ _ =>
        by_cases hsup : op.supports ref.cls rhs
        · simp only [hsup, ite_true]
        · simp only [hsup, Bool.false_eq_true, ite_false]
          exact hinst
      · exact hinst

end InlineCache
