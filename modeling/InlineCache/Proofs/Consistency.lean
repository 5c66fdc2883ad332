import InlineCache.Proofs.Recheck
import InlineCache.Proofs.Transparency
/-!
# Resolved targets agree with their own guards

Every target a resolution finds is built by one of the six target constructors from the
call's own inputs: an instance method of the receiver's class, a method of a foreign or
builtin kind, a static method or a constructor of the receiver class, a byte accessor the
call's name and arguments select, or a builtin operator on the call's one operand.

Each constructor records the receiver's type and the argument types, and guards exactly
what it recorded. So a resolved target accepts the inputs it was resolved for in the
registry that was searched, records their types, and in every registry accepts only
inputs of the types it records. A slow path re-checks its target in the registry its
resolver left; the re-check can fail only when the hooks that ran after the search changed
the registry.
-/
namespace InlineCache

/-- The ways a resolution of a call by `d` finds a target for a receiver and arguments. -/
inductive Found (reg : Registry) (recv : Value) (d : CallDescriptor) (args : List Value) :
    Target → Prop
  /-- An instance method of the receiver's class, guarded by the class's current table. -/
  | selfDescribing (ref : ObjectRef) (c : Class) (m : Method) :
      recv = .object ref → reg.class? ref.cls = some c →
      Found reg recv d args (Target.selfDescribing c m args)
  /-- A method of the receiver's foreign or builtin kind. -/
  | foreign (m : Method) : Found reg recv d args (Target.foreign recv m args)
  /-- A static method of the receiver class. -/
  | staticMethod (id : TypeId) (m : Method) :
      recv = .cls id → Found reg recv d args (Target.staticMethod id m args)
  /-- A constructor of the receiver class. -/
  | ctor (id : TypeId) (init : Method) :
      recv = .cls id → Found reg recv d args (Target.ctor id init args)
  /-- The byte accessor that the call's name and arguments select on a byte sequence. -/
  | accessor (b : ByteArray) (op : AccessorOp) :
      recv = .bytes b → AccessorOp.forCall? d.name args = some op →
      Found reg recv d args (Target.accessor op)
  /-- A builtin operator on the call's one operand. -/
  | operator (op : BinaryOp) (rhs : Value) :
      args = [rhs] → Found reg recv d args (Target.operator op recv.typeId rhs.typeId)

namespace Resolve

variable {reg : Registry} {recv : Value} {d : CallDescriptor} {args : List Value} {t : Target}

theorem staticCall_found {id : TypeId} (h : staticCall reg id d args = .ok t) :
    Found reg (.cls id) d args t := by
  unfold staticCall at h
  split at h
  · cases h
  · obtain ⟨m, -, ht⟩ := bind_eq_ok.1 h
    rw [← pure_eq_ok.1 ht]
    exact .staticMethod id m rfl

theorem builtinCall_found (h : builtinCall reg recv d.name args = .ok t) :
    Found reg recv d args t := by
  obtain ⟨-, m, -, -, rfl⟩ := builtinCall_eq_ok h
  exact .foreign m

theorem instanceCall_found (h : instanceCall reg recv d args = .ok t) : Found reg recv d args t := by
  unfold instanceCall at h
  split at h
  · cases h
  · next ref =>
    split at h
    · cases h
    · next c hc =>
      obtain ⟨m, -, ht⟩ := bind_eq_ok.1 h
      rw [← pure_eq_ok.1 ht]
      exact .selfDescribing ref c m rfl hc
  · exact staticCall_found h
  · split at h
    · cases h
    · obtain ⟨m, -, ht⟩ := bind_eq_ok.1 h
      rw [← pure_eq_ok.1 ht]
      exact .foreign m
  · next b =>
    split at h
    · next op hop =>
      cases h
      exact .accessor b op rfl hop
    · exact builtinCall_found h
  · exact builtinCall_found h

theorem operatorCall_found (h : operatorCall reg recv d args = .ok t) : Found reg recv d args t := by
  unfold operatorCall at h
  split at h
  · next rhs =>
    split at h
    · next op _ =>
      split at h
      · cases h
        exact .operator op rhs rfl
      · exact instanceCall_found h
    · exact instanceCall_found h
  · exact instanceCall_found h

end Resolve

/-- Every target a resolution returns is found in one of the ways of `Found`. -/
theorem resolve_found {reg : Registry} {recv : Value} {d : CallDescriptor} {args : List Value}
    {t : Target} (h : resolve reg recv d args = .ok t) : Found reg recv d args t := by
  obtain ⟨hn, hadm⟩ := resolve_passes h
  cases hkind : d.kind with
  | ctor =>
    obtain ⟨id, -, init, rfl, -, -, rfl⟩ := resolve_ctor_inv h hkind
    exact .ctor id init rfl
  | stat =>
    obtain ⟨id, rfl, hs⟩ := resolve_stat_inv h hkind
    exact Resolve.staticCall_found hs
  | oper => exact Resolve.operatorCall_found (by rwa [resolve_oper hn hadm hkind] at h)
  | inst => exact Resolve.instanceCall_found (by rwa [resolve_inst hn hadm hkind] at h)

namespace AccessorOp

/-- An accessor is selected only for no arguments or for one integer. -/
theorem forCall?_args {name : String} {args : List Value} {op : AccessorOp}
    (h : forCall? name args = some op) :
    (op = .length ∧ args = []) ∨ (op = .getAt ∧ ∃ n, args = [.int n]) := by
  unfold forCall? at h
  split at h <;> cases h
  · exact .inl ⟨rfl, rfl⟩
  · exact .inl ⟨rfl, rfl⟩
  · exact .inr ⟨rfl, _, rfl⟩

end AccessorOp

namespace Found

variable {reg : Registry} {recv : Value} {d : CallDescriptor} {args : List Value} {t : Target}

/-- A target found for some inputs accepts them in the registry that was searched. -/
theorem accepts (h : Found reg recv d args t) : t.guard.accepts reg recv args = true := by
  cases h with
  | selfDescribing ref c m hrecv hc =>
    subst hrecv
    exact Target.selfDescribing_accepts.2 ⟨c, hc, rfl⟩
  | foreign m => simp [Target.foreign, Guard.accepts]
  | staticMethod id m hrecv =>
    subst hrecv
    simp [Target.staticMethod, Guard.accepts]
  | ctor id init hrecv =>
    subst hrecv
    simp [Target.ctor, Guard.accepts]
  | accessor b op hrecv hop =>
    subst hrecv
    rcases AccessorOp.forCall?_args hop with ⟨rfl, rfl⟩ | ⟨rfl, n, rfl⟩ <;>
      simp [Target.accessor, Guard.accepts]
  | operator op rhs hargs =>
    subst hargs
    simp [Target.operator, Guard.accepts]

/-- A target found for some inputs records their argument types. -/
theorem paramTypes_eq (h : Found reg recv d args t) : t.paramTypes = Value.shape args := by
  cases h with
  | accessor b op _ hop =>
    rcases AccessorOp.forCall?_args hop with ⟨rfl, rfl⟩ | ⟨rfl, n, rfl⟩ <;> rfl
  | operator op rhs hargs =>
    subst hargs
    rfl
  | _ => rfl

end Found

/-- A target's guard accepts, in any registry, only a receiver of the type the target
records and arguments of the types it records. -/
def Target.GuardsShape (t : Target) : Prop :=
  ∀ (reg : Registry) (recv : Value) (args : List Value), t.guard.accepts reg recv args = true →
    recv.typeId = t.owner ∧ Value.shape args = t.paramTypes

namespace Target

/-- A table guard accepts only instances of the class whose stamp it holds: the class is
found under the instance's own id. -/
theorem guardsShape_selfDescribing (c : Class) (m : Method) (args₀ : List Value) :
    (selfDescribing c m args₀).GuardsShape := by
  intro reg recv args h
  simp only [selfDescribing, Guard.accepts] at h
  split at h
  · next ref =>
    simp only [Bool.and_eq_true, Guard.sameTypes, beq_iff_eq] at h
    obtain ⟨hstamp, hshape⟩ := h
    split at hstamp
    · next c' hc' =>
      have hid : c'.id = ref.cls := Registry.class?_id hc'
      have howner : c'.id = c.id := congrArg TableStamp.owner (beq_iff_eq.1 hstamp)
      exact ⟨hid.symm.trans howner, hshape.symm⟩
    · cases hstamp
  · cases h

theorem guardsShape_foreign (recv₀ : Value) (m : Method) (args₀ : List Value) :
    (foreign recv₀ m args₀).GuardsShape := by
  intro reg recv args h
  obtain ⟨htype, hshape⟩ := Guard.accepts_exactTypes h
  exact ⟨htype, hshape.symm⟩

theorem guardsShape_staticMethod (id : TypeId) (m : Method) (args₀ : List Value) :
    (staticMethod id m args₀).GuardsShape := by
  intro reg recv args h
  obtain ⟨rfl, hshape⟩ := Guard.accepts_sameClass h
  exact ⟨rfl, hshape.symm⟩

theorem guardsShape_ctor (id : TypeId) (init : Method) (args₀ : List Value) :
    (ctor id init args₀).GuardsShape := by
  intro reg recv args h
  obtain ⟨rfl, hshape⟩ := Guard.accepts_ctor h
  exact ⟨rfl, hshape.symm⟩

/-- The byte guard checks the argument form that the accessor records. -/
theorem guardsShape_accessor (op : AccessorOp) : (accessor op).GuardsShape := by
  intro reg recv args h
  obtain ⟨b, rfl⟩ := Guard.accepts_byteSequence h
  refine ⟨rfl, ?_⟩
  cases op with
  | length =>
    have hnil : args = [] := by simpa [accessor, Guard.accepts] using h
    simp [hnil, accessor, Value.shape]
  | getAt =>
    obtain ⟨n, rfl⟩ : ∃ n, args = [.int n] := by
      simp only [accessor, Guard.accepts, beq_self_eq_true, if_true] at h
      split at h
      · exact ⟨_, rfl⟩
      · cases h
    rfl

theorem guardsShape_operator (op : BinaryOp) (lhs rhs : TypeId) :
    (operator op lhs rhs).GuardsShape := by
  intro reg recv args h
  obtain ⟨arg, rfl, hl, hr⟩ := Guard.accepts_operands h
  exact ⟨hl, by simp [operator, Value.shape, hr]⟩

end Target

/-- Every target that is found guards the types it records. -/
theorem Found.guardsShape {reg : Registry} {recv : Value} {d : CallDescriptor}
    {args : List Value} {t : Target} (h : Found reg recv d args t) : t.GuardsShape := by
  cases h with
  | selfDescribing ref c m => exact Target.guardsShape_selfDescribing c m args
  | foreign m => exact Target.guardsShape_foreign recv m args
  | staticMethod id m => exact Target.guardsShape_staticMethod id m args
  | ctor id init => exact Target.guardsShape_ctor id init args
  | accessor b op => exact Target.guardsShape_accessor op
  | operator op rhs => exact Target.guardsShape_operator op _ _

open Machine in
/-- A resolved target accepts the inputs it was resolved for, records their types and accepts
only its owner type and those types, so a failed re-check means the after-hooks moved the
registry. -/
theorem resolved_target_consistent :
    (∀ (reg : Registry) (recv : Value) (d : CallDescriptor) (args : List Value) (t : Target),
      resolve reg recv d args = .ok t →
        t.guard.accepts reg recv args = true ∧ t.paramTypes = Value.shape args ∧
        ∀ (reg' : Registry) (recv' : Value) (args' : List Value),
          t.guard.accepts reg' recv' args' = true →
            recv'.typeId = t.owner ∧ Value.shape args' = t.paramTypes) ∧
    (∀ (m : Nat) (recv : Value) (d : CallDescriptor) (args : List Value) (ctx ctx₂ : Context)
      (t : Target),
      (resolveCounted (m + 1) recv d args).run ctx = .ok (.ok t, ctx₂) →
      t.guard.accepts ctx₂.registry recv args = false →
      ∃ ctxm,
        (runHooks m (ctx.calls + 1) true (ctx.hooksOf (ctx.calls + 1) true)).run
            { ctx with calls := ctx.calls + 1 } = .ok (⟨⟩, ctxm) ∧
        resolve ctxm.registry recv d args = .ok t ∧
        (runHooks m (ctx.calls + 1) false (ctxm.hooksOf (ctx.calls + 1) false)).run ctxm =
          .ok (⟨⟩, ctx₂) ∧
        ctxm.registry ≠ ctx₂.registry) := by
  refine ⟨fun reg recv d args t h => ?_, fun m recv d args ctx ctx₂ t hres hrej => ?_⟩
  · have found := resolve_found h
    exact ⟨found.accepts, found.paramTypes_eq, found.guardsShape⟩
  · obtain ⟨ctxm, hbefore, hr, hafter⟩ := resolveCounted_succ_run hres
    refine ⟨ctxm, hbefore, hr.symm, hafter, fun same => ?_⟩
    have accepted := (resolve_found hr.symm).accepts
    rw [same, hrej] at accepted
    cases accepted

/-- An instance call of `getAt`. -/
def callGetAt : CallDescriptor := { name := "getAt", kind := .inst }

open Machine RedefiningHook in
/-- The accessor found for `getAt` on bytes and an integer accepts those inputs, and a hook that
redefines the receiver's class after the search leaves a registry where it rejects them. -/
theorem found_accessor_and_redefining_hook :
    resolve Registry.empty (.bytes ⟨#[7, 8]⟩) callGetAt [.int (-1)] = .ok (Target.accessor .getAt) ∧
      (Target.accessor .getAt).guard.accepts Registry.empty (.bytes ⟨#[7, 8]⟩) [.int (-1)] = true ∧
      (Target.accessor .getAt).paramTypes = Value.shape [.int (-1)] ∧
      ∃ (t : Target) (ctx₂ ctxm : Context),
        (resolveCounted 7 ResetHook.instA ResetHook.callM []).run
          (hooked.modifySite 0 0 CallSite.recordMiss) = .ok (.ok t, ctx₂) ∧
        t.guard.accepts ctx₂.registry ResetHook.instA [] = false ∧
        resolve ctxm.registry ResetHook.instA ResetHook.callM [] = .ok t ∧
        ctxm.registry ≠ ctx₂.registry := by
  have found : resolve Registry.empty (.bytes ⟨#[7, 8]⟩) callGetAt [.int (-1)] =
      .ok (Target.accessor .getAt) := rfl
  obtain ⟨accepted, recorded, -⟩ := resolved_target_consistent.1 _ _ _ _ _ found
  obtain ⟨t, ctx₂, hres, hrej⟩ : ∃ t ctx₂,
      (resolveCounted 7 ResetHook.instA ResetHook.callM []).run
        (hooked.modifySite 0 0 CallSite.recordMiss) = .ok (.ok t, ctx₂) ∧
      t.guard.accepts ctx₂.registry ResetHook.instA [] = false := by
    refine ⟨?t, ?ctx₂, ?resolved, ?rejects⟩
    case resolved =>
      cbv
      simp only [runStep]
      cbv
      rfl
    cbv
  obtain ⟨ctxm, -, searched, -, changed⟩ := resolved_target_consistent.2 6 _ _ _ _ _ _ hres hrej
  exact ⟨found, accepted, recorded, t, ctx₂, ctxm, hres, hrej, searched, changed⟩

end InlineCache
