import Mathlib
import InlineCache.Script.Machine
import InlineCache.Proofs.Transparency
import InlineCache.Proofs.Utf8Order
/-!
# Builtin operators

Integer arithmetic is checked: addition, subtraction and multiplication answer the exact
result when it fits in 64 bits and an overflow error otherwise; division rounds towards
zero, refuses a zero divisor before anything else, and overflows only for the least
integer divided by -1; a comparison answers the sign of the exact difference, which it
never computes in 64 bits. Two strings join, or compare by their bytes.

Which operands the builtin takes is decided twice: the resolver asks `supports`, which
reads the operands' types, and applying the operator matches on how the operands are
built. The two agree on values of the builtin kinds. An instance or a foreign object never
applies, whatever its type: a foreign object of the builtin `int`, `float` or `str` type
is chosen by the resolver and then refused as a type mismatch.
-/
namespace InlineCache

/-- What checked 64-bit arithmetic answers when the exact result is `n`: the 64-bit integer
of value `n` when there is one, the overflow error when `n` lies outside the 64-bit
range. -/
def ExactOrOverflow (n : Int) (o : Outcome Value) : Prop :=
  (-2 ^ 63 ≤ n ∧ n < 2 ^ 63 → ∃ c : Int64, c.toInt = n ∧ o = .ok (.int c)) ∧
  (¬ (-2 ^ 63 ≤ n ∧ n < 2 ^ 63) → o = .error (.raised "integer overflow"))

/-- Whether an outcome is the refusal of an operand's type. -/
def MismatchesTypes (o : Outcome Value) : Prop :=
  ∃ expected found, o = .error (.typeMismatch expected found)

namespace Value

/-- Whether a value is of a builtin kind, whose type is that of its constructor: neither an
instance nor a foreign object. -/
def isBuiltinKind : Value → Bool
  | .object _ | .foreign .. => false
  | _ => true

end Value

namespace BinaryOp

/-! ### Integers -/

theorem fitInt_eq (n : Int) :
    fitInt n = if -2 ^ 63 ≤ n ∧ n < 2 ^ 63 then .ok (.int (Int64.ofInt n))
      else .error (.raised "integer overflow") := by
  have bounds : (minInt ≤ n && n ≤ maxInt) = true ↔ -2 ^ 63 ≤ n ∧ n < 2 ^ 63 := by
    rw [Bool.and_eq_true, decide_eq_true_iff, decide_eq_true_iff, minInt, maxInt]
    omega
  simp only [fitInt, bounds]

/-- Fitting an integer into 64 bits is checked arithmetic on it. -/
theorem fitInt_exactOrOverflow (n : Int) : ExactOrOverflow n (fitInt n) := by
  rw [fitInt_eq]
  exact ⟨fun fits => ⟨Int64.ofInt n, Int64.toInt_ofInt_of_le fits.1 fits.2, if_pos fits⟩,
    fun out => if_neg out⟩

/-- The truncated quotient of two 64-bit integers fits in 64 bits, but for the least
integer divided by -1. -/
theorem tdiv_mem_range {a b : Int} (lo : -2 ^ 63 ≤ a) (hi : a < 2 ^ 63) (nonzero : b ≠ 0)
    (notMinByMinusOne : ¬ (a = -2 ^ 63 ∧ b = -1)) :
    -2 ^ 63 ≤ a.tdiv b ∧ a.tdiv b < 2 ^ 63 := by
  have size := Int.natAbs_tdiv a b
  by_cases unit : b.natAbs = 1
  · rcases Int.natAbs_eq_iff.1 unit with one | minusOne
    · rw [one, Nat.cast_one, Int.tdiv_one]
      exact ⟨lo, hi⟩
    · rw [minusOne, Nat.cast_one, Int.tdiv_neg, Int.tdiv_one]
      omega
  · have halved : (a.tdiv b).natAbs ≤ a.natAbs / 2 := by
      rw [size]
      exact Nat.div_le_div_left (by omega) (by decide)
    omega

/-- Checked addition, subtraction and multiplication of two 64-bit integers. -/
theorem applyInt_exactOrOverflow (a b : Int64) :
    ExactOrOverflow (a.toInt + b.toInt) (applyInt .add a b) ∧
      ExactOrOverflow (a.toInt - b.toInt) (applyInt .sub a b) ∧
      ExactOrOverflow (a.toInt * b.toInt) (applyInt .mul a b) :=
  ⟨fitInt_exactOrOverflow _, fitInt_exactOrOverflow _, fitInt_exactOrOverflow _⟩

theorem applyInt_div_zero (a b : Int64) (zero : b.toInt = 0) :
    applyInt .div a b = .error (.raised "division by zero") := by
  simp [applyInt, zero]

theorem applyInt_div_overflow (a b : Int64) (least : a.toInt = -2 ^ 63) (minusOne : b.toInt = -1) :
    applyInt .div a b = .error (.raised "integer overflow") := by
  have quotient : a.toInt.tdiv b.toInt = 2 ^ 63 := by
    rw [least, minusOne, Int.tdiv_neg, Int.tdiv_one]
    rfl
  have nonzero : (b.toInt == 0) = false := by rw [minusOne]; rfl
  simp only [applyInt, nonzero, quotient, Bool.false_eq_true, if_false]
  exact (fitInt_exactOrOverflow _).2 (by omega)

theorem applyInt_div_exact (a b : Int64) (nonzero : b.toInt ≠ 0)
    (notMinByMinusOne : ¬ (a.toInt = -2 ^ 63 ∧ b.toInt = -1)) :
    ∃ c : Int64, c.toInt = a.toInt.tdiv b.toInt ∧ applyInt .div a b = .ok (.int c) := by
  have fits := tdiv_mem_range (Int64.le_toInt a) (Int64.toInt_lt a) nonzero notMinByMinusOne
  simp only [applyInt, beq_iff_eq, nonzero, if_false]
  exact (fitInt_exactOrOverflow _).1 fits

/-- An ordering answers the sign of an exact difference. -/
theorem orderValue_compare_int (x y : Int) :
    ∃ c : Int64, c.toInt = (x - y).sign ∧ orderValue (compare x y) = .int c := by
  rcases lt_trichotomy x y with lt | rfl | gt
  · refine ⟨-1, ?_, by rw [(compare_lt_iff_lt).2 lt]; rfl⟩
    rw [Int.sign_eq_neg_one_of_neg (by omega)]
    rfl
  · refine ⟨0, ?_, by rw [(compare_eq_iff_eq).2 rfl]; rfl⟩
    rw [Int.sub_self, Int.sign_zero]
    rfl
  · refine ⟨1, ?_, by rw [(compare_gt_iff_gt).2 gt]; rfl⟩
    rw [Int.sign_eq_one_of_pos (by omega)]
    rfl

/-! ### Strings -/

/-- Comparing two strings answers the sign of the comparison of their bytes. -/
theorem orderValue_compare_string (s t : String) :
    ∃ c : Int64, c.toInt = (if s.toUTF8.data.toList < t.toUTF8.data.toList then -1
        else if s.toUTF8.data.toList = t.toUTF8.data.toList then 0 else 1) ∧
      orderValue (compare s t) = .int c := by
  rw [Utf8.compare_eq_bytes]
  by_cases lt : s.toUTF8.data.toList < t.toUTF8.data.toList
  · exact ⟨-1, by rw [if_pos lt]; rfl, by rw [if_pos lt]; rfl⟩
  · by_cases same : s.toUTF8.data.toList = t.toUTF8.data.toList
    · exact ⟨0, by rw [if_neg lt, if_pos same]; rfl, by rw [if_neg lt, if_pos same]; rfl⟩
    · exact ⟨1, by rw [if_neg lt, if_neg same]; rfl, by rw [if_neg lt, if_neg same]; rfl⟩

/-! ### Which operands apply -/

theorem fitInt_not_mismatch (n : Int) : ¬ MismatchesTypes (fitInt n) := by
  rintro ⟨expected, found, h⟩
  rw [fitInt_eq] at h
  split at h <;> cases h

/-- Integer arithmetic fails, if at all, by raising: it never refuses its operands. -/
theorem applyInt_not_mismatch (op : BinaryOp) (a b : Int64) :
    ¬ MismatchesTypes (applyInt op a b) := by
  rintro ⟨expected, found, h⟩
  cases op <;> simp only [applyInt] at h
  case div =>
    split at h
    · cases h
    · exact fitInt_not_mismatch _ ⟨_, _, h⟩
  case compareTo => cases h
  all_goals exact fitInt_not_mismatch _ ⟨_, _, h⟩

/-- Float arithmetic fails, if at all, by raising: it never refuses its operands. -/
theorem applyFloat_not_mismatch (op : BinaryOp) (a b : Float) :
    ¬ MismatchesTypes (applyFloat op a b) := by
  rintro ⟨expected, found, h⟩
  cases op <;> simp only [applyFloat] at h
  case compareTo =>
    repeat' split at h
    all_goals cases h
  all_goals cases h

/-- The type pairs the builtin supports: two numbers, or two strings to join or compare. -/
theorem supports_cases {op : BinaryOp} {l r : TypeId} (h : op.supports l r = true) :
    (isNumeric l = true ∧ isNumeric r = true) ∨
      (l = TypeId.str ∧ r = TypeId.str ∧ (op = .add ∨ op = .compareTo)) := by
  cases op <;> simp_all [supports, or_comm]

/-- A value of a builtin kind whose type is a number is an integer or a float. -/
theorem number_of_isNumeric {v : Value} (kind : v.isBuiltinKind = true)
    (numeric : isNumeric v.typeId = true) : (∃ a, v = .int a) ∨ ∃ x, v = .float x := by
  cases v <;> simp_all [Value.isBuiltinKind, isNumeric, Value.typeId] <;> contradiction

/-- A value of a builtin kind whose type is `str` is a string. -/
theorem str_of_typeId {v : Value} (kind : v.isBuiltinKind = true) (str : v.typeId = TypeId.str) :
    ∃ s, v = .str s := by
  cases v <;> simp_all [Value.isBuiltinKind, Value.typeId] <;> contradiction

/-- The operands the builtin applies to are the values of builtin kinds whose types it
supports: every other pair is refused as a type mismatch, and no supported pair of builtin
kinds is. -/
theorem apply_mismatch_iff (reg : Registry) (op : BinaryOp) (lhs rhs : Value) :
    ¬ MismatchesTypes (op.apply reg lhs rhs) ↔
      op.supports lhs.typeId rhs.typeId = true ∧ lhs.isBuiltinKind = true ∧
        rhs.isBuiltinKind = true := by
  constructor
  · intro applies
    unfold apply at applies
    split at applies
    case h_5 =>
      split at applies
      · exact ⟨rfl, rfl, rfl⟩
      · exact ⟨rfl, rfl, rfl⟩
      · exact absurd ⟨_, _, rfl⟩ applies
    case h_6 => exact absurd ⟨_, _, rfl⟩ applies
    all_goals exact ⟨by cases op <;> rfl, rfl, rfl⟩
  · rintro ⟨supported, lkind, rkind⟩
    rcases supports_cases supported with ⟨lnum, rnum⟩ | ⟨lstr, rstr, joinOrCompare⟩
    · rcases number_of_isNumeric lkind lnum with ⟨a, rfl⟩ | ⟨a, rfl⟩ <;>
        rcases number_of_isNumeric rkind rnum with ⟨b, rfl⟩ | ⟨b, rfl⟩
      all_goals simp only [apply]
      · exact applyInt_not_mismatch op a b
      all_goals exact applyFloat_not_mismatch op _ _
    · obtain ⟨s, rfl⟩ := str_of_typeId lkind lstr
      obtain ⟨t, rfl⟩ := str_of_typeId rkind rstr
      rcases joinOrCompare with rfl | rfl <;> rintro ⟨_, _, h⟩ <;> cases h

end BinaryOp

/-- Running an operator target on one operand applies the operator, in the registry of the
moment, and changes nothing. -/
theorem Machine.runTarget_operator (fuel : Nat) (op : BinaryOp) (lhs rhs : TypeId)
    (recv arg : Value) (ctx : Context) :
    (Machine.runTarget (fuel + 1) (Target.operator op lhs rhs) recv [arg]).run ctx =
      .ok (op.apply ctx.registry recv arg, ctx) := by
  rw [Machine.runTarget]
  rfl

/-- An operator call whose one operand the operation applies to resolves to the builtin:
no such pair is left to the instance search. -/
theorem resolve_applicable_operator {reg : Registry} {recv rhs : Value} {d : CallDescriptor}
    {op : BinaryOp} (kind : d.kind = .oper) (named : BinaryOp.ofMethodName? d.name = some op)
    (admits : d.admits [rhs] = true) (applies : ¬ MismatchesTypes (op.apply reg recv rhs)) :
    resolve reg recv d [rhs] = .ok (Target.operator op recv.typeId rhs.typeId) := by
  have supported := ((BinaryOp.apply_mismatch_iff reg op recv rhs).1 applies).1
  have present : recv.isNone = false := by
    cases recv
    case none => exact absurd ⟨_, _, rfl⟩ applies
    all_goals rfl
  rw [resolve_oper present admits kind]
  simp only [Resolve.operatorCall, named, supported, if_true]

/-- A builtin operator computes exactly: checked 64-bit arithmetic with its overflow and
division errors, comparison by the sign of the difference, string joining and byte order. -/
theorem builtin_operators_compute_exactly :
    (∀ (fuel : Nat) (ctx : Context) (op : BinaryOp) (lhs rhs : TypeId) (recv arg : Value),
      (Machine.runTarget (fuel + 1) (Target.operator op lhs rhs) recv [arg]).run ctx =
        .ok (op.apply ctx.registry recv arg, ctx)) ∧
    (∀ (reg : Registry) (a b : Int64),
      ExactOrOverflow (a.toInt + b.toInt) (BinaryOp.add.apply reg (.int a) (.int b)) ∧
      ExactOrOverflow (a.toInt - b.toInt) (BinaryOp.sub.apply reg (.int a) (.int b)) ∧
      ExactOrOverflow (a.toInt * b.toInt) (BinaryOp.mul.apply reg (.int a) (.int b)) ∧
      (b.toInt = 0 →
        BinaryOp.div.apply reg (.int a) (.int b) = .error (.raised "division by zero")) ∧
      (a.toInt = -2 ^ 63 → b.toInt = -1 →
        BinaryOp.div.apply reg (.int a) (.int b) = .error (.raised "integer overflow")) ∧
      (b.toInt ≠ 0 → ¬ (a.toInt = -2 ^ 63 ∧ b.toInt = -1) →
        ∃ c : Int64, c.toInt = a.toInt.tdiv b.toInt ∧
          BinaryOp.div.apply reg (.int a) (.int b) = .ok (.int c)) ∧
      ∃ c : Int64, c.toInt = (a.toInt - b.toInt).sign ∧
        BinaryOp.compareTo.apply reg (.int a) (.int b) = .ok (.int c)) ∧
    ∀ (reg : Registry) (s t : String),
      BinaryOp.add.apply reg (.str s) (.str t) = .ok (.str (s ++ t)) ∧
      ∃ c : Int64, c.toInt = (if s.toUTF8.data.toList < t.toUTF8.data.toList then -1
          else if s.toUTF8.data.toList = t.toUTF8.data.toList then 0 else 1) ∧
        BinaryOp.compareTo.apply reg (.str s) (.str t) = .ok (.int c) := by
  refine ⟨fun fuel ctx op lhs rhs recv arg => Machine.runTarget_operator fuel op lhs rhs recv arg ctx,
    fun reg a b => ?_, fun reg s t => ⟨rfl, ?_⟩⟩
  · obtain ⟨add, sub, mul⟩ := BinaryOp.applyInt_exactOrOverflow a b
    obtain ⟨c, sign, order⟩ := BinaryOp.orderValue_compare_int a.toInt b.toInt
    exact ⟨add, sub, mul, BinaryOp.applyInt_div_zero a b, BinaryOp.applyInt_div_overflow a b,
      BinaryOp.applyInt_div_exact a b, c, sign, congrArg Except.ok order⟩
  · obtain ⟨c, sign, order⟩ := BinaryOp.orderValue_compare_string s t
    exact ⟨c, sign, congrArg Except.ok order⟩

/-- The least 64-bit integer divided by -1 overflows. -/
theorem least_integer_by_minus_one_overflows :
    Int64.minValue.toInt = -2 ^ 63 ∧ (-1 : Int64).toInt = -1 ∧
      BinaryOp.div.apply Registry.empty (.int Int64.minValue) (.int (-1)) =
        .error (.raised "integer overflow") := by
  have least : Int64.minValue.toInt = -2 ^ 63 := Int64.toInt_minValue
  have minusOne : (-1 : Int64).toInt = -1 := by decide
  exact ⟨least, minusOne,
    (builtin_operators_compute_exactly.2.1 Registry.empty _ _).2.2.2.2.1 least minusOne⟩

/-- A foreign object of the builtin `int` type has the type `int`, so the builtin supports
adding an integer to it; applying the addition refuses it as a type mismatch. -/
theorem foreign_int_supported_but_refused :
    BinaryOp.add.supports (Value.foreign 0 TypeId.int (.int 1)).typeId (Value.int 2).typeId = true ∧
      BinaryOp.add.apply Registry.withBuiltins (.foreign 0 TypeId.int (.int 1)) (.int 2) =
        .error (.typeMismatch "number" "int") :=
  ⟨rfl, rfl⟩

/-- The builtin operator applies exactly to the supported pairs of builtin kinds, refuses
instances and foreign objects as type mismatches, and such calls resolve to the builtin. -/
theorem builtin_operator_applies_to_supported_builtin_kinds :
    (∀ (reg : Registry) (op : BinaryOp) (lhs rhs : Value),
      ¬ MismatchesTypes (op.apply reg lhs rhs) ↔
        op.supports lhs.typeId rhs.typeId = true ∧ lhs.isBuiltinKind = true ∧
          rhs.isBuiltinKind = true) ∧
    ∀ (reg : Registry) (recv rhs : Value) (d : CallDescriptor) (op : BinaryOp),
      d.kind = .oper → BinaryOp.ofMethodName? d.name = some op → d.admits [rhs] = true →
      ¬ MismatchesTypes (op.apply reg recv rhs) →
      resolve reg recv d [rhs] = .ok (Target.operator op recv.typeId rhs.typeId) :=
  ⟨BinaryOp.apply_mismatch_iff, fun _ _ _ _ _ kind named admits applies =>
    resolve_applicable_operator kind named admits applies⟩

/-- The call `2.plus(3)`. -/
def plusCall : CallDescriptor := { name := "plus", kind := .oper }

/-- `2.plus(3)` applies, and resolves to the builtin addition of two integers. -/
theorem integer_plus_resolves_to_builtin :
    ¬ MismatchesTypes (BinaryOp.add.apply Registry.empty (.int 2) (.int 3)) ∧
      resolve Registry.empty (.int 2) plusCall [.int 3] =
        .ok (Target.operator .add TypeId.int TypeId.int) := by
  have applies : ¬ MismatchesTypes (BinaryOp.add.apply Registry.empty (.int 2) (.int 3)) :=
    (builtin_operator_applies_to_supported_builtin_kinds.1 _ _ _ _).2 ⟨rfl, rfl, rfl⟩
  exact ⟨applies,
    builtin_operator_applies_to_supported_builtin_kinds.2 _ _ _ _ _ rfl rfl rfl applies⟩

end InlineCache
