import Mathlib
import InlineCache.Script.Machine
/-!
# Reading a byte sequence from either end

A byte sequence is read at an index that counts from the start when it is not negative and
from the end when it is, `-1` being the last byte. An index that lands outside the sequence
is an error naming the index and the length: nothing is clamped, the empty sequence has no
index and the least 64-bit integer lands outside every sequence.

The code computes in 64-bit integers. Every length a sequence can have is at most the
greatest of them, and a negative index plus such a length stays in range, so the
computation never overflows; a position it finds lies inside the sequence, so the read
never falls off its end.
-/
namespace InlineCache

/-- The length as the arithmetic sees it is the length itself, for every length a sequence
can have. -/
theorem min_maxIndex_of_le {n : Nat} (hn : n ≤ maxIndex) : (min (n : Int) maxIndex) = n := by
  simpa using hn

/-- Where an index lands in a sequence of `n` elements, for every length a sequence can
have: counted from the start, counted from the end, or outside. -/
theorem normalizeIndex_eq (i : Int) {n : Nat} (hn : n ≤ maxIndex) :
    normalizeIndex i n =
      if 0 ≤ i ∧ i < n then .ok i.toNat
      else if -(n : Int) ≤ i ∧ i < 0 then .ok (n + i).toNat
      else .error (.indexOutOfRange i n) := by
  simp only [normalizeIndex, min_maxIndex_of_le hn]
  by_cases hneg : i < 0
  · have notFromStart : ¬ (0 ≤ i ∧ i < n) := by omega
    by_cases hin : -(n : Int) ≤ i
    · simp [hneg, hin, notFromStart]
      rw [if_pos (by omega), Int.add_comm]
    · simp [hneg, hin, notFromStart]
      omega
  · by_cases hin : i < n
    · simp [hneg, hin]
    · simp [hneg, hin]

/-- A position an index lands on lies inside the sequence. -/
theorem normalizeIndex_lt {i : Int} {n k : Nat} (hn : n ≤ maxIndex)
    (h : normalizeIndex i n = .ok k) : k < n := by
  rw [normalizeIndex_eq i hn] at h
  split at h
  · cases h
    omega
  · split at h
    · cases h
      omega
    · cases h

/-- A negative 64-bit index plus a length a sequence can have, computed in 64-bit integers,
is the exact sum: it never overflows. -/
theorem index_add_length_exact (i : Int64) {n : Nat} (hn : n ≤ maxIndex) (hneg : i.toInt < 0) :
    (i + Int64.ofNat (min n maxIndex)).toInt = i.toInt + (min n maxIndex : Nat) := by
  have low := Int64.le_toInt i
  have len : ((min n maxIndex : Nat) : Int) = n := by simp [hn]
  have fits : (Int64.ofNat (min n maxIndex)).toInt = n := by
    rw [Int64.toInt_ofNat', len]
    exact Int.bmod_eq_of_le (by simp [Int64.size]) (by simp [Int64.size, maxIndex] at hn ⊢; omega)
  rw [Int64.toInt_add, fits, len]
  exact Int.bmod_eq_of_le (by omega) (by simp [maxIndex] at hn; omega)

/-- Reading the byte at a 64-bit index of a sequence of a length a sequence can have: the
byte counted from the start, the byte counted from the end, or the error naming the index
and the length. -/
theorem AccessorOp.getAt_bytes (reg : Registry) (b : ByteArray) (i : Int64) (hb : b.size ≤ maxIndex) :
    (0 ≤ i.toInt → i.toInt < b.size → ∃ h : i.toInt.toNat < b.size,
        AccessorOp.getAt.apply reg (.bytes b) [.int i] = .ok (.int (Int64.ofNat b[i.toInt.toNat].toNat))) ∧
    (-(b.size : Int) ≤ i.toInt → i.toInt < 0 → ∃ h : (b.size + i.toInt).toNat < b.size,
        AccessorOp.getAt.apply reg (.bytes b) [.int i] =
          .ok (.int (Int64.ofNat b[(b.size + i.toInt).toNat].toNat))) ∧
    (¬ (-(b.size : Int) ≤ i.toInt ∧ i.toInt < b.size) →
        AccessorOp.getAt.apply reg (.bytes b) [.int i] = .error (.indexOutOfRange i.toInt b.size)) := by
  have read : ∀ k (hk : k < b.size), normalizeIndex i.toInt b.size = .ok k →
      AccessorOp.getAt.apply reg (.bytes b) [.int i] = .ok (.int (Int64.ofNat b[k].toNat)) := by
    intro k hk hland
    simp only [AccessorOp.apply, hland]
    rw [Array.getD_eq_getD_getElem?, Array.getElem?_eq_getElem (by simpa using hk)]
    rfl
  refine ⟨fun hlow hhigh => ?_, fun hlow hhigh => ?_, fun hout => ?_⟩
  · have hk : i.toInt.toNat < b.size := by omega
    refine ⟨hk, read _ hk ?_⟩
    rw [normalizeIndex_eq _ hb, if_pos ⟨hlow, hhigh⟩]
  · have hk : (b.size + i.toInt).toNat < b.size := by omega
    refine ⟨hk, read _ hk ?_⟩
    rw [normalizeIndex_eq _ hb, if_neg (by omega), if_pos ⟨hlow, hhigh⟩]
  · have hland : normalizeIndex i.toInt b.size = .error (.indexOutOfRange i.toInt b.size) := by
      rw [normalizeIndex_eq _ hb, if_neg (by omega), if_neg (by omega)]
    simp only [AccessorOp.apply, hland]

/-- Running an accessor target applies the accessor, in the registry of the moment, and
changes nothing. -/
theorem Machine.runTarget_accessor (fuel : Nat) (op : AccessorOp) (recv : Value) (args : List Value)
    (ctx : Context) :
    (Machine.runTarget (fuel + 1) (Target.accessor op) recv args).run ctx =
      .ok (op.apply ctx.registry recv args, ctx) := by
  rw [Machine.runTarget]
  rfl

/-- A `getAt` accessor reads the byte an index lands on, from the start or, for a negative
index, from the end, or answers the out-of-range error; the index arithmetic never overflows. -/
theorem getAt_reads_from_either_end :
    (∀ (fuel : Nat) (ctx : Context) (b : ByteArray) (i : Int64), b.size ≤ maxIndex →
      (0 ≤ i.toInt → i.toInt < b.size → ∃ h : i.toInt.toNat < b.size,
        (Machine.runTarget (fuel + 1) (Target.accessor .getAt) (.bytes b) [.int i]).run ctx =
          .ok (.ok (.int (Int64.ofNat b[i.toInt.toNat].toNat)), ctx)) ∧
      (-(b.size : Int) ≤ i.toInt → i.toInt < 0 → ∃ h : (b.size + i.toInt).toNat < b.size,
        (Machine.runTarget (fuel + 1) (Target.accessor .getAt) (.bytes b) [.int i]).run ctx =
          .ok (.ok (.int (Int64.ofNat b[(b.size + i.toInt).toNat].toNat)), ctx)) ∧
      (¬ (-(b.size : Int) ≤ i.toInt ∧ i.toInt < b.size) →
        (Machine.runTarget (fuel + 1) (Target.accessor .getAt) (.bytes b) [.int i]).run ctx =
          .ok (.error (.indexOutOfRange i.toInt b.size), ctx))) ∧
    (∀ (i : Int) (n : Nat), n ≤ maxIndex →
      normalizeIndex i n =
        if 0 ≤ i ∧ i < n then .ok i.toNat
        else if -(n : Int) ≤ i ∧ i < 0 then .ok (n + i).toNat
        else .error (.indexOutOfRange i n)) ∧
    ∀ (i : Int64) (n : Nat), n ≤ maxIndex → i.toInt < 0 →
      (i + Int64.ofNat (min n maxIndex)).toInt = i.toInt + (min n maxIndex : Nat) := by
  refine ⟨fun fuel ctx b i hb => ?_, fun i _ hn => normalizeIndex_eq i hn,
    fun i _ hn hneg => index_add_length_exact i hn hneg⟩
  obtain ⟨fromStart, fromEnd, outside⟩ := AccessorOp.getAt_bytes ctx.registry b i hb
  rw [Machine.runTarget_accessor]
  refine ⟨fun hlow hhigh => ?_, fun hlow hhigh => ?_, fun hout => by rw [outside hout]⟩
  · obtain ⟨hk, hread⟩ := fromStart hlow hhigh
    exact ⟨hk, by rw [hread]⟩
  · obtain ⟨hk, hread⟩ := fromEnd hlow hhigh
    exact ⟨hk, by rw [hread]⟩

/-- The bytes 10, 20 and 30. -/
def tenTwentyThirty : ByteArray := ⟨#[10, 20, 30]⟩

/-- Index `-1` of the bytes 10, 20 and 30 reads the last byte, 30. -/
theorem last_byte_at_minus_one :
    tenTwentyThirty.size ≤ maxIndex ∧
      (Machine.runTarget 1 (Target.accessor .getAt) (.bytes tenTwentyThirty) [.int (-1)]).run
          (Context.fresh true false) =
        .ok (.ok (.int 30), Context.fresh true false) := by
  have short : tenTwentyThirty.size ≤ maxIndex := by decide
  obtain ⟨_, hread⟩ := (getAt_reads_from_either_end.1 0 (Context.fresh true false) tenTwentyThirty (-1)
    short).2.1 (by decide) (by decide)
  refine ⟨short, ?_⟩
  rw [hread]
  rfl

end InlineCache
