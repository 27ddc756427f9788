import FieldLink.Register.BitField
import Mathlib.Data.Nat.Bitwise

/-!
# Fields of a word

Writing a field bit by bit is a mask and a shift at once: each bit of the result comes either from
the value or from the word (`getLsbD_setBits`), and a field that is read is a quotient and a remainder
(`toNat_bits`).  Both go by induction on the count of single steps; a step whose index is no bit of
the word, be it by saturation, reads zero and writes nothing.
-/

namespace FieldLink.Word

variable {n k : Nat}

/-! ## Single bits -/

/-- Counting stops far behind the end of a word. -/
theorem place_cases (index offset : Nat) :
    place index offset = index + offset ∨ 64 ≤ place index offset ∧ 64 ≤ index + offset := by
  have last : UInt32.size - 1 = 4294967295 := rfl
  rw [place, last]
  omega

theorem getLsbD_place (w : Word) (index offset : Nat) :
    w.getLsbD (place index offset) = w.getLsbD (index + offset) := by
  rcases place_cases index offset with same | ⟨saturated, beyond⟩
  · rw [same]
  · rw [BitVec.getLsbD_of_ge w _ saturated, BitVec.getLsbD_of_ge w _ beyond]

theorem getLsbD_bit (w : Word) (index k : Nat) :
    (w.bit index).getLsbD k = (decide (k = 0) && w.getLsbD index) := by
  unfold bit
  cases w.getLsbD index <;> simp [BitVec.getLsbD_one]

/-- A single write replaces the bit at its index. -/
theorem getLsbD_setBit (w v : Word) (index : Nat) (inside : k < 64) :
    (w.setBit index v).getLsbD k = if k = index then v.getLsbD 0 else w.getLsbD k := by
  unfold setBit
  split
  · rw [if_neg (by omega)]
  · cases low : v.getLsbD 0 <;> by_cases same : k = index <;>
      simp [BitVec.getLsbD_twoPow, same, inside]
    all_goals omega

/-! ## Fields -/

/-- The word after the single writes at the offsets below `n`. -/
theorem getLsbD_foldl_setBit (w v : Word) (index n : Nat) (inside : k < 64) :
    ((List.range n).foldl (fun word offset => word.setBit (place index offset) (v.bit offset))
      w).getLsbD k = if index ≤ k ∧ k < index + n then v.getLsbD (k - index) else w.getLsbD k := by
  induction n with
  | zero => rw [if_neg (by omega)]; rfl
  | succ n ih =>
    rw [List.range_succ, List.foldl_append, List.foldl_cons, List.foldl_nil,
      getLsbD_setBit _ _ _ inside, ih, getLsbD_bit]
    have reached : k = place index n ↔ k = index + n := by
      rcases place_cases index n with same | ⟨saturated, beyond⟩ <;> omega
    by_cases last : k = index + n
    · subst last
      simp [reached]
    · rw [if_neg (reached.not.2 last)]
      congr 1
      rw [eq_iff_iff]
      omega

theorem getLsbD_setBits (w v : Word) (index len : Nat) (inside : k < 64) :
    (w.setBits index len v).getLsbD k =
      if index ≤ k ∧ k < index + len then v.getLsbD (k - index) else w.getLsbD k := by
  rw [setBits, getLsbD_foldl_setBit _ _ _ _ inside]
  congr 1
  rw [eq_iff_iff]
  omega

/-- The writes that are left out would change nothing. -/
theorem setBits_eq_foldl (w v : Word) (index len : Nat) :
    w.setBits index len v = (List.range len).foldl
      (fun word offset => word.setBit (place index offset) (v.bit offset)) w := by
  apply BitVec.eq_of_getLsbD_eq
  intro k inside
  rw [getLsbD_setBits _ _ _ _ inside, getLsbD_foldl_setBit _ _ _ _ inside]

/-- The field after the single reads at the offsets below `n`. -/
theorem getLsbD_foldl_bit (w : Word) (index : Nat) (few : n ≤ 64) (k : Nat) :
    ((List.range n).foldl (fun field offset => field ||| (w.bit (place index offset) <<< offset))
      (0 : Word)).getLsbD k = (decide (k < n) && w.getLsbD (index + k)) := by
  induction n with
  | zero => simp
  | succ n ih =>
    rw [List.range_succ, List.foldl_append, List.foldl_cons, List.foldl_nil, BitVec.getLsbD_or,
      ih (by omega), BitVec.getLsbD_shiftLeft, getLsbD_bit, getLsbD_place]
    rcases Nat.lt_trichotomy k n with below | rfl | above
    · simp [below, Nat.lt_succ_of_lt below]
    · have inside : k < 64 := by omega
      simp [inside]
    · have outside : ¬k < n + 1 := by omega
      have distant : ¬k - n = 0 := by omega
      simp [Nat.not_lt.2 above.le, outside, distant]

theorem getLsbD_bits (w : Word) (index len k : Nat) :
    (w.bits index len).getLsbD k = (decide (k < len) && w.getLsbD (index + k)) := by
  rw [bits, getLsbD_foldl_bit w index (Nat.min_le_right len 64) k]
  by_cases beyond : 64 ≤ k
  · rw [BitVec.getLsbD_of_ge w _ (by omega), Bool.and_false, Bool.and_false]
  · have same : k < min len 64 ↔ k < len := by omega
    simp only [same]

/-- A field is what is left of the word when the bits below it and above it are cut off. -/
theorem toNat_bits (w : Word) (index len : Nat) :
    (w.bits index len).toNat = w.toNat / 2 ^ index % 2 ^ len := by
  apply Nat.eq_of_testBit_eq
  intro k
  rw [BitVec.testBit_toNat, getLsbD_bits, Nat.testBit_mod_two_pow, Nat.testBit_div_two_pow,
    BitVec.testBit_toNat, Nat.add_comm k index]

/-! ## Reading what was written -/

theorem toNat_bits_setBits (w v : Word) (index len : Nat) :
    ((w.setBits index len v).bits index len).toNat = v.toNat % 2 ^ min len (64 - index) := by
  apply Nat.eq_of_testBit_eq
  intro k
  rw [BitVec.testBit_toNat, getLsbD_bits, Nat.testBit_mod_two_pow, BitVec.testBit_toNat]
  by_cases within : k < min len (64 - index)
  · rw [getLsbD_setBits _ _ _ _ (by omega), if_pos (by omega), Nat.add_sub_cancel_left,
      decide_eq_true within, decide_eq_true (show k < len by omega)]
  · rw [decide_eq_false within, Bool.false_and]
    by_cases written : k < len
    · -- the bit lies in the field, but behind the end of the word
      rw [BitVec.getLsbD_of_ge _ _ (by omega), Bool.and_false]
    · rw [decide_eq_false written, Bool.false_and]

/-- A field that is written back leaves the word as it was. -/
theorem setBits_bits (w : Word) (index len : Nat) : w.setBits index len (w.bits index len) = w := by
  apply BitVec.eq_of_getLsbD_eq
  intro k inside
  rw [getLsbD_setBits _ _ _ _ inside]
  split
  · next within =>
    rw [getLsbD_bits, decide_eq_true (show k - index < len by omega), Bool.true_and,
      Nat.add_sub_cancel' within.1]
  · rfl

/-- Of two writes to a field the second counts. -/
theorem setBits_setBits (w v v' : Word) (index len : Nat) :
    (w.setBits index len v).setBits index len v' = w.setBits index len v' := by
  apply BitVec.eq_of_getLsbD_eq
  intro k inside
  simp only [getLsbD_setBits _ _ _ _ inside]
  split <;> rfl

/-- Writing a field is the sequence of its single writes, and the bits of the field come from the
value, all others from the word.  Reading a field gives the part of the word between its two ends.  So
what is written is read back, as far as it lies within the word; what is read may be written back; and
the last write to a field counts. -/
theorem fields_masked (w v : Word) (index len : Nat) :
    w.setBits index len v = (List.range len).foldl
      (fun word offset => word.setBit (place index offset) (v.bit offset)) w ∧
    (∀ k < 64, (w.setBits index len v).getLsbD k =
      if index ≤ k ∧ k < index + len then v.getLsbD (k - index) else w.getLsbD k) ∧
    (len ≤ 64 → (w.bits index len).toNat = w.toNat / 2 ^ index % 2 ^ len) ∧
    (index < 64 → len ≤ 64 →
      ((w.setBits index len v).bits index len).toNat = v.toNat % 2 ^ min len (64 - index) ∧
        w.setBits index len (w.bits index len) = w ∧
        ∀ v', (w.setBits index len v).setBits index len v' = w.setBits index len v') :=
  ⟨setBits_eq_foldl w v index len, fun _ inside => getLsbD_setBits w v index len inside,
    fun _ => toNat_bits w index len, fun _ _ => ⟨toNat_bits_setBits w v index len,
      setBits_bits w index len, fun v' => setBits_setBits w v v' index len⟩⟩

/-- A field of eight bits at bit 60 keeps the four that lie within the word. -/
theorem fields_masked_at_end :
    60 < 64 ∧ 8 ≤ 64 ∧
      ((setBits 0x0123456789ABCDEF 60 8 0xFA).bits 60 8).toNat = 0xA ∧
      (setBits 0x0123456789ABCDEF 60 8 0xFA).getLsbD 63 = true ∧
      (bits 0xA123456789ABCDEF 60 8).toNat = 0xA := by
  have access := fields_masked 0x0123456789ABCDEF 0xFA 60 8
  have reading := (fields_masked 0xA123456789ABCDEF 0 60 8).2.2.1 (by decide)
  have written := access.2.2.2 (by decide) (by decide)
  refine ⟨by decide, by decide, written.1, ?_, reading⟩
  rw [access.2.1 63 (by decide)]
  decide

end FieldLink.Word
