import FieldLink.Proofs.Numeric.Widening

/-!
# Between two magnitudes

A count of units lies between the values of two neighbouring magnitudes (`units_floor_bounds`).
Rounding compares it with the middle of the two: the magnitude that comes out lies above the middle
below it and below the middle above it, and is even where it lies on one of them
(`isRounded_nearest`).
-/

namespace FieldLink.BinaryFormat

variable {f : BinaryFormat} {num den : Nat}

/-- The two values around a count of units. -/
theorem units_floor_bounds (f : BinaryFormat) (u : Nat) :
    f.units (f.floor u) ≤ u ∧ u < f.units (f.floor u + 1) := by
  rcases Nat.lt_or_ge u f.fractions with small | large
  · have next := f.units_lt_units_succ u
    rw [floor_of_lt small]
    rw [units_of_lt small] at next ⊢
    exact ⟨le_rfl, next⟩
  · obtain ⟨shift, least, greatest⟩ := exists_leading large
    obtain ⟨fraction, leading⟩ := Nat.exists_eq_add_of_le least
    have magnitude : f.floor u = (shift + 1) * f.fractions + fraction := by
      rw [floor_normal least greatest rfl, leading, Nat.succ_mul]
      omega
    rw [magnitude, units_normal (by omega), units_normal_succ (by omega), ← leading]
    exact ⟨Nat.div_mul_le_self _ _, Nat.lt_mul_of_div_lt (Nat.lt_succ_self _) (Nat.two_pow_pos _)⟩

theorem units_strictMono (f : BinaryFormat) : StrictMono f.units :=
  strictMono_nat_of_lt_succ f.units_lt_units_succ

/-- Twice the middle between the value of a magnitude and the next one. -/
def middle (f : BinaryFormat) (m : Nat) : Nat := f.units m + f.units (m + 1)

theorem middle_lt_of_le {k m : Nat} (le : m ≤ k) : 2 * f.units m < f.middle k := by
  have mono := f.units_strictMono.monotone le
  have next := f.units_lt_units_succ k
  unfold middle
  omega

theorem middle_lt_of_lt {k m : Nat} (lt : k < m) : f.middle k < 2 * f.units m := by
  have mono := f.units_strictMono.monotone (show k + 1 ≤ m from lt)
  have next := f.units_lt_units_succ k
  unfold middle
  omega

/-- Whether a magnitude is what `num / den` units round to, by the middles around it. -/
structure IsRounded (f : BinaryFormat) (num den m : Nat) : Prop where
  le_infinity : m ≤ f.infinity
  below : ∀ k, k + 1 = m → f.middle k * den ≤ 2 * num ∧ (f.middle k * den = 2 * num → m % 2 = 0)
  above : m < f.infinity → 2 * num ≤ f.middle m * den ∧ (2 * num = f.middle m * den → m % 2 = 0)

/-- On one side of a middle nothing is to be said about evenness. -/
theorem le_and_of_lt {a b : Nat} {even : Prop} (strict : a < b) : a ≤ b ∧ (a = b → even) :=
  ⟨strict.le, fun tie => absurd tie strict.ne⟩

theorem isRounded_nearest (f : BinaryFormat) (num : Nat) (pos : 0 < den) :
    f.IsRounded (num * f.unitsPerOne) den (f.nearest num den) := by
  have bounds := f.units_floor_bounds (num * f.unitsPerOne / den)
  have lower : f.units (f.floor (num * f.unitsPerOne / den)) * den ≤ num * f.unitsPerOne :=
    (Nat.le_div_iff_mul_le pos).1 bounds.1
  have upper : num * f.unitsPerOne < f.units (f.floor (num * f.unitsPerOne / den) + 1) * den :=
    (Nat.div_lt_iff_lt_mul pos).1 bounds.2
  unfold nearest
  dsimp only
  generalize f.floor (num * f.unitsPerOne / den) = m at lower upper
  generalize num * f.unitsPerOne = scaled at lower upper
  -- the middles that do not lie between the two values are no match
  have under : ∀ k, k < m → f.middle k * den < 2 * scaled := fun k lt =>
    calc f.middle k * den < 2 * f.units m * den := Nat.mul_lt_mul_of_pos_right (middle_lt_of_lt lt) pos
      _ ≤ 2 * scaled := by
        rw [Nat.mul_assoc]
        exact Nat.mul_le_mul_left 2 lower
  have behind : 2 * scaled < f.middle (m + 1) * den :=
    calc 2 * scaled < 2 * (f.units (m + 1) * den) := Nat.mul_lt_mul_of_pos_left upper (by decide)
      _ ≤ f.middle (m + 1) * den := by
        rw [← Nat.mul_assoc]
        exact Nat.mul_le_mul_right den (middle_lt_of_le le_rfl).le
  change f.IsRounded scaled den (if f.infinity ≤ m then f.infinity
    else if 2 * scaled < f.middle m * den then m
    else if f.middle m * den < 2 * scaled then m + 1
    else if m % 2 = 0 then m else m + 1)
  split_ifs with overflows less more even
  · exact ⟨le_rfl, fun k next => le_and_of_lt (under k (by omega)),
      fun finite => absurd finite (lt_irrefl _)⟩
  · exact ⟨by omega, fun k next => le_and_of_lt (under k (by omega)), fun _ => le_and_of_lt less⟩
  · refine ⟨by omega, fun k next => ?_, fun _ => le_and_of_lt behind⟩
    obtain rfl : k = m := by omega
    exact le_and_of_lt more
  · exact ⟨by omega, fun k next => le_and_of_lt (under k (by omega)),
      fun _ => ⟨Nat.not_lt.1 more, fun _ => even⟩⟩
  · refine ⟨by omega, fun k next => ?_, fun _ => le_and_of_lt behind⟩
    obtain rfl : k = m := by omega
    exact ⟨Nat.not_lt.1 less, fun _ => by omega⟩

theorem infinity_pos (wide : 2 ≤ f.exponents) : 0 < f.infinity :=
  Nat.mul_pos (by omega) f.fractions_pos

theorem infinity_even (fractional : 0 < f.fractionBits) : f.infinity % 2 = 0 := by
  obtain ⟨bits, bits_eq⟩ := Nat.exists_eq_succ_of_ne_zero fractional.ne'
  rw [infinity, fractions_eq_two_pow, bits_eq, Nat.pow_succ, ← Nat.mul_assoc, Nat.mul_mod_left]

/-- Infinity is taken from the middle on that lies behind the greatest finite value. -/
theorem nearest_eq_infinity_iff (fractional : 0 < f.fractionBits) (wide : 2 ≤ f.exponents)
    (pos : 0 < den) : f.nearest num den = f.infinity ↔
      f.middle (f.infinity - 1) * den ≤ 2 * (num * f.unitsPerOne) := by
  have rounded := f.isRounded_nearest num pos
  have last := infinity_pos wide
  constructor
  · intro overflows
    exact (rounded.below (f.infinity - 1) (by omega)).1
  · intro behind
    by_contra finite
    have finite : f.nearest num den < f.infinity := lt_of_le_of_ne rounded.le_infinity finite
    obtain ⟨upper, tie⟩ := rounded.above finite
    rcases (Nat.le_sub_one_of_lt finite).lt_or_eq with before | greatest
    · have lt : f.middle (f.nearest num den) < f.middle (f.infinity - 1) :=
        (middle_lt_of_lt before).trans (middle_lt_of_le le_rfl)
      have strict := Nat.mul_lt_mul_of_pos_right lt pos
      omega
    · -- the greatest finite magnitude is odd
      have even := infinity_even fractional
      rw [greatest] at upper tie
      have odd := tie (le_antisymm upper behind)
      omega

end FieldLink.BinaryFormat
