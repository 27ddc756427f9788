import FieldLink.Proofs.Numeric.Exact
import FieldLink.Proofs.Numeric.Nearest
import Mathlib.Algebra.Order.Group.Abs
import Mathlib.Order.Monotone.Odd
import Mathlib.Tactic.Linarith

/-!
# Rounding exact values

`Binary.IsNearest` says that a number is what a rational rounds to: none is nearer, and the even one is
taken of two that are equally near, where infinity stands for the power of two behind the greatest
finite value.  Quotients (`isNearest_ofRatio`) and conversions (`rounds_convert`) round like this, and
rounding keeps the order of exact values (`Rounds.mono`), whichever numbers they come from.

Numbers with signs are counted through by `Binary.index`, on which the value is strictly increasing;
so what lies between two numbers is a matter of integers.
-/

namespace FieldLink

namespace BinaryFormat

variable {f : BinaryFormat}

/-- The value of a magnitude with a sign. -/
def value (f : BinaryFormat) (k : ℤ) : ℚ := k.sign * (f.units k.natAbs / f.unitsPerOne)

theorem value_natCast (f : BinaryFormat) (m : ℕ) : f.value m = f.units m / f.unitsPerOne := by
  unfold value
  rcases Nat.eq_zero_or_pos m with rfl | pos
  · simp [units_of_lt f.fractions_pos]
  · simp [Int.sign_natCast_of_ne_zero pos.ne']

theorem value_neg (f : BinaryFormat) (k : ℤ) : f.value (-k) = -f.value k := by
  simp [value]

theorem value_lt_value_iff (f : BinaryFormat) {j k : ℤ} : f.value j < f.value k ↔ j < k := by
  refine (strictMono_of_odd_strictMonoOn_nonneg f.value_neg fun i nonneg j _ lt => ?_).lt_iff_lt
  obtain ⟨m, rfl⟩ := Int.eq_ofNat_of_zero_le (Set.mem_Ici.1 nonneg)
  obtain ⟨m', rfl⟩ := Int.eq_ofNat_of_zero_le ((Set.mem_Ici.1 nonneg).trans lt.le)
  have units : (f.units m : ℚ) < f.units m' := Nat.cast_lt.2 (f.units_strictMono (Int.ofNat_lt.1 lt))
  rw [value_natCast, value_natCast]
  exact div_lt_div_of_pos_right units (Nat.cast_pos.2 f.unitsPerOne_pos)

theorem value_le_value_iff (f : BinaryFormat) {j k : ℤ} : f.value j ≤ f.value k ↔ j ≤ k := by
  rw [← not_lt, value_lt_value_iff, not_lt]

/-- The middle between two neighbouring values. -/
theorem value_add_value (f : BinaryFormat) (m : ℕ) :
    f.value m + f.value (m + 1 : ℕ) = f.middle m / f.unitsPerOne := by
  rw [value_natCast, value_natCast, middle, ← add_div, Nat.cast_add]

section Middle

variable {num den : ℕ} (pos : 0 < den) (m : ℕ)

include pos

theorem middle_le_iff : f.value m + f.value (m + 1 : ℕ) ≤ 2 * (num / den : ℚ) ↔
    f.middle m * den ≤ 2 * (num * f.unitsPerOne) := by
  rw [value_add_value, ← mul_div_assoc, div_le_div_iff₀ (Nat.cast_pos.2 f.unitsPerOne_pos)
    (Nat.cast_pos.2 pos), mul_assoc]
  exact_mod_cast Iff.rfl

theorem le_middle_iff : 2 * (num / den : ℚ) ≤ f.value m + f.value (m + 1 : ℕ) ↔
    2 * (num * f.unitsPerOne) ≤ f.middle m * den := by
  rw [value_add_value, ← mul_div_assoc, div_le_div_iff₀ (Nat.cast_pos.2 pos)
    (Nat.cast_pos.2 f.unitsPerOne_pos), mul_assoc]
  exact_mod_cast Iff.rfl

end Middle

end BinaryFormat

namespace Binary

open BinaryFormat

variable {f g : BinaryFormat} {x y : Binary f} {q r : ℚ}

/-! ## Numbers in their order -/

/-- The magnitude with the sign. -/
def index (x : Binary f) : ℤ := if x.negative then -x.magnitude else x.magnitude

theorem rational_eq_value (wide : 4 ≤ f.exponents) (x : Binary f) : x.rational = f.value x.index := by
  rw [rational_eq wide, index]
  cases x.negative with
  | false => simp [value_natCast]
  | true => simp [value_natCast, value_neg]

theorem isNaN_eq_false_iff : x.isNaN = false ↔ x.magnitude ≤ f.infinity := by
  simp [isNaN]

/-- The number with a given index. -/
theorem exists_index_eq {k : ℤ} (within : k.natAbs ≤ f.infinity) :
    ∃ x : Binary f, x.isNaN = false ∧ x.index = k := by
  refine ⟨⟨decide (k < 0), k.natAbs, within.trans_lt f.infinity_lt⟩, ?_, ?_⟩
  · exact isNaN_eq_false_iff.2 within
  · simp only [index, decide_eq_true_eq]
    split <;> omega

theorem natAbs_index (x : Binary f) : x.index.natAbs = x.magnitude := by
  unfold index
  split <;> simp

/-! ## The nearest number -/

/-- Whether a number is what a rational rounds to: none is nearer, and if another one is as near, then
its magnitude is even.  An infinity takes part with the value that follows the greatest finite one. -/
structure IsNearest (x : Binary f) (q : ℚ) : Prop where
  isNaN : x.isNaN = false
  nearest : ∀ y : Binary f, y.isNaN = false → |x.rational - q| ≤ |y.rational - q|
  even : ∀ y : Binary f, y.isNaN = false → y.rational ≠ x.rational →
    |y.rational - q| = |x.rational - q| → x.magnitude % 2 = 0

theorem abs_sub_le_left_iff {a b : ℚ} (lt : a < b) : |a - q| ≤ |b - q| ↔ 2 * q ≤ a + b := by
  rcases abs_cases (a - q) with ⟨e₁, s₁⟩ | ⟨e₁, s₁⟩ <;>
    rcases abs_cases (b - q) with ⟨e₂, s₂⟩ | ⟨e₂, s₂⟩ <;>
    rw [e₁, e₂] <;> constructor <;> intro h <;> linarith

theorem abs_sub_le_right_iff {a b : ℚ} (lt : a < b) : |b - q| ≤ |a - q| ↔ a + b ≤ 2 * q := by
  have mirrored := abs_sub_le_left_iff (q := -q) (neg_lt_neg lt)
  rw [neg_sub_neg, neg_sub_neg, abs_sub_comm q, abs_sub_comm q] at mirrored
  rw [mirrored]
  constructor <;> intro h <;> linarith

/-- A number that lies between the middles around it is the nearest one. -/
theorem isNearest_of_middles (wide : 4 ≤ f.exponents) (number : x.isNaN = false)
    (below : ∀ k, k + 1 = x.index → f.value k + f.value x.index ≤ 2 * q ∧
      (f.value k + f.value x.index = 2 * q → x.magnitude % 2 = 0))
    (above : x.index < f.infinity → 2 * q ≤ f.value x.index + f.value (x.index + 1) ∧
      (2 * q = f.value x.index + f.value (x.index + 1) → x.magnitude % 2 = 0)) :
    x.IsNearest q := by
  have beside : ∀ y : Binary f, y.isNaN = false → |x.rational - q| ≤ |y.rational - q| ∧
      (y.rational ≠ x.rational → |y.rational - q| = |x.rational - q| → x.magnitude % 2 = 0) := by
    intro y number'
    rw [rational_eq_value wide x, rational_eq_value wide y]
    rcases lt_trichotomy y.index x.index with before | same | behind
    · have lt := f.value_lt_value_iff.2 before
      obtain ⟨middle, tie⟩ := below (x.index - 1) (by omega)
      have mono : f.value y.index ≤ f.value (x.index - 1) :=
        f.value_le_value_iff.2 (by omega)
      refine ⟨(abs_sub_le_right_iff lt).2 (by linarith), fun _ equal => tie ?_⟩
      have other := (abs_sub_le_left_iff lt).1 equal.le
      linarith
    · rw [same]
      exact ⟨le_rfl, fun ne => absurd rfl ne⟩
    · have lt := f.value_lt_value_iff.2 behind
      have last := isNaN_eq_false_iff.1 number'
      rw [← natAbs_index] at last
      obtain ⟨middle, tie⟩ := above (by omega)
      have mono : f.value (x.index + 1) ≤ f.value y.index :=
        f.value_le_value_iff.2 (by omega)
      refine ⟨(abs_sub_le_left_iff lt).2 (by linarith), fun _ equal => tie ?_⟩
      have other := (abs_sub_le_right_iff lt).1 equal.le
      linarith
  exact ⟨number, fun y number' => (beside y number').1, fun y number' => (beside y number').2⟩

/-- A finite number is the nearest to its own value. -/
theorem isNearest_rational (number : x.isNaN = false) : x.IsNearest x.rational := by
  refine ⟨number, fun y _ => ?_, fun y _ ne equal => absurd ?_ ne⟩
  · rw [sub_self, abs_zero]
    exact abs_nonneg _
  · rw [sub_self, abs_zero, abs_eq_zero] at equal
    exact sub_eq_zero.1 equal

/-- The number with the other sign. -/
def opposite (x : Binary f) : Binary f := { x with negative := !x.negative }

theorem rational_opposite (x : Binary f) : x.opposite.rational = -x.rational := by
  unfold rational opposite
  cases x.negative <;> simp

theorem IsNearest.opposite (nearest : x.IsNearest q) : x.opposite.IsNearest (-q) := by
  have mirrored : ∀ a : ℚ, |-a - -q| = |a - q| := fun a => by
    rw [neg_sub_neg, abs_sub_comm]
  refine ⟨nearest.isNaN, fun y number => ?_, fun y number ne equal => ?_⟩
  · have other := nearest.nearest y.opposite number
    rw [rational_opposite, ← mirrored, ← mirrored (-y.rational), neg_neg] at other
    rw [rational_opposite]
    exact other
  · refine nearest.even y.opposite number ?_ ?_
    · rw [rational_opposite] at ne ⊢
      exact fun same => ne (by rw [← same, neg_neg])
    · rw [rational_opposite] at equal ⊢
      rw [← mirrored, ← mirrored x.rational, neg_neg]
      exact equal

/-- A quotient is rounded to the nearest number. -/
theorem isNearest_ofRatio (wide : 4 ≤ f.exponents) (negative : Bool) (num : ℕ) {den : ℕ}
    (pos : 0 < den) :
    (ofRatio negative num den : Binary f).IsNearest
      ((if negative then -1 else 1) * (num / den)) := by
  have positive : (ofRatio false num den : Binary f).IsNearest (num / den) := by
    have rounded := f.isRounded_nearest num pos
    have index : (ofRatio false num den : Binary f).index = f.nearest num den := rfl
    refine isNearest_of_middles wide (isNaN_eq_false_iff.2 rounded.le_infinity) ?_ ?_
    · rw [index]
      intro k next
      rcases Nat.eq_zero_or_pos (f.nearest num den) with zero | last
      · -- the number before zero is negative
        have least : f.value k < f.value 0 := f.value_lt_value_iff.2 (by omega)
        have origin : f.value 0 = 0 := by simp [value]
        have nonneg : (0 : ℚ) ≤ num / den := by positivity
        rw [zero, Nat.cast_zero, origin, add_zero]
        rw [origin] at least
        exact ⟨by linarith, fun equal => by linarith⟩
      · obtain ⟨m, succ⟩ := Nat.exists_eq_succ_of_ne_zero last.ne'
        obtain rfl : k = m := by omega
        have side := rounded.below m succ.symm
        rw [succ, Nat.succ_eq_add_one]
        exact ⟨(middle_le_iff pos m).2 side.1, fun equal =>
          side.2 (le_antisymm side.1 ((le_middle_iff pos m).1 equal.ge))⟩
    · rw [index]
      intro finite
      have side := rounded.above (by omega)
      exact ⟨(le_middle_iff pos _).2 side.1, fun equal =>
        side.2 (le_antisymm side.1 ((middle_le_iff pos _).1 equal.ge))⟩
  cases negative with
  | false =>
    rw [if_neg Bool.false_ne_true, one_mul]
    exact positive
  | true =>
    rw [if_pos rfl, neg_one_mul]
    exact positive.opposite

/-- Rounding keeps the order. -/
theorem IsNearest.mono (wide : 4 ≤ f.exponents) (nearest : x.IsNearest q) (nearest' : y.IsNearest r)
    (le : q ≤ r) : x.rational ≤ y.rational := by
  by_contra crossed
  rw [not_le] at crossed
  -- both rationals are then the middle of the two numbers
  have middle := (abs_sub_le_right_iff crossed).1 (nearest.nearest y nearest'.isNaN)
  have middle' := (abs_sub_le_left_iff crossed).1 (nearest'.nearest x nearest.isNaN)
  have even : x.magnitude % 2 = 0 :=
    nearest.even y nearest'.isNaN crossed.ne
      (le_antisymm ((abs_sub_le_left_iff crossed).2 (by linarith)) (nearest.nearest y nearest'.isNaN))
  have even' : y.magnitude % 2 = 0 :=
    nearest'.even x nearest.isNaN crossed.ne'
      (le_antisymm ((abs_sub_le_right_iff crossed).2 (by linarith))
        (nearest'.nearest x nearest.isNaN))
  have order := crossed
  rw [rational_eq_value wide, rational_eq_value wide, f.value_lt_value_iff] at order
  have bound := isNaN_eq_false_iff.1 nearest.isNaN
  have bound' := isNaN_eq_false_iff.1 nearest'.isNaN
  rw [← natAbs_index] at even even' bound bound'
  -- two even numbers have another one between them, which is nearer
  obtain ⟨z, number, index⟩ :=
    exists_index_eq (f := f) (k := y.index + 1) (by omega)
  have left : y.rational < z.rational := by
    rw [rational_eq_value wide, rational_eq_value wide, f.value_lt_value_iff]
    omega
  have right : z.rational < x.rational := by
    rw [rational_eq_value wide, rational_eq_value wide, f.value_lt_value_iff]
    omega
  have nearer := (abs_sub_le_right_iff right).1 (nearest.nearest z number)
  linarith

/-! ## Exact values -/

theorem isNaN_of_exact {e : Extended} (exact : x.exact = some e) : x.isNaN = false := by
  cases number : x.isNaN with
  | false => rfl
  | true =>
    rw [Binary.exact, number] at exact
    cases exact

/-- A number is one of the infinities, or has a rational value. -/
theorem exact_cases (number : x.isNaN = false) :
    (x.isInfinite ∧ x.index = -f.infinity ∧ x.exact = some ⊥) ∨
      (x.isInfinite ∧ x.index = f.infinity ∧ x.exact = some ⊤) ∨
      x.magnitude < f.infinity ∧ x.exact = some ((x.rational : WithTop ℚ) : Extended) := by
  cases infinite : x.isInfinite with
  | false =>
    have finite := magnitude_lt_infinity number infinite
    exact .inr (.inr ⟨finite, exact_of_finite finite⟩)
  | true =>
    have magnitude : x.magnitude = f.infinity := of_decide_eq_true infinite
    cases sign : x.negative with
    | false => exact .inr (.inl ⟨rfl, by simp [index, sign, magnitude], by
        simp [exact, number, infinite, sign]⟩)
    | true => exact .inl ⟨rfl, by simp [index, sign, magnitude], by
        simp [exact, number, infinite, sign]⟩

theorem exists_exact (number : x.isNaN = false) : ∃ e : Extended, x.exact = some e := by
  obtain ⟨-, -, exact⟩ | ⟨-, -, exact⟩ | ⟨-, exact⟩ := exact_cases number <;> exact ⟨_, exact⟩

/-- The exact values of two numbers are in the order of the numbers. -/
theorem exact_mono (wide : 4 ≤ f.exponents) (number : x.isNaN = false) (number' : y.isNaN = false)
    (le : x.rational ≤ y.rational) :
    ∃ a b : Extended, x.exact = some a ∧ y.exact = some b ∧ a ≤ b := by
  have pos : 0 < f.infinity := infinity_pos (by omega)
  have order := le
  rw [rational_eq_value wide, rational_eq_value wide, f.value_le_value_iff] at order
  have size := x.natAbs_index
  have size' := y.natAbs_index
  obtain ⟨b, exact'⟩ := exists_exact number'
  obtain ⟨-, -, least⟩ | ⟨-, greatest, top⟩ | ⟨finite, value⟩ := exact_cases number
  · exact ⟨⊥, b, least, exact', bot_le⟩
  · refine ⟨⊤, ⊤, top, ?_, le_rfl⟩
    obtain ⟨-, least', -⟩ | ⟨-, -, top'⟩ | ⟨finite', -⟩ := exact_cases number'
    · omega
    · exact top'
    · omega
  · obtain ⟨-, least', -⟩ | ⟨-, -, top'⟩ | ⟨-, value'⟩ := exact_cases number'
    · omega
    · exact ⟨_, ⊤, value, top', le_top⟩
    · exact ⟨_, _, value, value', WithBot.coe_le_coe.2 (WithTop.coe_le_coe.2 le)⟩

/-- Whether a number is what an exact value rounds to. -/
def Rounds (x : Binary f) : Extended → Prop
  | ⊥ => x.exact = some ⊥
  | ⊤ => x.exact = some ⊤
  | ((q : ℚ) : WithTop ℚ) => x.IsNearest q

theorem rounds_rational : x.Rounds ((q : WithTop ℚ) : Extended) ↔ x.IsNearest q := Iff.rfl

theorem Rounds.isNaN {e : Extended} (rounds : x.Rounds e) : x.isNaN = false :=
  match e with
  | ⊥ => isNaN_of_exact rounds
  | ⊤ => isNaN_of_exact rounds
  | ((_ : ℚ) : WithTop ℚ) => IsNearest.isNaN rounds

/-- Rounding keeps the order of exact values. -/
theorem Rounds.mono (wide : 4 ≤ f.exponents) {a b : Extended} (rounds : x.Rounds a)
    (rounds' : y.Rounds b) (le : a ≤ b) :
    ∃ a' b' : Extended, x.exact = some a' ∧ y.exact = some b' ∧ a' ≤ b' := by
  obtain ⟨a', exact⟩ := exists_exact rounds.isNaN
  obtain ⟨b', exact'⟩ := exists_exact rounds'.isNaN
  match a, b with
  | ⊥, _ => exact ⟨⊥, b', rounds, exact', bot_le⟩
  | _, ⊤ => exact ⟨a', ⊤, exact, rounds', le_top⟩
  | ((q : ℚ) : WithTop ℚ), ((r : ℚ) : WithTop ℚ) =>
    have order : q ≤ r := by simpa using le
    exact exact_mono wide rounds.isNaN rounds'.isNaN (IsNearest.mono wide rounds rounds' order)

/-- A number is what its own exact value rounds to. -/
theorem rounds_exact {e : Extended} (exact : x.exact = some e) : x.Rounds e := by
  have number := isNaN_of_exact exact
  obtain ⟨-, -, value⟩ | ⟨-, -, value⟩ | ⟨-, value⟩ := exact_cases number <;>
    obtain rfl := Option.some.inj (exact.symm.trans value)
  · exact value
  · exact value
  · exact isNearest_rational number

theorem negative_convert (x : Binary f) : (x.convert : Binary g).negative = x.negative := by
  unfold convert
  split_ifs <;> rfl

/-- A conversion rounds the exact value. -/
theorem rounds_convert (wide : 4 ≤ f.exponents) (wide' : 4 ≤ g.exponents) {e : Extended}
    (exact : x.exact = some e) : (x.convert : Binary g).Rounds e := by
  have number := isNaN_of_exact exact
  cases infinite : x.isInfinite with
  | true =>
    have kept : (x.convert : Binary g).exact = some e := by
      rw [convert_of_isInfinite infinite, exact_infinite, ← exact, Binary.exact, number, infinite]
      rfl
    exact rounds_exact kept
  | false =>
    have finite := magnitude_lt_infinity number infinite
    obtain rfl := Option.some.inj (exact.symm.trans (exact_of_finite finite))
    rw [rounds_rational, rational_eq wide, convert_of_finite finite]
    exact isNearest_ofRatio wide' _ _ f.unitsPerOne_pos

/-- An integer rounds to the nearest number. -/
theorem isNearest_ofInt (wide : 4 ≤ f.exponents) (i : ℤ) : (ofInt i : Binary f).IsNearest i := by
  have nearest := isNearest_ofRatio wide (decide (i < 0)) i.natAbs Nat.one_pos
  have value : ((if decide (i < 0) then -1 else 1) * ((i.natAbs : ℚ) / (1 : ℕ))) = i := by
    rw [Nat.cast_one, div_one, Nat.cast_natAbs]
    rcases lt_or_ge i 0 with negative | nonneg
    · rw [abs_of_neg negative]
      simp [negative]
    · rw [abs_of_nonneg nonneg]
      simp [nonneg]
  rw [value] at nearest
  exact nearest

/-- From half a step behind the greatest finite double on, integers round to an infinity. -/
theorem isInfinite_ofInt_iff (i : ℤ) :
    (ofInt i : Double).isInfinite ↔ 2 ^ 1024 - 2 ^ 970 ≤ i.natAbs := by
  have middle : BinaryFormat.double.middle (BinaryFormat.double.infinity - 1) =
      2 * ((2 ^ 1024 - 2 ^ 970) * BinaryFormat.double.unitsPerOne) := by decide +kernel
  have infinite : (ofInt i : Double).isInfinite ↔
      BinaryFormat.double.nearest i.natAbs 1 = BinaryFormat.double.infinity := decide_eq_true_iff
  rw [infinite, nearest_eq_infinity_iff (by decide) (by decide +kernel) one_pos, middle, Nat.mul_one,
    Nat.mul_le_mul_left_iff (by decide), Nat.mul_le_mul_right_iff (unitsPerOne_pos _)]

end Binary

end FieldLink
