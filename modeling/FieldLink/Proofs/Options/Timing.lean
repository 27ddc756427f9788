import FieldLink.Options.Framing
import Mathlib.Tactic.MkIffOfInductiveProp
import Mathlib.Tactic.NormNum
import Mathlib.Tactic.Tauto

/-!
# Times on a line

The time that characters take on a line is exact to the nanosecond.  Its products are far from the
end of 128 bits (`transferNanoseconds?_eq`), so a framing that describes characters has the time of
the specification as long as 64 bits hold it (`transferTime_eq_ok_iff`), and from there on is told
that it is too long (`transferTime_eq_overflow_iff`).  The specification is monotone in everything
it depends on (`exactNanoseconds_mono`).
-/

namespace FieldLink

/-! ## Durations of nanoseconds -/

theorem Duration.ofNanoseconds?_eq_some_iff {n : Nat} {d : Duration} :
    ofNanoseconds? n = some d ↔ n < 2 ^ 64 ∧ d.nanoseconds = n := by
  obtain ⟨m, bound⟩ := d
  have size : UInt64.size = 2 ^ 64 := rfl
  unfold ofNanoseconds?
  split
  · next fits => simp [← size, fits, eq_comm]
  · next long => simp [← size, long]

theorem Duration.ofNanoseconds?_eq_none_iff {n : Nat} : ofNanoseconds? n = none ↔ 2 ^ 64 ≤ n := by
  unfold ofNanoseconds?
  rw [dite_eq_right_iff]
  simp [UInt64.size]

/-- Nanoseconds that 64 bits count are a duration. -/
theorem Duration.exists_nanoseconds_eq {n : Nat} (fits : n < 2 ^ 64) :
    ∃ d : Duration, d.nanoseconds = n :=
  ⟨⟨n, by unfold UInt64.size; omega⟩, rfl⟩

namespace Framing

variable {f g : Framing} {m n : UInt64} {d : Duration}

/-- The framing describes serial characters, and a line that moves. -/
@[mk_iff]
structure IsSound (f : Framing) : Prop where
  baudRate_pos : 0 < f.baudRate
  dataBits_range : 5 ≤ f.dataBits ∧ f.dataBits ≤ 8
  stopBits_range : 1 ≤ f.stopBits ∧ f.stopBits ≤ 2

/-- The nanoseconds that a count of characters takes, of a start bit, data bits, a parity bit unless
there is none, and stop bits each: the greatest whole number that is no more than the quotient. -/
def exactNanoseconds (f : Framing) (characters : UInt64) : Nat :=
  (1 + f.dataBits.toNat + (if f.parity = .none then 0 else 1) + f.stopBits.toNat) *
    characters.toNat * 1_000_000_000 / f.baudRate.toNat

/-! ## Products -/

theorem bitsPerCharacter_eq (f : Framing) :
    f.bitsPerCharacter =
      1 + f.dataBits.toNat + (if f.parity = .none then 0 else 1) + f.stopBits.toNat := by
  rw [bitsPerCharacter]
  cases f.parity <;> rfl

theorem bitsPerCharacter_le (f : Framing) : f.bitsPerCharacter ≤ 512 := by
  have data := f.dataBits.toNat_lt
  have stop := f.stopBits.toNat_lt
  rw [bitsPerCharacter_eq]
  split <;> omega

/-- No product comes near to the end of 128 bits, whatever the framing. -/
theorem scaled_lt (f : Framing) (n : UInt64) :
    f.bitsPerCharacter * n.toNat * 1_000_000_000 < 2 ^ 128 := by
  have bits : f.bitsPerCharacter * n.toNat ≤ 512 * 2 ^ 64 :=
    Nat.mul_le_mul f.bitsPerCharacter_le (Nat.le_of_lt n.toNat_lt)
  calc f.bitsPerCharacter * n.toNat * 1_000_000_000
      ≤ 512 * 2 ^ 64 * 1_000_000_000 := Nat.mul_le_mul_right _ bits
    _ < 2 ^ 128 := by norm_num

theorem bits_lt (f : Framing) (n : UInt64) : f.bitsPerCharacter * n.toNat < 2 ^ 128 :=
  (Nat.le_mul_of_pos_right _ (by norm_num)).trans_lt (f.scaled_lt n)

theorem product?_of_lt {a b : Nat} (fits : a * b < 2 ^ 128) : product? a b = some (a * b) :=
  if_pos fits

theorem transferNanoseconds?_eq (f : Framing) (n : UInt64) :
    f.transferNanoseconds? n = some (f.exactNanoseconds n) := by
  rw [transferNanoseconds?, product?_of_lt (f.bits_lt n), Option.bind_eq_bind, Option.bind_some,
    product?_of_lt (f.scaled_lt n), exactNanoseconds, ← bitsPerCharacter_eq]
  rfl

/-! ## Outcomes -/

theorem isSound_iff_checks :
    f.IsSound ↔ f.baudRate ≠ 0 ∧ f.hasDataBits = true ∧ f.hasStopBits = true := by
  simp only [isSound_iff, hasDataBits, hasStopBits, Bool.and_eq_true, decide_eq_true_eq,
    UInt32.pos_iff_ne_zero]

theorem transferTime_of_isSound (sound : f.IsSound) (filled : n ≠ 0) :
    f.transferTime n =
      (Duration.ofNanoseconds? (f.exactNanoseconds n)).elim (.error .timeoutOverflow) .ok := by
  obtain ⟨baud, data, stop⟩ := isSound_iff_checks.1 sound
  rw [transferTime, if_neg baud, data, stop, if_neg (by simp), if_neg (by simp), if_neg filled,
    transferNanoseconds?_eq, Option.bind_some]
  cases Duration.ofNanoseconds? (f.exactNanoseconds n) <;> rfl

theorem transferTime_of_not_isSound (unsound : ¬(f.IsSound ∧ n ≠ 0)) :
    ∃ problem, f.transferTime n = .error (.invalidParameters problem) := by
  unfold transferTime
  split
  · exact ⟨_, rfl⟩
  next moves =>
  split
  · exact ⟨_, rfl⟩
  next data =>
  split
  · exact ⟨_, rfl⟩
  next stop =>
  split
  · exact ⟨_, rfl⟩
  · next filled =>
    have sound : f.IsSound := isSound_iff_checks.2 ⟨moves, by simpa using data, by simpa using stop⟩
    exact absurd ⟨sound, filled⟩ unsound

theorem transferTime_eq_ok_iff :
    f.transferTime n = .ok d ↔
      (f.IsSound ∧ n ≠ 0) ∧ f.exactNanoseconds n < 2 ^ 64 ∧
        d.nanoseconds = f.exactNanoseconds n := by
  by_cases sound : f.IsSound ∧ n ≠ 0
  · rw [transferTime_of_isSound sound.1 sound.2, ← Duration.ofNanoseconds?_eq_some_iff]
    cases Duration.ofNanoseconds? (f.exactNanoseconds n) <;> simp [sound]
  · obtain ⟨problem, refused⟩ := transferTime_of_not_isSound sound
    simp [refused, sound]

theorem transferTime_eq_overflow_iff :
    f.transferTime n = .error .timeoutOverflow ↔
      (f.IsSound ∧ n ≠ 0) ∧ 2 ^ 64 ≤ f.exactNanoseconds n := by
  by_cases sound : f.IsSound ∧ n ≠ 0
  · rw [transferTime_of_isSound sound.1 sound.2, ← Duration.ofNanoseconds?_eq_none_iff]
    cases Duration.ofNanoseconds? (f.exactNanoseconds n) <;> simp [sound]
  · obtain ⟨problem, refused⟩ := transferTime_of_not_isSound sound
    simp [refused, sound]

theorem transferTime_invalid_iff :
    (∃ problem, f.transferTime n = .error (.invalidParameters problem)) ↔ ¬(f.IsSound ∧ n ≠ 0) := by
  refine ⟨fun ⟨problem, refused⟩ sound => ?_, transferTime_of_not_isSound⟩
  rw [transferTime_of_isSound sound.1 sound.2] at refused
  cases time : Duration.ofNanoseconds? (f.exactNanoseconds n) <;> simp [time] at refused

/-! ## Comparisons -/

/-- More characters of more bits on a slower line take no less time. -/
theorem exactNanoseconds_mono (moves : 0 < g.baudRate) (slower : g.baudRate ≤ f.baudRate)
    (data : f.dataBits ≤ g.dataBits) (stop : f.stopBits ≤ g.stopBits)
    (parity : g.parity = .none → f.parity = .none) (more : m ≤ n) :
    f.exactNanoseconds m ≤ g.exactNanoseconds n := by
  have bits : 1 + f.dataBits.toNat + (if f.parity = .none then 0 else 1) + f.stopBits.toNat ≤
      1 + g.dataBits.toNat + (if g.parity = .none then 0 else 1) + g.stopBits.toNat := by
    have data := UInt8.le_iff_toNat_le.1 data
    have stop := UInt8.le_iff_toNat_le.1 stop
    split_ifs with f_none g_none g_none
    · omega
    · omega
    · exact absurd (parity g_none) f_none
    · omega
  refine Nat.div_le_div ?_ (UInt32.le_iff_toNat_le.1 slower)
    (Nat.ne_of_gt (UInt32.lt_iff_toNat_lt.1 moves))
  exact Nat.mul_le_mul_right _ (Nat.mul_le_mul bits (UInt64.le_iff_toNat_le.1 more))

/-- The time of some characters is refused exactly for parameters that describe none.  Otherwise it
is the exact count of nanoseconds as long as 64 bits hold it, and too long from there on, but never
for the products on the way.  Where it is given, it does not fall when there are more characters,
data bits or stop bits or a parity bit is added, and does not rise with the baud rate. -/
theorem transferTime_exact :
    (∀ (f : Framing) (n : UInt64),
      ((∃ problem, f.transferTime n = .error (.invalidParameters problem)) ↔
        f.baudRate = 0 ∨ ¬(5 ≤ f.dataBits ∧ f.dataBits ≤ 8) ∨ ¬(1 ≤ f.stopBits ∧ f.stopBits ≤ 2) ∨
          n = 0) ∧
      (f.IsSound → n ≠ 0 →
        ((∃ d, f.transferTime n = .ok d ∧ d.nanoseconds = f.exactNanoseconds n) ↔
          f.exactNanoseconds n < 2 ^ 64) ∧
        (f.transferTime n = .error .timeoutOverflow ↔ 2 ^ 64 ≤ f.exactNanoseconds n)) ∧
      f.bitsPerCharacter * n.toNat < 2 ^ 128 ∧
      f.bitsPerCharacter * n.toNat * 1_000_000_000 < 2 ^ 128 ∧
      f.transferNanoseconds? n = some (f.exactNanoseconds n)) ∧
    ∀ (f g : Framing) (m n : UInt64) (d e : Duration),
      f.transferTime m = .ok d → g.transferTime n = .ok e →
        m ≤ n → f.dataBits ≤ g.dataBits → f.stopBits ≤ g.stopBits →
          (g.parity = .none → f.parity = .none) → g.baudRate ≤ f.baudRate →
            d.nanoseconds ≤ e.nanoseconds := by
  refine ⟨fun f n => ⟨?_, fun sound filled => ⟨⟨?_, fun fits => ?_⟩, ?_⟩, f.bits_lt n,
    f.scaled_lt n, transferNanoseconds?_eq f n⟩, ?_⟩
  · rw [transferTime_invalid_iff, isSound_iff, UInt32.pos_iff_ne_zero]
    tauto
  · rintro ⟨d, time, exact⟩
    exact (transferTime_eq_ok_iff.1 time).2.1
  · obtain ⟨d, time⟩ := Duration.exists_nanoseconds_eq fits
    exact ⟨d, transferTime_eq_ok_iff.2 ⟨⟨sound, filled⟩, fits, time⟩, time⟩
  · rw [transferTime_eq_overflow_iff, and_iff_right ⟨sound, filled⟩]
  · intro f g m n d e first second more data stop parity slower
    obtain ⟨-, -, first⟩ := transferTime_eq_ok_iff.1 first
    obtain ⟨⟨sound, -⟩, -, second⟩ := transferTime_eq_ok_iff.1 second
    rw [first, second]
    exact exactNanoseconds_mono sound.baudRate_pos slower data stop parity more

/-- On the slowest line, the packet with the longest time that 64 bits hold, the next one, and a
packet on a line of 9600 baud. -/
theorem transferTime_exact_slowest :
    let slow : Framing := ⟨1, 8, 2, .odd⟩
    let usual : Framing := ⟨9600, 8, 1, .none⟩
    (∃ d e, slow.transferTime 1537228672 = .ok d ∧ d.nanoseconds = 18446744064000000000 ∧
      usual.transferTime 15 = .ok e ∧ e.nanoseconds = 15625000 ∧ e.nanoseconds ≤ d.nanoseconds) ∧
      slow.transferTime 1537228673 = .error .timeoutOverflow := by
  intro slow usual
  obtain ⟨each, mono⟩ := transferTime_exact
  have slow_sound : slow.IsSound := ⟨by decide, by decide, by decide⟩
  have usual_sound : usual.IsSound := ⟨by decide, by decide, by decide⟩
  obtain ⟨d, first, long⟩ := ((each slow 1537228672).2.1 slow_sound (by decide)).1.2 (by decide)
  obtain ⟨e, second, short⟩ := ((each usual 15).2.1 usual_sound (by decide)).1.2 (by decide)
  refine ⟨⟨d, e, first, long.trans (by decide), second, short.trans (by decide), ?_⟩, ?_⟩
  · exact mono usual slow 15 1537228672 e d second first (by decide) (by decide) (by decide)
      (by decide) (by decide)
  · exact ((each slow 1537228673).2.1 slow_sound (by decide)).2.2 (by decide)

end Framing

end FieldLink
