import FieldLink.Options.Setting
import FieldLink.Proofs.Options.Timing
import FieldLink.Transport.SerialPort

/-!
# Valid options

Three places judge the framing of a link: the derivation of its times, the check of its options,
and the driver of its port.  They agree.  The time of a packet is derived for exactly the framings
that describe characters (`packetTime_eq_ok_iff`), the driver has settings for their counts of bits
and no others (`SerialPort.exists_dataBits_iff`, `SerialPort.exists_stopBits_iff`), and the check
asks for no more of the times (`validate_eq_ok_iff`).
-/

namespace FieldLink

/-! ## The driver of the port -/

namespace SerialPort

variable {f : Framing}

theorem exists_dataBits_iff :
    (∃ bits, dataBits f = .ok bits) ↔ 5 ≤ f.dataBits ∧ f.dataBits ≤ 8 := by
  have counts : 5 ≤ f.dataBits ∧ f.dataBits ≤ 8 ↔
      f.dataBits = 5 ∨ f.dataBits = 6 ∨ f.dataBits = 7 ∨ f.dataBits = 8 := by
    simp only [UInt8.le_iff_toNat_le, ← UInt8.toNat_inj, UInt8.reduceToNat]
    omega
  rw [counts, dataBits]
  split_ifs <;> simp [*]

theorem exists_stopBits_iff :
    (∃ bits, stopBits f = .ok bits) ↔ 1 ≤ f.stopBits ∧ f.stopBits ≤ 2 := by
  have counts : 1 ≤ f.stopBits ∧ f.stopBits ≤ 2 ↔ f.stopBits = 1 ∨ f.stopBits = 2 := by
    simp only [UInt8.le_iff_toNat_le, ← UInt8.toNat_inj, UInt8.reduceToNat]
    omega
  rw [counts, stopBits]
  split_ifs <;> simp [*]

end SerialPort

/-! ## The time of a packet -/

namespace Framing

variable {f : Framing}

/-- On the slowest line a packet takes three minutes. -/
theorem exactNanoseconds_packet_lt (sound : f.IsSound) :
    f.exactNanoseconds packetSize < 2 ^ 64 := by
  have data := UInt8.le_iff_toNat_le.1 sound.dataBits_range.2
  have stop := UInt8.le_iff_toNat_le.1 sound.stopBits_range.2
  have size : packetSize.toNat = 15 := rfl
  refine (Nat.div_le_self _ _).trans_lt ?_
  rw [size]
  simp only [UInt8.reduceToNat] at data stop
  split <;> omega

/-- On the fastest line it takes more than a nanosecond. -/
theorem exactNanoseconds_packet_pos (sound : f.IsSound) : 0 < f.exactNanoseconds packetSize := by
  have data := UInt8.le_iff_toNat_le.1 sound.dataBits_range.1
  have stop := UInt8.le_iff_toNat_le.1 sound.stopBits_range.1
  have baud := f.baudRate.toNat_lt
  have size : packetSize.toNat = 15 := rfl
  refine Nat.div_pos ?_ (UInt32.lt_iff_toNat_lt.1 sound.baudRate_pos)
  rw [size]
  simp only [UInt8.reduceToNat] at data stop
  split <;> omega

end Framing

namespace LinkOptions

variable {o : LinkOptions} {d : Duration} {e : LinkError}

/-- The time of a packet is never too long to be held. -/
theorem packetTime_eq_ok_iff :
    o.packetTime = .ok d ↔
      o.framing.IsSound ∧ d.nanoseconds = o.framing.exactNanoseconds packetSize := by
  rw [packetTime, Framing.transferTime_eq_ok_iff]
  constructor
  · rintro ⟨⟨sound, -⟩, -, time⟩
    exact ⟨sound, time⟩
  · rintro ⟨sound, time⟩
    exact ⟨⟨sound, by decide⟩, Framing.exactNanoseconds_packet_lt sound, time⟩

theorem exists_packetTime (sound : o.framing.IsSound) : ∃ d, o.packetTime = .ok d := by
  obtain ⟨d, time⟩ := Duration.exists_nanoseconds_eq (Framing.exactNanoseconds_packet_lt sound)
  exact ⟨d, packetTime_eq_ok_iff.2 ⟨sound, time⟩⟩

/-! ## The check -/

/-- What is asked of the options of a link that may be opened. -/
structure IsValid (o : LinkOptions) : Prop where
  address_ne : o.address ≠ ""
  framing_isSound : o.framing.IsSound
  stopBits_eq : o.framing.parity = .none → o.framing.stopBits = 2
  queueCapacity_pos : 0 < o.queueCapacity

/-- The check passes what is valid, and calls everything else a bad configuration. -/
theorem validate_cases (o : LinkOptions) :
    o.IsValid ∧ o.validate = .ok () ∨
      ¬o.IsValid ∧ ∃ problem, o.validate = .error (.badConfig problem) := by
  unfold validate
  simp only
  split
  · next empty => exact .inr ⟨fun valid => valid.address_ne empty, _, rfl⟩
  next named =>
  split
  · next e refused =>
    refine .inr ⟨fun valid => ?_, _, rfl⟩
    obtain ⟨d, time⟩ := exists_packetTime valid.framing_isSound
    rw [time] at refused
    cases refused
  next d time =>
  split
  · next short => exact .inr ⟨fun valid => short.2 (valid.stopBits_eq short.1), _, rfl⟩
  next long =>
  split
  · next full =>
    exact .inr ⟨fun valid => UInt64.pos_iff_ne_zero.1 valid.queueCapacity_pos full, _, rfl⟩
  · next room =>
    have two : o.framing.parity = .none → o.framing.stopBits = 2 :=
      fun none => not_not.1 fun short => long ⟨none, short⟩
    exact .inl ⟨⟨named, (packetTime_eq_ok_iff.1 time).1, two, UInt64.pos_iff_ne_zero.2 room⟩, rfl⟩

theorem validate_eq_ok_iff : o.validate = .ok () ↔ o.IsValid := by
  obtain ⟨valid, accepted⟩ | ⟨invalid, problem, refused⟩ := o.validate_cases
  · simp [valid, accepted]
  · simp [invalid, refused]

/-- Options that describe no link are a bad configuration. -/
theorem badConfig_of_validate (refused : o.validate = .error e) :
    ∃ problem, e = .badConfig problem := by
  obtain ⟨-, accepted⟩ | ⟨-, problem, told⟩ := o.validate_cases
  · rw [accepted] at refused
    cases refused
  · rw [told] at refused
    cases refused
    exact ⟨problem, rfl⟩

/-! ## Times that follow from the framing -/

theorem times_of_ok (time : o.packetTime = .ok d) :
    o.timeout = o.givenTimeout.getD d ∧ o.interFrameDelay = d := by
  rw [timeout, interFrameDelay, time]
  cases o.givenTimeout <;> exact ⟨rfl, rfl⟩

theorem times_of_error (refused : o.packetTime = .error e) :
    o.timeout = o.givenTimeout.getD (.ofMilliseconds 130) ∧ o.interFrameDelay = o.timeout := by
  rw [interFrameDelay, timeout, refused]
  cases o.givenTimeout <;> exact ⟨rfl, rfl⟩

theorem settings_of_isSound (sound : o.framing.IsSound) :
    ∃ dataBits stopBits, SerialPort.dataBits o.framing = .ok dataBits ∧
      SerialPort.stopBits o.framing = .ok stopBits ∧
      SerialPort.settings o = .ok ⟨o.address, o.framing.baudRate, dataBits, stopBits,
        o.framing.parity, o.timeout⟩ := by
  obtain ⟨dataBits, data⟩ := SerialPort.exists_dataBits_iff.2 sound.dataBits_range
  obtain ⟨stopBits, stop⟩ := SerialPort.exists_stopBits_iff.2 sound.stopBits_range
  refine ⟨dataBits, stopBits, data, stop, ?_⟩
  rw [SerialPort.settings, data, stop]
  rfl

/-- With a sound framing it is the system alone that may refuse to open the port. -/
theorem openWith_of_isSound {Port : Type} (system : SerialPort.Settings → Except String Port)
    (sound : o.framing.IsSound) :
    ∃ s, s.path = o.address ∧
      SerialPort.openWith system o = (system s).mapError (.connection o.address) := by
  obtain ⟨dataBits, stopBits, -, -, settings⟩ := settings_of_isSound sound
  refine ⟨⟨o.address, o.framing.baudRate, dataBits, stopBits, o.framing.parity, o.timeout⟩, rfl, ?_⟩
  rw [SerialPort.openWith, settings]
  rfl

/-! ## Settings -/

/-- The deadline that a setting gives. -/
def Setting.timeout? : Setting → Option Duration
  | timeout d => some d
  | _ => none

/-- Of several deadlines the last one counts. -/
theorem givenTimeout_foldl_apply (settings : List Setting) (o : LinkOptions) :
    (settings.foldl Setting.apply o).givenTimeout =
      (settings.filterMap Setting.timeout?).getLast?.or o.givenTimeout := by
  induction settings generalizing o with
  | nil => rfl
  | cons s rest ih =>
    rw [List.foldl_cons, ih]
    cases s with
    | timeout d =>
      rw [List.filterMap_cons_some (show Setting.timeout? (.timeout d) = some d from rfl),
        List.getLast?_cons]
      cases (rest.filterMap Setting.timeout?).getLast? <;> rfl
    | _ => rfl

theorem givenTimeout_ofSettings (address : String) (settings : List Setting) :
    (ofSettings address settings).givenTimeout =
      (settings.filterMap Setting.timeout?).getLast? := by
  show (settings.foldl Setting.apply { address }).givenTimeout = _
  rw [givenTimeout_foldl_apply, Option.or_none]

/-- Options may be put together from any settings.  They describe a link that may be opened if and
only if there is an address, the framing describes characters, with two stop bits if there is no
parity bit, and a frame may wait; else they are a bad configuration.  If they do, the pause between
two exchanges is the exact time of 15 characters, which is not zero, the deadline is that time
unless one was set, and the driver takes the framing.  If the framing gives no time, the deadline is
the one that was set or 130 milliseconds, and the pause is as long. -/
theorem validate_ofSettings (address : String) (settings : List Setting) :
    let o := ofSettings address settings
    let given := (settings.filterMap Setting.timeout?).getLast?
    (o.validate = .ok () ↔
      address ≠ "" ∧ 0 < o.framing.baudRate ∧ (5 ≤ o.framing.dataBits ∧ o.framing.dataBits ≤ 8) ∧
        (1 ≤ o.framing.stopBits ∧ o.framing.stopBits ≤ 2) ∧
        (o.framing.parity = .none → o.framing.stopBits = 2) ∧ 0 < o.queueCapacity) ∧
    (∀ e, o.validate = .error e → ∃ problem, e = .badConfig problem) ∧
    (o.validate = .ok () →
      (∃ d, o.packetTime = .ok d ∧ d.nanoseconds = o.framing.exactNanoseconds 15 ∧
        0 < d.nanoseconds ∧ o.timeout = given.getD d ∧ o.interFrameDelay = d) ∧
      ∃ dataBits stopBits, SerialPort.dataBits o.framing = .ok dataBits ∧
        SerialPort.stopBits o.framing = .ok stopBits ∧
        SerialPort.settings o = .ok ⟨address, o.framing.baudRate, dataBits, stopBits,
          o.framing.parity, o.timeout⟩) ∧
    ∀ e, o.packetTime = .error e →
      o.timeout = given.getD (.ofMilliseconds 130) ∧ o.interFrameDelay = o.timeout := by
  intro o given
  have named : o.address = address := rfl
  have kept : o.givenTimeout = given := givenTimeout_ofSettings address settings
  rw [validate_eq_ok_iff, ← named, ← kept]
  refine ⟨?_, fun e refused => badConfig_of_validate refused, fun valid => ⟨?_, ?_⟩,
    fun e refused => times_of_error refused⟩
  · constructor
    · rintro ⟨address, ⟨baud, data, stop⟩, parity, queue⟩
      exact ⟨address, baud, data, stop, parity, queue⟩
    · rintro ⟨address, baud, data, stop, parity, queue⟩
      exact ⟨address, ⟨baud, data, stop⟩, parity, queue⟩
  · obtain ⟨d, time⟩ := exists_packetTime valid.framing_isSound
    have exact := (packetTime_eq_ok_iff.1 time).2
    refine ⟨d, time, exact, ?_, times_of_ok time⟩
    rw [exact]
    exact Framing.exactNanoseconds_packet_pos valid.framing_isSound
  · exact settings_of_isSound valid.framing_isSound

/-- A link without parity, whose baud rate and deadline were set twice, and a line that does not
move. -/
theorem validate_ofSettings_reset :
    let usual := ofSettings "COM3" [.baudRate 0, .parity .none, .timeout .zero, .stopBits 2,
      .timeout (.ofMilliseconds 500), .baudRate 9600]
    let still := ofSettings "COM3" [.baudRate 0]
    (usual.validate = .ok () ∧ usual.timeout = .ofMilliseconds 500 ∧
      usual.interFrameDelay.nanoseconds = 17187500) ∧
      still.validate ≠ .ok () ∧ still.interFrameDelay = .ofMilliseconds 130 := by
  intro usual still
  have moves := validate_ofSettings "COM3" [.baudRate 0, .parity .none, .timeout .zero, .stopBits 2,
    .timeout (.ofMilliseconds 500), .baudRate 9600]
  have stands := validate_ofSettings "COM3" [.baudRate 0]
  have valid : usual.validate = .ok () := moves.1.2 (by decide)
  obtain ⟨⟨d, -, exact, -, timeout, delay⟩, -⟩ := moves.2.2.1 valid
  refine ⟨⟨valid, timeout, ?_⟩, fun accepted => ?_, ?_⟩
  · exact (congrArg Duration.nanoseconds delay).trans (exact.trans (by decide))
  · exact absurd (stands.1.1 accepted).2.1 (by decide)
  · have refused : still.packetTime =
        .error (.invalidParameters "baud rate must be positive") := rfl
    obtain ⟨timeout, delay⟩ := stands.2.2.2 _ refused
    exact delay.trans timeout

end LinkOptions

end FieldLink
