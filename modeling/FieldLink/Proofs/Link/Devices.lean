import FieldLink.Proofs.Link.Effects
import FieldLink.Proofs.Transport.Uses
import Mathlib.Data.List.Infix

/-!
# A device in memory under a link

What becomes of a device in memory while a link runs on it and nobody else touches it.  A reader that
reads takes from what is to be read (`Device.read_eq`), a writer that writes or flushes changes the
writing side, and every other action leaves the device alike: it is opened, shut down or given up at
most (`Scene.device_act_cases`).  What was written stays written (`Scene.written_run`).
-/

namespace FieldLink

namespace Device

/-! ## What was written -/

theorem written_follow (frame : Frame) (now : Nat) (d : Device) (script : List WriteOutcome) :
    d.written <+: (d.follow frame now script).2.written := by
  induction script generalizing d with
  | nil => exact List.prefix_append _ _
  | cons outcome script ih =>
    cases outcome with
    | accept | failFlush | partly => exact List.prefix_append _ _
    | fail => exact List.prefix_refl _
    | stall milliseconds =>
      simp only [follow]
      split
      · exact ih { d with script, attempts := d.attempts ++ [frame] }
      · exact List.prefix_refl _

theorem written_write (frame : Frame) (now : Nat) (d : Device) :
    d.written <+: (d.write frame now).2.written := by
  unfold Device.write
  split
  · exact List.prefix_refl _
  · exact written_follow frame now d d.script

end Device

/-- Whether the next step of a writer is a call to write or to flush. -/
def WriterPhase.usesDevice : WriterPhase → Bool
  | write _ _ | stalled _ _ _ _ | flush _ _ _ | draining _ _ _ _ => true
  | _ => false

namespace Link

theorem alike_dropHalf (id : Nat) (drop : Session → Session) (l : Link Device) :
    l.device.Alike (l.dropHalf Device.transport id drop).device := by
  rcases l.device_dropHalf Device.transport id drop with same | released
  · rw [same]
    exact .refl _
  · rw [released]
    exact Device.alike_release _

theorem alike_readerStep {id : Nat} {x : Session} (l : Link Device) (unread : x.reader ≠ .read) :
    l.device.Alike (l.readerStep Device.transport id x).device := by
  rw [device_readerStep]
  cases reader : x.reader with
  | read => exact absurd reader unread
  | release => exact l.alike_dropHalf id _
  | _ => exact .refl _

theorem alike_writerStep {id : Nat} {x : Session} (l : Link Device)
    (unused : x.writer.usesDevice = false) :
    l.device.Alike (l.writerStep Device.transport id x).device := by
  rw [device_writerStep]
  cases writer : x.writer with
  | write | stalled | flush | draining => rw [writer] at unused; cases unused
  | shutdown | ending => exact Device.alike_shutdown _ _
  | release => exact l.alike_dropHalf id _
  | _ => exact .refl _

/-- A start opens the device, or gives it up again. -/
theorem alike_startStep (phase : StartPhase) (l : Link Device) :
    l.device.Alike (l.startStep Device.transport phase).2.device := by
  rw [device_startStep]
  cases phase with
  | openUp => exact Device.alike_openWith l.options l.device
  | makeQueue id =>
    simp only
    split
    · exact Device.alike_release _
    · exact .refl _
  | _ => exact .refl _

end Link

namespace Scene

variable {s : Scene Device} {a : Action Device}

/-- A device that nobody else touches is read, is written or flushed, or is left alike. -/
theorem device_act_cases (s : Scene Device) (calm : ∀ d, a ≠ .device d) :
    (∃ id x, a = .loop ⟨id, .reader⟩ ∧ s.link.sessions[id]? = some x ∧ x.reader = .read) ∨
    (∃ id x, a = .loop ⟨id, .writer⟩ ∧ s.link.sessions[id]? = some x ∧ x.writer.usesDevice) ∨
    s.link.device.Alike (s.act Device.transport a).link.device := by
  cases a with
  | loop p =>
    obtain ⟨id, loop⟩ := p
    cases at_id : s.link.sessions[id]? with
    | none =>
      rw [act_loop_of_none Device.transport at_id]
      exact .inr (.inr (.refl _))
    | some x =>
      cases loop with
      | reader =>
        by_cases reader : x.reader = .read
        · exact .inl ⟨id, x, rfl, at_id, reader⟩
        · rw [act_reader Device.transport at_id]
          exact .inr (.inr (s.link.alike_readerStep reader))
      | writer =>
        by_cases uses : x.writer.usesDevice
        · exact .inr (.inl ⟨id, x, rfl, at_id, uses⟩)
        · rw [act_writer Device.transport at_id]
          exact .inr (.inr (s.link.alike_writerStep (by simpa using uses)))
      | poller =>
        rw [act_poller Device.transport at_id, Link.device_pollerStep]
        exact .inr (.inr (.refl _))
  | call number =>
    refine .inr (.inr ?_)
    cases at_number : s.calls[number]? with
    | none =>
      simp only [act, at_number]
      exact .refl _
    | some c =>
      rw [act_call Device.transport at_number]
      by_cases is_start : ∃ phase, c = .start phase
      · obtain ⟨phase, rfl⟩ := is_start
        exact s.link.alike_startStep phase
      · rw [Link.device_callStep Device.transport s.link fun phase h => is_start ⟨phase, h⟩]
        exact .refl _
  | device d => exact absurd rfl (calm d)
  | make | clock | command | callback => exact .inr (.inr (.refl _))

/-- What a reader that reads leaves of the device. -/
theorem device_act_read {id : Nat} {x : Session} (at_id : s.link.sessions[id]? = some x)
    (reader : x.reader = .read) :
    (s.act Device.transport (.loop ⟨id, .reader⟩)).link.device =
      (Device.transport.read packetSize.toNat s.link.now s.link.device).2 := by
  rw [act_reader Device.transport at_id, Link.device_readerStep, reader]

/-- What was written stays written, as long as nobody else touches the device. -/
theorem written_act (s : Scene Device) (calm : ∀ d, a ≠ .device d) :
    s.link.device.written <+: (s.act Device.transport a).link.device.written := by
  obtain ⟨id, x, rfl, at_id, reader⟩ | ⟨id, x, rfl, at_id, uses⟩ | alike := device_act_cases s calm
  · rw [device_act_read at_id reader]
    obtain ⟨reads, eq⟩ := s.link.device.read_eq packetSize.toNat
    show s.link.device.written <+: (s.link.device.read packetSize.toNat).2.written
    rw [eq]
  · rw [act_writer Device.transport at_id, Link.device_writerStep]
    cases writer : x.writer with
    | write | stalled => exact Device.written_write _ _ _
    | flush | draining => exact (Device.alike_flush _).written.symm ▸ List.prefix_refl _
    | _ => simp [writer, WriterPhase.usesDevice] at uses
  · rw [alike.written]

theorem written_run {actions : List (Action Device)} (s : Scene Device)
    (calm : ∀ a ∈ actions, ∀ d, a ≠ .device d) :
    s.link.device.written <+: (s.run Device.transport actions).link.device.written := by
  induction actions generalizing s with
  | nil => exact List.prefix_refl _
  | cons a actions ih =>
    exact (written_act s (calm a List.mem_cons_self)).trans
      (ih _ fun b member => calm b (List.mem_cons_of_mem a member))

end Scene

end FieldLink
