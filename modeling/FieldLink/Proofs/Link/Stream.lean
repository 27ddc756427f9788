import FieldLink.Proofs.Link.Loopback
import FieldLink.Proofs.Transport.Queue

/-!
# What a link reads

The reader of a link takes answers off the front of the stream that its device has to read
(`Device.stream_read`), a write puts something behind it at most, and nothing else that a link does
changes it: what there was, with all that was put behind it, is what the readers took and what is
left (`Scene.stream_act`).
-/

namespace FieldLink

/-- What a read took, as items. -/
def Answer.items : Answer Frame → List StreamItem
  | waiting _ => []
  | done chunk => StreamItem.ofChunk chunk
  | failed f => [.fault f]

/-! ## Devices -/

namespace Device

variable {d d' : Device}

/-- What a device has to read behind all that another has. -/
def pushed (d d' : Device) : List StreamItem :=
  (d'.reads.drop d.reads.length).flatMap ReadEvent.items

theorem stream_of_pushed (grown : d.reads <+: d'.reads) :
    d.stream ++ d.pushed d' = d'.stream := by
  obtain ⟨more, same⟩ := grown
  rw [pushed, stream, stream, ← same, List.drop_left, List.flatMap_append]

theorem pushed_of_le (shrunk : d'.reads.length ≤ d.reads.length) : d.pushed d' = [] := by
  rw [pushed, List.drop_of_length_le shrunk]
  rfl

theorem bytes_stream (d : Device) : StreamItem.bytes d.stream = d.unread := by
  rw [stream, unread]
  induction d.reads with
  | nil => rfl
  | cons event rest ih =>
    rw [List.flatMap_cons, List.flatMap_cons, StreamItem.bytes_append, ih]
    cases event with
    | data bytes => exact congrArg (· ++ _) (StreamItem.bytes_ofChunk bytes)
    | failure | endOfStream => rfl

/-- The answer to a read for which there is room says what was delivered. -/
theorem items_of_read (room : Nat) (d : Device) :
    (d.read (room + 1)).1.items = d.delivered (room + 1) := by
  have step := d.readStep (room + 1)
  generalize (d.read (room + 1)).1 = answer, d.delivered (room + 1) = items,
    (d.read (room + 1)).2 = d' at step
  cases step with
  | empty | fault | stop => rfl
  | whole bytes rest front some_bytes => exact StreamItem.ofChunk_of_ne some_bytes
  | part bytes rest front long =>
    refine StreamItem.ofChunk_of_ne fun none_taken => ?_
    rcases List.take_eq_nil_iff.1 none_taken with none | rfl
    · cases none
    · exact Nat.not_lt_zero _ long

/-- A read takes its answer off the front of the stream. -/
theorem stream_read (room : Nat) (d : Device) :
    d.stream = (d.read (room + 1)).1.items ++ (d.read (room + 1)).2.stream := by
  rw [items_of_read, delivered_append_stream]

/-- A read takes no more bytes than there is room for. -/
theorem length_of_read {room : Nat} {chunk : Frame} (answer : (d.read room).1 = .done chunk) :
    chunk.length ≤ room :=
  ((d.fairRead room).fits chunk answer).1

theorem length_reads_read (room : Nat) (d : Device) :
    (d.read room).2.reads.length ≤ d.reads.length := by
  have step := d.readStep room
  generalize (d.read room).1 = answer, d.delivered room = items, (d.read room).2 = d' at step
  cases step with
  | empty => exact Nat.le_refl _
  | fault f rest front | stop event rest front | whole bytes rest front =>
    rw [front]
    exact Nat.le_succ _
  | part bytes rest front =>
    rw [front]
    exact Nat.le_refl _

/-- A write puts something behind the stream at most. -/
theorem prefix_write (frame : Frame) (now : Nat) (d : Device) :
    d.reads <+: (d.write frame now).2.reads := by
  rw [reads_write]
  exact List.prefix_append _ _

end Device

/-! ## Links -/

/-- What a reader takes in its next step. -/
def ReaderPhase.takes {σ : Type} (T : Transport σ) (l : Link σ) : ReaderPhase → List StreamItem
  | read => (T.read packetSize.toNat l.now l.device).1.items
  | _ => []

namespace Scene

variable {s : Scene Device} {a : Action Device}

/-- What an action takes off the stream. -/
def takenOf {σ : Type} (T : Transport σ) : Action σ → Scene σ → List StreamItem
  | .loop ⟨id, .reader⟩, s => s.link.sessions[id]?.toList.flatMap (·.reader.takes T s.link)
  | _, _ => []

/-- What an action puts behind the stream. -/
def pushedOf (a : Action Device) (s : Scene Device) : List StreamItem :=
  s.link.device.pushed (s.act Device.transport a).link.device

/-- Whoever holds the device adds to what is to be read at most. -/
def Feeds : Action Device → Scene Device → Prop
  | .device d, s => s.link.device.reads <+: d.reads
  | _, _ => True

theorem takenOf_of_unread {σ : Type} {T : Transport σ} {a : Action σ} {s : Scene σ}
    (unread : ∀ id x, a = .loop ⟨id, .reader⟩ → s.link.sessions[id]? = some x →
      x.reader ≠ .read) : takenOf T a s = [] := by
  unfold takenOf
  split
  · rename_i id
    cases at_id : s.link.sessions[id]? with
    | none => rfl
    | some x =>
      have other := unread id x rfl at_id
      cases reader : x.reader with
      | read => exact absurd reader other
      | _ => simp [reader, ReaderPhase.takes]
  · rfl

/-- What there was to read, with what an action puts behind it, is what the action takes off it and
what is left. -/
theorem stream_act (feeds : Feeds a s) :
    s.link.device.stream ++ pushedOf a s =
      takenOf Device.transport a s ++ (s.act Device.transport a).link.device.stream := by
  by_cases reads : ∃ id x, a = .loop ⟨id, .reader⟩ ∧ s.link.sessions[id]? = some x ∧
      x.reader = .read
  · obtain ⟨id, x, rfl, at_id, reader⟩ := reads
    have device := device_act_read at_id reader
    have nothing : pushedOf (.loop ⟨id, .reader⟩) s = [] := by
      refine Device.pushed_of_le ?_
      rw [device]
      exact Device.length_reads_read _ _
    have takes : takenOf Device.transport (.loop ⟨id, .reader⟩) s =
        (s.link.device.read packetSize.toNat).1.items := by
      simp [takenOf, at_id, reader, ReaderPhase.takes, Device.transport]
    rw [nothing, takes, device, List.append_nil]
    exact Device.stream_read 14 s.link.device
  · -- nothing is taken, so it is enough that nothing goes
    rw [takenOf_of_unread fun id x same at_id reader => reads ⟨id, x, same, at_id, reader⟩]
    refine Device.stream_of_pushed ?_
    by_cases fed : ∃ d, a = .device d
    · obtain ⟨d, rfl⟩ := fed
      exact feeds
    · obtain h | ⟨id, x, rfl, at_id, uses⟩ | alike :=
        device_act_cases s fun d same => fed ⟨d, same⟩
      · exact absurd h reads
      · rw [act_writer Device.transport at_id, Link.device_writerStep]
        cases writer : x.writer with
        | write | stalled => exact Device.prefix_write _ _ _
        | flush | draining => exact (Device.alike_flush _).reads.symm ▸ List.prefix_refl _
        | _ => simp [writer, WriterPhase.usesDevice] at uses
      · rw [alike.reads]

end Scene

end FieldLink
