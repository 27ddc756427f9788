import FieldLink.Proofs.Transport.Uses
import Mathlib.Data.List.Basic

/-!
# What there is to read

What a device in memory has to read is one stream of bytes, faults and ends, however they were put
there.  A read delivers something off the front of it (`Device.readStep`,
`Device.delivered_append_stream`), and a write puts the frame behind it that is read back
(`Device.reads_write`).

However a device is used, what the reads have delivered and what is left are what there was and what
was put behind it, in order, and no read goes past the end of one thing that was put there
(`Device.read_after_uses`).
-/

namespace FieldLink

/-! ## Streams -/

/-- One item of what there is to read. -/
inductive StreamItem where
  | byte (value : UInt8)
  | fault (failure : Failure)
  /-- No more will come. -/
  | stop
  deriving DecidableEq, Repr

namespace StreamItem

/-- The byte that an item is. -/
def byte? : StreamItem → Option UInt8
  | byte value => some value
  | fault _ | stop => none

/-- The bytes among some items. -/
def bytes (items : List StreamItem) : Frame := items.filterMap byte?

/-- A chunk as items.  One without bytes says that no more will come. -/
def ofChunk : Frame → List StreamItem
  | [] => [.stop]
  | b :: more => .byte b :: more.map .byte

theorem bytes_append (items more : List StreamItem) :
    bytes (items ++ more) = bytes items ++ bytes more := List.filterMap_append

theorem ofChunk_of_ne {chunk : Frame} (some_bytes : chunk ≠ []) :
    ofChunk chunk = chunk.map .byte := by
  cases chunk with
  | nil => exact absurd rfl some_bytes
  | cons => rfl

theorem bytes_map (chunk : Frame) : bytes (chunk.map .byte) = chunk := by
  rw [bytes, List.filterMap_map]
  exact List.filterMap_some

theorem bytes_ofChunk (chunk : Frame) : bytes (ofChunk chunk) = chunk := by
  cases chunk with
  | nil => rfl
  | cons b more => exact bytes_map (b :: more)

end StreamItem

/-- What was put to be read, as items. -/
def ReadEvent.items : ReadEvent → List StreamItem
  | data bytes => StreamItem.ofChunk bytes
  | failure f => [.fault f]
  | endOfStream => [.stop]

/-- Whether all bytes of a frame are taken. -/
def WriteOutcome.accepts : WriteOutcome → Bool
  | accept | failFlush _ => true
  | _ => false

namespace Device

variable {d d' : Device} {room : Nat}

/-- All that a device has to read. -/
def stream (d : Device) : List StreamItem := d.reads.flatMap ReadEvent.items

/-! ## Reads -/

/-- What a read delivers. -/
def delivered (room : Nat) (d : Device) : List StreamItem :=
  match (d.read room).1 with
  | .waiting _ => []
  | .failed f => [.fault f]
  | .done bytes => if d.stream.head? = some .stop then [.stop] else bytes.map .byte

/-- What a read does: its answer, what it delivers, and the device after it. -/
inductive ReadStep (room : Nat) (d : Device) : Answer Frame → List StreamItem → Device → Prop
  | empty (drained : d.reads = []) : ReadStep room d (.waiting none) [] d
  | fault (f : Failure) (rest : List ReadEvent) (front : d.reads = .failure f :: rest) :
      ReadStep room d (.failed f) [.fault f] { d with reads := rest }
  | stop (event : ReadEvent) (rest : List ReadEvent) (front : d.reads = event :: rest)
      (mark : event.items = [.stop]) : ReadStep room d (.done []) [.stop] { d with reads := rest }
  | whole (bytes : Frame) (rest : List ReadEvent) (front : d.reads = .data bytes :: rest)
      (some_bytes : bytes ≠ []) (fits : bytes.length ≤ room) :
      ReadStep room d (.done bytes) (bytes.map .byte) { d with reads := rest }
  | part (bytes : Frame) (rest : List ReadEvent) (front : d.reads = .data bytes :: rest)
      (long : room < bytes.length) :
      ReadStep room d (.done (bytes.take room)) ((bytes.take room).map .byte)
        { d with reads := .data (bytes.drop room) :: rest }

theorem head?_stream {event : ReadEvent} {rest : List ReadEvent} (front : d.reads = event :: rest) :
    d.stream.head? = event.items.head? := by
  rw [stream, front, List.flatMap_cons]
  cases event with
  | data bytes => cases bytes <;> rfl
  | failure | endOfStream => rfl

theorem readStep (room : Nat) (d : Device) :
    d.ReadStep room (d.read room).1 (d.delivered room) (d.read room).2 := by
  rcases front : d.reads with _ | ⟨event, rest⟩
  · have answer : d.read room = (.waiting none, d) := by rw [Device.read, front]
    rw [delivered, answer]
    exact .empty front
  · have head := head?_stream front
    cases event with
    | failure f =>
      have answer : d.read room = (.failed f, { d with reads := rest }) := by
        rw [Device.read, front]
      rw [delivered, answer]
      exact .fault f rest front
    | endOfStream =>
      have answer : d.read room = (.done [], { d with reads := rest }) := by
        rw [Device.read, front]
      rw [delivered, answer, head]
      exact .stop _ rest front rfl
    | data bytes =>
      by_cases fits : bytes.length ≤ room
      · have answer : d.read room = (.done bytes, { d with reads := rest }) := by
          simp [Device.read, front, fits, List.take_of_length_le]
        rw [delivered, answer, head]
        cases bytes with
        | nil => exact .stop _ rest front rfl
        | cons b bytes => exact .whole (b :: bytes) rest front (by rintro ⟨⟩) fits
      · have answer : d.read room =
            (.done (bytes.take room), { d with reads := .data (bytes.drop room) :: rest }) := by
          simp [Device.read, front, fits]
        rw [delivered, answer, head]
        cases bytes with
        | nil => exact absurd (Nat.zero_le _) fits
        | cons b bytes => exact .part (b :: bytes) rest front (Nat.lt_of_not_le fits)

/-- A read delivers items off the front of one event. -/
theorem ReadStep.front {answer : Answer Frame} {items : List StreamItem}
    (step : d.ReadStep room answer items d') :
    items = [] ∨ ∃ event rest later, d.reads = event :: rest ∧ event.items = items ++ later := by
  cases step with
  | empty => exact .inl rfl
  | fault f rest front => exact .inr ⟨_, rest, [], front, rfl⟩
  | stop event rest front mark => exact .inr ⟨event, rest, [], front, mark⟩
  | whole bytes rest front some_bytes =>
    refine .inr ⟨_, rest, [], front, ?_⟩
    rw [ReadEvent.items, StreamItem.ofChunk_of_ne some_bytes, List.append_nil]
  | part bytes rest front long =>
    have some_bytes : bytes ≠ [] := List.ne_nil_of_length_pos (Nat.zero_lt_of_lt long)
    refine .inr ⟨_, rest, (bytes.drop room).map .byte, front, ?_⟩
    rw [ReadEvent.items, StreamItem.ofChunk_of_ne some_bytes, ← List.map_append,
      List.take_append_drop]

/-- A read takes no more bytes than there is room for. -/
theorem ReadStep.length_le {bytes : Frame} {items : List StreamItem}
    (step : d.ReadStep room (.done bytes) items d') : bytes.length ≤ room := by
  cases step with
  | stop => exact Nat.zero_le _
  | whole _ rest front some_bytes fits => exact fits
  | part bytes => exact List.length_take_le _ _

/-- What a read does, by the first item of the stream. -/
theorem ReadStep.cases_head {answer : Answer Frame} {items : List StreamItem}
    (step : d.ReadStep room answer items d') :
    (d.stream = [] ∧ answer = .waiting none ∧ items = [] ∧ d' = d) ∨
    (∃ f, d.stream.head? = some (.fault f) ∧ answer = .failed f ∧ items = [.fault f]) ∨
    (d.stream.head? = some .stop ∧ answer = .done [] ∧ items = [.stop]) ∨
    ∃ b bytes, d.stream.head? = some (.byte b) ∧ answer = .done ((b :: bytes).take room) ∧
      items = ((b :: bytes).take room).map .byte ∧ (room = 0 → d' = d) := by
  cases step with
  | empty drained => exact .inl ⟨by rw [stream, drained]; rfl, rfl, rfl, rfl⟩
  | fault f rest front => exact .inr (.inl ⟨f, head?_stream front, rfl, rfl⟩)
  | stop event rest front mark =>
    have head := head?_stream front
    rw [mark] at head
    exact .inr (.inr (.inl ⟨head, rfl, rfl⟩))
  | whole bytes rest front some_bytes fits =>
    cases bytes with
    | nil => exact absurd rfl some_bytes
    | cons b bytes =>
      refine .inr (.inr (.inr ⟨b, bytes, head?_stream front, ?_⟩))
      rw [List.take_of_length_le fits]
      refine ⟨rfl, rfl, ?_⟩
      rintro rfl
      exact absurd fits (Nat.not_succ_le_zero _)
  | part bytes rest front long =>
    cases bytes with
    | nil => exact absurd long (Nat.not_lt_zero _)
    | cons b bytes =>
      refine .inr (.inr (.inr ⟨b, bytes, head?_stream front, rfl, rfl, ?_⟩))
      rintro rfl
      rw [List.drop_zero, ← front]

/-- What a read makes of the stream. -/
structure FairRead (room : Nat) (d : Device) : Prop where
  /-- It takes no more bytes than there is room for, and delivers them. -/
  fits : ∀ bytes, (d.read room).1 = .done bytes →
    bytes.length ≤ room ∧ StreamItem.bytes (d.delivered room) = bytes
  /-- It takes the next byte if there is room. -/
  takes : ∀ b, d.stream.head? = some (.byte b) → 0 < room →
    ∃ bytes, (d.read room).1 = .done (b :: bytes)
  /-- It changes nothing if there is no room for the next byte, or nothing to read. -/
  rests : room = 0 ∧ (∃ b, d.stream.head? = some (.byte b)) ∨ d.stream = [] →
    d.delivered room = [] ∧ (d.read room).2 = d
  stops : d.stream.head? = some .stop → (d.read room).1 = .done [] ∧ d.delivered room = [.stop]
  fails : ∀ f, d.stream.head? = some (.fault f) →
    (d.read room).1 = .failed f ∧ d.delivered room = [.fault f]

theorem fairRead (room : Nat) (d : Device) : d.FairRead room := by
  have step := d.readStep room
  have busy {item : StreamItem} (head : d.stream.head? = some item) : d.stream ≠ [] := by
    rintro drained
    cases (congrArg List.head? drained).symm.trans head
  rcases step.cases_head with ⟨drained, answer, items, same⟩ | ⟨f, head, answer, items⟩ |
    ⟨head, answer, items⟩ | ⟨b, bytes, head, answer, items, same⟩
  · constructor <;> simp [drained, answer, items, same]
  · constructor <;> simp [head, answer, items, busy head]
  · constructor <;> simp [head, answer, items, busy head, StreamItem.bytes, StreamItem.byte?]
  · refine ⟨?_, ?_, ?_, ?_, ?_⟩
    · rintro taken same
      obtain rfl := Answer.done.inj (answer.symm.trans same)
      rw [items, StreamItem.bytes_map]
      exact ⟨List.length_take_le _ _, rfl⟩
    · rintro c first some_room
      obtain rfl : b = c := StreamItem.byte.inj (Option.some.inj (head.symm.trans first))
      obtain ⟨more, rfl⟩ := Nat.exists_eq_add_of_lt some_room
      exact ⟨_, answer⟩
    · rintro (⟨rfl, -⟩ | drained)
      · exact ⟨items, same rfl⟩
      · exact absurd drained (busy head)
    · simp [head]
    · simp [head]

/-! ## Writes -/

/-- The outcome that settles a write: the next one of a script that is not a stall of no time, and
acceptance beyond the script. -/
def nextOutcome : List WriteOutcome → WriteOutcome
  | [] => .accept
  | .stall 0 :: script => nextOutcome script
  | outcome :: _ => outcome

/-- What a write puts behind the queue: the frame, if the device reads it back and takes all of
it. -/
def echo (frame : Frame) (now : Nat) (d : Device) : List ReadEvent :=
  if d.loopback && (d.stallEnd? now).isNone && (nextOutcome d.script).accepts then [.data frame]
  else []

theorem reads_takeAll (frame : Frame) (d : Device) :
    (d.takeAll frame).reads = d.reads ++ if d.loopback then [.data frame] else [] := by
  unfold takeAll
  cases d.loopback <;> simp

theorem reads_follow (frame : Frame) (now : Nat) (d : Device) (script : List WriteOutcome) :
    (d.follow frame now script).2.reads =
      d.reads ++ if d.loopback && (nextOutcome script).accepts then [.data frame] else [] := by
  have all (noted : Device) : (noted.takeAll frame).reads =
      noted.reads ++ if noted.loopback && true then [.data frame] else [] := by
    rw [Bool.and_true]
    exact reads_takeAll frame noted
  have nothing : d.reads = d.reads ++ if d.loopback && false then [.data frame] else [] := by simp
  induction script generalizing d with
  | nil => exact all { d with script := [], attempts := d.attempts ++ [frame] }
  | cons outcome script ih =>
    let noted : Device := { d with script, attempts := d.attempts ++ [frame] }
    cases outcome with
    | accept | failFlush => exact all noted
    | partly | fail => exact nothing
    | stall milliseconds =>
      cases milliseconds with
      | zero => exact ih noted nothing
      | succ => exact nothing

theorem reads_write (frame : Frame) (now : Nat) (d : Device) :
    (d.write frame now).2.reads = d.reads ++ d.echo frame now := by
  unfold Device.write echo
  cases d.stallEnd? now with
  | none => simpa using reads_follow frame now d d.script
  | some => simp

/-! ## Uses -/

namespace Use

/-- What a use puts behind the queue. -/
def pushes (d : Device) : Use → List ReadEvent
  | inject event => [event]
  | write frame now => d.echo frame now
  | _ => []

/-- What a use delivers. -/
def delivers (d : Device) : Use → List StreamItem
  | read room => d.delivered room
  | _ => []

end Use

/-- Nothing but a read takes anything off the queue. -/
theorem reads_act {use : Use} (other : ∀ room, use ≠ .read room) :
    (use.act d).reads = d.reads ++ use.pushes d := by
  have same {d' : Device} (reads : d'.reads = d.reads) : d'.reads = d.reads ++ [] := by
    rw [reads, List.append_nil]
  cases use with
  | inject event => rfl
  | write frame now => exact reads_write frame now d
  | read room => exact absurd rfl (other room)
  | script | setLoopback => exact same rfl
  | setRefusing | openWith | flush | shutdown | release => exact same (alike_act rfl).reads

/-- What some uses put behind the queue. -/
def pushes : List Use → Device → List ReadEvent
  | [], _ => []
  | use :: uses, d => use.pushes d ++ pushes uses (use.act d)

/-- What the reads among some uses deliver. -/
def deliveries : List Use → Device → List StreamItem
  | [], _ => []
  | use :: uses, d => use.delivers d ++ deliveries uses (use.act d)

/-! ## How far the reads have come -/

/-- What is left to be read of some events of which items were delivered.  The delivery ends between
two events or within the bytes of one. -/
inductive Left (events : List ReadEvent) (items : List StreamItem) : List ReadEvent → Prop
  | between (past rest : List ReadEvent) (split : events = past ++ rest)
      (told : items = past.flatMap ReadEvent.items) : Left events items rest
  | within (past rest : List ReadEvent) (gone left : Frame) (some_left : left ≠ [])
      (split : events = past ++ .data (gone ++ left) :: rest)
      (told : items = past.flatMap ReadEvent.items ++ gone.map .byte) :
      Left events items (.data left :: rest)

namespace Left

variable {events : List ReadEvent} {items : List StreamItem} {reads : List ReadEvent}

/-- What was delivered and what is left are all the events. -/
theorem append_eq (left : Left events items reads) :
    items ++ reads.flatMap ReadEvent.items = events.flatMap ReadEvent.items := by
  cases left with
  | between past rest split told => rw [split, told, List.flatMap_append]
  | within past rest gone left some_left split told =>
    have some_bytes : gone ++ left ≠ [] := List.append_ne_nil_of_right_ne_nil gone some_left
    rw [split, told, List.flatMap_append, List.flatMap_cons, List.flatMap_cons, ReadEvent.items,
      ReadEvent.items, StreamItem.ofChunk_of_ne some_left, StreamItem.ofChunk_of_ne some_bytes,
      List.map_append, List.append_assoc, List.append_assoc]

theorem push (left : Left events items reads) (more : List ReadEvent) :
    Left (events ++ more) items (reads ++ more) := by
  cases left with
  | between past rest split told =>
    exact .between past (reads ++ more) (by rw [split, List.append_assoc]) told
  | within past rest gone left some_left split told =>
    refine .within past (rest ++ more) gone left some_left ?_ told
    rw [split, List.append_assoc]
    rfl

/-- The front of what is left is the end of an event. -/
theorem front {event : ReadEvent} {rest : List ReadEvent}
    (left : Left events items (event :: rest)) :
    ∃ past whole gone, events = past ++ whole :: rest ∧
      items = past.flatMap ReadEvent.items ++ gone ∧ whole.items = gone ++ event.items := by
  cases left with
  | between past _ split told => exact ⟨past, event, [], split, by rw [told, List.append_nil], rfl⟩
  | within past _ gone left some_left split told =>
    have some_bytes : gone ++ left ≠ [] := List.append_ne_nil_of_right_ne_nil gone some_left
    refine ⟨past, .data (gone ++ left), gone.map .byte, split, told, ?_⟩
    rw [ReadEvent.items, ReadEvent.items, StreamItem.ofChunk_of_ne some_left,
      StreamItem.ofChunk_of_ne some_bytes, List.map_append]

/-- The front event is delivered to its end. -/
theorem finish {event : ReadEvent} {rest : List ReadEvent}
    (left : Left events items (event :: rest)) : Left events (items ++ event.items) rest := by
  obtain ⟨past, whole, gone, split, told, same⟩ := left.front
  refine .between (past ++ [whole]) rest (by rw [split, List.append_assoc]; rfl) ?_
  rw [told, List.flatMap_append, List.flatMap_singleton, same, List.append_assoc]

/-- Some bytes of the front event are delivered, but not all. -/
theorem advance {bytes : Frame} {rest : List ReadEvent}
    (left : Left events items (.data bytes :: rest)) (long : room < bytes.length) :
    Left events (items ++ (bytes.take room).map .byte) (.data (bytes.drop room) :: rest) := by
  have some_left : bytes.drop room ≠ [] := by simpa using long
  have whole := List.take_append_drop room bytes
  cases left with
  | between past _ split told =>
    exact .within past rest (bytes.take room) _ some_left (by rw [whole, split]) (by rw [told])
  | within past _ gone _ _ split told =>
    refine .within past rest (gone ++ bytes.take room) _ some_left ?_ ?_
    · rw [split, List.append_assoc, whole]
    · rw [told, List.map_append, List.append_assoc]

theorem read {answer : Answer Frame} {more : List StreamItem} (left : Left events items d.reads)
    (step : d.ReadStep room answer more d') : Left events (items ++ more) d'.reads := by
  cases step with
  | empty => rwa [List.append_nil]
  | fault f rest front =>
    rw [front] at left
    exact left.finish
  | stop event rest front mark =>
    rw [front] at left
    exact mark ▸ left.finish
  | whole bytes rest front some_bytes =>
    rw [front] at left
    exact StreamItem.ofChunk_of_ne some_bytes ▸ left.finish
  | part bytes rest front long =>
    rw [front] at left
    exact left.advance long

end Left

/-- A read takes what it delivers off the front of the stream. -/
theorem delivered_append_stream (room : Nat) (d : Device) :
    d.delivered room ++ (d.read room).2.stream = d.stream :=
  ((Left.between [] d.reads rfl rfl).read (d.readStep room)).append_eq

theorem left_of_act {events : List ReadEvent} {items : List StreamItem}
    (left : Left events items d.reads) (use : Use) :
    Left (events ++ use.pushes d) (items ++ use.delivers d) (use.act d).reads := by
  by_cases reads : ∃ room, use = .read room
  · obtain ⟨room, rfl⟩ := reads
    rw [show (Use.read room).pushes d = [] from rfl, List.append_nil]
    exact left.read (d.readStep room)
  · have other : ∀ room, use ≠ .read room := fun room same => reads ⟨room, same⟩
    have nothing : use.delivers d = [] := by
      cases use with
      | read room => exact absurd rfl (other room)
      | _ => rfl
    rw [reads_act other, nothing, List.append_nil]
    exact left.push (use.pushes d)

theorem left_of_uses {events : List ReadEvent} {items : List StreamItem}
    (left : Left events items d.reads) (uses : List Use) :
    Left (events ++ d.pushes uses) (items ++ d.deliveries uses) (d.use uses).reads := by
  induction uses generalizing d events items with
  | nil =>
    rw [pushes, deliveries, List.append_nil, List.append_nil]
    exact left
  | cons use uses ih =>
    rw [pushes, deliveries, ← List.append_assoc, ← List.append_assoc]
    exact ih (left_of_act left use)

/-- A device is used in any way, and then read from with any room.

* What is left is what was there and what was put behind it, less what the reads have delivered; so
  what they have delivered and what is left are all of that, in order.
* What the read delivers are items of one thing that was put there, behind those of it that were
  delivered before.
* The read is a fair one. -/
theorem read_after_uses (d : Device) (uses : List Use) (room : Nat) :
    Left (d.reads ++ d.pushes uses) (d.deliveries uses) (d.use uses).reads ∧
    d.deliveries uses ++ (d.use uses).stream =
      (d.reads ++ d.pushes uses).flatMap ReadEvent.items ∧
    ((d.use uses).delivered room = [] ∨ ∃ past event rest gone later,
      d.reads ++ d.pushes uses = past ++ event :: rest ∧
      d.deliveries uses = past.flatMap ReadEvent.items ++ gone ∧
      event.items = gone ++ (d.use uses).delivered room ++ later) ∧
    (d.use uses).FairRead room := by
  have left : Left (d.reads ++ d.pushes uses) (d.deliveries uses) (d.use uses).reads :=
    left_of_uses (.between [] d.reads rfl rfl) uses
  refine ⟨left, left.append_eq, ?_, (d.use uses).fairRead room⟩
  rcases ((d.use uses).readStep room).front with nothing | ⟨event, rest, later, front, same⟩
  · exact .inl nothing
  · rw [front] at left
    obtain ⟨past, whole, gone, split, told, ends⟩ := left.front
    exact .inr ⟨past, whole, rest, gone, later, split, told, by rw [ends, same, List.append_assoc]⟩

/-- A frame that does not fit is read back in pieces. -/
example :
    let d := ({ } : Device).use [.setLoopback true, .write [1, 2, 3, 4, 5] 0]
    d.delivered 3 = [.byte 1, .byte 2, .byte 3] ∧
      (d.use [.read 3]).delivered 3 = [.byte 4, .byte 5] := by
  decide

end Device

end FieldLink
