import FieldLink.Proofs.Link.Readings

/-!
# The chunks of a stream

What was put into a device in memory is what the readers take and what is left to be read
(`Scene.stream_run`).  It is handed to the receive callback in chunks, in order, and byte for byte,
for whatever happens besides (`Scene.chunks_of_stream`).
-/

namespace FieldLink

namespace Scene

variable {s : Scene Device} {a : Action Device}

/-! ## Feeding a device -/

/-- Whoever holds the device adds to what is to be read at most, all through a run. -/
def Fed : List (Action Device) → Scene Device → Prop
  | [], _ => True
  | a :: actions, s => Feeds a s ∧ Fed actions (s.act Device.transport a)

/-- What is put behind the stream in a run. -/
def pushed (actions : List (Action Device)) (s : Scene Device) : List StreamItem :=
  trace Device.transport pushedOf actions s

theorem fed_of_calm {actions : List (Action Device)} (calm : ∀ a ∈ actions, ∀ d, a ≠ .device d) :
    Fed actions s := by
  induction actions generalizing s with
  | nil => trivial
  | cons a actions ih =>
    refine ⟨?_, ih fun b member => calm b (List.mem_cons_of_mem a member)⟩
    cases a with
    | device d => exact absurd rfl (calm _ List.mem_cons_self d)
    | loop | call | make | clock | command | callback => trivial

theorem fed_append {first rest : List (Action Device)} (fed : Fed first s)
    (more : Fed rest (s.run Device.transport first)) : Fed (first ++ rest) s := by
  induction first generalizing s with
  | nil => exact more
  | cons a first ih => exact ⟨fed.1, ih fed.2 more⟩

/-- What there was to read, with all that is put behind it in a run, is what the readers take and
what is left. -/
theorem stream_run {actions : List (Action Device)} (fed : Fed actions s) :
    s.link.device.stream ++ s.pushed actions =
      trace Device.transport (takenOf Device.transport) actions s ++
        (s.run Device.transport actions).link.device.stream := by
  induction actions generalizing s with
  | nil => exact List.append_nil _
  | cons a actions ih =>
    calc s.link.device.stream ++ s.pushed (a :: actions)
        = s.link.device.stream ++ pushedOf a s ++
            (s.act Device.transport a).pushed actions := (List.append_assoc ..).symm
      _ = takenOf Device.transport a s ++ ((s.act Device.transport a).link.device.stream ++
            (s.act Device.transport a).pushed actions) := by
          rw [stream_act fed.1, List.append_assoc]
      _ = _ := by
          rw [ih fed.2, trace, List.append_assoc]
          rfl

/-! ## The chunks of a stream -/

/-- What becomes of all that is put into a device to be read, from a scene in which a callback is
set and the reader of a session was not begun, while the loops and the calls take their steps in any
order:

* The chunks that are delivered are those that are reported, in order; only the last of them may
  still have to be reported.  Each of them has from one to fifteen bytes.
* Put together, they are the bytes that the reader has taken, but for the chunk in its hand.
* If the other sessions had ended or are not begun, these are the chunks that the callback and the
  watchers of the link see.  If the device is added to and nothing is taken from it but by reads, the
  reader takes its items in order and leaves the others: with the bytes that are still to be read,
  the chunks are all the bytes that were put there.
* When the reader reads an end of the stream, an empty chunk or a fatal fault, it takes, delivers
  and reports nothing more, and its session fails. -/
theorem chunks_of_stream (options : LinkOptions) (device : Device) (now : Nat)
    (before actions : List (Action Device)) {s₀ : Scene Device} (id : Nat)
    (began : (fresh options device now).run Device.transport before = s₀)
    (reached : s₀.run Device.transport actions = s)
    (called : s₀.link.callback.isSome) (unborn : s₀.link.readerOf id = .unborn) :
    s₀.delivered Device.transport id actions =
      s₀.received Device.transport id actions ++ (s.link.readerOf id).unreported ∧
    (∀ chunk ∈ s₀.delivered Device.transport id actions, 1 ≤ chunk.length ∧ chunk.length ≤ 15) ∧
    StreamItem.bytes (s₀.took Device.transport id actions) =
      (s₀.delivered Device.transport id actions ++ (s.link.readerOf id).undelivered).flatten ∧
    ((∀ k < s.link.sessions.length, k ≠ id → (s₀.link.readerOf k).hasEnded) →
      s.link.deliveries.map Delivery.chunk =
        s₀.link.deliveries.map Delivery.chunk ++ s₀.delivered Device.transport id actions ∧
      s.link.received = s₀.link.received ++ s₀.received Device.transport id actions ∧
      (Fed actions s₀ →
        s₀.link.device.stream ++ s₀.pushed actions =
          s₀.took Device.transport id actions ++ s.link.device.stream ∧
        s₀.link.device.unread ++ StreamItem.bytes (s₀.pushed actions) =
          (s₀.delivered Device.transport id actions ++
            (s.link.readerOf id).undelivered).flatten ++ s.link.device.unread)) ∧
    ∀ (mark : ReadEvent) (rest : List ReadEvent) (more : List (Action Device)),
      s.link.readerOf id = .read → s.link.device.reads = mark :: rest → mark.ends s.link.device →
        let s' := s.act Device.transport (.loop ⟨id, .reader⟩)
        let steps := more.countP (Action.isStepOf ⟨id, .reader⟩)
        s'.readings Device.transport id more = [] ∧
          (1 ≤ steps → .failed id ∈ (s'.run Device.transport more).notes) ∧
          (4 ≤ steps → (s'.run Device.transport more).Cancelled id ∧
            (s'.run Device.transport more).link.outbox ≠ some id) ∧
          (9 ≤ steps → (s'.run Device.transport more).link.readerOf id = .gone) := by
  have attended : s₀.Attended := by
    refine ⟨?_, ?_, called⟩
    · exact began ▸ sound_run Device.transport options device now before
    · exact began ▸ unlaunched_run Device.transport .reader options device now before
  have begun : (s₀.link.readerOf id).Follows [] := by
    rw [unborn]
    exact ReaderPhase.follows_nil rfl rfl
  have follows := reader_follows_run attended actions begun
  rw [List.nil_append, reached] at follows
  obtain ⟨bytes, order, size⟩ := follows
  refine ⟨order, fun chunk member => size chunk (List.mem_append_left _ member), bytes,
    fun apart => ?_, fun mark rest more reader reads ends => ?_⟩
  · have alone (k : Nat) (ne : k ≠ id) : s₀.readings Device.transport k actions = [] := by
      by_cases known : k < s.link.sessions.length
      · obtain ⟨n, ended⟩ := Option.isSome_iff_exists.1 (apart k known ne)
        exact (ended_run attended ended actions).1
      · refine readings_of_none actions ?_
        rw [reached]
        exact List.getElem?_eq_none (Nat.le_of_not_lt known)
    obtain ⟨taken, deliveries, received⟩ := alone_run actions alone
    rw [reached] at deliveries received
    refine ⟨deliveries, received, fun fed => ?_⟩
    have stream := stream_run fed
    rw [taken, reached] at stream
    refine ⟨stream, ?_⟩
    have unread := congrArg StreamItem.bytes stream
    rwa [StreamItem.bytes_append, StreamItem.bytes_append, Device.bytes_stream, Device.bytes_stream,
      show StreamItem.bytes (s₀.took Device.transport id actions) = _ from bytes] at unread
  · obtain ⟨x, at_id⟩ : ∃ x, s.link.sessions[id]? = some x := by
      cases at_id : s.link.sessions[id]? with
      | none =>
        rw [Link.readerOf, at_id] at reader
        cases reader
      | some x => exact ⟨x, rfl⟩
    have attended : s.Attended :=
      reached ▸ run_of_act Attended (fun _ a attended => attended.act a) actions attended
    refine failing_run (attended.act _) ?_ more
    rw [Link.readerOf_at at_id] at reader
    rw [readerOf_act_self Device.transport at_id]
    exact Link.readerNext_of_ends reader reads ends

/-- Sixteen bytes, a hiccup, and one byte, before the stream ends, and one byte more after that. -/
def injected : List ReadEvent :=
  [.data (List.replicate 16 1), .failure Device.hiccup, .data [2], .endOfStream, .data [3]]

/-- A link whose device is fed these reads until it comes to the end of the stream. -/
def feeding : List (Action Device) :=
  .make .start :: List.replicate 16 (.call 0) ++
    .device { opens := 1, reads := injected } :: List.replicate 18 (.loop ⟨0, .reader⟩)

/-- The bytes before the end of the stream are delivered in three chunks, and no other is. -/
theorem chunks_of_stream_fed :
    let s₀ := (fresh rehearsed { } 0).run Device.transport [.callback ⟨"tag", []⟩]
    let s := s₀.run Device.transport feeding
    s₀.delivered Device.transport 0 feeding = [List.replicate 15 1, [1], [2]] ∧
      s.link.deliveries.map Delivery.chunk = s₀.delivered Device.transport 0 feeding ∧
      s.link.received = s₀.received Device.transport 0 feeding ∧
      StreamItem.bytes (s₀.pushed feeding) =
        (s₀.delivered Device.transport 0 feeding).flatten ++ [3] ∧
      let s' := (s.act Device.transport (.loop ⟨0, .reader⟩)).run Device.transport
        (List.replicate 9 (.loop ⟨0, .reader⟩))
      .failed 0 ∈ s'.notes ∧ s'.link.readerOf 0 = .gone := by
  obtain ⟨-, -, -, alone, ended⟩ := chunks_of_stream rehearsed { } 0 [.callback ⟨"tag", []⟩] feeding
    0 rfl rfl rfl rfl
  have chunks : ((fresh rehearsed { } 0).run Device.transport
      [.callback ⟨"tag", []⟩]).delivered Device.transport 0 feeding =
        [List.replicate 15 1, [1], [2]] := by
    decide +kernel
  obtain ⟨deliveries, received, conserved⟩ := alone (by decide +kernel)
  obtain ⟨-, bytes⟩ := conserved (fed_append (fed_of_calm (by simp))
    ⟨List.nil_prefix, fed_of_calm (by simp)⟩)
  obtain ⟨-, noted, -, gone⟩ := ended .endOfStream [.data [3]]
    (List.replicate 9 (.loop ⟨0, .reader⟩)) rfl rfl rfl
  refine ⟨chunks, deliveries, received, ?_, noted (by decide), gone (by decide)⟩
  exact bytes

end Scene

end FieldLink
