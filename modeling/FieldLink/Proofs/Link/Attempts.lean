import FieldLink.Proofs.Link.Service

/-!
# Attempts

What the writer of a session makes of the frames that are queued, in whole runs.  The writer goes on
with its frames as `Serving` says (`Serves.writer`), nothing else that happens touches them
(`Serves.other`), and the writer alone deals with all of them in the end (`Serves.progress`).  So its
calls to write and its events are those that the outcomes of the device ask for, frame after frame
(`frames_served`).
-/

namespace FieldLink

namespace Scene

variable {s₀ s : Scene Device} {a : Action Device} {id retries : Nat} {x : Session}
  {frames : List Frame} {t : Tally}

theorem notes_act {σ : Type} (T : Transport σ) (a : Action σ) (s : Scene σ) :
    s.notes <+: (s.act T a).notes := by
  cases a with
  | loop p => exact List.prefix_append _ _
  | call number =>
    simp only [act]
    cases s.calls[number]? with
    | none => exact List.prefix_refl _
    | some c => exact List.prefix_append _ _
  | make | device | clock | command | callback => exact List.prefix_refl _

theorem notes_run {σ : Type} (T : Transport σ) (actions : List (Action σ)) (s : Scene σ) :
    s.notes <+: (s.run T actions).notes := by
  induction actions generalizing s with
  | nil => exact List.prefix_refl _
  | cons a actions ih => exact (notes_act T a s).trans (ih (s.act T a))

/-- Since the scene was `s₀`, the writer of a session has taken some frames, and this has come of
them. -/
structure Serves (id retries : Nat) (s s₀ : Scene Device) (x : Session) (frames : List Frame)
    (t : Tally) : Prop where
  at_id : s.link.sessions[id]? = some x
  retries_eq : s.link.options.retries.toNat = retries
  taken : s.taken id = s₀.taken id ++ frames
  serving : Serving retries { script := s₀.link.device.script } x.cancelled x.writer frames t
  shows : s.link.Shows s₀.link t
  /-- No frame is taken once the device is gone. -/
  inTurn : (Tally.serveAll retries frames.dropLast
    { script := s₀.link.device.script }).failed = false
  told : t.failed → x.writer = .fail .mark ∨ .failed id ∈ s.notes

/-- The writer takes a step. -/
theorem Serves.writer (serves : s.Serves id retries s₀ x frames t) :
    ∃ x' t', (s.act Device.transport (.loop ⟨id, .writer⟩)).Serves id retries s₀ x'
        (frames ++ x.takes) t' ∧
      x'.writer = s.link.writerNext Device.transport id x := by
  obtain ⟨at_id, rfl, taken, serving, shows, inTurn, told⟩ := serves
  obtain ⟨x', at_id', passes⟩ := passes_act Device.transport (.loop ⟨id, .writer⟩) at_id
  obtain ⟨t', serving', shows', failed'⟩ := serving.proceeds id shows
  refine ⟨x', t', ⟨at_id', ?_, ?_, ?_, ?_, ?_, fun failed => ?_⟩, passes.writer rfl⟩
  · rw [options_act]
  · rw [taken_act_writer Device.transport at_id, taken, List.append_assoc]
  · rw [passes.writer rfl]
    exact serving'.mono passes.cancelled
  · rw [act_writer Device.transport at_id]
    exact shows'
  · unfold Session.takes
    split
    · rename_i writer
      cases x.queue with
      | nil => rwa [List.head?_nil, Option.toList_none, List.append_nil]
      | cons frame rest =>
        simpa using (serving.of_isFree (by rw [writer]; rfl)).2
    · rwa [List.append_nil]
  · rcases failed' failed with was | gives_up
    · refine .inr ?_
      rcases told was with writer | noted
      · refine List.mem_append_right _ (List.mem_append_left _ ?_)
        simp [Link.loopNotes, at_id, Link.writerNotes, writer, Link.failNotes]
      · exact (notes_act Device.transport _ s).subset noted
    · exact .inl ((passes.writer rfl).trans gives_up)

/-- Something else happens than a step of a writer. -/
theorem Serves.other (serves : s.Serves id retries s₀ x frames t) (starts : StartsApart s)
    (calm : ∀ d, a ≠ .device d) (ne : ∀ k, a ≠ .loop ⟨k, .writer⟩) :
    ∃ x', (s.act Device.transport a).Serves id retries s₀ x' frames t := by
  obtain ⟨at_id, rfl, taken, serving, shows, inTurn, told⟩ := serves
  obtain ⟨x', at_id', passes⟩ := passes_act Device.transport a at_id
  have silent := settlements_act_of_ne (s := s) Device.transport ne
  have shows' : (s.act Device.transport a).link.Shows s₀.link t := by
    obtain ⟨k, y, rfl, at_k, reader⟩ | ⟨k, y, rfl, -, -⟩ | alike := device_act_cases s calm
    · have device := device_act_read at_k reader
      obtain ⟨reads, eq⟩ := s.link.device.read_eq packetSize.toNat
      replace device := device.trans eq
      exact ⟨device ▸ shows.attempts, device ▸ shows.written, device ▸ shows.script,
        silent.trans shows.settlements, device ▸
          ⟨shows.prompt.script, shows.prompt.ready, shows.prompt.clean, shows.prompt.verdict⟩⟩
    · exact absurd rfl (ne k)
    · exact shows.of_alike alike silent
  have noted := (notes_act Device.transport a s).subset
  rcases passes.writer_of_ne (ne id) with same | ⟨⟨number, -, at_number⟩, look⟩
  · refine ⟨x', at_id', by rw [options_act], (taken_act_of_ne Device.transport (ne id)).trans taken,
      same ▸ serving.mono passes.cancelled, shows', inTurn, fun failed => ?_⟩
    exact (told failed).imp same.trans (fun member => noted member)
  · -- a start begins a writer only that was not begun
    have unborn : x.writer = .unborn := writer_unborn starts at_number at_id
    obtain ⟨rfl, unfailed⟩ := serving.of_isFree (by rw [unborn]; rfl)
    refine ⟨x', at_id', by rw [options_act],
      (taken_act_of_ne Device.transport (ne id)).trans taken, ?_, shows', inTurn, fun failed => ?_⟩
    · rw [look]
      exact .free rfl unfailed
    · exact absurd (unfailed.symm.trans failed) (by simp)

theorem Serves.run {actions : List (Action Device)} (serves : s.Serves id retries s₀ x frames t)
    (starts : StartsApart s) (calm : ∀ a ∈ actions, ∀ d, a ≠ .device d)
    (alone : ∀ a ∈ actions, ∀ k, a = .loop ⟨k, .writer⟩ → k = id) :
    ∃ x' frames' t', (s.run Device.transport actions).Serves id retries s₀ x' frames' t' := by
  induction actions generalizing s x frames t with
  | nil => exact ⟨x, frames, t, serves⟩
  | cons a actions ih =>
    have starts' := startsApart_act Device.transport starts a
    have calm' : ∀ b ∈ actions, ∀ d, b ≠ .device d := fun b member =>
      calm b (List.mem_cons_of_mem a member)
    have alone' : ∀ b ∈ actions, ∀ k, b = .loop ⟨k, .writer⟩ → k = id := fun b member =>
      alone b (List.mem_cons_of_mem a member)
    by_cases own : a = .loop ⟨id, .writer⟩
    · obtain ⟨x', t', serves', -⟩ := serves.writer
      rw [own] at starts' ⊢
      exact ih serves' starts' calm' alone'
    · obtain ⟨x', serves'⟩ := serves.other starts (calm a List.mem_cons_self) fun k writer => by
        obtain rfl := alone a List.mem_cons_self k writer
        exact own writer
      exact ih serves' starts' calm' alone'

/-- When the device is gone, the next step notes that the session is given up. -/
theorem Serves.gives_up (serves : s.Serves id retries s₀ x frames t)
    (fails : x.writer = .fail .mark) :
    ∃ y t', (s.act Device.transport (.loop ⟨id, .writer⟩)).Serves id retries s₀ y frames t' ∧
      y.queue = x.queue ∧ t'.failed ∧
      .failed id ∈ (s.act Device.transport (.loop ⟨id, .writer⟩)).notes := by
  obtain ⟨y, t', serves', writer⟩ := serves.writer
  rw [x.takes_of_ne (by rw [fails]; rintro ⟨⟩), List.append_nil] at serves'
  have close : y.writer = .fail .close := by
    rw [writer, Link.writerNext, fails]
    rfl
  have failed : t'.failed := by
    have serving := serves'.serving
    rw [close] at serving
    exact serving.failed_of_fail
  refine ⟨y, t', serves', ?_, failed,
    (serves'.told failed).resolve_left (by rw [close]; rintro ⟨⟩)⟩
  have at_y := serves'.at_id
  rw [act_writer Device.transport serves.at_id, Link.writerStep, fails] at at_y
  rw [← Option.some.inj ((Link.session_update serves.at_id).symm.trans at_y)]

/-- A number of steps of the writer of a session. -/
def writes (id count : Nat) (s : Scene Device) : Scene Device :=
  s.run Device.transport (List.replicate count (.loop ⟨id, .writer⟩))

/-- The writer alone deals with the frame in its hand and all that are queued, unless the device is
gone before. -/
theorem Serves.progress (serves : s.Serves id retries s₀ x frames t)
    (uncancelled : x.cancelled = false) (outbox : s.link.outbox = some id)
    (begun : x.writer ≠ .unborn) (active : x.writer.hasEnded = false) :
    ∃ count x' frames' t', (s.writes id count).Serves id retries s₀ x' frames' t' ∧
      frames' ++ x'.queue = frames ++ x.queue ∧
      (x'.writer = .look ∧ x'.queue = [] ∧ (s.writes id count).link.state = s.link.state ∨
        t'.failed ∧ .failed id ∈ (s.writes id count).notes) := by
  induction left : x.stepsLeft retries using Nat.strongRecOn generalizing s x frames t with
  | ind bound ih =>
    subst left
    by_cases idle : x.writer = .look ∧ x.queue = []
    · exact ⟨0, x, frames, t, serves, rfl, .inl ⟨idle.1, idle.2, rfl⟩⟩
    · obtain ⟨x', t', serves', -⟩ := serves.writer
      obtain ⟨at_id', outbox', state'⟩ :=
        Link.writerStep_of_active Device.transport serves.at_id active
      rw [← act_writer Device.transport serves.at_id] at at_id' outbox' state'
      obtain rfl := Option.some.inj (serves'.at_id.symm.trans at_id')
      have queue' : frames ++ x.takes ++ x.queue.drop x.takes.length = frames ++ x.queue := by
        rw [List.append_assoc, x.takes_append_drop]
      have serving := serves.serving
      rw [← serves.retries_eq] at serving
      rcases serving.advances serves.shows uncancelled outbox begun active
        (fun look => fun empty => idle ⟨look, empty⟩) with gives_up | ⟨begun', active', nearer⟩
      · obtain ⟨y, t'', serves'', same, failed, noted⟩ := serves'.gives_up gives_up
        exact ⟨2, y, _, t'', serves'', by rw [same, queue'], .inr ⟨failed, noted⟩⟩
      · rw [serves.retries_eq] at nearer
        obtain ⟨count, y, frames', t'', serves'', queue, ends⟩ :=
          ih _ nearer serves' uncancelled (outbox'.trans outbox) begun' active' rfl
        exact ⟨count + 1, y, frames', t'', serves'', queue.trans queue',
          ends.imp_left fun h => ⟨h.1, h.2.1, h.2.2.trans state'⟩⟩

/-- Since the writer of a session had no frame in hand, when all writes end at once, nobody but this
writer writes, and however the steps of loops and calls interleave:

* The frames that it has taken are the first of those that were queued or have been accepted since.
* What was written and told is the beginning of what is to become of these frames, and all of it when
  no frame is in hand, when the device is gone, or when the writer has ended uncancelled.
* All calls for a frame come before those for the next, and the frames that are sent are those that
  were taken in full.
* When the device is gone, no further frame is taken, and the session is given up.
* When it is left alone and not to end, the writer deals with all frames that are queued, and the
  link stays as it was, unless the device is gone before. -/
theorem frames_served (options : LinkOptions) (device : Device) (now : Nat)
    (past actions : List (Action Device)) {x₀ : Session}
    (before : (fresh options device now).run Device.transport past = s₀)
    (at_start : s₀.link.sessions[id]? = some x₀) (isFree : x₀.writer.isFree)
    (prompt : s₀.link.device.Prompt) (calm : ∀ a ∈ actions, ∀ d, a ≠ .device d)
    (alone : ∀ a ∈ actions, ∀ k, a = .loop ⟨k, .writer⟩ → k = id)
    (reached : s₀.run Device.transport actions = s) :
    ∃ (x : Session) (frames added : List Frame) (t : Tally),
      (s.link.sessions[id]? = some x ∧ s.taken id = s₀.taken id ++ frames ∧
        s.accepted id = s₀.accepted id ++ added ∧ frames ++ x.queue = x₀.queue ++ added) ∧
      (s.link.Shows s₀.link t ∧ t.calls <+: (s₀.link.prospect frames).calls ∧
        t.events <+: (s₀.link.prospect frames).events ∧
        (x.writer.isFree ∨ t.failed ∨ x.writer.hasEnded ∧ x.cancelled = false →
          t = s₀.link.prospect frames)) ∧
      ((∃ counts : List Nat, counts.length = frames.length ∧
          (∀ count ∈ counts, count ≤ s₀.link.options.retries.toNat) ∧
          (s₀.link.prospect frames).attempts =
            (List.zipWith List.replicate counts frames).flatten) ∧
        (s₀.link.prospect frames).sent = (s₀.link.prospect frames).takenInFull) ∧
      ((s₀.link.prospect frames.dropLast).failed = false ∧
        (t.failed → x.writer.hasEnded ∧ (x.writer = .fail .mark ∨ .failed id ∈ s.notes))) ∧
      (x.cancelled = false → s.link.outbox = some id → x.writer ≠ .unborn →
        x.writer.hasEnded = false →
        ∃ (count : Nat) (y : Session), (s.writes id count).link.sessions[id]? = some y ∧
          (s.writes id count).link.Shows s₀.link (s₀.link.prospect (frames ++ x.queue)) ∧
          if (s₀.link.prospect (frames ++ x.queue)).failed then
            .failed id ∈ (s.writes id count).notes
          else y.writer = .look ∧ y.queue = [] ∧
            (s.writes id count).link.state = s.link.state) := by
  have kept₀ : Kept options.queueCapacity.toNat s₀ := by
    rw [← before]
    exact (kept_fresh options device now).run Device.transport past
  have kept : Kept options.queueCapacity.toNat s := by
    rw [← reached]
    exact kept₀.run Device.transport actions
  have begins : s₀.Serves id s₀.link.options.retries.toNat s₀ x₀ []
      { script := s₀.link.device.script } :=
    ⟨at_start, rfl, (List.append_nil _).symm, .free isFree rfl,
      ⟨(List.append_nil _).symm, (List.append_nil _).symm, rfl, (List.append_nil _).symm, prompt⟩,
      rfl, by rintro ⟨⟩⟩
  obtain ⟨x, frames, t, serves⟩ := begins.run kept₀.starts calm alone
  rw [reached] at serves
  obtain ⟨added, grown⟩ : s₀.accepted id <+: s.accepted id := by
    rw [← reached]
    exact (notes_run Device.transport actions s₀).filterMap _
  refine ⟨x, frames, added, t, ⟨serves.at_id, serves.taken, grown.symm, ?_⟩,
    ⟨serves.shows, serves.serving.calls_prefix, serves.serving.events_prefix, ?_⟩, ?_,
    ⟨serves.inTurn, fun failed => ⟨(serves.serving.of_failed failed).2, serves.told failed⟩⟩, ?_⟩
  · -- what was accepted is what was taken and what is queued, before and after
    obtain ⟨-, -, -, old⟩ := kept₀.ledger.balance id _ (Link.shelf_at at_start)
    obtain ⟨-, -, -, new⟩ := kept.ledger.balance id _ (Link.shelf_at serves.at_id)
    have all : s₀.taken id ++ (frames ++ x.queue) = s₀.taken id ++ (x₀.queue ++ added) := by
      rw [← List.append_assoc, ← serves.taken, ← List.append_assoc]
      exact (new.symm.trans grown.symm).trans (congrArg (· ++ added) old)
    exact List.append_cancel_left all
  · rintro (free | failed | ⟨ended, uncancelled⟩)
    · exact (serves.serving.of_isFree free).1
    · exact (serves.serving.of_failed failed).1
    · exact serves.serving.of_hasEnded ended uncancelled
  · exact ⟨Tally.attempts_serveAll _ frames _, Tally.sent_serveAll prompt.script rfl frames⟩
  · intro uncancelled outbox begun active
    obtain ⟨count, y, frames', t', serves', queue, ends⟩ :=
      serves.progress uncancelled outbox begun active
    refine ⟨count, y, serves'.at_id, ?_⟩
    rcases ends with ⟨look, empty, state⟩ | ⟨failed, noted⟩
    · obtain ⟨all, unfailed⟩ := serves'.serving.of_isFree (by rw [look]; rfl)
      rw [empty, List.append_nil] at queue
      rw [← queue, Link.prospect, ← all, if_neg (by rw [all, unfailed]; simp)]
      exact ⟨serves'.shows, look, empty, state⟩
    · have all := (serves'.serving.of_failed failed).1
      have rest : s₀.link.prospect (frames ++ x.queue) = t' := by
        rw [← queue, Link.prospect, Tally.serveAll_append, ← all, Tally.serveAll_of_failed failed]
      rw [rest, if_pos failed]
      exact ⟨serves'.shows, noted⟩

/-- An open link with four frames queued, for a device that refuses the first, takes the second, and
vanishes with the third. -/
def crowded : Scene Device :=
  (fresh { rehearsed with retries := 2, queueCapacity := 4 }
    { script := [.fail Device.rejected, .partly 1, .accept, .fail Device.rejected,
        .fail Device.vanished] } 0).run Device.transport <|
    .make .start :: List.replicate 16 (.call 0) ++
      .make (.send [1, 2]) :: List.replicate 2 (.call 1) ++
      .make (.send [3]) :: List.replicate 2 (.call 2) ++
      .make (.send [4]) :: List.replicate 2 (.call 3) ++
      .make (.send [5]) :: List.replicate 2 (.call 4)

/-- One frame is dropped, one is sent, one is lost, and one is never tried. -/
theorem frames_served_crowded :
    (crowded.writes 0 22).link.device.attempts = [[1, 2], [1, 2], [3], [4], [4]] ∧
      (crowded.writes 0 22).link.settlements = [.dropped [1, 2] 2, .sent [3]] := by
  have prompt : crowded.link.device.Prompt :=
    ⟨by decide +kernel, by decide +kernel, by decide +kernel, by decide +kernel⟩
  have at_start : crowded.link.sessions[0]? = some _ :=
    List.getElem?_eq_getElem (by decide +kernel)
  obtain ⟨x, frames, -, t, ⟨at_id, taken, -⟩, ⟨shows, -, -, all⟩, -⟩ :=
    frames_served _ _ _ _ (List.replicate 22 (.loop ⟨0, .writer⟩)) (rfl : _ = crowded) at_start
      (by decide +kernel) prompt (by simp) (by simp) rfl
  change (crowded.writes 0 22).link.sessions[0]? = some x at at_id
  change (crowded.writes 0 22).link.Shows crowded.link t at shows
  have ended : (crowded.writes 0 22).link.sessions[0]?.map
      (fun x => (x.writer.hasEnded, x.cancelled)) = some (true, false) := by decide +kernel
  rw [at_id, Option.map_some, Option.some.injEq, Prod.mk.injEq] at ended
  have frames_eq : frames = [[1, 2], [3], [4]] := by
    have none : crowded.taken 0 = [] := by decide +kernel
    have three : (crowded.writes 0 22).taken 0 = [[1, 2], [3], [4]] := by decide +kernel
    rw [none, List.nil_append] at taken
    exact taken.symm.trans three
  rw [all (.inr (.inr ended)), frames_eq] at shows
  exact ⟨shows.attempts.trans (by decide +kernel), shows.settlements.trans (by decide +kernel)⟩

end Scene

end FieldLink
