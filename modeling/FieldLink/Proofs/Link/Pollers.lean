import FieldLink.Proofs.Link.Cycles
import FieldLink.Proofs.Link.Landmarks
import FieldLink.Proofs.Link.Launches
import FieldLink.Proofs.Link.PollerCancellation
import FieldLink.Proofs.Link.Polls
import FieldLink.Proofs.Link.SessionEnd

/-!
# The end of a poller

A start begins the poller of its session once (`Scene.Unlaunched`), so a poller that finds itself
cancelled or finds no queue leaves for good: nothing more is told of it, and its own steps end it
(`Scene.leaves_run`).  A poller that is stopped has one command at most in the works
(`Scene.queued_after_stop`).  `Scene.cycles_accounted` puts together what holds of the cycles of
polls.
-/

namespace FieldLink

/-! ## The last steps of a poller -/

/-- Whether a deed is that a command was queued. -/
def PollDeed.isQueued (deed : PollDeed) : Bool := deed.queued?.isSome

namespace PollerPhase

/-- How many steps a poller takes at most that leaves. -/
def stepsLeft? : PollerPhase → Option Nat
  | leave phase => some phase.stepsLeft
  | gone => some 0
  | _ => none

theorem eq_gone_of_stepsLeft? {phase : PollerPhase} (left : phase.stepsLeft? = some 0) :
    phase = gone := by
  cases phase with
  | gone => rfl
  | leave phase => cases phase <;> cases left
  | _ => cases left

/-- How many commands a poller queues yet that is cancelled: it looks before each but the one in the
works. -/
def queuesLeft : PollerPhase → Nat
  | ask _ | offer _ => 1
  | _ => 0

theorem queuesLeft_le_one (phase : PollerPhase) : phase.queuesLeft ≤ 1 := by
  cases phase <;> first | exact Nat.le_refl 1 | exact Nat.zero_le 1

end PollerPhase

namespace Link

variable {σ : Type} {l : Link σ} {x : Session}

/-- A poller finds that it is cancelled, or that there is no queue for its next command. -/
def dismisses (x : Session) (l : Link σ) : Prop :=
  match x.poller with
  | .wait _ | .settle _ _ => x.pollStopped
  | .look cycle => cycle.left ≠ [] ∧ x.pollStopped
  | .offer cycle => ∃ command ∈ cycle.left.head?, (l.enqueue command).1 = .error .notOpen
  | _ => False

theorem pollerNext_of_dismisses (dismisses : l.dismisses x) : l.pollerNext x = .leave .count := by
  unfold Link.dismisses at dismisses
  unfold pollerNext
  cases poller : x.poller with
  | wait next | settle cycle deadline =>
    rw [poller] at dismisses
    exact if_pos dismisses
  | look cycle =>
    rw [poller] at dismisses
    obtain ⟨some_left, stopped⟩ := dismisses
    cases left : cycle.left with
    | nil => exact absurd left some_left
    | cons command rest => simp [left, stopped]
  | offer cycle =>
    rw [poller] at dismisses
    obtain ⟨command, next, refused⟩ := dismisses
    cases left : cycle.left with
    | nil => simp [left] at next
    | cons first rest =>
      obtain rfl : first = command := by simpa [left] using next
      simp [left, refused]
  | _ => simp [poller] at dismisses

theorem pollDeeds_of_dismisses (dismisses : l.dismisses x) : l.pollDeeds x = [] := by
  unfold Link.dismisses at dismisses
  unfold pollDeeds
  cases poller : x.poller with
  | offer cycle =>
    rw [poller] at dismisses
    obtain ⟨command, next, refused⟩ := dismisses
    have taker : l.taker? command = none := by
      rcases l.enqueue_cases command with ⟨e, -, none⟩ | ⟨k, y, -, -, -, -, result, -⟩
      · exact none
      · rw [result] at refused
        cases refused
    simp [Option.mem_def.1 next, Option.filter, taker]
  | copy | report => simp [poller] at dismisses
  | _ => rfl

theorem stepsLeft_pollerNext {n : Nat} (leaves : x.poller.stepsLeft? = some n) :
    (∃ m, (l.pollerNext x).stepsLeft? = some m ∧ m ≤ n - 1) ∧ l.pollDeeds x = [] := by
  unfold pollerNext pollDeeds
  cases poller : x.poller with
  | leave phase =>
    rw [poller] at leaves
    obtain rfl := Option.some.inj leaves
    refine ⟨?_, rfl⟩
    simp only
    cases goes : (l.leaveStep phase).1 with
    | none => exact ⟨0, rfl, Nat.zero_le _⟩
    | some next => exact ⟨next.stepsLeft, rfl, by have := stepsLeft_leaveStep goes; omega⟩
  | gone => exact ⟨⟨0, rfl, Nat.zero_le _⟩, rfl⟩
  | _ =>
    rw [poller] at leaves
    cases leaves

/-- A cancelled poller pays for a command that it queues. -/
theorem spends_queues (stopped : x.pollStopped) :
    (l.pollDeeds x).countP PollDeed.isQueued + (l.pollerNext x).queuesLeft ≤
      x.poller.queuesLeft := by
  unfold pollerNext pollDeeds
  cases poller : x.poller with
  | begin => simp only; split <;> exact Nat.le_refl 0
  | wait next => simp [stopped, PollerPhase.queuesLeft]
  | look cycle =>
    cases left : cycle.left with
    | nil => simp [left, PollerPhase.queuesLeft]
    | cons command rest => simp [left, stopped, PollerPhase.queuesLeft]
  | ask cycle =>
    simp only
    split <;> simp [PollerPhase.queuesLeft]
  | offer cycle =>
    cases left : cycle.left with
    | nil => simp [left, PollerPhase.queuesLeft]
    | cons command rest =>
      have queued : ((Option.filter (fun c => (l.taker? c).isSome)
          (some command)).toList.map PollDeed.queued).countP PollDeed.isQueued ≤ 1 := by
        refine Nat.le_trans List.countP_le_length ?_
        rw [List.length_map]
        exact Option.length_toList_le
      rcases result : (l.enqueue command).1 with e | _
      · cases e <;> simpa [left, result, PollerPhase.queuesLeft] using queued
      · simpa [left, result, PollerPhase.queuesLeft] using queued
  | settle cycle deadline => simp [stopped, PollerPhase.queuesLeft]
  | leave phase =>
    simp only
    cases (l.leaveStep phase).1 <;> exact Nat.le_refl 0
  | unborn | copy | report | gone | broken => exact Nat.le_refl 0

end Link

namespace Scene

variable {σ : Type} {T : Transport σ} {s : Scene σ} {id : Nat} {x : Session}

/-! ## Pollers that leave -/

/-- A poller that leaves is not told of any more, and its own steps end it. -/
theorem leaves_run (T : Transport σ) (starts : StartsApart s)
    (unlaunched : s.Unlaunched .poller) {n : Nat}
    (at_id : s.link.sessions[id]? = some x) (leaves : x.poller.stepsLeft? = some n)
    (more : List (Action σ)) :
    s.polls T id more = [] ∧ ∃ x' m, (s.run T more).link.sessions[id]? = some x' ∧
      x'.poller.stepsLeft? = some m ∧ m ≤ n - more.countP (Action.isStepOf ⟨id, .poller⟩) := by
  induction more generalizing s x n with
  | nil => exact ⟨rfl, x, n, at_id, leaves, Nat.le_refl _⟩
  | cons a more ih =>
    obtain ⟨x', at_id', passes⟩ := passes_act T a at_id
    have later {m : Nat} (leaves : x'.poller.stepsLeft? = some m) :=
      ih (startsApart_act T starts a) (unlaunched_act T starts unlaunched a) at_id' leaves
    by_cases own : a = .loop ⟨id, .poller⟩
    · obtain ⟨⟨m, leaves', fewer⟩, silent⟩ := Link.stepsLeft_pollerNext (l := s.link) leaves
      rw [← passes.poller own] at leaves'
      obtain ⟨silent', x'', m', at_id'', leaves'', fewer'⟩ := later leaves'
      subst own
      refine ⟨?_, x'', m', at_id'', leaves'', ?_⟩
      · rw [polls, trace, pollDeedsOf_self at_id, silent]
        exact silent'
      · rw [List.countP_cons_of_pos (Action.isStepOf_self _)]
        omega
    · have same : x'.poller = x.poller := by
        rcases passes.poller_of_ne own with same | ⟨begins, -⟩
        · exact same
        · -- a poller that a start is to begin is unborn, and does not leave
          rw [PollerPhase.eq_unborn (unlaunched.begins begins at_id)] at leaves
          cases leaves
      rw [← same] at leaves
      obtain ⟨silent', x'', m', at_id'', leaves'', fewer'⟩ := later leaves
      refine ⟨?_, x'', m', at_id'', leaves'', ?_⟩
      · rw [polls, trace, pollDeedsOf_of_ne own]
        exact silent'
      · rw [List.countP_cons_of_neg (Action.isStepOf_of_ne own)]
        exact fewer'

/-- A poller that was stopped queues one command more at most. -/
theorem queued_after_stop (T : Transport σ) (hushed : s.Hushed id) (more : List (Action σ)) :
    (s.polls T id more).countP PollDeed.isQueued ≤ 1 := by
  let budget (s : Scene σ) : Nat := (s.link.sessions[id]?).elim 0 fun x => x.poller.queuesLeft
  refine Nat.le_trans (countP_trace_le (T := T) (Hushed id) budget ?_ more hushed) ?_
  · rintro s a ⟨x, at_id, cancelled⟩
    refine ⟨hushed_act T ⟨x, at_id, cancelled⟩ a, ?_⟩
    obtain ⟨x', at_id', passes⟩ := passes_act T a at_id
    simp only [budget, at_id, at_id', Option.elim_some]
    by_cases own : a = .loop ⟨id, .poller⟩
    · rw [passes.poller own]
      subst own
      rw [pollDeedsOf_self at_id]
      exact Link.spends_queues (by simp [Session.pollStopped, cancelled])
    · rw [pollDeedsOf_of_ne own, List.countP_nil, Nat.zero_add]
      rcases passes.poller_of_ne own with same | ⟨-, begun⟩
      · exact Nat.le_of_eq (congrArg PollerPhase.queuesLeft same)
      · rw [begun]
        exact Nat.zero_le _
  · simp only [budget]
    cases s.link.sessions[id]? with
    | none => exact Nat.zero_le 1
    | some x => exact x.poller.queuesLeft_le_one

/-- A stop of the polling that returns has cancelled the poller of the current session. -/
theorem hushed_of_stopped (T : Transport σ) {number : Nat} (known : id < s.link.sessions.length)
    (at_number : s.calls[number]? = some (.stopPolling false)) (current : s.link.current = some id)
    (returned : (s.act T (.call number)).calls[number]? = some (.stopPolling true)) :
    (s.act T (.call number)).Hushed id := by
  have bound := (List.getElem?_eq_some_iff.1 at_number).1
  rw [act_call T at_number] at returned ⊢
  rw [List.getElem?_set_self bound] at returned
  replace returned := Option.some.inj returned
  simp only [Call.step] at returned
  split at returned
  · cases returned
  · rename_i unlocked
    have stepped : ((Call.stopPolling false).step T s.link).2 = s.link.hush id := by
      simp only [Call.step, if_neg unlocked, Link.cancelPolling, current]
      rfl
    rw [stepped]
    exact ⟨_, Link.session_update (List.getElem?_eq_getElem known), rfl⟩

/-- What a poller does with its commands.  Its cycles are told as they happen: a cycle is told as
reported when its event is reported, and what is told as queued comes behind the queue that accepts
frames, and nothing else does.

* When nothing else moves, a cycle of a session that accepts frames and is not cancelled queues the
  first commands, as many as there is room for, or none while an exchange is outstanding; the others
  are left out, and the mark of the exchange stays as it is.
* Whatever else moves, a cycle that is reported has queued as many commands as it says, in their
  order, and what it says together is the count of all.
* A poller that finds itself cancelled, or finds no queue, is not told of any more, and ends within
  four of its own steps.
* Once a stop of the polling has returned, the poller of that session queues one command more at
  most. -/
theorem cycles_accounted (T : Transport σ) (options : LinkOptions) (device : σ) (now : Nat)
    (actions : List (Action σ)) (reached : (fresh options device now).run T actions = s) :
    (∀ a : Action σ, ∃ new, (s.act T a).link.events = s.link.events ++ new ∧
      ∀ offered skipped elapsed, .polled offered skipped elapsed ∈ new ↔
        ∃ id, .reported offered skipped elapsed ∈ pollDeedsOf id a s) ∧
    (∀ (id k : Nat) (y : Session), s.link.sessions[k]? = some y →
      ∃ y', (s.act T (.loop ⟨id, .poller⟩)).link.sessions[k]? = some y' ∧
        y'.queue = y.queue ++ if s.link.outbox = some k
          then (pollDeedsOf id (.loop ⟨id, .poller⟩) s).filterMap PollDeed.queued? else []) ∧
    (∀ (id next : Nat) (x : Session), s.link.sessions[id]? = some x → x.poller = .copy next →
      s.link.outbox = some id → x.isDeaf = false → x.pollStopped = false →
        ∃ count, (s.run T (List.replicate count (.loop ⟨id, .poller⟩))).link =
          s.link.inCycle id (s.link.commands.take (s.link.room s.link.commands.length x))
            (.settle ⟨next, s.link.now, [], s.link.room s.link.commands.length x,
              s.link.commands.length - s.link.room s.link.commands.length x⟩
              (Timer.after s.link.options.interFrameDelay.nanoseconds s.link.now))) ∧
    (∀ (id offered skipped elapsed : Nat) (before after : List PollDeed),
      (fresh options device now).polls T id actions =
        before ++ .reported offered skipped elapsed :: after →
          ∃ (earlier : List PollDeed) (commands queued : List Frame),
            before = earlier ++ .copied commands :: queued.map .queued ∧
              queued.Sublist commands ∧ queued.length = offered ∧
                offered + skipped = commands.length) ∧
    (∀ (id : Nat) (x : Session) (more : List (Action σ)), s.link.sessions[id]? = some x →
      s.link.dismisses x →
        s.polls T id (.loop ⟨id, .poller⟩ :: more) = [] ∧
          (4 ≤ more.countP (Action.isStepOf ⟨id, .poller⟩) →
            ∃ x', (s.run T (.loop ⟨id, .poller⟩ :: more)).link.sessions[id]? = some x' ∧
              x'.poller = .gone)) ∧
    ∀ (number id : Nat) (more : List (Action σ)),
      s.calls[number]? = some (.stopPolling false) → s.link.current = some id →
        (s.act T (.call number)).calls[number]? = some (.stopPolling true) →
          ((s.act T (.call number)).polls T id more).countP PollDeed.isQueued ≤ 1 := by
  have sound := sound_run T options device now actions
  have unlaunched := unlaunched_run T .poller options device now actions
  rw [reached] at sound unlaunched
  refine ⟨fun a => ⟨eventsOf a s, events_act_eq T a s, fun _ _ _ => polled_mem_eventsOf_iff⟩,
    fun id k y => queue_act_poller T id, fun id next x => cycle_alone T, ?_, ?_, ?_⟩
  · intro id offered skipped elapsed before after told
    exact reported_cycle (by rintro x ⟨⟩) told
  · intro id x more at_id dismisses
    obtain ⟨x', at_id', passes⟩ := passes_act T (.loop ⟨id, .poller⟩) at_id
    have leaves : x'.poller.stepsLeft? = some 4 := by
      rw [passes.poller rfl, Link.pollerNext_of_dismisses dismisses]
      rfl
    obtain ⟨silent, x'', m, at_id'', left, fewer⟩ := leaves_run T
      (startsApart_act T sound.starts _) (unlaunched_act T sound.starts unlaunched _) at_id' leaves more
    refine ⟨?_, fun enough => ⟨x'', at_id'', ?_⟩⟩
    · rw [polls, trace, pollDeedsOf_self at_id, Link.pollDeeds_of_dismisses dismisses]
      exact silent
    · obtain rfl : m = 0 := by omega
      exact PollerPhase.eq_gone_of_stepsLeft? left
  · intro number id more at_number current returned
    have known := sound.sealed.current id current
    rw [outline, Link.outline, List.length_map] at known
    exact queued_after_stop T (hushed_of_stopped T known at_number current returned) more

/-- The poller of a link with two commands and room for one frame begins a cycle, when a stop of the
polling is called. -/
def cycleBegun : List (Action Device) :=
  pollingTwice ++ [.loop ⟨0, .poller⟩, .make .stopPolling]

/-- Or it goes through its cycle first. -/
def cycleReported : List (Action Device) :=
  pollingTwice ++ List.replicate 9 (.loop ⟨0, .poller⟩) ++
    .clock 6000000000 :: List.replicate 2 (.loop ⟨0, .poller⟩) ++ [.make .stopPolling, .call 1]

/-- Alone the poller queues the first command and leaves the second out, and so it does if it is
stopped after that. -/
theorem cycles_accounted_stopped :
    (∃ count deadline, (((fresh polling { } 0).run Device.transport cycleBegun).run Device.transport
        (List.replicate count (.loop ⟨0, .poller⟩))).link =
      ((fresh polling { } 0).run Device.transport cycleBegun).link.inCycle 0 [[9]]
        (.settle ⟨10000000000, 5000000000, [], 1, 1⟩ deadline)) ∧
    ((((fresh polling { } 0).run Device.transport cycleBegun).act Device.transport
        (.call 1)).polls Device.transport 0
      (List.replicate 7 (.loop ⟨0, .poller⟩))).countP PollDeed.isQueued ≤ 1 ∧
    (∃ queued : List Frame, queued.Sublist [[9], [8]] ∧ queued.length = 1) ∧
    ∃ x', (((fresh polling { } 0).run Device.transport cycleReported).run Device.transport
        (.loop ⟨0, .poller⟩ :: List.replicate 4 (.loop ⟨0, .poller⟩))).link.sessions[0]? =
      some x' ∧ x'.poller = .gone := by
  obtain ⟨-, -, alone, -, -, stopped⟩ :=
    cycles_accounted Device.transport polling { } 0 cycleBegun rfl
  obtain ⟨-, -, -, reported, dismissed, -⟩ :=
    cycles_accounted Device.transport polling { } 0 cycleReported rfl
  obtain ⟨count, queues⟩ := alone 0 10000000000 _ rfl (by decide +kernel) rfl rfl rfl
  have told : (fresh polling { } 0).polls Device.transport 0 cycleReported =
      [.copied [[9], [8]], .queued [9]] ++ .reported 1 1 1000000000 :: [] := by
    decide +kernel
  obtain ⟨earlier, commands, queued, before, sublist, offered, -⟩ :=
    reported 0 1 1 1000000000 _ _ told
  have copied : commands = [[9], [8]] := by
    match earlier, queued, offered, before with
    | [], [_], _, before => exact (PollDeed.copied.inj (List.cons.inj before).1).symm
    | _ :: earlier, [_], _, before =>
      have lengths := congrArg List.length before
      simp at lengths
  rw [copied] at sublist
  refine ⟨⟨count, _, queues⟩, ?_, ⟨queued, sublist, offered⟩, ?_⟩
  · exact stopped 1 0 (List.replicate 7 (.loop ⟨0, .poller⟩)) rfl rfl rfl
  · exact (dismissed 0 _ (List.replicate 4 (.loop ⟨0, .poller⟩)) rfl rfl).2 (by decide +kernel)

end Scene

end FieldLink
