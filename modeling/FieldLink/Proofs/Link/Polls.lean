import FieldLink.Proofs.Link.Effects

/-!
# Cycles of polls

What others can tell of a poller is when it takes a copy of the commands, which of them it queues, and
the counts that it reports (`Scene.polls`).  `PollerPhase.Follows` ties the phase of a poller to what
was told of it: since the copy, the commands that it has passed are those that it queued, in order,
and those that it counts as left out.  So a cycle that is reported has accounted for every command
(`Scene.reported_cycle`).
-/

namespace FieldLink

/-- What others can tell of a poller. -/
inductive PollDeed where
  /-- It takes a copy of the commands. -/
  | copied (commands : List Frame)
  | queued (command : Frame)
  | reported (offered skipped elapsed : Nat)
  deriving DecidableEq, Repr

/-- The command that was queued. -/
def PollDeed.queued? : PollDeed → Option Frame
  | queued command => some command
  | _ => none

namespace Link

variable {σ : Type}

/-- What can be told of the next step of a poller. -/
def pollDeeds (x : Session) (l : Link σ) : List PollDeed :=
  match x.poller with
  | .copy _ => [.copied l.commands]
  | .offer cycle =>
    (cycle.left.head?.filter fun command => (l.taker? command).isSome).toList.map .queued
  | .report cycle => [.reported cycle.offered cycle.skipped (l.now - cycle.started)]
  | _ => []

end Link

/-! ## What a cycle has done -/

/-- Since the copy of the commands, the poller has passed those that are not left: some it queued, and
the others it counts as left out. -/
def PollCycle.Follows (deeds : List PollDeed) (cycle : PollCycle) : Prop :=
  ∃ (earlier : List PollDeed) (passed queued : List Frame),
    deeds = earlier ++ .copied (passed ++ cycle.left) :: queued.map .queued ∧
      queued.Sublist passed ∧ queued.length = cycle.offered ∧
        cycle.offered + cycle.skipped = passed.length

namespace PollCycle

variable {deeds : List PollDeed} {cycle : PollCycle} {command : Frame} {left : List Frame}

theorem follows_copied (deeds : List PollDeed) (commands : List Frame) (next started : Nat) :
    Follows (deeds ++ [.copied commands]) ⟨next, started, commands, 0, 0⟩ :=
  ⟨deeds, [], [], rfl, List.Sublist.refl _, rfl, rfl⟩

theorem Follows.skip (follows : cycle.Follows deeds) (more : cycle.left = command :: left) :
    Follows deeds { cycle with left, skipped := cycle.skipped + 1 } := by
  obtain ⟨earlier, passed, queued, told, sublist, offered, count⟩ := follows
  refine ⟨earlier, passed ++ [command], queued, ?_, ?_, offered, ?_⟩
  · rw [told, more, List.append_assoc]
    rfl
  · exact sublist.trans (List.sublist_append_left passed [command])
  · rw [List.length_append, ← count]
    rfl

theorem Follows.queue (follows : cycle.Follows deeds) (more : cycle.left = command :: left) :
    Follows (deeds ++ [.queued command]) { cycle with left, offered := cycle.offered + 1 } := by
  obtain ⟨earlier, passed, queued, told, sublist, offered, count⟩ := follows
  refine ⟨earlier, passed ++ [command], queued ++ [command], ?_, ?_, ?_, ?_⟩
  · simp [told, more]
  · exact sublist.append (List.Sublist.refl _)
  · rw [List.length_append, offered]
    rfl
  · rw [List.length_append, ← count]
    exact Nat.add_right_comm ..

end PollCycle

/-- Whether a poller may be in a phase after what was told of it. -/
def PollerPhase.Follows (deeds : List PollDeed) : PollerPhase → Prop
  | look cycle => cycle.Follows deeds
  | ask cycle | offer cycle => cycle.Follows deeds ∧ cycle.left ≠ []
  | settle cycle _ | report cycle => cycle.Follows deeds ∧ cycle.left = []
  | _ => True

namespace Link

variable {σ : Type} {l : Link σ} {x : Session} {deeds : List PollDeed}

/-- The next phase of a poller follows from what was told before, and is told of its step. -/
theorem follows_pollerNext (follows : x.poller.Follows deeds) :
    (l.pollerNext x).Follows (deeds ++ l.pollDeeds x) := by
  unfold pollerNext pollDeeds
  cases poller : x.poller with
  | unborn | gone | broken => trivial
  | begin => simp only; split <;> trivial
  | wait next =>
    simp only
    split
    · trivial
    · split <;> trivial
  | copy next => exact PollCycle.follows_copied deeds l.commands next l.now
  | look cycle =>
    rw [poller] at follows
    rw [List.append_nil]
    cases left : cycle.left with
    | nil =>
      simp only [left]
      exact ⟨follows, left⟩
    | cons command rest =>
      simp only [left]
      split
      · trivial
      · exact ⟨follows, by simp [left]⟩
  | ask cycle =>
    rw [poller] at follows
    obtain ⟨follows, some_left⟩ := follows
    rw [List.append_nil]
    simp only
    split
    · cases left : cycle.left with
      | nil => exact absurd left some_left
      | cons command rest => exact follows.skip left
    · exact ⟨follows, some_left⟩
  | offer cycle =>
    rw [poller] at follows
    obtain ⟨follows, some_left⟩ := follows
    cases left : cycle.left with
    | nil => exact absurd left some_left
    | cons command rest =>
      rcases l.enqueue_cases command with ⟨e, result, refused⟩ | ⟨k, y, -, -, -, -, result, taker⟩
      · have none : Option.filter (fun c => (l.taker? c).isSome) (some command) = none := by
          simp [Option.filter, refused]
        simp only [left, result, List.head?_cons, none, Option.toList_none, List.map_nil,
          List.append_nil]
        cases e with
        | busy => exact follows.skip left
        | _ => trivial
      · have one : Option.filter (fun c => (l.taker? c).isSome) (some command) = some command := by
          simp [Option.filter, taker]
        simp only [left, result, List.head?_cons, one, Option.toList_some, List.map_cons,
          List.map_nil]
        exact follows.queue left
  | settle cycle deadline =>
    rw [poller] at follows
    rw [List.append_nil]
    simp only
    split
    · trivial
    · split
      · exact follows
      · exact follows
  | report cycle => trivial
  | leave phase =>
    simp only
    cases (l.leaveStep phase).1 <;> trivial

/-! ## Queues -/

theorem queue_pollerTo {k : Nat} {y : Session} (id : Nat) (phase : PollerPhase)
    (at_k : l.sessions[k]? = some y) :
    ∃ y', (l.pollerTo id phase).sessions[k]? = some y' ∧ y'.queue = y.queue := by
  by_cases own : k = id
  · subst own
    exact ⟨_, session_update at_k, rfl⟩
  · exact ⟨y, (session_update_of_ne own).trans at_k, rfl⟩

/-- A step of a poller puts what is told as queued behind the queue that accepts frames. -/
theorem queue_pollerStep {k id : Nat} {y : Session} (x : Session) (l : Link σ)
    (at_k : l.sessions[k]? = some y) :
    ∃ y', (l.pollerStep id x).sessions[k]? = some y' ∧
      y'.queue = y.queue ++ if l.outbox = some k
        then (l.pollDeeds x).filterMap PollDeed.queued? else [] := by
  have still (phase : PollerPhase) : ∃ y', (l.pollerTo id phase).sessions[k]? = some y' ∧
      y'.queue = y.queue ++ if l.outbox = some k then [] else [] := by
    obtain ⟨y', at_k', same⟩ := queue_pollerTo id phase at_k
    exact ⟨y', at_k', by rw [same, ite_self, List.append_nil]⟩
  unfold pollerStep pollDeeds
  cases poller : x.poller with
  | unborn | gone | broken => exact ⟨y, at_k, by simp⟩
  | begin | wait | look | ask | settle => exact still _
  | copy next => exact still _
  | report cycle => exact still _
  | leave phase =>
    have sessions : (l.leaveStep phase).2.sessions = l.sessions := by
      obtain ⟨state, liveLoops, events, same⟩ := l.leaveStep_writes phase
      rw [same]
    rw [← sessions] at at_k
    obtain ⟨y', at_k', same⟩ := queue_pollerTo id ((l.leaveStep phase).1.elim .gone .leave) at_k
    exact ⟨y', at_k', by simpa using same⟩
  | offer cycle =>
    cases left : cycle.left with
    | nil =>
      simp only [left]
      exact still _
    | cons command rest =>
      rcases l.enqueue_cases command with
        ⟨e, result, refused⟩ | ⟨j, z, outbox, at_j, -, -, result, taker⟩
      · simp only [left, result, List.head?_cons, Option.filter, refused]
        cases e <;> exact still _
      · simp only [left, result, List.head?_cons, Option.filter, taker, outbox]
        by_cases own : k = j
        · subst own
          obtain rfl := Option.some.inj (at_k.symm.trans at_j)
          have pushed : (l.update k fun s => { s with queue := s.queue ++ [command] }).sessions[k]? =
              some { y with queue := y.queue ++ [command] } := session_update at_k
          obtain ⟨y', at_k', same⟩ := queue_pollerTo id
            (.look { cycle with left := rest, offered := cycle.offered + 1 }) pushed
          exact ⟨y', at_k', by simpa [PollDeed.queued?] using same⟩
        · have same := (session_update_of_ne (f := fun s => { s with queue := s.queue ++ [command] })
            (l := l) own).trans at_k
          obtain ⟨y', at_k', same⟩ := queue_pollerTo id
            (.look { cycle with left := rest, offered := cycle.offered + 1 }) same
          exact ⟨y', at_k', by simpa [Ne.symm own] using same⟩

end Link

/-! ## Runs -/

namespace Scene

variable {σ : Type} {T : Transport σ} {s : Scene σ} {id : Nat} {x : Session}

/-- What can be told of the poller of a session when an action is taken. -/
def pollDeedsOf (id : Nat) : Action σ → Scene σ → List PollDeed
  | .loop ⟨k, .poller⟩, s =>
    if k = id then s.link.sessions[id]?.toList.flatMap s.link.pollDeeds else []
  | _, _ => []

/-- What can be told of the poller of a session in a run. -/
def polls (T : Transport σ) (id : Nat) (actions : List (Action σ)) (s : Scene σ) :
    List PollDeed :=
  trace T (pollDeedsOf id) actions s

theorem pollDeedsOf_self (at_id : s.link.sessions[id]? = some x) :
    pollDeedsOf id (.loop ⟨id, .poller⟩) s = s.link.pollDeeds x := by
  simp [pollDeedsOf, at_id]

theorem pollDeedsOf_of_ne {a : Action σ} (ne : a ≠ .loop ⟨id, .poller⟩) (s : Scene σ) :
    pollDeedsOf id a s = [] := by
  unfold pollDeedsOf
  split
  · split
    · rename_i own
      subst own
      exact absurd rfl ne
    · rfl
  · rfl

theorem length_pollDeedsOf_le (a : Action σ) (s : Scene σ) :
    (pollDeedsOf id a s).length ≤ 1 := by
  by_cases own : a = .loop ⟨id, .poller⟩
  · subst own
    cases at_id : s.link.sessions[id]? with
    | none => simp [pollDeedsOf, at_id]
    | some x =>
      rw [pollDeedsOf_self at_id]
      unfold Link.pollDeeds
      split
      · exact Nat.le_refl 1
      · rename_i cycle _
        cases Option.filter _ cycle.left.head? <;> simp
      · exact Nat.le_refl 1
      · exact Nat.zero_le 1
  · rw [pollDeedsOf_of_ne own]
    exact Nat.zero_le 1

/-- The poller of a session is in a phase that follows from what was told of it. -/
def Follows (id : Nat) (deeds : List PollDeed) (s : Scene σ) : Prop :=
  ∀ x, s.link.sessions[id]? = some x → x.poller.Follows deeds

theorem follows_act {deeds : List PollDeed} (follows : s.Follows id deeds) (a : Action σ) :
    (s.act T a).Follows id (deeds ++ pollDeedsOf id a s) := by
  intro x' at_id'
  rcases session_act_cases T a at_id' with ⟨x, at_id, passes⟩ | ⟨-, rfl⟩
  · by_cases own : a = .loop ⟨id, .poller⟩
    · rw [passes.poller own]
      subst own
      rw [pollDeedsOf_self at_id]
      exact Link.follows_pollerNext (follows x at_id)
    · rw [pollDeedsOf_of_ne own, List.append_nil]
      rcases passes.poller_of_ne own with same | ⟨-, begun⟩
      · rw [same]
        exact follows x at_id
      · rw [begun]
        trivial
  · trivial

theorem follows_run {deeds : List PollDeed} (actions : List (Action σ))
    (follows : s.Follows id deeds) : (s.run T actions).Follows id (deeds ++ s.polls T id actions) := by
  induction actions generalizing s deeds with
  | nil =>
    rw [polls, trace, List.append_nil]
    exact follows
  | cons a actions ih =>
    have later := ih (follows_act (T := T) follows a)
    rw [List.append_assoc] at later
    exact later

/-- A cycle that is reported has accounted for every command of its copy. -/
theorem reported_cycle {actions : List (Action σ)} {before after : List PollDeed}
    {offered skipped elapsed : Nat} (follows : s.Follows id [])
    (told : s.polls T id actions = before ++ .reported offered skipped elapsed :: after) :
    ∃ (earlier : List PollDeed) (commands queued : List Frame),
      before = earlier ++ .copied commands :: queued.map .queued ∧
        queued.Sublist commands ∧ queued.length = offered ∧
          offered + skipped = commands.length := by
  obtain ⟨first, a, later, rfl, shown, rest⟩ :=
    trace_eq_append_cons (fun a s => length_pollDeedsOf_le a s) told
  -- what was told before the report is what was told of the actions before it
  have split : s.polls T id first = before := by
    have parts : trace T (pollDeedsOf id) (first ++ a :: later) s =
        trace T (pollDeedsOf id) first s ++ trace T (pollDeedsOf id) (a :: later) (s.run T first) :=
      trace_append first (a :: later) s
    rw [show trace T (pollDeedsOf id) (first ++ a :: later) s =
      before ++ .reported offered skipped elapsed :: after from told, trace, shown, rest] at parts
    exact (List.append_cancel_right parts).symm
  have own : a = .loop ⟨id, .poller⟩ := by
    by_contra ne
    rw [pollDeedsOf_of_ne ne] at shown
    cases shown
  subst own
  cases at_id : (s.run T first).link.sessions[id]? with
  | none => simp [pollDeedsOf, at_id] at shown
  | some x =>
    have phase := follows_run (T := T) first follows x at_id
    rw [List.nil_append, split] at phase
    rw [pollDeedsOf_self at_id, Link.pollDeeds] at shown
    cases poller : x.poller with
    | report cycle =>
      rw [poller] at phase shown
      obtain ⟨⟨earlier, passed, queued, so_far, sublist, count, total⟩, none_left⟩ := phase
      rw [none_left, List.append_nil] at so_far
      cases shown
      exact ⟨earlier, passed, queued, so_far, sublist, count, total⟩
    | offer cycle =>
      rw [poller] at shown
      cases left : cycle.left with
      | nil => simp [left] at shown
      | cons command rest =>
        by_cases taken : (s.run T first).link.taker? command = none <;>
          simp [left, Option.filter, taken] at shown
    | _ =>
      rw [poller] at shown
      cases shown

/-! ## What is told, and what happens -/

/-- A cycle is told as reported when the event of the cycle is reported. -/
theorem polled_mem_eventsOf_iff {a : Action σ} {offered skipped elapsed : Nat} :
    .polled offered skipped elapsed ∈ eventsOf a s ↔
      ∃ id, .reported offered skipped elapsed ∈ pollDeedsOf id a s := by
  constructor
  · intro member
    obtain ⟨id, rfl⟩ := loop_of_mem_eventsOf member rfl
    obtain ⟨x, at_id, member⟩ := List.mem_flatMap.1 member
    replace at_id := Option.mem_toList.1 at_id
    refine ⟨id, ?_⟩
    rw [pollDeedsOf_self at_id, Link.pollDeeds]
    cases poller : x.poller with
    | report cycle =>
      rw [poller] at member
      cases List.mem_singleton.1 member
      exact List.mem_singleton.2 rfl
    | leave phase =>
      rw [poller] at member
      cases phase with
      | report => cases List.mem_singleton.1 member
      | count | judge | finish => cases member
    | _ =>
      rw [poller] at member
      cases member
  · rintro ⟨id, member⟩
    have own : a = .loop ⟨id, .poller⟩ := by
      by_contra ne
      rw [pollDeedsOf_of_ne ne] at member
      cases member
    subst own
    cases at_id : s.link.sessions[id]? with
    | none => simp [pollDeedsOf, at_id] at member
    | some x =>
      rw [pollDeedsOf_self at_id, Link.pollDeeds] at member
      simp only [eventsOf, at_id, Option.toList_some, List.flatMap_cons, List.flatMap_nil,
        List.append_nil]
      cases poller : x.poller with
      | report cycle =>
        rw [poller] at member
        cases List.mem_singleton.1 member
        exact List.mem_singleton.2 rfl
      | offer cycle =>
        rw [poller] at member
        obtain ⟨command, -, same⟩ := List.mem_map.1 member
        cases same
      | copy next =>
        rw [poller] at member
        cases List.mem_singleton.1 member
      | _ =>
        rw [poller] at member
        cases member

/-- A step of a poller puts what is told as queued behind the queue of the session that accepts
frames, and leaves all else in the queues. -/
theorem queue_act_poller (T : Transport σ) (id : Nat) {k : Nat} {y : Session}
    (at_k : s.link.sessions[k]? = some y) :
    ∃ y', (s.act T (.loop ⟨id, .poller⟩)).link.sessions[k]? = some y' ∧
      y'.queue = y.queue ++ if s.link.outbox = some k
        then (pollDeedsOf id (.loop ⟨id, .poller⟩) s).filterMap PollDeed.queued? else [] := by
  cases at_id : s.link.sessions[id]? with
  | none =>
    rw [act_loop_of_none T at_id]
    exact ⟨y, at_k, by simp [pollDeedsOf, at_id]⟩
  | some x =>
    rw [act_poller T at_id, pollDeedsOf_self at_id]
    exact s.link.queue_pollerStep x at_k

end Scene

end FieldLink
