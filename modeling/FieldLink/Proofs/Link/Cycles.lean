import FieldLink.Proofs.Link.Accounts
import FieldLink.Proofs.Link.Phases

/-!
# A cycle of the poller, undisturbed

A poller that goes through its commands while nothing else moves queues the first of them, as many as
the queue has room for, or none if an exchange is outstanding, and leaves the others out
(`cycle_alone`).  The induction is on the commands that are left (`Link.looks_alone`), and on the way
`Link.inCycle` keeps what the cycle has changed so far.
-/

namespace FieldLink

namespace Link

variable {σ : Type} {T : Transport σ} {l l' l'' : Link σ} {id : Nat} {x : Session}

/-! ## Steps of one loop -/

/-- One loop alone takes the link to another state. -/
def Alone (T : Transport σ) (p : Place) (l l' : Link σ) : Prop :=
  ∃ count, (step T p)^[count] l = l'

theorem Alone.refl (T : Transport σ) (p : Place) (l : Link σ) : l.Alone T p l := ⟨0, rfl⟩

theorem Alone.step {p : Place} (later : (l.step T p).Alone T p l') : l.Alone T p l' := by
  obtain ⟨count, reached⟩ := later
  exact ⟨count + 1, reached⟩

/-! ## Within a cycle -/

/-- The link when the poller of a session has queued some frames there and come to a phase. -/
def inCycle (id : Nat) (queued : List Frame) (phase : PollerPhase) (l : Link σ) : Link σ :=
  l.update id fun x => { x with queue := x.queue ++ queued, poller := phase }

/-- How many of `count` frames go into the queue of the session `x`. -/
def room (count : Nat) (x : Session) (l : Link σ) : Nat :=
  if l.sending then 0 else min count (l.options.queueCapacity.toNat - x.queue.length)

theorem session_inCycle (at_id : l.sessions[id]? = some x) (queued : List Frame)
    (phase : PollerPhase) : (l.inCycle id queued phase).sessions[id]? =
      some { x with queue := x.queue ++ queued, poller := phase } :=
  session_update at_id

theorem pollerTo_inCycle (queued : List Frame) (phase phase' : PollerPhase) :
    (l.inCycle id queued phase).pollerTo id phase' = l.inCycle id queued phase' :=
  update_update ..

theorem inCycle_nil (phase : PollerPhase) : l.pollerTo id phase = l.inCycle id [] phase := by
  simp only [pollerTo, inCycle, List.append_nil]

theorem step_inCycle (at_id : l.sessions[id]? = some x) (queued : List Frame)
    (phase : PollerPhase) : (l.inCycle id queued phase).step T ⟨id, .poller⟩ =
      (l.inCycle id queued phase).pollerStep id
        { x with queue := x.queue ++ queued, poller := phase } := by
  simp only [step, session_inCycle at_id]

section

variable {queued : List Frame} {cycle : PollCycle} {command : Frame} {left : List Frame}

/-- With no command left the poller lets the last exchange finish. -/
theorem look_nil (at_id : l.sessions[id]? = some x) (done : cycle.left = []) :
    (l.inCycle id queued (.look cycle)).step T ⟨id, .poller⟩ =
      l.inCycle id queued
        (.settle cycle (Timer.after l.options.interFrameDelay.nanoseconds l.now)) := by
  simp only [step_inCycle at_id, pollerStep, done, pollerTo_inCycle]
  rfl

/-- An uncancelled poller asks whether it may offer its next command. -/
theorem look_cons (at_id : l.sessions[id]? = some x) (going : x.pollStopped = false)
    (more : cycle.left = command :: left) :
    (l.inCycle id queued (.look cycle)).step T ⟨id, .poller⟩ =
      l.inCycle id queued (.ask cycle) := by
  have uncancelled : ({ x with queue := x.queue ++ queued, poller := .look cycle } :
      Session).pollStopped = false := going
  simp only [step_inCycle at_id, pollerStep, more, uncancelled, pollerTo_inCycle]
  rfl

/-- While an exchange is outstanding it leaves the command out. -/
theorem ask_of_sending (at_id : l.sessions[id]? = some x) (sending : l.sending = true) :
    (l.inCycle id queued (.ask cycle)).step T ⟨id, .poller⟩ =
      l.inCycle id queued
        (.look { cycle with left := cycle.left.tail, skipped := cycle.skipped + 1 }) := by
  have sending' : (l.inCycle id queued (.ask cycle)).sending = true := sending
  simp only [step_inCycle at_id, pollerStep, sending', if_true, pollerTo_inCycle]

theorem ask_of_clear (at_id : l.sessions[id]? = some x) (clear : l.sending = false) :
    (l.inCycle id queued (.ask cycle)).step T ⟨id, .poller⟩ =
      l.inCycle id queued (.offer cycle) := by
  have clear' : (l.inCycle id queued (.ask cycle)).sending = false := clear
  simp only [step_inCycle at_id, pollerStep, clear', Bool.false_eq_true, if_false,
    pollerTo_inCycle]

/-- A full queue leaves the command out as well. -/
theorem offer_of_full (at_id : l.sessions[id]? = some x) (outbox : l.outbox = some id)
    (hears : x.isDeaf = false) (more : cycle.left = command :: left)
    (full : l.options.queueCapacity.toNat ≤ (x.queue ++ queued).length) :
    (l.inCycle id queued (.offer cycle)).step T ⟨id, .poller⟩ =
      l.inCycle id queued (.look { cycle with left, skipped := cycle.skipped + 1 }) := by
  have refused := enqueue_of_hears (l := l.inCycle id queued (.offer cycle)) outbox
    (session_inCycle at_id queued _) hears command
  replace refused := refused.trans (if_pos full)
  simp only [step_inCycle at_id, pollerStep, more, refused, pollerTo_inCycle]

theorem offer_of_room (at_id : l.sessions[id]? = some x) (outbox : l.outbox = some id)
    (hears : x.isDeaf = false) (more : cycle.left = command :: left)
    (room : (x.queue ++ queued).length < l.options.queueCapacity.toNat) :
    (l.inCycle id queued (.offer cycle)).step T ⟨id, .poller⟩ =
      l.inCycle id (queued ++ [command])
        (.look { cycle with left, offered := cycle.offered + 1 }) := by
  have accepted := enqueue_of_hears (l := l.inCycle id queued (.offer cycle)) outbox
    (session_inCycle at_id queued _) hears command
  replace accepted := accepted.trans (if_neg (Nat.not_le.2 room))
  simp only [step_inCycle at_id, pollerStep, more, accepted]
  simp only [inCycle, pollerTo, update_update]
  refine congrArg (l.update id) (funext fun x => ?_)
  simp only [Function.comp, List.append_assoc]

end

/-- From a look at the commands that are left an undisturbed poller comes to let the last exchange
finish. -/
theorem looks_alone (T : Transport σ) (at_id : l.sessions[id]? = some x)
    (outbox : l.outbox = some id) (hears : x.isDeaf = false) (going : x.pollStopped = false)
    (left queued : List Frame) (next started offered skipped : Nat) :
    (l.inCycle id queued (.look ⟨next, started, left, offered, skipped⟩)).Alone T ⟨id, .poller⟩
      (l.inCycle id (queued ++ left.take (l.room left.length { x with queue := x.queue ++ queued }))
        (.settle ⟨next, started, [],
          offered + l.room left.length { x with queue := x.queue ++ queued },
          skipped + (left.length - l.room left.length { x with queue := x.queue ++ queued })⟩
          (Timer.after l.options.interFrameDelay.nanoseconds l.now))) := by
  induction left generalizing queued offered skipped with
  | nil =>
    have none : l.room 0 { x with queue := x.queue ++ queued } = 0 := by
      unfold room
      split <;> simp
    refine .step ?_
    rw [look_nil at_id rfl]
    simpa [none] using Alone.refl T _ _
  | cons command left ih =>
    refine .step ?_
    rw [look_cons at_id going rfl]
    refine .step ?_
    cases sending : l.sending with
    | true =>
      rw [ask_of_sending at_id sending]
      have later := ih queued offered (skipped + 1)
      simp only [room, sending, if_true, List.take_zero, List.append_nil] at later ⊢
      simpa [Nat.add_assoc, Nat.add_comm 1] using later
    | false =>
      rw [ask_of_clear at_id sending]
      refine .step ?_
      by_cases full : l.options.queueCapacity.toNat ≤ (x.queue ++ queued).length
      · rw [offer_of_full at_id outbox hears rfl full]
        have later := ih queued offered (skipped + 1)
        have none : l.options.queueCapacity.toNat - (x.queue ++ queued).length = 0 := by omega
        simp only [room, sending, Bool.false_eq_true, if_false, none,
          Nat.min_zero, List.take_zero, List.append_nil] at later ⊢
        simpa [Nat.add_assoc, Nat.add_comm 1] using later
      · rw [offer_of_room at_id outbox hears rfl (Nat.not_le.1 full)]
        have later := ih (queued ++ [command]) (offered + 1) skipped
        have rest : l.room (command :: left).length { x with queue := x.queue ++ queued } =
            l.room left.length { x with queue := x.queue ++ (queued ++ [command]) } + 1 := by
          simp only [List.length_append] at full
          simp only [room, sending, Bool.false_eq_true, if_false, List.length_append,
            List.length_cons, List.length_nil]
          omega
        rw [rest]
        simpa [Nat.add_assoc, Nat.add_comm 1] using later

end Link

namespace Scene

variable {σ : Type}

theorem link_run_loop (T : Transport σ) (p : Place) (count : Nat) (s : Scene σ) :
    (s.run T (List.replicate count (.loop p))).link = (Link.step T p)^[count] s.link := by
  induction count generalizing s with
  | zero => rfl
  | succ count ih => exact ih (s.act T (.loop p))

/-- When a poller begins a cycle in a session that accepts frames and is not cancelled, and nothing
else moves, it queues the first commands, as many as there is room for, or none while an exchange is
outstanding; it counts those and the others, and changes nothing else. -/
theorem cycle_alone (T : Transport σ) {s : Scene σ} {id next : Nat} {x : Session}
    (at_id : s.link.sessions[id]? = some x) (begins : x.poller = .copy next)
    (outbox : s.link.outbox = some id) (hears : x.isDeaf = false) (going : x.pollStopped = false) :
    ∃ count, (s.run T (List.replicate count (.loop ⟨id, .poller⟩))).link =
      s.link.inCycle id (s.link.commands.take (s.link.room s.link.commands.length x))
        (.settle ⟨next, s.link.now, [], s.link.room s.link.commands.length x,
          s.link.commands.length - s.link.room s.link.commands.length x⟩
          (Timer.after s.link.options.interFrameDelay.nanoseconds s.link.now)) := by
  have first : s.link.step T ⟨id, .poller⟩ =
      s.link.inCycle id [] (.look ⟨next, s.link.now, s.link.commands, 0, 0⟩) := by
    simp only [Link.step, at_id, Link.pollerStep, begins]
    exact Link.inCycle_nil _
  have rest := Link.looks_alone T at_id outbox hears going s.link.commands [] next s.link.now 0 0
  rw [← first] at rest
  obtain ⟨count, reached⟩ := rest.step
  refine ⟨count, ?_⟩
  rw [link_run_loop, reached]
  simp only [List.nil_append, List.append_nil, Nat.zero_add]

end Scene

end FieldLink
