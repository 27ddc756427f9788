import FieldLink.Proofs.Link.LedgerRuns
import FieldLink.Proofs.Link.Usage

/-!
# What becomes of a frame

Every frame that a session accepts is settled, in hand or queued, in the order of acceptance, and
what is left when the writer has gone is left for good (`frames_accounted`).
-/

namespace FieldLink

namespace Link

variable {σ : Type}

theorem enqueue_of_hears {id : Nat} {x : Session} {l : Link σ} (outbox : l.outbox = some id)
    (at_id : l.sessions[id]? = some x) (hears : x.isDeaf = false) (frame : Frame) :
    l.enqueue frame =
      if l.options.queueCapacity.toNat ≤ x.queue.length then (.error .busy, l)
      else (.ok (), l.update id fun s => { s with queue := s.queue ++ [frame] }) := by
  simp [enqueue, outbox, at_id, hears]

/-- A queue that frames are taken from refuses a frame if and only if it is full. -/
theorem enqueue_eq_busy_iff {id capacity : Nat} {x : Session} {l : Link σ}
    (outbox : l.outbox = some id) (at_id : l.sessions[id]? = some x) (hears : x.isDeaf = false)
    (room : x.queue.length ≤ capacity) (capacity_eq : l.options.queueCapacity.toNat = capacity)
    (frame : Frame) : (l.enqueue frame).1 = .error .busy ↔ x.queue.length = capacity := by
  rw [enqueue_of_hears outbox at_id hears, capacity_eq]
  by_cases full : capacity ≤ x.queue.length
  · rw [if_pos full]
    exact ⟨fun _ => by omega, fun _ => rfl⟩
  · rw [if_neg full]
    refine ⟨by rintro ⟨⟩, fun h => ?_⟩
    omega

theorem run_of_result (T : Transport σ) (limit : Nat) {c : Call} (l : Link σ)
    (finished : c.result?.isSome) : c.run T limit l = (c, l) := by
  cases limit with
  | zero => rfl
  | succ limit => rw [Call.run, if_pos (by simp [finished])]

theorem run_succ (T : Transport σ) (limit : Nat) {c : Call} (l : Link σ) (result : c.result? = none)
    (goes : c.waits l = false) :
    c.run T (limit + 1) l = (c.step T l).1.run T limit (c.step T l).2 := by
  rw [Call.run, if_neg (by simp [result, goes])]

/-- What a send returns that is not interrupted. -/
theorem result_run_send (T : Transport σ) (frame : Frame) (l : Link σ) :
    ((Call.send frame .mark).run T Call.stepLimit l).1.result? =
      some (({ l with sending := true } : Link σ).enqueue frame).1 := by
  have mark : (Call.send frame .mark).step T l =
      (.send frame (.queue l.sending), { l with sending := true }) := rfl
  rw [Call.stepLimit, run_succ T 31 l rfl rfl, mark, run_succ T 30 _ rfl rfl]
  rcases result : ({ l with sending := true } : Link σ).enqueue frame with ⟨e | _, l'⟩
  · have queue : (Call.send frame (.queue l.sending)).step T { l with sending := true } =
        (.send frame (.restore l.sending e), l') := by
      simp [Call.step, sendStep, result]
    rw [queue, run_succ T 29 _ rfl rfl, run_of_result T 29 _ rfl]
    rfl
  · have queue : (Call.send frame (.queue l.sending)).step T { l with sending := true } =
        (.send frame (.done (.ok ())), l') := by
      simp [Call.step, sendStep, result]
    rw [queue, run_of_result T 30 _ rfl]
    rfl

end Link

namespace Scene

variable {σ : Type}

/-- The queue of an open link accepts frames, and its writer is not gone. -/
theorem Orderly.outbox_of_opened {s : Scene σ} (orderly : s.Orderly)
    (opened : s.link.state = .opened) :
    ∃ id x, s.link.outbox = some id ∧ id + 1 = s.link.sessions.length ∧
      s.link.sessions[id]? = some x ∧ x.isDeaf = false := by
  obtain ⟨id, outbox⟩ := Option.isSome_iff_exists.1 (orderly.plugged opened)
  have latest : id + 1 = (s.link.sessions.map Session.standing).length := orderly.outbox id outbox
  rw [List.length_map] at latest
  obtain ⟨x, at_id⟩ : ∃ x, s.link.sessions[id]? = some x :=
    ⟨_, List.getElem?_eq_getElem (by omega)⟩
  refine ⟨id, x, outbox, latest, at_id, ?_⟩
  by_contra deaf
  have gone : x.standing.stage .writer = .gone := by
    cases writer : x.writer <;> simp_all [Session.isDeaf, Standing.stage, Session.standing,
      WriterPhase.stage]
  have past : x.standing.Unplugged := .inr ⟨.writer, by decide, by rw [gone]; rfl⟩
  have at_standing : s.outline.sessions[id]? = some x.standing := Link.standing_at at_id
  exact (orderly.keeps id _ at_standing).unplugged past outbox

theorem run_append (T : Transport σ) (first rest : List (Action σ)) (s : Scene σ) :
    s.run T (first ++ rest) = (s.run T first).run T rest := List.foldl_append

theorem moves_run {T : Transport σ} {ready : Scene σ → Prop} {actions : List (Action σ)}
    (plain : ∀ a ∈ actions, a ≠ .make .start) (s : Scene σ) :
    Relation.ReflTransGen (Move T ready) s (s.run T actions) := by
  induction actions generalizing s with
  | nil => exact .refl
  | cons a actions ih =>
    exact .head (.act a (plain a (.head _))) (ih (fun b h => plain b (.tail _ h)) (s.act T a))

/-- Whatever happens on a link, in any order:

* What a session has accepted is what was settled, at most one frame in hand, and what is queued.
  The queue is never longer than the options allow.
* What was settled is what the events say, and a session writes a frame only when all that it
  accepted before are settled.
* When the writer of a session is gone, what was settled is the beginning of what was accepted, and
  whatever happens then, no frame of the session is accepted, taken, written or settled any more.
* In an orderly use, when the link is open, a frame is refused as the link is busy if and only if
  the queue is full. -/
theorem frames_accounted (T : Transport σ) (options : LinkOptions) (device : σ) (now : Nat)
    (actions : List (Action σ)) {s : Scene σ}
    (reached : s = (fresh options device now).run T actions) :
    (∀ (id : Nat) (x : Session), s.link.sessions[id]? = some x →
      (∃ hand, x.writer.Holds hand ∧ hand.length ≤ 1 ∧ s.taken id = s.settled id ++ hand ∧
        s.accepted id = s.settled id ++ hand ++ x.queue) ∧
      x.queue.length ≤ options.queueCapacity.toNat) ∧
    s.link.events = s.notes.filterMap Note.event? ∧
    (∀ (id : Nat) (frame : Frame) (before : List Note), before ++ [.wrote id frame] <+: s.notes →
      before.filterMap (Note.settled? id) ++ [frame] <+: before.filterMap (Note.accepted? id)) ∧
    (∀ (id : Nat) (x : Session), s.link.sessions[id]? = some x → x.isDeaf →
      s.settled id <+: s.accepted id ∧
      ∀ more : List (Action σ), (s.run T more).accepted id = s.accepted id ∧
        (s.run T more).taken id = s.taken id ∧ (s.run T more).wrote id = s.wrote id ∧
        (s.run T more).settled id = s.settled id) ∧
    (Relation.ReflTransGen (Move T fun _ => True) (fresh options device now) s →
      s.link.state = .opened → ∃ (id : Nat) (x : Session), id + 1 = s.link.sessions.length ∧
        s.link.sessions[id]? = some x ∧ ∀ frame : Frame,
          (((Call.send frame .mark).run T Call.stepLimit s.link).1.result? =
            some (.error .busy) ↔ x.queue.length = options.queueCapacity.toNat) ∧
          ∀ before : Bool, (s.link.sendStep frame (.queue before)).1 = .restore before .busy ↔
            x.queue.length = options.queueCapacity.toNat) := by
  have kept : Kept options.queueCapacity.toNat s := by
    rw [reached]
    exact (kept_fresh options device now).run T actions
  refine ⟨?_, kept.events, kept.ledger.inTurn, ?_, ?_⟩
  · intro id x at_id
    have shelf := Link.shelf_at at_id
    obtain ⟨hand, holds, taken, accepted⟩ := kept.ledger.balance id _ shelf
    refine ⟨⟨hand, holds, holds.length_le, taken, ?_⟩, ?_⟩
    · rw [taken] at accepted
      exact accepted
    · exact kept.ledger.room _ (List.mem_of_getElem? shelf)
  · intro id x at_id deaf
    have shelf := Link.shelf_at at_id
    obtain ⟨hand, holds, taken, accepted⟩ := kept.ledger.balance id _ shelf
    refine ⟨⟨hand ++ x.queue, ?_⟩, fun more => ?_⟩
    · rw [taken, List.append_assoc] at accepted
      exact accepted.symm
    · obtain ⟨-, new, notes, apart⟩ := kept.run_of_isDeaf T more shelf deaf
      simp only [Scene.accepted, Scene.taken, Scene.wrote, Scene.settled, notes]
      exact ⟨filterMap_accepted?_append apart, filterMap_taken?_append apart,
        filterMap_wrote?_append apart, filterMap_settled?_append apart⟩
  · intro moves opened
    have orderly := (orderly_fresh options device now).moves moves
    obtain ⟨id, x, outbox, latest, at_id, hears⟩ := orderly.outbox_of_opened opened
    have room : x.queue.length ≤ options.queueCapacity.toNat :=
      kept.ledger.room _ (List.mem_of_getElem? (Link.shelf_at at_id))
    refine ⟨id, x, latest, at_id, fun frame => ?_⟩
    have busy := Link.enqueue_eq_busy_iff outbox at_id hears room kept.capacity_eq frame
    refine ⟨?_, fun before => ?_⟩
    · rw [Link.result_run_send, Option.some.injEq]
      exact Link.enqueue_eq_busy_iff (l := { s.link with sending := true }) outbox at_id hears room
        kept.capacity_eq frame
    · rw [← busy]
      simp only [Link.sendStep]
      rcases s.link.enqueue frame with ⟨e | _, l'⟩ <;> simp

/-- A queue with room for one frame is full after one send. -/
theorem frames_accounted_full :
    (rehearsal.run Device.transport [.make (.send [1]), .call 1, .call 1]).accepted 0 = [[1]] ∧
      ((Call.send [2] .mark).run Device.transport Call.stepLimit
        (rehearsal.run Device.transport [.make (.send [1]), .call 1, .call 1]).link).1.result? =
          some (.error .busy) := by
  have start : Move Device.transport (fun _ => True) (fresh rehearsed { } 0) rehearsal :=
    .start (by rintro _ ⟨⟩) trivial rehearsal_stretch
  have plain : ∀ a ∈ ([.make (.send [1]), .call 1, .call 1] : List (Action Device)),
      a ≠ .make .start := by
    simp
  have reached : rehearsal.run Device.transport [.make (.send [1]), .call 1, .call 1] =
      (fresh rehearsed { } 0).run Device.transport
        (.make .start :: List.replicate 16 (.call 0) ++ [.make (.send [1]), .call 1, .call 1]) :=
    (run_append Device.transport _ _ _).symm
  obtain ⟨-, -, -, -, busy⟩ := frames_accounted Device.transport rehearsed { } 0 _ reached
  obtain ⟨id, x, latest, at_id, busy⟩ :=
    busy (.trans (.single start) (moves_run plain rehearsal)) rfl
  obtain rfl : id = 0 := Nat.succ.inj latest
  obtain rfl := Option.some.inj at_id
  exact ⟨rfl, (busy [2]).1.2 rfl⟩

end Scene

end FieldLink
