import FieldLink.Proofs.Link.Settling

/-!
# Crowds

In a `Crowd` the calls on a link are made from many tasks: starts, loops and closes take their steps
in any order, any number of closes may be in progress at once, and each of them may be given up while
it awaits the loops.  Only a start waits until no close has taken a session.  The queue of the link
can be made and its polls can be set (`Link.isViable`).

The start that holds on to the current session is alone, and no close has taken a session then
(`Outline.Held`).  Whatever happens, the settled outline is steady (`Crowd.Steady.move`).
-/

namespace FieldLink

/-- Who has told that a session was given up. -/
def Note.fatalEnd? : Note → Option (Option Nat)
  | reported who event => if event.isFatalEnd then some who else none
  | _ => none

/-- Who has told that a session was given up, in order. -/
def Scene.told {σ : Type} (s : Scene σ) : List (Option Nat) := s.notes.filterMap Note.fatalEnd?

/-- Whether a start holds on to the current session. -/
def Call.isInside : Call → Bool
  | start phase => phase.isInside
  | _ => false

/-- Whether the queue of a session can be made, and its polls can be set. -/
def Link.isViable {σ : Type} (l : Link σ) : Bool :=
  l.options.queueCapacity.toNat ≤ maxQueueCapacity &&
    (!l.options.poll || canPollEvery l.options.pollInterval.nanoseconds l.now)

theorem Link.isViable_iff {σ : Type} (l : Link σ) :
    l.isViable ↔ l.options.queueCapacity.toNat ≤ maxQueueCapacity ∧
      (l.options.poll → canPollEvery l.options.pollInterval.nanoseconds l.now) := by
  unfold isViable
  cases l.options.poll <;> simp

/-- A link in use, with the sessions with which a close was given up. -/
structure Crowd (σ : Type) where
  scene : Scene σ
  forsaken : List Nat := []

namespace Crowd

variable {σ : Type}

/-- What may happen next. -/
inductive Move (T : Transport σ) : Crowd σ → Crowd σ → Prop
  /-- Anything happens to a viable link, but a start waits for the closes that have taken a
  session. -/
  | act {c : Crowd σ} (a : Action σ) (viable : c.scene.link.isViable)
      (apart : ∀ number, a = .call number → c.scene.calls[number]? = some (.start .enter) →
        ∀ d ∈ c.scene.calls, ¬d.hasTaken) : Move T c { c with scene := c.scene.act T a }
  /-- A close is given up while it awaits the loops. -/
  | forsake {c : Crowd σ} (number id : Nat)
      (at_number : c.scene.calls[number]? = some (.close (.join id))) :
      Move T c ⟨{ c.scene with calls := c.scene.calls.eraseIdx number }, c.forsaken ++ [id]⟩

end Crowd

/-! ## Who has told -/

theorem Note.fatalEnd?_of_event? {note : Note} (silent : note.event? = none) :
    note.fatalEnd? = none := by
  cases note with
  | reported => cases silent
  | _ => rfl

theorem filterMap_fatalEnd?_eq_nil {notes : List Note}
    (silent : notes.filterMap Note.event? = []) : notes.filterMap Note.fatalEnd? = [] := by
  rw [List.filterMap_eq_nil_iff] at silent ⊢
  exact fun note member => Note.fatalEnd?_of_event? (silent note member)

theorem filterMap_fatalEnd?_eventNotes {σ : Type} (who : Option Nat) (calls calls' : List Call)
    (faults faults' : List Nat) (before after : Link σ) :
    (Link.eventNotes who before after).filterMap Note.fatalEnd? =
      (before.outline calls faults).closings who (after.outline calls' faults') := by
  show ((after.events.drop before.events.length).map _).filterMap _ =
    ((after.events.drop before.events.length).filter LinkEvent.isFatalEnd).map _
  induction after.events.drop before.events.length with
  | nil => rfl
  | cons event events ih =>
    cases fatal : event.isFatalEnd <;> simp [Note.fatalEnd?, fatal, ih]

namespace Scene

variable {σ : Type} {s : Scene σ}

theorem told_act_loop (T : Transport σ) (p : Place) :
    (s.act T (.loop p)).told =
      s.told ++ s.outline.closings (some p.session) (s.act T (.loop p)).outline := by
  show (s.notes ++ (s.link.loopNotes p ++ Link.eventNotes _ s.link (s.link.step T p))).filterMap _ =
    _
  rw [List.filterMap_append, List.filterMap_append,
    filterMap_fatalEnd?_eq_nil (Link.filterMap_event?_loopNotes p s.link), List.nil_append,
    filterMap_fatalEnd?_eventNotes]
  rfl

theorem told_act_call (T : Transport σ) {number : Nat} {c : Call}
    (at_number : s.calls[number]? = some c) :
    (s.act T (.call number)).told =
      s.told ++ s.outline.closings none (s.act T (.call number)).outline := by
  have silent : (c.notes s.link).filterMap Note.event? = [] := by
    cases c with
    | send frame phase => exact Link.filterMap_event?_sendNotes frame phase s.link
    | start | stopPolling | close => rfl
  rw [act_call T at_number]
  show (s.notes ++ (c.notes s.link ++ Link.eventNotes none s.link _)).filterMap _ = _
  rw [List.filterMap_append, List.filterMap_append, filterMap_fatalEnd?_eq_nil silent,
    List.nil_append, filterMap_fatalEnd?_eventNotes]
  rfl

end Scene

/-! ## Who holds on to the current session -/

namespace Outline

/-- The start that holds on to the current session is at the given phase.  If no start does, the
phase is that of one that has not got hold of it. -/
inductive Held (o : Outline) : StartPhase → Prop
  | free (unlocked : o.locked = false) (none : ∀ c ∈ o.calls, c.isInside = false) : Held o .enter
  | held (number : Nat) (phase : StartPhase) (locked : o.locked = true)
      (at_number : o.calls[number]? = some (.start phase)) (inside : phase.isInside)
      (alone : ∀ (i : Nat) (c : Call), i ≠ number → o.calls[i]? = some c → c.isInside = false)
      (apart : ∀ c ∈ o.calls, ¬c.hasTaken) : Held o phase

variable {o o' : Outline} {phase : StartPhase}

theorem Held.of_eq (held : o.Held phase) (locked : o'.locked = o.locked)
    (calls : o'.calls = o.calls) : o'.Held phase := by
  cases held with
  | free unlocked none => exact .free (locked.trans unlocked) (calls ▸ none)
  | held number phase was_locked at_number inside alone apart =>
    refine .held number phase (locked.trans was_locked) (calls ▸ at_number) inside ?_ (calls ▸ apart)
    rwa [calls]

/-- A call is made. -/
theorem Held.append {c : Call} (held : o.Held phase) (outside : c.isInside = false)
    (free : ¬c.hasTaken) : Held { o with calls := o.calls ++ [c] } phase := by
  have among {p : Call → Prop} (old : ∀ d ∈ o.calls, p d) (new : p c) :
      ∀ d ∈ o.calls ++ [c], p d := by
    intro d member
    rcases List.mem_append.1 member with h | h
    · exact old d h
    · exact List.mem_singleton.1 h ▸ new
  cases held with
  | free unlocked none => exact .free unlocked (among none outside)
  | held number phase locked at_number inside alone apart =>
    have bound := (List.getElem?_eq_some_iff.1 at_number).1
    refine .held number phase locked ?_ inside ?_ (among apart free)
    · rw [List.getElem?_append_left bound, at_number]
    · intro i d ne at_i
      rcases getElem?_concat_cases at_i with old | ⟨-, rfl⟩
      · exact alone i d ne old
      · exact outside

/-- A call goes on that neither holds on to the current session nor takes it. -/
theorem Held.set {number : Nat} {c c' : Call} (held : o.Held phase)
    (at_number : o.calls[number]? = some c) (outside : c.isInside = false)
    (outside' : c'.isInside = false) (free : o.locked → ¬c'.hasTaken) (locked : o'.locked = o.locked)
    (calls : o'.calls = o.calls.set number c') : o'.Held phase := by
  cases held with
  | free unlocked none =>
    refine .free (locked.trans unlocked) fun d member => ?_
    rw [calls] at member
    rcases List.mem_or_eq_of_mem_set member with old | rfl
    · exact none d old
    · exact outside'
  | held i phase was_locked at_i inside alone apart =>
    have ne : number ≠ i := by
      rintro rfl
      obtain rfl := Option.some.inj (at_number.symm.trans at_i)
      rw [show Call.isInside (.start phase) = phase.isInside from rfl, inside] at outside
      cases outside
    refine .held i phase (locked.trans was_locked) ?_ inside ?_ ?_
    · rw [calls, List.getElem?_set_ne ne, at_i]
    · intro j d other at_j
      rw [calls] at at_j
      by_cases own : number = j
      · subst own
        obtain ⟨bound, rfl⟩ := List.getElem?_eq_some_iff.1 at_j
        rw [List.getElem_set_self]
        exact outside'
      · exact alone j d other ((List.getElem?_set_ne own).symm.trans at_j)
    · intro d member
      rw [calls] at member
      rcases List.mem_or_eq_of_mem_set member with old | rfl
      · exact apart d old
      · exact free was_locked

/-- A start goes on that holds on to the current session, or gets hold of it. -/
theorem Held.start {number : Nat} {old new : StartPhase} (held : o.Held phase)
    (at_number : o.calls[number]? = some (.start old)) (enters : old.isInside ∨ o.locked = false)
    (apart : ∀ c ∈ o.calls, ¬c.hasTaken) (calls : o'.calls = o.calls.set number (.start new))
    (locked : o'.locked = new.isInside) :
    o'.Held (if new.isInside then new else .enter) := by
  have bound := (List.getElem?_eq_some_iff.1 at_number).1
  have others (i : Nat) (c : Call) (ne : i ≠ number) (at_i : o'.calls[i]? = some c) :
      c.isInside = false := by
    rw [calls, List.getElem?_set_ne (Ne.symm ne)] at at_i
    cases held with
    | free unlocked none => exact none c (List.mem_of_getElem? at_i)
    | held j phase was_locked at_j inside alone =>
      by_cases own : i = j
      · subst own
        rcases enters with h | h
        · have outside := alone number _ (Ne.symm ne) at_number
          rw [show Call.isInside (.start old) = old.isInside from rfl, h] at outside
          cases outside
        · cases was_locked.symm.trans h
      · exact alone i c own at_i
  have at_new : o'.calls[number]? = some (.start new) := by
    rw [calls, List.getElem?_set_self bound]
  by_cases inside : new.isInside
  · rw [if_pos inside]
    refine .held number new (locked.trans inside) at_new inside others fun c member => ?_
    rw [calls] at member
    rcases List.mem_or_eq_of_mem_set member with was | rfl
    · exact apart c was
    · rintro ⟨⟩
  · rw [if_neg inside]
    rw [Bool.not_eq_true] at inside
    refine .free (locked.trans inside) fun c member => ?_
    obtain ⟨i, at_i⟩ := List.mem_iff_getElem?.1 member
    by_cases own : i = number
    · subst own
      obtain rfl := Option.some.inj (at_i.symm.trans at_new)
      exact inside
    · exact others i c own at_i

end Outline

/-! ## Pollers -/

namespace Link

variable {σ : Type}

/-- A poller breaks off only when its polls cannot be set. -/
theorem pollerStep_cases (id : Nat) (x : Session) (l : Link σ) :
    l.pollerStep id x = l ∨ ∃ (l' : Link σ) (phase : PollerPhase),
      l.pollerStep id x = l'.pollerTo id phase ∧
        (phase = .broken → canPollEvery l.options.pollInterval.nanoseconds l.now = false) := by
  unfold pollerStep
  cases x.poller with
  | unborn | gone | broken => exact .inl rfl
  | begin =>
    refine .inr ⟨l, _, rfl, fun broken => ?_⟩
    split at broken
    · cases broken
    · rename_i cannot
      exact Bool.eq_false_iff.2 cannot
  | wait next =>
    refine .inr ⟨l, _, rfl, fun broken => ?_⟩
    split at broken
    · cases broken
    · split at broken <;> cases broken
  | copy next => exact .inr ⟨l, _, rfl, by rintro ⟨⟩⟩
  | look cycle =>
    refine .inr ⟨l, _, rfl, fun broken => ?_⟩
    split at broken
    · cases broken
    · split at broken <;> cases broken
  | ask cycle =>
    refine .inr ⟨l, _, rfl, fun broken => ?_⟩
    split at broken <;> cases broken
  | offer cycle =>
    cases left : cycle.left with
    | nil =>
      simp only [left]
      exact .inr ⟨l, _, rfl, by rintro ⟨⟩⟩
    | cons command rest =>
      simp only [left]
      rcases l.enqueue command with ⟨e | _, l'⟩
      · cases e <;> exact .inr ⟨l', _, rfl, by rintro ⟨⟩⟩
      · exact .inr ⟨l', _, rfl, by rintro ⟨⟩⟩
  | settle cycle deadline =>
    refine .inr ⟨l, _, rfl, fun broken => ?_⟩
    split at broken
    · cases broken
    · split at broken <;> cases broken
  | report cycle => exact .inr ⟨_, _, rfl, by rintro ⟨⟩⟩
  | leave phase =>
    rcases left : l.leaveStep phase with ⟨next, l'⟩
    simp only [left]
    refine .inr ⟨l', _, rfl, fun broken => ?_⟩
    cases next <;> cases broken

end Link

/-- A poller whose polls can be set does not break off. -/
theorem Scene.stageAt?_ne_broken {σ : Type} (T : Transport σ) {s : Scene σ} (id : Nat)
    (unbroken : s.outline.stageAt? ⟨id, .poller⟩ ≠ some .broken)
    (can : Link.canPollEvery s.link.options.pollInterval.nanoseconds s.link.now) :
    (s.act T (.loop ⟨id, .poller⟩)).outline.stageAt? ⟨id, .poller⟩ ≠ some .broken := by
  have stepped : (s.act T (.loop ⟨id, .poller⟩)).link = s.link.step T ⟨id, .poller⟩ := rfl
  have same : (s.act T (.loop ⟨id, .poller⟩)).link = s.link →
      (s.act T (.loop ⟨id, .poller⟩)).outline.stageAt? ⟨id, .poller⟩ ≠ some .broken := by
    intro same
    rw [outline, same]
    exact unbroken
  cases at_id : s.link.sessions[id]? with
  | none =>
    refine same ?_
    rw [stepped, Link.step, at_id]
  | some x =>
    rw [Link.step, at_id] at stepped
    rcases s.link.pollerStep_cases id x with still | ⟨l', phase, moved, sound⟩
    · exact same (stepped.trans still)
    · rw [outline, stepped.trans moved, Link.outline_pollerTo, Outline.goTo,
        Outline.stageAt?_update]
      intro broken
      obtain ⟨y, -, stage⟩ := Option.map_eq_some_iff.1 broken
      rw [if_pos rfl, Standing.stage_goTo, if_pos rfl] at stage
      have broke : phase = .broken := by
        cases phase <;> first | rfl | cases stage
      rw [sound broke] at can
      cases can

end FieldLink
