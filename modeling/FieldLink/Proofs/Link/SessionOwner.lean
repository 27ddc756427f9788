import FieldLink.Proofs.Link.Chronicle

/-!
# Who is to close a session

Several closes may be in progress at once, and each may be given up while it awaits the loops.  One
of them at most has taken the latest session (`Outline.Custody`): the session is still the current
one, a close has taken it and has or has not taken the link to closed, a close was given up with it,
or it is closed.  Every step that a link may take keeps this so.  Where the state of the link does
not follow from who has the session, a loop of the session has begun to give it up.
-/

namespace FieldLink

/-- Whether a close has taken the link to closed and has not returned. -/
def Call.hasFinished : Call → Bool
  | close (.clear _ _ _) | close (.report _ _) => true
  | _ => false

theorem Call.hasTaken_of_hasFinished {c : Call} (finished : c.hasFinished) : c.hasTaken := by
  cases c with
  | start | send | stopPolling => cases finished
  | close phase => cases phase <;> first | rfl | cases finished

theorem Call.not_hasTaken_of_isPlain {c : Call} (plain : c.isPlain) : ¬c.hasTaken := by
  cases c with
  | send | stopPolling => rintro ⟨⟩
  | start | close => cases plain

namespace Outline

/-- No call has taken a session but the one with the given number, if that one has. -/
def Alone (number : Nat) (o : Outline) : Prop :=
  ∀ (i : Nat) (c : Call), i ≠ number → o.calls[i]? = some c → ¬c.hasTaken

/-- Who is to close the session `id`, the latest one.  Sessions are `forsaken` with which a close was
given up. -/
inductive Custody (forsaken : List Nat) (id : Nat) (o : Outline) : Prop
  /-- Nobody has taken it. -/
  | kept (current : o.current = some id) (free : ∀ c ∈ o.calls, ¬c.hasTaken)
      (held : id ∉ forsaken) (cause : o.state ≠ .opened → id ∈ o.faults)
  /-- A close that has not taken the link to closed. -/
  | taken (number : Nat) (c : Call) (current : o.current = none)
      (at_number : o.calls[number]? = some c) (taken : c.hasTaken) (unfinished : ¬c.hasFinished)
      (alone : o.Alone number) (held : id ∉ forsaken) (cause : o.state = .closed → id ∈ o.faults)
  /-- A close that has taken the link to closed. -/
  | finished (number : Nat) (c : Call) (current : o.current = none)
      (at_number : o.calls[number]? = some c) (finished : c.hasFinished) (alone : o.Alone number)
      (held : id ∉ forsaken) (closed : o.state = .closed)
  /-- It is closed. -/
  | released (current : o.current = none) (free : ∀ c ∈ o.calls, ¬c.hasTaken)
      (held : id ∉ forsaken) (closed : o.state = .closed)
  /-- Nobody, as a close was given up with it. -/
  | forsaken (current : o.current = none) (free : ∀ c ∈ o.calls, ¬c.hasTaken)
      (given : id ∈ forsaken) (cause : o.state = .closed → id ∈ o.faults)

variable {o o' : Outline} {forsaken : List Nat} {id number : Nat} {c c' : Call}

theorem Alone.set (alone : o.Alone number) (c : Call) :
    Alone number { o' with calls := o.calls.set number c } := by
  intro i d ne at_i
  exact alone i d ne ((List.getElem?_set_ne ne.symm).symm.trans at_i)

theorem Alone.free (alone : o.Alone number) (free : ¬c.hasTaken) :
    ∀ d ∈ o.calls.set number c, ¬d.hasTaken :=
  forall_mem_set_of_ne alone free

theorem Alone.of_free (free : ∀ c ∈ o.calls, ¬c.hasTaken) : o.Alone number :=
  fun _ c _ at_i => free c (List.mem_of_getElem? at_i)

/-- A close that has taken a session is the only one, and the session is the latest. -/
theorem Custody.of_hasTaken (custody : o.Custody forsaken id) (at_number : o.calls[number]? = some c)
    (taken : c.hasTaken) :
    o.current = none ∧ o.Alone number ∧ id ∉ forsaken ∧
      (¬c.hasFinished → o.state = .closed → id ∈ o.faults) ∧ (c.hasFinished → o.state = .closed) := by
  have member := List.mem_of_getElem? at_number
  cases custody with
  | kept current free held cause => exact absurd taken (free c member)
  | taken i d current at_i taken' unfinished alone held cause =>
    obtain rfl : number = i := by
      by_contra ne
      exact alone number c ne at_number taken
    obtain rfl : c = d := Option.some.inj (at_number.symm.trans at_i)
    exact ⟨current, alone, held, fun _ => cause, fun finished => absurd finished unfinished⟩
  | finished i d current at_i finished alone held closed =>
    obtain rfl : number = i := by
      by_contra ne
      exact alone number c ne at_number taken
    obtain rfl : c = d := Option.some.inj (at_number.symm.trans at_i)
    exact ⟨current, alone, held, fun unfinished => absurd finished unfinished, fun _ => closed⟩
  | released current free held closed => exact absurd taken (free c member)
  | forsaken current free given cause => exact absurd taken (free c member)

/-- The state of the link may change when a loop gives the session up. -/
theorem Custody.blame (custody : o.Custody forsaken id) (calls : o'.calls = o.calls)
    (current : o'.current = o.current) (faults : id ∈ o.faults → id ∈ o'.faults)
    (closed : o.state = .closed → o'.state = .closed)
    (cause : o'.state = o.state ∨ id ∈ o'.faults) : o'.Custody forsaken id := by
  have cause_of_closed : (o.state = .closed → id ∈ o.faults) → o'.state = .closed →
      id ∈ o'.faults := by
    intro was closed'
    rcases cause with same | fault
    · exact faults (was (same.symm.trans closed'))
    · exact fault
  cases custody with
  | kept was free held cause' =>
    refine .kept (current.trans was) (calls ▸ free) held fun used => ?_
    rcases cause with same | fault
    · exact faults (cause' (same ▸ used))
    · exact fault
  | taken number c was at_number taken unfinished alone held cause' =>
    refine .taken number c (current.trans was) (calls ▸ at_number) taken unfinished ?_ held
      (cause_of_closed cause')
    intro i d ne at_i
    exact alone i d ne (calls ▸ at_i)
  | finished number c was at_number finished alone held closed' =>
    refine .finished number c (current.trans was) (calls ▸ at_number) finished ?_ held
      (closed closed')
    intro i d ne at_i
    exact alone i d ne (calls ▸ at_i)
  | released was free held closed' =>
    exact .released (current.trans was) (calls ▸ free) held (closed closed')
  | forsaken was free given cause' =>
    exact .forsaken (current.trans was) (calls ▸ free) given (cause_of_closed cause')

/-- A call that has taken no session goes on, and takes none. -/
theorem Custody.pass (custody : o.Custody forsaken id) (at_number : o.calls[number]? = some c)
    (free : ¬c.hasTaken) (free' : ¬c'.hasTaken) :
    Custody forsaken id { o with calls := o.calls.set number c' } := by
  have still_free : (∀ d ∈ o.calls, ¬d.hasTaken) → ∀ d ∈ o.calls.set number c', ¬d.hasTaken :=
    fun all => forall_mem_set all free'
  have alone_set {i : Nat} (alone : o.Alone i) :
      Alone i { o with calls := o.calls.set number c' } := forall_ne_set alone free'
  have at_other {i : Nat} {d : Call} (at_i : o.calls[i]? = some d) (taken : d.hasTaken) :
      (o.calls.set number c')[i]? = some d := by
    rw [List.getElem?_set_ne, at_i]
    rintro rfl
    obtain rfl : c = d := Option.some.inj (at_number.symm.trans at_i)
    exact free taken
  cases custody with
  | kept current all held cause => exact .kept current (still_free all) held cause
  | taken i d current at_i taken unfinished alone held cause =>
    exact .taken i d current (at_other at_i taken) taken unfinished (alone_set alone) held cause
  | finished i d current at_i finished alone held closed =>
    exact .finished i d current (at_other at_i (Call.hasTaken_of_hasFinished finished)) finished
      (alone_set alone) held closed
  | released current all held closed => exact .released current (still_free all) held closed
  | forsaken current all given cause => exact .forsaken current (still_free all) given cause

theorem Custody.append (custody : o.Custody forsaken id) (free : ¬c.hasTaken) :
    Custody forsaken id { o with calls := o.calls ++ [c] } := by
  have still_free (all : ∀ d ∈ o.calls, ¬d.hasTaken) : ∀ d ∈ o.calls ++ [c], ¬d.hasTaken :=
    forall_mem_concat all free
  have alone_append {i : Nat} (alone : o.Alone i) :
      Alone i { o with calls := o.calls ++ [c] } := forall_ne_concat alone free
  have at_old {i : Nat} {d : Call} (at_i : o.calls[i]? = some d) : (o.calls ++ [c])[i]? = some d := by
    rw [List.getElem?_append_left (List.getElem?_eq_some_iff.1 at_i).1, at_i]
  cases custody with
  | kept current all held cause => exact .kept current (still_free all) held cause
  | taken i d current at_i taken unfinished alone held cause =>
    exact .taken i d current (at_old at_i) taken unfinished (alone_append alone) held cause
  | finished i d current at_i finished alone held closed =>
    exact .finished i d current (at_old at_i) finished (alone_append alone) held closed
  | released current all held closed => exact .released current (still_free all) held closed
  | forsaken current all given cause => exact .forsaken current (still_free all) given cause

/-- A start forgets the current session when the link is closed and no close has taken it. -/
theorem Custody.discard (custody : o.Custody forsaken id) (closed : o.state = .closed)
    (free : ∀ c ∈ o.calls, ¬c.hasTaken) : Custody forsaken id { o with current := none } := by
  cases custody with
  | kept current all held cause => exact .released rfl free held closed
  | taken i d current at_i taken => exact absurd taken (free d (List.mem_of_getElem? at_i))
  | finished i d current at_i finished =>
    exact absurd (Call.hasTaken_of_hasFinished finished) (free d (List.mem_of_getElem? at_i))
  | released current all held closed => exact .released rfl all held closed
  | forsaken current all given cause => exact .forsaken rfl all given cause

/-- A close that awaits the loops is given up. -/
theorem Custody.forsake {session : Nat} (custody : o.Custody forsaken id)
    (at_number : o.calls[number]? = some (.close (.join session))) :
    Custody (forsaken ++ [id]) id { o with calls := o.calls.eraseIdx number } := by
  obtain ⟨current, alone, -, cause, -⟩ := custody.of_hasTaken at_number rfl
  refine .forsaken current (fun c member => ?_) (by simp) (cause (by rintro ⟨⟩))
  obtain ⟨i, ne, at_i⟩ := List.mem_eraseIdx_iff_getElem?.1 member
  exact alone i c ne at_i

/-- A step of a close passes the session on. -/
theorem Custody.closeStep {phase phase' : ClosePhase} (custody : o.Custody forsaken id)
    (latest : ∀ other, o.current = some other → other = id)
    (at_number : o.calls[number]? = some (.close phase)) (step : o.CloseStep phase phase' o') :
    Custody forsaken id { o' with calls := o.calls.set number (.close phase') } := by
  have bound := (List.getElem?_eq_some_iff.1 at_number).1
  have at_self (c : Call) : (o.calls.set number c)[number]? = some c :=
    List.getElem?_set_self bound
  cases step with
  | wait =>
    rw [show o.calls.set number (.close phase) = o.calls by
      obtain ⟨bound, at_number⟩ := List.getElem?_eq_some_iff.1 at_number
      rw [← at_number, List.set_getElem_self]]
    exact custody
  | stopPolling | takeNone => exact custody.pass at_number (by rintro ⟨⟩) (by rintro ⟨⟩)
  | take other current =>
    obtain rfl := latest other current
    cases custody with
    | kept _ free held cause =>
      refine .taken number _ rfl (at_self _) rfl (by rintro ⟨⟩) ((Alone.of_free free).set _) held ?_
      intro closed
      exact cause fun opened => by cases closed.symm.trans opened
    | taken _ _ none | finished _ _ none | released none | forsaken none =>
      cases current.symm.trans none
  | mark session =>
    obtain ⟨current, alone, held, cause, -⟩ := custody.of_hasTaken at_number rfl
    refine .taken number _ current (at_self _) rfl (by rintro ⟨⟩) (alone.set _) held fun closed => ?_
    refine cause (by rintro ⟨⟩) ?_
    by_cases opened : o.state = .opened
    · rw [if_pos opened] at closed
      cases closed
    · rwa [if_neg opened] at closed
  | unplug | cancel | join | judge =>
    obtain ⟨current, alone, held, cause, -⟩ := custody.of_hasTaken at_number rfl
    exact .taken number _ current (at_self _) rfl (by rintro ⟨⟩) (alone.set _) held
      (cause (by rintro ⟨⟩))
  | finish =>
    obtain ⟨current, alone, held, -⟩ := custody.of_hasTaken at_number rfl
    exact .finished number _ current (at_self _) rfl (alone.set _) held rfl
  | clear =>
    obtain ⟨current, alone, held, -, closed⟩ := custody.of_hasTaken at_number rfl
    exact .finished number _ current (at_self _) rfl (alone.set _) held (closed rfl)
  | skip | report =>
    obtain ⟨current, alone, held, -, closed⟩ := custody.of_hasTaken at_number rfl
    exact .released current (alone.free (by rintro ⟨⟩)) held (closed rfl)

theorem Custody.callStep (custody : o.Custody forsaken id)
    (latest : ∀ other, o.current = some other → other = id) (step : o.CallStep number o') :
    o'.Custody forsaken id := by
  cases step with
  | still => exact custody
  | plain c c' at_number before after =>
    exact custody.pass at_number (Call.not_hasTaken_of_isPlain before)
      (Call.not_hasTaken_of_isPlain after)
  | close phase phase' o' at_number step => exact custody.closeStep latest at_number step

end Outline

end FieldLink
