import FieldLink.Proofs.Link.Phases
import FieldLink.Proofs.Link.Settling

/-!
# The end of a session under every schedule

What holds of the sessions however the steps of the loops, of starts and of closes interleave
(`Outline.Sealed`).  A start has a session to itself until it stores it, and a close that took a
session finds it stored; so a session that is cancelled, or is about to be, never accepts frames
again (`Sealed.severed`).  When the close that took a session has seen the loops end, the session is
over, and stays so (`Scene.over_act`).
-/

namespace FieldLink

/-! ## What a call holds -/

/-- The session that a start has made and does not let accept frames yet. -/
def StartPhase.fresh? : StartPhase → Option Nat
  | forgetFailure id | clear id | count id | plug id => some id
  | _ => none

/-- The session that a start has made and has not stored yet. -/
def StartPhase.pending? : StartPhase → Option Nat
  | forgetFailure id | clear id | count id | plug id | accept id | launch _ id | store id => some id
  | _ => none

/-- The session that a close has taken and whose loops it has not seen end yet. -/
def ClosePhase.session? : ClosePhase → Option Nat
  | mark id | unplug id | cancel id | join id => some id
  | _ => none

namespace Call

/-- The session that a call has made and does not let accept frames yet. -/
def fresh? : Call → Option Nat
  | start phase => phase.fresh?
  | _ => none

/-- The session that a call has made and has not stored yet. -/
def pending? : Call → Option Nat
  | start phase => phase.pending?
  | _ => none

/-- The session that a call has taken and whose loops it has not seen end yet. -/
def held? : Call → Option Nat
  | close phase => phase.session?
  | _ => none

/-- The session that a call is about to cancel. -/
def severs? : Call → Option Nat
  | close (.cancel id) => some id
  | _ => none

theorem held?_of_severs? {c : Call} {id : Nat} (severs : c.severs? = some id) :
    c.held? = some id := by
  cases c with
  | close phase => cases phase <;> first | exact severs | cases severs
  | start | send | stopPolling => cases severs

theorem pending?_of_fresh? {c : Call} {id : Nat} (fresh : c.fresh? = some id) :
    c.pending? = some id := by
  cases c with
  | start phase => cases phase <;> first | exact fresh | cases fresh
  | close | send | stopPolling => cases fresh

end Call

/-- A session whose loops were not begun, and that is not cancelled. -/
structure Standing.Fresh (x : Standing) : Prop where
  hears : x.cancelled = false
  unborn : ∀ loop, x.stage loop = .unborn

namespace Outline

variable {o o' : Outline}

/-! ## Sealed outlines -/

/-- Frames can be accepted into a session no longer: it is cancelled, or is the next thing that a
loop of it or a close is to cancel. -/
inductive Severed (id : Nat) (o : Outline) : Prop
  | cancelled (x : Standing) (at_id : o.sessions[id]? = some x) (cancelled : x.cancelled)
  | loop (loop : Loop) (at_loop : o.stageAt? ⟨id, loop⟩ = some (.failing .cancel))
  | call (c : Call) (member : c ∈ o.calls) (severs : c.severs? = some id)

theorem Severed.of_eq {id : Nat} (severed : o'.Severed id) (sessions : o'.sessions = o.sessions)
    (calls : ∀ c ∈ o'.calls, c ∈ o.calls ∨ c.severs? = none) : o.Severed id := by
  cases severed with
  | cancelled x at_id cancelled => exact .cancelled x (sessions ▸ at_id) cancelled
  | loop loop at_loop =>
    rw [stageAt?, sessions] at at_loop
    exact .loop loop at_loop
  | call c member severs =>
    rcases calls c member with old | none
    · exact .call c old severs
    · cases none.symm.trans severs

/-- The sessions are as the calls say that hold them, and a severed one accepts no frames. -/
structure Sealed (o : Outline) : Prop where
  current : ∀ id, o.current = some id → id < o.sessions.length
  held : ∀ c ∈ o.calls, ∀ id, c.held? = some id → id < o.sessions.length
  fresh : ∀ c ∈ o.calls, ∀ id, c.fresh? = some id →
    ∃ x, o.sessions[id]? = some x ∧ Standing.Fresh x
  pending : ∀ c ∈ o.calls, ∀ id, c.pending? = some id → id < o.sessions.length
  apart : ∀ c ∈ o.calls, ∀ id, c.pending? = some id →
    o.current ≠ some id ∧ ∀ d ∈ o.calls, d.held? ≠ some id
  severed : ∀ id, o.Severed id → o.outbox ≠ some id

/-! ## Changes of the calls -/

/-- A call has to do with no session that is not free for it. -/
structure Claims (o : Outline) (outbox : Option Nat) (c : Call) : Prop where
  fresh : ∀ id, c.fresh? = some id → ∃ d ∈ o.calls, d.fresh? = some id
  pending : ∀ id, c.pending? = some id → ∃ d ∈ o.calls, d.pending? = some id
  held : ∀ id, c.held? = some id → (∃ d ∈ o.calls, d.held? = some id) ∨ o.current = some id
  severs : ∀ id, c.severs? = some id → (∃ d ∈ o.calls, d.severs? = some id) ∨ outbox = none

variable {plugged : Option Nat}

theorem claims_of_mem {c : Call} (member : c ∈ o.calls) : o.Claims plugged c where
  fresh _ h := ⟨c, member, h⟩
  pending _ h := ⟨c, member, h⟩
  held _ h := .inl ⟨c, member, h⟩
  severs _ h := .inl ⟨c, member, h⟩

theorem claims_of_none {c : Call} (pending : c.pending? = none) (held : c.held? = none) :
    o.Claims plugged c where
  fresh _ h := by cases pending.symm.trans (Call.pending?_of_fresh? h)
  pending _ h := by cases pending.symm.trans h
  held _ h := by cases held.symm.trans h
  severs _ h := by cases held.symm.trans (Call.held?_of_severs? h)

/-- A start goes on with the session it has, if with any. -/
theorem claims_start {number : Nat} {phase phase' : StartPhase}
    (at_number : o.calls[number]? = some (.start phase))
    (fresh : phase'.fresh? = none ∨ phase'.fresh? = phase.fresh?)
    (pending : phase'.pending? = none ∨ phase'.pending? = phase.pending?) :
    o.Claims plugged (.start phase') where
  fresh id h := by
    replace h : phase'.fresh? = some id := h
    rcases fresh with none | same
    · cases none.symm.trans h
    · exact ⟨_, List.mem_of_getElem? at_number, same.symm.trans h⟩
  pending id h := by
    replace h : phase'.pending? = some id := h
    rcases pending with none | same
    · cases none.symm.trans h
    · exact ⟨_, List.mem_of_getElem? at_number, same.symm.trans h⟩
  held _ := by rintro ⟨⟩
  severs _ := by rintro ⟨⟩

/-- The calls change, and have to do with no session that is not free for them. -/
theorem Sealed.recall {calls : List Call} {state : LinkState} {failed locked : Bool}
    {liveLoops : Int} {outbox current : Option Nat} {events : List LinkEvent} {faults : List Nat}
    (h : o.Sealed) (claims : ∀ c ∈ calls, o.Claims outbox c)
    (stored : current = o.current ∨ current = none)
    (plugged : outbox = o.outbox ∨ outbox = none) :
    Sealed { o with calls, state, failed, locked, liveLoops, outbox, current, events, faults } := by
  have stored {id : Nat} (h : current = some id) : o.current = some id := by
    rcases stored with same | none
    · exact same ▸ h
    · cases none.symm.trans h
  refine ⟨fun id h' => h.current id (stored h'), ?_, ?_, ?_, ?_, ?_⟩
  · intro c member id holds
    rcases (claims c member).held id holds with ⟨d, old, holds⟩ | free
    · exact h.held d old id holds
    · exact h.current id free
  · intro c member id fresh
    obtain ⟨d, old, fresh⟩ := (claims c member).fresh id fresh
    exact h.fresh d old id fresh
  · intro c member id pends
    obtain ⟨d, old, pends⟩ := (claims c member).pending id pends
    exact h.pending d old id pends
  · intro c member id pends
    obtain ⟨d, old, pends⟩ := (claims c member).pending id pends
    have apart := h.apart d old id pends
    refine ⟨fun h' => apart.1 (stored h'), fun e member' holds => ?_⟩
    rcases (claims e member').held id holds with ⟨d', old', holds⟩ | free
    · exact apart.2 d' old' holds
    · exact apart.1 free
  · intro id severed outbox_eq
    have was : o.outbox = some id := by
      rcases plugged with same | none
      · exact same ▸ outbox_eq
      · cases none.symm.trans outbox_eq
    refine h.severed id ?_ was
    cases severed with
    | cancelled x at_id cancelled => exact .cancelled x at_id cancelled
    | loop loop at_loop => exact .loop loop at_loop
    | call c member severs =>
      rcases (claims c member).severs id severs with ⟨d, old, severs⟩ | none
      · exact .call d old severs
      · cases none.symm.trans outbox_eq

/-! ## Steps of the loops -/

variable {p : Place}

/-- A loop changes no session but its own. -/
theorem LoopStep.session_of_ne {id : Nat} (step : o.LoopStep p o') (ne : id ≠ p.session) :
    o'.sessions[id]? = o.sessions[id]? := by
  have other (f : Standing → Standing) :
      (o.update p.session f).sessions[id]? = o.sessions[id]? := by
    simp [update, Ne.symm ne]
  cases step with
  | still | work => rfl
  | _ => exact other _

/-- A session that is severed was so before, if no loop has come to where it is about to cancel. -/
theorem Severed.of_update {id k : Nat} {f : Standing → Standing} (severed : o'.Severed id)
    (cancelled : ∀ x, (f x).cancelled → x.cancelled)
    (stages : ∀ x loop, (f x).stage loop = .failing .cancel → x.stage loop = .failing .cancel)
    (sessions : o'.sessions = (o.update k f).sessions) (calls : o'.calls = o.calls) :
    o.Severed id := by
  have sessions_at : o'.sessions[id]? = o.sessions[id]?.map fun x => if k = id then f x else x := by
    rw [sessions]
    simp only [update, List.getElem?_modify]
    rfl
  cases severed with
  | cancelled x' at_id' was =>
    rw [sessions_at] at at_id'
    obtain ⟨x, at_id, rfl⟩ := Option.map_eq_some_iff.1 at_id'
    refine .cancelled x at_id ?_
    split at was
    · exact cancelled x was
    · exact was
  | loop loop at_loop =>
    obtain ⟨x', at_id', at_stage⟩ := Option.map_eq_some_iff.1 at_loop
    rw [sessions_at] at at_id'
    obtain ⟨x, at_id, rfl⟩ := Option.map_eq_some_iff.1 at_id'
    refine .loop loop ?_
    rw [stageAt?_of_at (p := ⟨id, loop⟩) at_id]
    split at at_stage
    · rw [stages x loop at_stage]
    · rw [at_stage]
  | call c member severs => exact .call c (calls ▸ member) severs

theorem Severed.of_goTo {id : Nat} {stage : Stage} (severed : o'.Severed id)
    (ne : stage ≠ .failing .cancel) (sessions : o'.sessions = (o.goTo p stage).sessions)
    (calls : o'.calls = o.calls) : o.Severed id := by
  refine severed.of_update (fun x h => ?_) (fun x loop h => ?_) sessions calls
  · rwa [Standing.cancelled_goTo] at h
  · rw [Standing.stage_goTo] at h
    split at h
    · exact absurd h ne
    · exact h

/-- What a loop severs was severed, or the link accepts frames no longer. -/
theorem LoopStep.severed {id : Nat} (step : o.LoopStep p o') (severed : o'.Severed id) :
    o.Severed id ∨ o'.outbox = none := by
  cases step with
  | still => exact .inl severed
  | work => exact .inl (severed.of_eq rfl fun _ => .inl)
  | stop x stage at_id at_stage stops =>
    refine .inl (severed.of_goTo ?_ rfl rfl)
    rintro rfl
    unfold Stops at stops
    split at stops <;> rcases stops with h | h <;> first | cases h.1 | cases h
  | unplug => exact .inr rfl
  | cancel x at_id at_stage =>
    by_cases own : id = p.session
    · subst own
      exact .inl (.loop p.loop (by rw [stageAt?_of_at at_id, at_stage]))
    · refine .inl ?_
      cases severed with
      | cancelled y at_y cancelled =>
        refine .cancelled y ?_ cancelled
        rw [← at_y]
        simp [update, Ne.symm own]
      | loop loop at_loop =>
        refine .loop loop ?_
        rw [← at_loop, stageAt?, stageAt?]
        simp [update, Ne.symm own]
      | call c member severs => exact .call c member severs
  | release x at_id at_stage =>
    refine .inl (severed.of_update (fun x h => ?_) (fun x loop h => ?_) rfl rfl)
    · rwa [Standing.cancelled_goTo, Standing.cancelled_drop] at h
    · rw [Standing.stage_goTo, Standing.stage_drop] at h
      split at h
      · cases h
      · exact h
  | mark | close | report | pass | finish => exact .inl (severed.of_goTo (by rintro ⟨⟩) rfl rfl)
  | count =>
    refine .inl (severed.of_goTo ?_ rfl rfl)
    split <;> rintro ⟨⟩
  | judge =>
    refine .inl (severed.of_goTo ?_ rfl rfl)
    split <;> rintro ⟨⟩

theorem LoopStep.outbox (step : o.LoopStep p o') : o'.outbox = o.outbox ∨ o'.outbox = none := by
  cases step with
  | unplug => exact .inr rfl
  | _ => exact .inl rfl

/-- A step of a loop keeps an outline sealed. -/
theorem Sealed.loopStep (h : o.Sealed) (step : o.LoopStep p o') : o'.Sealed := by
  obtain ⟨-, -, calls⟩ := step.same
  refine ⟨?_, ?_, ?_, ?_, ?_, ?_⟩
  · rw [step.current, step.length]
    exact h.current
  · rw [calls, step.length]
    exact h.held
  · rw [calls]
    intro c member id fresh
    obtain ⟨x, at_id, is_fresh⟩ := h.fresh c member id fresh
    by_cases own : id = p.session
    · subst own
      rw [step.of_unborn (by rw [stageAt?_of_at at_id, is_fresh.unborn])]
      exact ⟨x, at_id, is_fresh⟩
    · exact ⟨x, (step.session_of_ne own).trans at_id, is_fresh⟩
  · rw [calls, step.length]
    exact h.pending
  · rw [calls, step.current]
    exact h.apart
  · intro id severed
    rcases step.outbox with same | none
    · rcases step.severed severed with was | none
      · rw [same]
        exact h.severed id was
      · rw [none]
        rintro ⟨⟩
    · rw [none]
      rintro ⟨⟩

/-! ## Steps of the calls -/

/-- A close that is about to cancel a session may do so. -/
theorem Sealed.cancel {id : Nat} {c : Call} (h : o.Sealed) (member : c ∈ o.calls)
    (severs : c.severs? = some id) :
    (o.update id fun x => { x with cancelled := true }).Sealed := by
  have length : (o.update id fun x => { x with cancelled := true }).sessions.length =
      o.sessions.length := List.length_modify ..
  have other {k : Nat} (ne : k ≠ id) :
      (o.update id fun x => { x with cancelled := true }).sessions[k]? = o.sessions[k]? := by
    simp [update, Ne.symm ne]
  refine ⟨?_, ?_, ?_, ?_, h.apart, ?_⟩
  · rw [length]
    exact h.current
  · rw [length]
    exact h.held
  · intro d member' k fresh
    obtain ⟨x, at_k, is_fresh⟩ := h.fresh d member' k fresh
    have ne : k ≠ id := by
      rintro rfl
      exact (h.apart d member' k (Call.pending?_of_fresh? fresh)).2 c member
        (Call.held?_of_severs? severs)
    exact ⟨x, (other ne).trans at_k, is_fresh⟩
  · rw [length]
    exact h.pending
  · intro k severed
    refine h.severed k ?_
    by_cases own : k = id
    · subst own
      exact .call c member severs
    · cases severed with
      | cancelled x at_k cancelled => exact .cancelled x ((other own).symm.trans at_k) cancelled
      | loop loop at_loop =>
        rw [stageAt?, other own] at at_loop
        exact .loop loop at_loop
      | call d member' severs' => exact .call d member' severs'

/-- A step of a call keeps an outline sealed. -/
theorem Sealed.callStep {number : Nat} (h : o.Sealed) (step : o.CallStep number o') :
    o'.Sealed := by
  have moves {outbox current : Option Nat} {state : LinkState} {events : List LinkEvent}
      {new : Call} (claims : o.Claims outbox new)
      (stored : current = o.current ∨ current = none)
      (plugged : outbox = o.outbox ∨ outbox = none) :
      Sealed { o with calls := o.calls.set number new, state, outbox, current, events } :=
    h.recall (forall_mem_set (fun c => claims_of_mem) claims) stored plugged
  cases step with
  | still => exact h
  | plain c c' at_number before after =>
    refine moves (claims_of_none ?_ ?_) (.inl rfl) (.inl rfl) <;>
      cases c' <;> first | rfl | cases after
  | close phase phase' o' at_number step =>
    have member := List.mem_of_getElem? at_number
    have quit {current : Option Nat} {state : LinkState} {events : List LinkEvent}
        {next : ClosePhase} (free : next.session? = none)
        (stored : current = o.current ∨ current = none) :
        Sealed { o with calls := o.calls.set number (.close next), state, current, events } :=
      moves (claims_of_none rfl free) stored (.inl rfl)
    cases step with
    | wait => exact moves (claims_of_mem member) (.inl rfl) (.inl rfl)
    | stopPolling | takeNone | judge | finish | clear | skip | report => exact quit rfl (.inl rfl)
    | join => exact quit rfl (.inl rfl)
    | take id current =>
      refine moves ⟨by rintro _ ⟨⟩, by rintro _ ⟨⟩, ?_, by rintro _ ⟨⟩⟩ (.inr rfl) (.inl rfl)
      rintro _ ⟨⟩
      exact .inr current
    | mark id =>
      refine moves ⟨by rintro _ ⟨⟩, by rintro _ ⟨⟩, ?_, by rintro _ ⟨⟩⟩ (.inl rfl) (.inl rfl)
      rintro _ ⟨⟩
      exact .inl ⟨_, member, rfl⟩
    | unplug id =>
      refine moves ⟨by rintro _ ⟨⟩, by rintro _ ⟨⟩, ?_, fun _ _ => .inr rfl⟩ (.inl rfl) (.inr rfl)
      rintro _ ⟨⟩
      exact .inl ⟨_, member, rfl⟩
    | cancel id =>
      have after := h.cancel member rfl
      refine after.recall (forall_mem_set (fun c old => claims_of_mem old) ?_) (.inl rfl) (.inl rfl)
      refine ⟨by rintro _ ⟨⟩, by rintro _ ⟨⟩, ?_, by rintro _ ⟨⟩⟩
      rintro _ ⟨⟩
      exact .inl ⟨_, member, rfl⟩

/-! ## Steps of a start -/

/-- A session may be made that nobody holds yet. -/
theorem Sealed.append {x : Standing} (h : o.Sealed) (fresh : x.Fresh) :
    Sealed { o with sessions := o.sessions ++ [x] } := by
  have longer {id : Nat} (bound : id < o.sessions.length) : id < (o.sessions ++ [x]).length := by
    rw [List.length_append, List.length_singleton]
    omega
  refine ⟨fun id h' => longer (h.current id h'),
    fun c member id h' => longer (h.held c member id h'), ?_,
    fun c member id h' => longer (h.pending c member id h'), h.apart, ?_⟩
  · intro c member id h'
    obtain ⟨y, at_id, is_fresh⟩ := h.fresh c member id h'
    refine ⟨y, ?_, is_fresh⟩
    exact (List.getElem?_append_left (List.getElem?_eq_some_iff.1 at_id).1).trans at_id
  · intro id severed
    refine h.severed id ?_
    cases severed with
    | cancelled y at_id cancelled =>
      rcases getElem?_concat_cases at_id with old | ⟨-, rfl⟩
      · exact .cancelled y old cancelled
      · cases fresh.hears.symm.trans cancelled
    | loop loop at_loop =>
      obtain ⟨y, at_id, at_stage⟩ := Option.map_eq_some_iff.1 at_loop
      rcases getElem?_concat_cases at_id with old | ⟨-, rfl⟩
      · exact .loop loop (by rw [stageAt?_of_at (p := ⟨_, loop⟩) old, at_stage])
      · cases (fresh.unborn loop).symm.trans at_stage
    | call c member severs => exact .call c member severs

/-- A start may take a session on that was just made. -/
theorem Sealed.adopt (number : Nat) {id : Nat} {x : Standing} (h : o.Sealed)
    (last : id + 1 = o.sessions.length) (at_id : o.sessions[id]? = some x) (fresh : x.Fresh)
    (free : o.current ≠ some id ∧ ∀ d ∈ o.calls, d.held? ≠ some id) :
    Sealed { o with calls := o.calls.set number (.start (.forgetFailure id)) } := by
  refine ⟨h.current, ?_, ?_, ?_, ?_, ?_⟩
  · exact forall_mem_set h.held (by rintro _ ⟨⟩)
  · refine forall_mem_set h.fresh ?_
    rintro _ ⟨⟩
    exact ⟨x, at_id, fresh⟩
  · refine forall_mem_set h.pending ?_
    rintro _ ⟨⟩
    show id < o.sessions.length
    omega
  · have held (k : Nat) (none : ∀ d ∈ o.calls, d.held? ≠ some k) :
        ∀ d ∈ o.calls.set number (.start (.forgetFailure id)), d.held? ≠ some k :=
      forall_mem_set none (by rintro ⟨⟩)
    refine forall_mem_set (fun c member k pends => ?_) ?_
    · have apart := h.apart c member k pends
      exact ⟨apart.1, held k apart.2⟩
    · rintro _ ⟨⟩
      exact ⟨free.1, held id free.2⟩
  · exact fun k severed =>
      h.severed k (severed.of_eq rfl (forall_mem_set (fun c => .inl) (.inr rfl)))

/-- A start may let its session accept frames. -/
theorem Sealed.plug {id : Nat} {c : Call} (h : o.Sealed) (member : c ∈ o.calls)
    (fresh : c.fresh? = some id) : Sealed { o with outbox := some id } := by
  refine ⟨h.current, h.held, h.fresh, h.pending, h.apart, ?_⟩
  rintro k severed same
  obtain rfl : id = k := Option.some.inj same
  obtain ⟨x, at_id, is_fresh⟩ := h.fresh c member id fresh
  cases severed with
  | cancelled y at_y cancelled =>
    obtain rfl := Option.some.inj (at_id.symm.trans at_y)
    cases is_fresh.hears.symm.trans cancelled
  | loop loop at_loop =>
    rw [stageAt?_of_at (o := { o with outbox := some id }) (p := ⟨id, loop⟩) at_id,
      is_fresh.unborn] at at_loop
    cases at_loop
  | call d member' severs =>
    exact (h.apart c member id (Call.pending?_of_fresh? fresh)).2 d member'
      (Call.held?_of_severs? severs)

/-- A loop may be begun of a session that accepts frames. -/
theorem Sealed.begin {id : Nat} {loop : Loop} (h : o.Sealed)
    (stale : ∀ c ∈ o.calls, c.fresh? = none) : (o.goTo ⟨id, loop⟩ .running).Sealed := by
  have length : (o.goTo ⟨id, loop⟩ .running).sessions.length = o.sessions.length :=
    List.length_modify ..
  refine ⟨?_, ?_, ?_, ?_, h.apart, ?_⟩
  · rw [length]
    exact h.current
  · rw [length]
    exact h.held
  · intro c member k fresh
    cases (stale c member).symm.trans fresh
  · rw [length]
    exact h.pending
  · exact fun k severed => h.severed k (severed.of_goTo (by rintro ⟨⟩) rfl rfl)

/-- A session may be stored that no start has pending. -/
theorem Sealed.store {id : Nat} (h : o.Sealed) (known : id < o.sessions.length)
    (free : ∀ c ∈ o.calls, c.pending? ≠ some id) : Sealed { o with current := some id } := by
  refine ⟨?_, h.held, h.fresh, h.pending, ?_, ?_⟩
  · rintro _ ⟨⟩
    exact known
  · intro c member k pends
    refine ⟨?_, (h.apart c member k pends).2⟩
    rintro ⟨⟩
    exact free c member pends
  · exact fun k severed => h.severed k (severed.of_eq rfl fun _ => .inl)

end Outline

/-! ## Whole runs -/

/-- A start that holds on to the current session is the only call that has made one. -/
theorem StartsApart.only {σ : Type} {s : Scene σ} {number : Nat} {phase : StartPhase}
    (starts : StartsApart s) (at_number : s.calls[number]? = some (.start phase))
    (inside : phase.isInside) {i : Nat} {c : Call} {id : Nat} (at_i : s.calls[i]? = some c)
    (pends : c.pending? = some id) : i = number := by
  cases c with
  | start phase' =>
    refine starts.alone i number phase' phase at_i at_number ?_ inside
    replace pends : phase'.pending? = some id := pends
    cases phase' <;> first | rfl | cases pends
  | send | stopPolling | close => cases pends

theorem Link.claims_afterLaunch {σ : Type} (id : Nat) (l : Link σ) (loop : Loop) :
    (l.afterLaunch id loop).fresh? = none ∧ (l.afterLaunch id loop).pending? = some id := by
  cases loop with
  | reader | poller => exact ⟨rfl, rfl⟩
  | writer =>
    simp only [Link.afterLaunch]
    split <;> exact ⟨rfl, rfl⟩

namespace Scene

variable {σ : Type} {s : Scene σ}

theorem sealed_fresh (options : LinkOptions) (device : σ) (now : Nat) :
    (fresh options device now).outline.Sealed := by
  refine ⟨by rintro _ ⟨⟩, by rintro _ ⟨⟩, by rintro _ ⟨⟩, by rintro _ ⟨⟩, by rintro _ ⟨⟩, ?_⟩
  rintro _ _ ⟨⟩

/-- A step of a start keeps the outline of a scene sealed. -/
theorem sealed_start (T : Transport σ) {number : Nat} {phase : StartPhase} (starts : StartsApart s)
    (at_number : s.calls[number]? = some (.start phase)) (h : s.outline.Sealed) :
    (s.act T (.call number)).outline.Sealed := by
  have member : Call.start phase ∈ s.outline.calls := List.mem_of_getElem? at_number
  rw [outline_act_start T at_number]
  have moves (phase' : StartPhase) {o : Outline} {state : LinkState} {failed locked : Bool}
      {liveLoops : Int} {current : Option Nat} {events : List LinkEvent} {faults : List Nat}
      (h : o.Sealed) (calls : o.calls = s.calls)
      (fresh : phase'.fresh? = none ∨ phase'.fresh? = phase.fresh?)
      (pending : phase'.pending? = none ∨ phase'.pending? = phase.pending?)
      (stored : current = o.current ∨ current = none) :
      Outline.Sealed { o with
        calls := s.calls.set number (.start phase'), state, failed, locked, liveLoops, current,
        events, faults } := by
    refine h.recall (forall_mem_set (fun c old => ?_) ?_) stored (.inl rfl)
    · exact Outline.claims_of_mem (calls ▸ old)
    · exact Outline.claims_start (calls ▸ at_number) fresh pending
  cases phase with
  | enter =>
    simp only [Link.startStep]
    split <;> exact moves _ h rfl (.inl rfl) (.inl rfl) (.inl rfl)
  | check =>
    simp only [Link.startStep]
    split
    · exact moves _ h rfl (.inl rfl) (.inl rfl) (.inl rfl)
    · cases s.link.options.validate <;> exact moves _ h rfl (.inl rfl) (.inl rfl) (.inl rfl)
  | openUp =>
    simp only [Link.startStep]
    cases T.openWith s.link.options s.link.device <;>
      exact moves _ h rfl (.inl rfl) (.inl rfl) (.inl rfl)
  | discard => exact moves _ h rfl (.inl rfl) (.inl rfl) (.inr rfl)
  | makeQueue id =>
    have last : id = s.outline.sessions.length := by
      rw [starts.next number id at_number]
      simp [Link.shelves, outline, Link.outline]
    simp only [Link.startStep]
    split
    · exact moves _ h rfl (.inl rfl) (.inl rfl) (.inl rfl)
    · have fresh : Session.standing { } |>.Fresh := ⟨rfl, by rintro ⟨⟩ <;> rfl⟩
      have made := (h.append fresh).adopt number (by simp [last]) (by simp [last]) fresh
        ⟨fun current => absurd (h.current id current) (by omega),
          fun d old holds => absurd (h.held d old id holds) (by omega)⟩
      simpa only [Link.outline, outline, List.map_append, List.map_cons, List.map_nil] using made
  | plug id => exact moves _ (h.plug member rfl) rfl (.inl rfl) (.inr rfl) (.inl rfl)
  | launch loop id =>
    have stale : ∀ c ∈ s.outline.calls, c.fresh? = none := by
      intro c old
      by_contra some_fresh
      obtain ⟨k, fresh⟩ := Option.ne_none_iff_exists'.1 some_fresh
      obtain ⟨i, at_i⟩ := List.mem_iff_getElem?.1 old
      obtain rfl := starts.only at_number rfl at_i (Call.pending?_of_fresh? fresh)
      obtain rfl := Option.some.inj (at_number.symm.trans at_i)
      cases fresh
    obtain ⟨free, pending⟩ := Link.claims_afterLaunch id s.link loop
    simp only [Link.startStep, Link.outline_launch]
    exact moves _ (h.begin stale) rfl (.inl free) (.inr pending) (.inl rfl)
  | store id =>
    have told : Outline.Sealed { s.outline with calls := s.calls.set number (.start .report) } :=
      moves .report h rfl (.inl rfl) (.inl rfl) (.inl rfl)
    refine told.store (h.pending _ member id rfl) fun c after pends => ?_
    obtain ⟨i, at_i⟩ := List.mem_iff_getElem?.1 after
    have bound := (List.getElem?_eq_some_iff.1 at_number).1
    by_cases own : number = i
    · subst own
      rw [List.getElem?_set_self bound] at at_i
      cases at_i
      cases pends
    · rw [List.getElem?_set_ne own] at at_i
      exact own (starts.only at_number rfl at_i pends).symm
  | forgetFailure | clear | count | accept => exact moves _ h rfl (.inr rfl) (.inr rfl) (.inl rfl)
  | refuse | report | leave | done | broken => exact moves _ h rfl (.inl rfl) (.inl rfl) (.inl rfl)

/-- The outline of a scene stays sealed, whatever happens. -/
theorem sealed_act (T : Transport σ) (starts : StartsApart s) (h : s.outline.Sealed)
    (a : Action σ) : (s.act T a).outline.Sealed := by
  cases a with
  | loop p => exact h.loopStep (s.loopStep_act T p)
  | call number =>
    by_cases is_start : ∃ phase, s.calls[number]? = some (.start phase)
    · obtain ⟨phase, at_number⟩ := is_start
      exact sealed_start T starts at_number h
    · exact h.callStep (s.callStep_act T number fun phase at_number =>
        absurd ⟨phase, at_number⟩ is_start)
  | make request =>
    refine h.recall (fun c member => ?_) (.inl rfl) (.inl rfl)
    rcases List.mem_append.1 member with old | new
    · exact Outline.claims_of_mem old
    · obtain rfl := List.mem_singleton.1 new
      exact Outline.claims_of_none (by cases request <;> rfl) (by cases request <;> rfl)
  | device | clock | command | callback => exact h

/-- What holds of every run. -/
structure Sound (s : Scene σ) : Prop where
  starts : StartsApart s
  sealed : s.outline.Sealed

theorem sound_act (T : Transport σ) (sound : s.Sound) (a : Action σ) : (s.act T a).Sound :=
  ⟨startsApart_act T sound.starts a, sealed_act T sound.starts sound.sealed a⟩

theorem sound_run (T : Transport σ) (options : LinkOptions) (device : σ) (now : Nat)
    (actions : List (Action σ)) : ((fresh options device now).run T actions).Sound :=
  run_of_act Sound (fun _ a sound => sound_act T sound a) actions
    ⟨(kept_fresh options device now).starts, sealed_fresh options device now⟩

/-! ## Sessions that are over -/

/-- All loops of a session have ended, and no start is to begin another. -/
structure Over (id : Nat) (s : Scene σ) : Prop where
  ended : ∃ x outcome, s.link.sessions[id]? = some x ∧ x.outcome? = some outcome
  settled : ∀ c ∈ s.calls, c.pending? ≠ some id

theorem outcome?_eq_some_iff {x : Session} {outcome : Option Failure} :
    x.outcome? = some outcome ↔ x.reader = .gone ∧ x.writer = .gone outcome ∧
      (x.poller = .gone ∨ x.poller = .broken ∨ x.poller = .unborn) := by
  constructor
  · intro ended
    unfold Session.outcome? at ended
    split at ended <;> simp_all
  · rintro ⟨reader, writer, poller⟩
    unfold Session.outcome?
    rw [reader, writer]
    rcases poller with h | h | h <;> rw [h]

theorem pending_startStep (T : Transport σ) {phase : StartPhase} {id : Nat} {l : Link σ}
    (pends : (l.startStep T phase).1.pending? = some id) :
    phase.pending? = some id ∨ phase = .makeQueue id := by
  cases phase with
  | launch loop k =>
    obtain ⟨-, pending⟩ := l.claims_afterLaunch k loop
    exact .inl (pending.symm.trans pends)
  | enter | openUp | check =>
    simp only [Link.startStep] at pends
    repeat' split at pends
    all_goals cases pends
  | makeQueue k =>
    simp only [Link.startStep] at pends
    split at pends
    · cases pends
    · cases pends
      exact .inr rfl
  | forgetFailure | clear | count | plug | accept => exact .inl pends
  | discard | refuse | store | report | leave | done | broken => cases pends

/-- A start that has a session pending had it before, or makes it. -/
theorem pending_act (T : Transport σ) (starts : StartsApart s) (a : Action σ) {c : Call} {id : Nat}
    (member : c ∈ (s.act T a).calls) (pends : c.pending? = some id) :
    (∃ d ∈ s.calls, d.pending? = some id) ∨ id = s.link.sessions.length := by
  cases a with
  | call number =>
    cases at_number : s.calls[number]? with
    | none =>
      simp only [act, at_number] at member
      exact .inl ⟨c, member, pends⟩
    | some d =>
      rw [act_call T at_number] at member
      rcases List.mem_or_eq_of_mem_set member with old | rfl
      · exact .inl ⟨c, old, pends⟩
      · by_cases is_start : ∃ phase, d = .start phase
        · obtain ⟨phase, rfl⟩ := is_start
          rcases pending_startStep T pends with same | rfl
          · exact .inl ⟨_, List.mem_of_getElem? at_number, same⟩
          · right
            rw [starts.next number id at_number, Link.shelves, List.length_map]
        · rcases stepped : (d.step T s.link).1 with phase | _ | _ | _
          · exact absurd (isStart_step T s.link stepped) is_start
          all_goals
            rw [stepped] at pends
            cases pends
  | make request =>
    rcases List.mem_append.1 member with old | new
    · exact .inl ⟨c, old, pends⟩
    · obtain rfl := List.mem_singleton.1 new
      cases request <;> cases pends
  | loop | device | clock | command | callback => exact .inl ⟨c, member, pends⟩

/-- A session that is over stays so. -/
theorem over_act (T : Transport σ) {id : Nat} (starts : StartsApart s) (past : s.Over id)
    (a : Action σ) : (s.act T a).Over id := by
  obtain ⟨x, outcome, at_id, ended⟩ := past.ended
  obtain ⟨x', at_id', passes⟩ := passes_act T a at_id
  obtain ⟨reader, writer, poller⟩ := outcome?_eq_some_iff.1 ended
  have unbegun {loop : Loop} (begins : s.Begins a loop id) : False := by
    obtain ⟨number, -, at_number⟩ := begins
    exact past.settled _ (List.mem_of_getElem? at_number) rfl
  refine ⟨⟨x', outcome, at_id', outcome?_eq_some_iff.2 ⟨?_, ?_, ?_⟩⟩, fun c member pends => ?_⟩
  · by_cases own : a = .loop ⟨id, .reader⟩
    · rw [passes.reader own, Link.readerNext, reader]
    · rcases passes.reader_of_ne own with same | ⟨begins, -⟩
      · rw [same, reader]
      · exact (unbegun begins).elim
  · by_cases own : a = .loop ⟨id, .writer⟩
    · rw [passes.writer own, Link.writerNext, writer]
    · rcases passes.writer_of_ne own with same | ⟨begins, -⟩
      · rw [same, writer]
      · exact (unbegun begins).elim
  · by_cases own : a = .loop ⟨id, .poller⟩
    · rw [passes.poller own, Link.pollerNext]
      rcases poller with h | h | h <;> simp [h]
    · rcases passes.poller_of_ne own with same | ⟨begins, -⟩
      · rw [same]
        exact poller
      · exact (unbegun begins).elim
  · rcases pending_act T starts a member pends with ⟨d, old, pends⟩ | next
    · exact past.settled d old pends
    · have bound := (List.getElem?_eq_some_iff.1 at_id).1
      omega

/-- A close goes on with the session it has taken, or has seen it end. -/
theorem held_act (T : Transport σ) {number id : Nat} {c : Call} (sound : s.Sound)
    (at_number : s.calls[number]? = some c) (holds : c.held? = some id) (a : Action σ) :
    (∃ c', (s.act T a).calls[number]? = some c' ∧ c'.held? = some id) ∨ (s.act T a).Over id := by
  cases c with
  | start | send | stopPolling => cases holds
  | close phase =>
    have kept (same : (s.act T a).calls[number]? = s.calls[number]?) :
        ∃ c', (s.act T a).calls[number]? = some c' ∧ c'.held? = some id :=
      ⟨_, same.trans at_number, holds⟩
    cases a with
    | call n =>
      by_cases own : n = number
      · subst own
        have bound := (List.getElem?_eq_some_iff.1 at_number).1
        have after : (s.act T (.call n)).calls[n]? = some (.close (s.link.closeStep phase).1) := by
          rw [act_call T at_number]
          exact List.getElem?_set_self bound
        cases phase with
        | mark k | unplug k | cancel k => exact .inl ⟨_, after, holds⟩
        | join k =>
          obtain rfl : k = id := Option.some.inj holds
          cases ended : s.link.sessions[k]? >>= Session.outcome? with
          | none =>
            refine .inl ⟨_, after, ?_⟩
            simp only [Link.closeStep, ended]
            rfl
          | some outcome =>
            -- the loops have ended, and no start has this session pending
            obtain ⟨x, at_k, ended'⟩ := Option.bind_eq_some_iff.1 ended
            have past : s.Over k := by
              refine ⟨⟨x, outcome, at_k, ended'⟩, fun d member pends => ?_⟩
              exact (sound.sealed.apart d member k pends).2 _ (List.mem_of_getElem? at_number) rfl
            exact .inr (over_act T sound.starts past _)
        | stopPolling | take | judge | finish | clear | report | done => cases holds
      · refine .inl (kept ?_)
        cases at_n : s.calls[n]? with
        | none => simp only [act, at_n]
        | some d =>
          rw [act_call T at_n]
          exact List.getElem?_set_ne own
    | make request =>
      refine .inl (kept ?_)
      exact List.getElem?_append_left (List.getElem?_eq_some_iff.1 at_number).1
    | loop | device | clock | command | callback => exact .inl (kept rfl)

/-- When a close that took a session no longer holds it, that session is over. -/
theorem over_of_held {T : Transport σ} {number id : Nat} {c c' : Call} (sound : s.Sound)
    (at_number : s.calls[number]? = some c) (holds : c.held? = some id)
    (actions : List (Action σ)) (at_end : (s.run T actions).calls[number]? = some c')
    (free : c'.held? = none) : (s.run T actions).Over id := by
  have either := run_of_act
    (fun s => s.Sound ∧ ((∃ c, s.calls[number]? = some c ∧ c.held? = some id) ∨ s.Over id))
    (fun s a ⟨sound, either⟩ => by
      refine ⟨sound_act T sound a, ?_⟩
      rcases either with ⟨c, at_number, holds⟩ | past
      · exact held_act T sound at_number holds a
      · exact .inr (over_act T sound.starts past a))
    actions ⟨sound, .inl ⟨c, at_number, holds⟩⟩
  rcases either.2 with ⟨d, at_number, holds⟩ | past
  · obtain rfl := Option.some.inj (at_end.symm.trans at_number)
    cases free.symm.trans holds
  · exact past

end Scene

end FieldLink
