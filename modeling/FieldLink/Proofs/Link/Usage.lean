import FieldLink.Proofs.Link.Orderly
import FieldLink.Proofs.Link.Start

/-!
# Orderly use

A fresh link is orderly, and every move of an orderly link keeps it so (`Orderly.move`).  A step of
a close changes little else than the call itself (`Orderly.closeStep`), and a start that is not
interrupted opens a session when all loops of the others are idle (`Orderly.open`).
-/

namespace FieldLink

namespace Outline

variable {o o' : Outline}

/-! ## Steps of the calls -/

/-- The sessions stay as they are. -/
theorem Orderly.shift (orderly : o.Orderly) (sessions : o'.sessions = o.sessions)
    (locked : o'.locked = false) (count : o'.liveLoops = o.liveLoops)
    (current : o'.current = o.current ∨ o'.current = none)
    (outbox : o'.outbox = o.outbox ∨ o'.outbox = none)
    (opened : o'.state = .opened → o.state = .opened ∧ o'.outbox = o.outbox)
    (idle : ∀ id x, o.sessions[id]? = some x → id + 1 = o.sessions.length →
      o'.state = .closed ∨ o'.state = .opening → ∀ loop, (x.stage loop).isIdle)
    (halted : ∀ id x, o.sessions[id]? = some x → id + 1 = o.sessions.length →
      o'.state ≠ .opened → x.cancelled ∨ x.Halting ∨ ∃ c ∈ o'.calls, c.isHalting)
    (fits : ∀ c ∈ o'.calls, o'.Fits c) : o'.Orderly := by
  refine ⟨locked, ?_, ?_, ?_, ?_, ?_, fits⟩
  · intro id h
    rw [sessions]
    rcases outbox with same | none
    · exact orderly.outbox id (same ▸ h)
    · rw [none] at h
      cases h
  · intro id h
    rw [sessions]
    rcases current with same | none
    · exact orderly.current id (same ▸ h)
    · rw [none] at h
      cases h
  · intro h
    obtain ⟨was, same⟩ := opened h
    rw [same]
    exact orderly.plugged was
  · intro h
    rw [count]
    exact orderly.empty (sessions ▸ h)
  · intro id x at_id
    rw [sessions] at at_id
    exact (orderly.keeps id x at_id).mono (List.getElem?_eq_some_iff.1 at_id).1 (by rw [sessions])
      outbox (fun h => (opened h).1) (fun _ => count) (idle id x at_id) (halted id x at_id)

theorem Fits.shift {c : Call} (fits : o.Fits c) (sessions : o'.sessions = o.sessions)
    (opened : o'.state = .opened → o.state = .opened) (outbox : o.outbox = none → o'.outbox = none)
    (closed : o.Ended → o.state = .closed → o'.state = .closed) : o'.Fits c := by
  refine fits.mono (by rw [sessions]) opened outbox ?_ ?_ closed
  · exact fun id x _ at_id was => ⟨x, sessions ▸ at_id, was⟩
  · intro ended
    rwa [Ended, sessions]

/-- If some call is as said, some still is when one goes on that stays as said. -/
theorem exists_mem_set {calls : List Call} {P : Call → Prop} {number : Nat} {c c' : Call}
    (at_number : calls[number]? = some c) (kept : P c → P c') (some_is : ∃ d ∈ calls, P d) :
    ∃ d ∈ calls.set number c', P d := by
  obtain ⟨d, member, is⟩ := some_is
  obtain ⟨i, at_i⟩ := List.mem_iff_getElem?.1 member
  have bound := (List.getElem?_eq_some_iff.1 at_number).1
  by_cases own : number = i
  · subst own
    obtain rfl : c = d := Option.some.inj (at_number.symm.trans at_i)
    exact ⟨c', List.mem_iff_getElem?.2 ⟨number, List.getElem?_set_self bound⟩, kept is⟩
  · refine ⟨d, List.mem_iff_getElem?.2 ⟨i, ?_⟩, is⟩
    rw [List.getElem?_set_ne own, at_i]

theorem fits_set {calls : List Call} {number : Nat} {c' : Call} (fits : ∀ c ∈ calls, o.Fits c)
    (fits' : o.Fits c') : ∀ c ∈ calls.set number c', o.Fits c := by
  intro c member
  rcases List.mem_or_eq_of_mem_set member with old | rfl
  · exact fits c old
  · exact fits'

/-- A call goes on to a phase that fits, and nothing else changes. -/
theorem Orderly.recall {number : Nat} {c c' : Call} (orderly : o.Orderly)
    (at_number : o.calls[number]? = some c) (halts : c.isHalting → c'.isHalting)
    (fits : o.Fits c') : Orderly { o with calls := o.calls.set number c' } := by
  refine orderly.shift rfl orderly.unlocked rfl (.inl rfl) (.inl rfl) (fun h => ⟨h, rfl⟩) ?_ ?_ ?_
  · exact fun id x at_id _ h => (orderly.keeps id x at_id).idle (.inr h)
  · intro id x at_id latest h
    exact ((orderly.keeps id x at_id).halted latest h).imp_right fun h =>
      h.imp_right (exists_mem_set at_number halts)
  · exact fun c member => fits_set orderly.fits fits c member

theorem Orderly.of_mark {number id : Nat} (orderly : o.Orderly)
    (at_number : o.calls[number]? = some (.close (.mark id))) :
    Orderly { o with
      state := if o.state = .opened then .closing else o.state
      calls := o.calls.set number (.close (.unplug id)) } := by
  have last : id + 1 = o.sessions.length :=
    orderly.fits _ (List.mem_of_getElem? at_number)
  by_cases opened : o.state = .opened
  · rw [if_pos opened]
    have bound := (List.getElem?_eq_some_iff.1 at_number).1
    refine orderly.shift rfl orderly.unlocked rfl (.inl rfl) (.inl rfl) (by rintro ⟨⟩) ?_ ?_ ?_
    · rintro _ _ _ _ (h | h) <;> cases h
    · intro _ _ _ _ _
      exact .inr (.inr ⟨_, List.mem_iff_getElem?.2 ⟨number, List.getElem?_set_self bound⟩, rfl⟩)
    · refine fits_set (o := { o with state := .closing, calls := _ }) ?_ ⟨last, by rintro ⟨⟩⟩
      exact fun c member => (orderly.fits c member).shift rfl (by rintro ⟨⟩) (fun h => h)
        fun _ closed => by cases opened.symm.trans closed
  · rw [if_neg opened]
    exact orderly.recall at_number (by rintro ⟨⟩) ⟨last, opened⟩

theorem Orderly.of_unplug {number id : Nat} (orderly : o.Orderly)
    (at_number : o.calls[number]? = some (.close (.unplug id))) :
    Orderly { o with outbox := none, calls := o.calls.set number (.close (.cancel id)) } := by
  obtain ⟨last, not_opened⟩ := orderly.fits _ (List.mem_of_getElem? at_number)
  refine orderly.shift rfl orderly.unlocked rfl (.inl rfl) (.inr rfl) (fun h => absurd h not_opened)
    ?_ ?_ ?_
  · exact fun id x at_id _ h => (orderly.keeps id x at_id).idle (.inr h)
  · intro id x at_id latest h
    exact ((orderly.keeps id x at_id).halted latest h).imp_right fun h =>
      h.imp_right (exists_mem_set at_number fun _ => rfl)
  · refine fits_set (o := { o with outbox := none, calls := _ }) ?_ ⟨last, rfl⟩
    exact fun c member => (orderly.fits c member).shift rfl (fun h => h) (fun _ => rfl)
      fun _ closed => closed

theorem Orderly.of_finish {number : Nat} {result : Except LinkError Unit} {fatal changed : Bool}
    (orderly : o.Orderly) (at_number : o.calls[number]? = some (.close (.finish result fatal))) :
    Orderly { o with
      state := .closed
      calls := o.calls.set number (.close (.clear result fatal changed)) } := by
  have ended : o.Ended := orderly.fits _ (List.mem_of_getElem? at_number)
  refine orderly.shift rfl orderly.unlocked rfl (.inl rfl) (.inl rfl) (by rintro ⟨⟩) ?_ ?_ ?_
  · exact fun id x at_id latest _ => Standing.isIdle_of_isOver (ended.of_latest at_id latest).2
  · exact fun id x at_id latest _ => .inl (ended.of_latest at_id latest).1
  · refine fits_set (o := { o with state := .closed, calls := _ }) ?_ ⟨rfl, ended⟩
    exact fun c member => (orderly.fits c member).shift rfl (by rintro ⟨⟩) (fun h => h)
      fun _ _ => rfl

theorem Orderly.of_cancel {number id : Nat} (orderly : o.Orderly)
    (at_number : o.calls[number]? = some (.close (.cancel id))) :
    Orderly { o.update id fun x => { x with cancelled := true } with
      calls := o.calls.set number (.close (.join id)) } := by
  obtain ⟨last, unplugged⟩ := orderly.fits _ (List.mem_of_getElem? at_number)
  have bound : id < o.sessions.length := by omega
  obtain ⟨x, at_id⟩ : ∃ x, o.sessions[id]? = some x := ⟨_, List.getElem?_eq_getElem bound⟩
  rw [show (o.update id fun x => { x with cancelled := true }) =
    { o with sessions := o.sessions.set id { x with cancelled := true } } by
      rw [← sessions_update (f := fun x => { x with cancelled := true }) at_id]
      rfl]
  have at_self := List.getElem?_set_self (a := { x with cancelled := true }) bound
  have length : (o.sessions.set id { x with cancelled := true }).length = o.sessions.length :=
    List.length_set
  have latest_eq : ∀ id' y, (o.sessions.set id { x with cancelled := true })[id']? = some y →
      id' + 1 = o.sessions.length → y = { x with cancelled := true } := by
    intro id' y at_y latest
    obtain rfl : id' = id := by omega
    exact Option.some.inj (at_y.symm.trans at_self)
  have ended : o.Ended → ∃ id' y,
      (o.sessions.set id { x with cancelled := true })[id']? = some y ∧
        id' + 1 = (o.sessions.set id { x with cancelled := true }).length ∧
          y.cancelled ∧ y.isOver := fun ended =>
    ⟨id, _, at_self, last.trans length.symm, rfl, (ended.of_latest at_id last).2⟩
  refine ⟨orderly.unlocked, ?_, ?_, orderly.plugged, ?_, ?_, ?_⟩
  · exact fun id' h => (orderly.outbox id' h).trans length.symm
  · exact fun id' h => (orderly.current id' h).trans length.symm
  · intro h
    have none := congrArg List.length h
    rw [length, List.length_nil] at none
    omega
  · intro id' y at_y
    by_cases own : id' = id
    · subst own
      obtain rfl := latest_eq _ y at_y last
      obtain ⟨⟨allows, dropped, ends⟩, idle, -, closing, count, -⟩ := orderly.keeps _ x at_id
      refine ⟨⟨allows, dropped, ends⟩, ?_, ?_, closing, ?_, fun _ _ => .inl rfl⟩
      · exact fun h => idle (length ▸ h)
      · intro _ h
        rw [unplugged] at h
        cases h
      · exact fun h => count (length ▸ h)
    · replace at_y : o.sessions[id']? = some y := by
        rw [← at_y]
        exact (List.getElem?_set_ne (Ne.symm own)).symm
      have bound' := (List.getElem?_eq_some_iff.1 at_y).1
      exact (orderly.keeps id' y at_y).mono bound' length (.inl rfl) (fun h => h) (fun _ => rfl)
        (fun h => by omega) (fun h => by omega)
  · refine fits_set ?_ ⟨last.trans length.symm, _, at_self, rfl⟩
    refine fun c member => (orderly.fits c member).mono length (fun h => h) (fun h => h) ?_ ended
      fun _ closed => closed
    intro id' _ latest _ _
    obtain rfl : id' = id := by omega
    exact ⟨_, at_self, rfl⟩

/-- A step of a close keeps an outline orderly. -/
theorem Orderly.closeStep {number : Nat} {phase phase' : ClosePhase} (orderly : o.Orderly)
    (at_number : o.calls[number]? = some (.close phase)) (step : o.CloseStep phase phase' o') :
    Orderly { o' with calls := o.calls.set number (.close phase') } := by
  have fits := orderly.fits _ (List.mem_of_getElem? at_number)
  cases step with
  | wait => exact orderly.recall at_number id fits
  | stopPolling => exact orderly.recall at_number (by rintro ⟨⟩) trivial
  | takeNone none => exact orderly.recall at_number (by rintro ⟨⟩) trivial
  | take id current =>
    have step : Orderly { o with calls := o.calls.set number (.close (.mark id)) } :=
      orderly.recall at_number (by rintro ⟨⟩) (orderly.current id current)
    exact step.shift rfl orderly.unlocked rfl (.inr rfl) (.inl rfl) (fun h => ⟨h, rfl⟩)
      (fun id x at_id _ h => (orderly.keeps id x at_id).idle (.inr h))
      (fun id x at_id latest h => (step.keeps id x at_id).halted latest h) step.fits
  | mark id => exact orderly.of_mark at_number
  | unplug id => exact orderly.of_unplug at_number
  | cancel id => exact orderly.of_cancel at_number
  | join id x result at_id finished =>
    refine orderly.recall at_number (by rintro ⟨⟩) ?_
    obtain ⟨last, y, at_y, cancelled⟩ := fits
    obtain rfl : x = y := Option.some.inj (at_id.symm.trans at_y)
    exact ⟨id, x, at_id, last, cancelled, finished⟩
  | judge result => exact orderly.recall at_number (by rintro ⟨⟩) fits
  | finish result fatal => exact orderly.of_finish at_number
  | clear result fatal => exact orderly.recall at_number (by rintro ⟨⟩) fits
  | skip result fatal => exact orderly.recall at_number (by rintro ⟨⟩) trivial
  | report result fatal =>
    have step : Orderly { o with calls := o.calls.set number (.close (.done result)) } :=
      orderly.recall at_number (by rintro ⟨⟩) trivial
    exact step.of_eq rfl

/-- A step of a call keeps an outline orderly. -/
theorem Orderly.callStep {number : Nat} (orderly : o.Orderly) (step : o.CallStep number o') :
    o'.Orderly := by
  cases step with
  | still => exact orderly
  | plain c c' at_number before after =>
    refine orderly.recall at_number (fun h => ?_) ?_
    · cases c with
      | send | stopPolling => cases h
      | start | close => cases before
    · cases c' with
      | send | stopPolling => trivial
      | start | close => cases after
  | close phase phase' o' at_number step => exact orderly.closeStep at_number step

/-- A call that fits may be made. -/
theorem Orderly.append (orderly : o.Orderly) {c : Call} (fits : o.Fits c) :
    Orderly { o with calls := o.calls ++ [c] } := by
  refine orderly.shift rfl orderly.unlocked rfl (.inl rfl) (.inl rfl) (fun h => ⟨h, rfl⟩) ?_ ?_ ?_
  · exact fun id x at_id _ h => (orderly.keeps id x at_id).idle (.inr h)
  · intro id x at_id latest h
    refine ((orderly.keeps id x at_id).halted latest h).imp_right fun h => h.imp_right ?_
    rintro ⟨c, member, halts⟩
    exact ⟨c, List.mem_append_left _ member, halts⟩
  · intro c' member
    rcases List.mem_append.1 member with old | new
    · exact orderly.fits c' old
    · obtain rfl := List.mem_singleton.1 new
      exact fits

/-- A call that is not a start may be made. -/
theorem Orderly.make (orderly : o.Orderly) {request : Request} (plain : request ≠ .start) :
    Orderly { o with calls := o.calls ++ [request.call] } := by
  refine orderly.append ?_
  cases request with
  | start => exact absurd rfl plain
  | send | stopPolling | close => trivial

/-! ## Starts -/

/-- A close that has taken no session fits any outline, and so does a start that is over. -/
theorem fits_of_not_hasTaken {c : Call} (fits : o.Fits c) (apart : ¬c.hasTaken) : o'.Fits c := by
  cases c with
  | start => exact fits
  | send | stopPolling => trivial
  | close phase =>
    cases phase with
    | stopPolling | take | done => trivial
    | _ => exact absurd rfl apart

theorem fits_concat {phase : StartPhase} (orderly : o.Orderly)
    (apart : ∀ c ∈ o.calls, ¬c.hasTaken) (finished : (Call.start phase).isOver) :
    ∀ c ∈ o.calls ++ [.start phase], o'.Fits c := by
  intro c member
  rcases List.mem_append.1 member with old | new
  · exact fits_of_not_hasTaken (orderly.fits c old) (apart c old)
  · obtain rfl := List.mem_singleton.1 new
    exact finished

/-- A start that opens no session may forget the current one, and leave the link opening if it
breaks off. -/
theorem Orderly.refuse {phase : StartPhase} {state : LinkState} {current : Option Nat}
    (orderly : o.Orderly) (apart : ∀ c ∈ o.calls, ¬c.hasTaken)
    (finished : (Call.start phase).isOver)
    (held : current = o.current ∨ current = none)
    (kept : state = o.state ∨ o.state = .closed ∧ state = .opening) :
    Orderly { o with state, current, calls := o.calls ++ [.start phase] } := by
  refine orderly.shift rfl orderly.unlocked rfl held (.inl rfl) ?_ ?_ ?_
    (fits_concat orderly apart finished)
  · intro opened
    rcases kept with same | ⟨-, opening⟩
    · exact ⟨same.symm.trans opened, rfl⟩
    · cases opening.symm.trans opened
  · intro id x at_id _ h
    refine (orderly.keeps id x at_id).idle (.inr ?_)
    rcases kept with same | ⟨closed, -⟩
    · exact same ▸ h
    · exact .inl closed
  · intro id x at_id latest h
    have not_opened : o.state ≠ .opened := by
      rcases kept with same | ⟨closed, -⟩
      · exact same ▸ h
      · rw [closed]
        decide
    refine ((orderly.keeps id x at_id).halted latest not_opened).imp_right fun h => h.imp_right ?_
    rintro ⟨c, member, halts⟩
    exact ⟨c, List.mem_append_left _ member, halts⟩

/-- Where a session stands whose loops have just begun. -/
def firstStanding (poll : Bool) : Standing where
  cancelled := false
  readHalf := true
  writeHalf := true
  reader := .running
  writer := .running
  poller := if poll then .running else .unborn

theorem stage_firstStanding (poll : Bool) (loop : Loop) :
    (firstStanding poll).stage loop = .running ∨
      loop = .poller ∧ (firstStanding poll).stage loop = .unborn := by
  cases poll <;> cases loop <;> simp [firstStanding, Standing.stage]

theorem not_stage_firstStanding {is : Stage → Bool} (poll : Bool) (loop : Loop)
    (running : is .running = false) (unborn : is .unborn = false) :
    ¬is ((firstStanding poll).stage loop) := by
  rcases stage_firstStanding poll loop with h | ⟨-, h⟩
  · simp [h, running]
  · simp [h, unborn]

theorem sound_firstStanding (poll : Bool) : (firstStanding poll).Sound := by
  refine ⟨fun loop => ?_, fun loop out => ?_, fun loop other last => ?_⟩
  · rcases stage_firstStanding poll loop with h | ⟨rfl, h⟩
    · rw [h]
      cases loop <;> rfl
    · rw [h]
      rfl
  · exact absurd out (not_stage_firstStanding poll loop rfl rfl)
  · exact absurd last (not_stage_firstStanding poll loop rfl rfl)

/-- A closed link may open a session, whatever calls there are that fit any outline. -/
theorem Orderly.open {calls : List Call} (orderly : o.Orderly)
    (fits : ∀ (o' : Outline), ∀ c ∈ calls, o'.Fits c) (closed : o.state = .closed)
    (events : List LinkEvent) (poll : Bool) :
    Orderly { o with
      state := .opened
      outbox := some o.sessions.length
      failed := false
      liveLoops := if poll then 3 else 2
      current := some o.sessions.length
      sessions := o.sessions ++ [firstStanding poll]
      events
      calls } := by
  have length : (o.sessions ++ [firstStanding poll]).length = o.sessions.length + 1 :=
    List.length_append
  refine ⟨orderly.unlocked, ?_, ?_, fun _ => rfl, ?_, ?_, fits _⟩
  · rintro id ⟨⟩
    exact length.symm
  · rintro id ⟨⟩
    exact length.symm
  · intro h
    exact absurd h (List.concat_ne_nil _ _)
  · intro id x at_id
    rcases getElem?_concat_cases at_id with old | ⟨rfl, rfl⟩
    · -- the link was closed, so all loops of an older session are idle
      have older := (List.getElem?_eq_some_iff.1 old).1
      obtain ⟨sound, idle, -, -, -, -⟩ := orderly.keeps id x old
      have all := idle (.inr (.inl closed))
      have not_latest : id + 1 ≠ (o.sessions ++ [firstStanding poll]).length := by omega
      refine ⟨sound, fun _ => all, ?_, ?_, (absurd · not_latest), (absurd · not_latest)⟩
      · rintro _ ⟨⟩
        exact absurd older (Nat.lt_irrefl _)
      · intro loop h
        have idle := all loop
        rw [h] at idle
        cases idle
    · refine ⟨sound_firstStanding poll, ?_, ?_, ?_, ?_, fun _ h => absurd rfl h⟩
      · rintro (h | h | h)
        · exact absurd (Nat.lt_of_lt_of_eq h length) (Nat.lt_irrefl _)
        · cases h
        · cases h
      · rintro (h | ⟨loop, -, past⟩)
        · cases h
        · exact absurd past (not_stage_firstStanding poll loop rfl rfl)
      · intro loop h
        rcases stage_firstStanding poll loop with h' | ⟨-, h'⟩ <;> cases h'.symm.trans h
      · intro _
        cases poll <;> rfl

end Outline

namespace Scene

variable {σ : Type}

/-- The outline of the scene is orderly. -/
def Orderly (s : Scene σ) : Prop := s.outline.Orderly

theorem orderly_fresh (options : LinkOptions) (device : σ) (now : Nat) :
    (fresh options device now).Orderly := by
  refine ⟨rfl, ?_, ?_, ?_, fun _ => rfl, ?_, ?_⟩
  · rintro _ ⟨⟩
  · rintro _ ⟨⟩
  · rintro ⟨⟩
  · rintro _ _ ⟨⟩
  · rintro _ ⟨⟩

theorem Orderly.act {T : Transport σ} {s : Scene σ} {a : Action σ} (orderly : s.Orderly)
    (plain : a ≠ .make .start) : (s.act T a).Orderly := by
  cases a with
  | loop p => exact Outline.Orderly.loopStep orderly (s.loopStep_act T p)
  | call number =>
    refine Outline.Orderly.callStep orderly (s.callStep_act T number fun phase at_number => ?_)
    exact orderly.fits _ (List.mem_of_getElem? at_number)
  | make request => exact Outline.Orderly.make orderly fun h => plain (congrArg _ h)
  | device | clock | command | callback => exact orderly

/-- A start that is not interrupted keeps a scene orderly, when no close is in progress. -/
theorem Orderly.start {s : Scene σ} {phase : StartPhase} {link : Link σ} (orderly : s.Orderly)
    (apart : ∀ c ∈ s.calls, ¬c.isClosing) (outcome : s.link.StartOutcome phase link) :
    (s.afterStart phase link).Orderly := by
  unfold Orderly
  rw [outline_afterStart]
  have finished := outcome.isOver
  have untaken : ∀ c ∈ s.outline.calls, ¬c.hasTaken :=
    fun c member taken => apart c member (Call.isClosing_of_hasTaken taken)
  cases outcome with
  | refused e => exact Outline.Orderly.refuse orderly untaken finished (.inl rfl) (.inl rfl)
  | unopened e closed => exact Outline.Orderly.refuse orderly untaken finished (.inr rfl) (.inl rfl)
  | broken device closed large =>
    exact Outline.Orderly.refuse orderly untaken finished (.inr rfl) (.inr ⟨closed, rfl⟩)
  | opened device closed fits =>
    have unlocked : s.link.locked = false := orderly.unlocked
    have opened := Outline.Orderly.open orderly
      (fun _ => Outline.fits_concat orderly untaken finished) closed (s.link.events ++ [.opened])
      s.link.options.poll
    have standing : (Link.firstSession s.link.options).standing =
        Outline.firstStanding s.link.options.poll := by
      cases poll : s.link.options.poll <;>
        simp [Link.firstSession, Outline.firstStanding, Session.standing, ReaderPhase.stage,
          WriterPhase.stage, PollerPhase.stage, poll]
    simpa [Link.outline, Scene.outline, Link.withSession, standing, unlocked] using opened

/-- A move keeps a scene orderly. -/
theorem Orderly.move {T : Transport σ} {ready : Scene σ → Prop} {s s' : Scene σ}
    (orderly : s.Orderly) (move : Move T ready s s') : s'.Orderly := by
  cases move with
  | act a plain => exact orderly.act plain
  | start apart free run =>
    obtain ⟨phase, link, outcome, rfl⟩ := start_outcome orderly.unlocked run
    exact orderly.start apart outcome

theorem Orderly.moves {T : Transport σ} {ready : Scene σ → Prop} {s s' : Scene σ}
    (orderly : s.Orderly) (moves : Relation.ReflTransGen (Move T ready) s s') : s'.Orderly := by
  induction moves with
  | refl => exact orderly
  | tail _ move ih => exact ih.move move

end Scene

end FieldLink
