import FieldLink.Proofs.Link.SessionOwner

/-!
# What becomes of a session that was given up

A session that was given up has a loop left that takes the link to closed, or one that tells so, or
it was told so once (`Outline.Fate`).  An outline is steady if that holds of every session, somebody
is to close the latest one, and no close tells that a session was given up (`Outline.Steady`).  A
step of a loop that does not break off keeps an outline steady (`Steady.loopStep`), and so does a
step of a call (`Steady.callStep`).
-/

namespace FieldLink

/-- Whether a loop comes to this stage only after its session was given up. -/
def Stage.isFateful : Stage → Bool
  | failing .close | leaving .finish | leaving .report => true
  | _ => false

/-- Whether an event tells that a session was given up. -/
def LinkEvent.isFatalEnd : LinkEvent → Bool
  | closed fatal => fatal
  | _ => false

namespace Standing

theorem load_pos (loop : Loop) {x : Standing} (counted : (x.stage loop).counts) : 0 < x.load := by
  have own : (x.stage loop).weight = 1 := by
    rw [Stage.weight, if_pos counted]
  have reader := x.reader.weight_nonneg
  have writer := x.writer.weight_nonneg
  have poller := x.poller.weight_nonneg
  unfold load
  cases loop <;> simp only [stage] at own <;> omega

theorem load_of_stages {x x' : Standing} (stages : ∀ loop, x'.stage loop = x.stage loop) :
    x'.load = x.load := by
  have reader : x'.reader = x.reader := stages .reader
  have writer : x'.writer = x.writer := stages .writer
  have poller : x'.poller = x.poller := stages .poller
  rw [load, load, reader, writer, poller]

/-- A loop that has counted itself out as the last one leaves nothing to count. -/
theorem Sound.load_of_isLast (loop : Loop) {x : Standing} (sound : x.Sound)
    (is_last : (x.stage loop).isLast) : x.load = 0 := by
  have weight : ∀ other, (x.stage other).weight = 0 := by
    intro other
    by_cases own : other = loop
    · rw [own]
      generalize x.stage loop = stage at is_last
      cases stage with
      | leaving phase => cases phase <;> first | rfl | cases is_last
      | _ => cases is_last
    · rcases sound.last loop other is_last own with h | h <;> rw [h] <;> rfl
  calc x.load = (x.stage .reader).weight + (x.stage .writer).weight + (x.stage .poller).weight := rfl
    _ = 0 := by rw [weight, weight, weight]; rfl

/-- When all loops have ended and none broke off, none is counted and none is leaving. -/
theorem of_isOver {x : Standing} (finished : x.isOver) (unbroken : x.poller ≠ .broken) :
    x.load = 0 ∧ ∀ loop phase, x.stage loop ≠ .leaving phase := by
  simp only [isOver, Bool.and_eq_true, Bool.or_eq_true, decide_eq_true_eq] at finished
  obtain ⟨⟨reader, writer⟩, poller⟩ := finished
  have poller : x.poller = .gone ∨ x.poller = .unborn := by
    rcases poller with (h | h) | h
    · exact .inl h
    · exact absurd h unbroken
    · exact .inr h
  refine ⟨?_, fun loop phase leaving => ?_⟩
  · rw [load, reader, writer]
    rcases poller with h | h <;> rw [h] <;> rfl
  · cases loop with
    | reader => cases reader.symm.trans leaving
    | writer => cases writer.symm.trans leaving
    | poller => rcases poller with h | h <;> cases h.symm.trans leaving

end Standing

namespace Outline

/-- Who has told between two outlines that a session was given up, if `who` took the step. -/
def closings (who : Option Nat) (o o' : Outline) : List (Option Nat) :=
  ((o'.events.drop o.events.length).filter LinkEvent.isFatalEnd).map fun _ => who

/-- A session is not the latest, or the link is closed. -/
def Past (o : Outline) (id : Nat) : Prop := id + 1 < o.sessions.length ∨ o.state = .closed

/-- What becomes of a session.  The loops of a session, or a call, have `told` that a session was
given up. -/
inductive Fate (told : List (Option Nat)) (o : Outline) (id : Nat) (x : Standing) : Prop
  /-- It was not given up. -/
  | whole (kept : id ∉ o.faults) (untold : some id ∉ told)
      (sane : ∀ loop, (x.stage loop).isFateful = false)
  /-- A loop is left that is to take the link to closed. -/
  | doomed (fault : id ∈ o.faults) (untold : some id ∉ told) (latest : id + 1 = o.sessions.length)
      (used : o.state ≠ .closed)
      (left : 0 < x.load ∨
        ∃ loop, x.stage loop = .leaving .judge ∨ x.stage loop = .leaving .finish)
  /-- A loop has taken the link to closed and is to tell so. -/
  | telling (loop : Loop) (fault : id ∈ o.faults) (untold : some id ∉ told) (past : o.Past id)
      (at_loop : x.stage loop = .leaving .report)
  /-- It was told once. -/
  | told (fault : id ∈ o.faults) (once : told.count (some id) = 1) (past : o.Past id)
      (silent : ∀ loop, x.stage loop ≠ .leaving .report)

/-- Every session meets its fate, and somebody is to close the latest one. -/
structure Steady (forsaken : List Nat) (told : List (Option Nat)) (o : Outline) : Prop where
  orderly : o.Orderly
  empty : o.sessions = [] → o.state = .closed
  faults : ∀ id ∈ o.faults, id < o.sessions.length
  failed : ∀ id, id + 1 = o.sessions.length → (o.failed = true ↔ id ∈ o.faults)
  known : ∀ id, some id ∈ told ∨ id ∈ forsaken → id < o.sessions.length
  unbroken : ∀ p, o.stageAt? p ≠ some .broken
  polls : ∀ id stage, o.stageAt? ⟨id, .poller⟩ = some stage → stage = .unborn ∨ o.options.poll
  custody : ∀ id, id + 1 = o.sessions.length → o.Custody forsaken id
  fates : ∀ id x, o.sessions[id]? = some x → Fate told o id x
  /-- A close has found out whether the latest session was given up. -/
  judged : ∀ number fatal, o.verdict? (.call number) = some fatal → fatal = o.failed
  /-- A close tells only of a session that was not given up. -/
  mild : ∀ number, o.tells (.call number) → o.failed = false
  silent : none ∉ told

variable {o o' : Outline} {forsaken : List Nat} {told told' : List (Option Nat)}

theorem stageAt?_of_at {p : Place} {x : Standing} (at_id : o.sessions[p.session]? = some x) :
    o.stageAt? p = some (x.stage p.loop) := by
  rw [stageAt?, at_id, Option.map_some]

/-! ## Who has told -/

theorem closings_of_eq {who : Option Nat} (same : o'.events = o.events) :
    o.closings who o' = [] := by
  rw [closings, same, List.drop_length]
  rfl

theorem closings_of_concat {who : Option Nat} {event : LinkEvent}
    (events : o'.events = o.events ++ [event]) :
    o.closings who o' = if event.isFatalEnd then [who] else [] := by
  rw [closings, events, List.drop_left]
  cases fatal : event.isFatalEnd <;> simp [fatal]

theorem mem_closings {who teller : Option Nat} (member : teller ∈ o.closings who o') :
    teller = who := by
  obtain ⟨_, -, rfl⟩ := List.mem_map.1 member
  rfl

theorem isFatalEnd_of_isTraffic {event : LinkEvent} (traffic : event.isTraffic) :
    event.isFatalEnd = false := by
  cases event with
  | closed => cases traffic
  | _ => rfl

theorem count_append_closings {who : Option Nat} {id : Nat} (ne : who ≠ some id) :
    (told ++ o.closings who o').count (some id) = told.count (some id) := by
  have none : (o.closings who o').count (some id) = 0 :=
    List.count_eq_zero_of_not_mem fun member => ne (mem_closings member).symm
  rw [List.count_append, none, Nat.add_zero]

/-! ## Fates -/

/-- Nothing changes that the fate of a session depends on. -/
theorem Fate.mono {id : Nat} {x x' : Standing} (fate : Fate told o id x)
    (stages : ∀ loop, x'.stage loop = x.stage loop) (faults : id ∈ o'.faults ↔ id ∈ o.faults)
    (past : o.Past id → o'.Past id)
    (used : id ∈ o.faults → id + 1 = o.sessions.length → o.state ≠ .closed → 0 < x.load ∨
      (∃ loop, x.stage loop = .leaving .judge ∨ x.stage loop = .leaving .finish) →
        id + 1 = o'.sessions.length ∧ o'.state ≠ .closed)
    (same : told'.count (some id) = told.count (some id)) : Fate told' o' id x' := by
  have untold_of_untold : some id ∉ told → some id ∉ told' := by
    rw [← List.count_eq_zero, ← List.count_eq_zero, same]
    exact fun h => h
  cases fate with
  | whole kept untold sane =>
    refine .whole (fun fault => kept (faults.1 fault)) (untold_of_untold untold) fun loop => ?_
    rw [stages]
    exact sane loop
  | doomed fault untold latest in_use left =>
    obtain ⟨latest', used'⟩ := used fault latest in_use left
    refine .doomed (faults.2 fault) (untold_of_untold untold) latest' used' ?_
    rw [Standing.load_of_stages stages]
    refine left.imp_right ?_
    rintro ⟨loop, h⟩
    exact ⟨loop, by rwa [stages]⟩
  | telling loop fault untold was at_loop =>
    exact .telling loop (faults.2 fault) (untold_of_untold untold) (past was)
      ((stages loop).trans at_loop)
  | told fault once was silent =>
    refine .told (faults.2 fault) (same.trans once) (past was) fun loop => ?_
    rw [stages]
    exact silent loop

theorem Fate.fault_of_isFateful {id : Nat} {x : Standing} (loop : Loop)
    (fate : Fate told o id x) (fateful : (x.stage loop).isFateful) : id ∈ o.faults := by
  cases fate with
  | whole kept untold sane =>
    rw [sane loop] at fateful
    cases fateful
  | doomed fault | telling _ fault | told fault => exact fault

/-- When the loops of a session have ended that was given up, the link was closed and it was told
so. -/
theorem Fate.of_isOver {id : Nat} {x : Standing} (fate : Fate told o id x)
    (fault : id ∈ o.faults) (finished : x.isOver) (unbroken : x.poller ≠ .broken) :
    told.count (some id) = 1 ∧ o.Past id := by
  obtain ⟨load, ended⟩ := Standing.of_isOver finished unbroken
  cases fate with
  | whole kept => exact absurd fault kept
  | doomed _ _ _ _ left =>
    rcases left with h | ⟨loop, h | h⟩
    · omega
    · exact absurd h (ended loop _)
    · exact absurd h (ended loop _)
  | telling loop _ _ _ at_loop => exact absurd at_loop (ended loop _)
  | told _ once past => exact ⟨once, past⟩

theorem Steady.poller_ne_broken {id : Nat} {x : Standing} (steady : o.Steady forsaken told)
    (at_id : o.sessions[id]? = some x) : x.poller ≠ .broken := by
  intro broken
  refine steady.unbroken ⟨id, .poller⟩ ?_
  rw [stageAt?_of_at at_id]
  exact congrArg some broken

/-- When the loops of the latest session have ended and it was given up, the link is closed. -/
theorem Steady.closed_of_failed (steady : o.Steady forsaken told) (ended : o.Ended)
    (failed : o.failed = true) : o.state = .closed := by
  obtain ⟨id, x, at_id, latest, -, finished⟩ := ended
  have fault := (steady.failed id latest).1 failed
  obtain ⟨-, past⟩ :=
    (steady.fates id x at_id).of_isOver fault finished (steady.poller_ne_broken at_id)
  rcases past with older | closed
  · omega
  · exact closed

/-! ## Steps of the loops -/

variable {p : Place} {x x' : Standing} {old stage : Stage}

theorem LoopStep.of_idle (step : o.LoopStep p o') (at_id : o.sessions[p.session]? = some x)
    (idle : (x.stage p.loop).isIdle) :
    o' = o ∨ x.stage p.loop = .leaving .report ∧
      o' = { o.goTo p .gone with events := o.events ++ [.closed true] } := by
  have not_idle : ∀ {y : Standing} {stage : Stage}, o.sessions[p.session]? = some y →
      y.stage p.loop = stage → stage.isIdle := by
    intro y stage at_y at_stage
    obtain rfl := Option.some.inj (at_id.symm.trans at_y)
    exact at_stage ▸ idle
  cases step with
  | still => exact .inl rfl
  | report y at_y at_stage =>
    obtain rfl := Option.some.inj (at_id.symm.trans at_y)
    exact .inr ⟨at_stage, rfl⟩
  | work y event at_y at_stage | stop y stage at_y at_stage | mark y at_y at_stage
  | close y at_y at_stage | unplug y at_y at_stage | cancel y at_y at_stage
  | release y at_y at_stage | count y at_y at_stage | judge y at_y at_stage
  | finish y at_y at_stage | pass y at_y at_stage => cases not_idle at_y at_stage

theorem LoopStep.of_absent (step : o.LoopStep p o') (absent : o.sessions[p.session]? = none) :
    o' = o := by
  cases step with
  | still => rfl
  | work _ _ at_id | stop _ _ at_id | mark _ at_id | close _ at_id | unplug _ at_id | cancel _ at_id
  | release _ at_id | count _ at_id | judge _ at_id | finish _ at_id | pass _ at_id
  | report _ at_id => cases absent.symm.trans at_id

/-- A loop that was not begun takes no step. -/
theorem LoopStep.of_unborn (step : o.LoopStep p o') (unborn : o.stageAt? p = some .unborn) :
    o' = o := by
  obtain ⟨x, at_id, at_stage⟩ := Option.map_eq_some_iff.1 unborn
  rcases step.of_idle at_id (by rw [at_stage]; rfl) with same | ⟨report, -⟩
  · exact same
  · cases at_stage.symm.trans report

/-- The link is not open when its latest session has seen that frames are no longer accepted. -/
theorem Orderly.not_opened {id : Nat} {x : Standing} (orderly : o.Orderly)
    (at_id : o.sessions[id]? = some x) (latest : id + 1 = o.sessions.length)
    (unplugged : x.Unplugged) : o.state ≠ .opened := by
  intro opened
  obtain ⟨other, outbox⟩ := Option.isSome_iff_exists.1 (orderly.plugged opened)
  obtain rfl : id = other := by
    have last := orderly.outbox other outbox
    omega
  exact (orderly.keeps id x at_id).unplugged unplugged outbox

/-- The last loop to leave does not find the link open. -/
theorem Steady.closing_of_finish (steady : o.Steady forsaken told)
    (at_id : o.sessions[p.session]? = some x) (at_stage : x.stage p.loop = .leaving .finish) :
    o.state = .closing := by
  obtain ⟨latest, awake⟩ := steady.orderly.of_busy at_id at_stage rfl
  have keeps := steady.orderly.keeps _ x at_id
  have not_opened : o.state ≠ .opened := by
    -- a reader or a writer is past, as all other loops have ended
    refine steady.orderly.not_opened at_id latest ?_
    by_cases poller : p.loop = .poller
    · refine .inr ⟨.reader, by decide, ?_⟩
      have ended := keeps.sound.last p.loop .reader (by rw [at_stage]; rfl) (by rw [poller]; decide)
      rcases ended with h | h
      · have allows := keeps.sound.allows .reader
        rw [h] at allows
        cases allows
      · rw [h]
        rfl
    · exact .inr ⟨p.loop, poller, by rw [at_stage]; rfl⟩
  cases state : o.state with
  | closed => exact absurd (.inr (.inl state)) awake
  | opening => exact absurd (.inr (.inr state)) awake
  | opened => exact absurd state not_opened
  | closing => rfl

theorem Steady.not_past (steady : o.Steady forsaken told) (at_id : o.sessions[p.session]? = some x)
    (at_stage : x.stage p.loop = old) (busy : old.isIdle = false) : ¬o.Past p.session := by
  obtain ⟨-, awake⟩ := steady.orderly.of_busy at_id at_stage busy
  exact fun past => awake (past.imp_right .inl)

/-- A loop goes on to a stage while the link is not closed. -/
theorem Steady.advance (steady : o.Steady forsaken told) (at_id : o.sessions[p.session]? = some x)
    (at_stage : x.stage p.loop = old) (busy : old.isIdle = false)
    (becomes : Standing.Becomes p.loop stage x x')
    (length : o'.sessions.length = o.sessions.length) (faults : o'.faults = o.faults)
    (used : o'.state ≠ .closed) (sane : p.session ∉ o.faults → stage.isFateful = false)
    (left : p.session ∈ o.faults →
      0 < x'.load ∨ stage = .leaving .judge ∨ stage = .leaving .finish) :
    Fate told o' p.session x' := by
  obtain ⟨latest, -⟩ := steady.orderly.of_busy at_id at_stage busy
  have not_past := steady.not_past at_id at_stage busy
  cases steady.fates _ x at_id with
  | whole kept untold sane' =>
    refine .whole (faults ▸ kept) untold fun loop => ?_
    by_cases own : loop = p.loop
    · rw [own, becomes.stage_self]
      exact sane kept
    · rw [becomes.stage_of_ne own]
      exact sane' loop
  | doomed fault untold =>
    refine .doomed (faults ▸ fault) untold (latest.trans length.symm) used ?_
    refine (left fault).imp_right fun h => ⟨p.loop, ?_⟩
    rwa [becomes.stage_self]
  | telling _ _ _ past | told _ _ past => exact absurd past not_past

/-- A loop goes on to a stage at which it is still counted. -/
theorem Steady.advance_counted (steady : o.Steady forsaken told)
    (at_id : o.sessions[p.session]? = some x) (at_stage : x.stage p.loop = old)
    (busy : old.isIdle = false) (becomes : Standing.Becomes p.loop stage x x')
    (length : o'.sessions.length = o.sessions.length) (faults : o'.faults = o.faults)
    (used : o'.state ≠ .closed) (counted : stage.counts) (sane : stage.isFateful = false) :
    Fate told o' p.session x' := by
  refine steady.advance at_id at_stage busy becomes length faults used (fun _ => sane)
    fun _ => .inl (Standing.load_pos p.loop ?_)
  rwa [becomes.stage_self]

/-- What becomes of the session of a loop that takes a step. -/
theorem Steady.fate_self (steady : o.Steady forsaken told) (step : o.LoopStep p o')
    (unbroken : o'.stageAt? p ≠ some .broken) (at_id' : o'.sessions[p.session]? = some x') :
    Fate (told ++ o.closings (some p.session) o') o' p.session x' := by
  have length := step.length
  have set_of_set {x y : Standing} (at_id : o.sessions[p.session]? = some x)
      (sessions : o'.sessions = o.sessions.set p.session y) : x' = y := by
    have bound := (List.getElem?_eq_some_iff.1 at_id).1
    rw [sessions, List.getElem?_set_self bound] at at_id'
    exact (Option.some.inj at_id').symm
  have untold (events : o'.events = o.events) : told ++ o.closings (some p.session) o' = told := by
    rw [closings_of_eq events, List.append_nil]
  have used {x : Standing} {stage : Stage} (at_id : o.sessions[p.session]? = some x)
      (at_stage : x.stage p.loop = stage) (busy : stage.isIdle = false) : o.state ≠ .closed :=
    fun closed => steady.not_past at_id at_stage busy (.inr closed)
  cases step with
  | still =>
    rw [untold rfl]
    exact steady.fates _ x' at_id'
  | work x event at_id at_stage traffic =>
    obtain rfl := Option.some.inj (at_id.symm.trans at_id')
    rw [closings_of_concat rfl, isFatalEnd_of_isTraffic traffic, if_neg (by decide),
      List.append_nil]
    exact (steady.fates _ x at_id).mono (fun _ => rfl) .rfl id (fun _ latest used _ => ⟨latest, used⟩)
      rfl
  | stop x stage at_id at_stage stops =>
    obtain rfl := set_of_set at_id (sessions_update at_id)
    rw [untold rfl]
    have used := used at_id at_stage rfl
    rcases stops.cases with ⟨-, rfl⟩ | ⟨-, rfl, -⟩ | ⟨-, rfl⟩ | ⟨-, rfl⟩
    · exact steady.advance_counted at_id at_stage rfl (.goTo _ _ x) length rfl used rfl rfl
    · exact steady.advance_counted at_id at_stage rfl (.goTo _ _ x) length rfl used rfl rfl
    · exact steady.advance_counted at_id at_stage rfl (.goTo _ _ x) length rfl used rfl rfl
    · exact absurd (stageAt?_goTo .broken at_id) unbroken
  | mark x at_id at_stage =>
    obtain rfl := set_of_set at_id (sessions_update at_id)
    rw [untold rfl]
    obtain ⟨latest, -⟩ := steady.orderly.of_busy at_id at_stage rfl
    have left : 0 < (x.goTo p.loop (.failing .close)).load :=
      Standing.load_pos p.loop (by rw [Standing.stage_goTo, if_pos rfl]; rfl)
    have fault : p.session ∈ o.faults ++ [p.session] := List.mem_concat_self
    cases steady.fates _ x at_id with
    | whole kept untold | doomed _ untold =>
      exact .doomed fault untold (latest.trans length.symm) (used at_id at_stage rfl) (.inl left)
    | telling _ _ _ past | told _ _ past =>
      exact absurd past (steady.not_past at_id at_stage rfl)
  | close x at_id at_stage =>
    obtain rfl := set_of_set at_id (sessions_update at_id)
    rw [untold rfl]
    refine steady.advance_counted at_id at_stage rfl (.goTo _ _ x) length rfl ?_ rfl rfl
    show (if o.state = .opened then LinkState.closing else o.state) ≠ .closed
    split
    · decide
    · exact used at_id at_stage rfl
  | unplug x at_id at_stage =>
    obtain rfl := set_of_set at_id (sessions_update at_id)
    rw [untold rfl]
    exact steady.advance_counted at_id at_stage rfl (.goTo _ _ x) length rfl
      (used at_id at_stage rfl) rfl rfl
  | cancel x at_id at_stage =>
    obtain rfl := set_of_set at_id (sessions_update at_id)
    rw [untold rfl]
    exact steady.advance_counted at_id at_stage rfl (.cancel _ _ x) length rfl
      (used at_id at_stage rfl) rfl rfl
  | release x at_id at_stage =>
    obtain rfl := set_of_set at_id (sessions_update at_id)
    rw [untold rfl]
    exact steady.advance_counted at_id at_stage rfl (.release _ _ x) length rfl
      (used at_id at_stage rfl) rfl rfl
  | count x at_id at_stage =>
    obtain rfl := set_of_set at_id (sessions_update at_id)
    rw [untold rfl]
    obtain ⟨latest, -⟩ := steady.orderly.of_busy at_id at_stage rfl
    have count := (steady.orderly.keeps _ x at_id).count latest
    refine steady.advance at_id at_stage rfl (.goTo _ _ x) length rfl (used at_id at_stage rfl) ?_ ?_
    · intro _
      split <;> rfl
    · intro _
      by_cases one : o.liveLoops = 1
      · exact .inr (.inl (if_pos one))
      · have counted := Standing.load_pos p.loop (x := x) (by rw [at_stage]; rfl)
        have load := Standing.load_goTo p.loop .gone x
        rw [at_stage] at load
        have weight : (Stage.leaving .count).weight = 1 ∧ Stage.gone.weight = 0 := ⟨rfl, rfl⟩
        rw [if_neg one]
        left
        omega
  | judge x at_id at_stage =>
    obtain rfl := set_of_set at_id (sessions_update at_id)
    rw [untold rfl]
    obtain ⟨latest, -⟩ := steady.orderly.of_busy at_id at_stage rfl
    have failed := steady.failed _ latest
    refine steady.advance at_id at_stage rfl (.goTo _ _ x) length rfl (used at_id at_stage rfl) ?_ ?_
    · intro kept
      rw [if_neg (mt failed.1 kept)]
      rfl
    · intro fault
      exact .inr (.inr (if_pos (failed.2 fault)))
  | finish x at_id at_stage closing =>
    obtain rfl := set_of_set at_id (sessions_update at_id)
    rw [untold rfl]
    have fate := steady.fates _ x at_id
    have fault := fate.fault_of_isFateful p.loop (by rw [at_stage]; rfl)
    cases fate with
    | whole kept => exact absurd fault kept
    | doomed _ untold =>
      refine .telling p.loop fault untold (.inr rfl) ?_
      rw [Standing.stage_goTo, if_pos rfl]
    | telling _ _ _ past | told _ _ past =>
      exact absurd past (steady.not_past at_id at_stage rfl)
  | pass x at_id at_stage closed => exact absurd (steady.closing_of_finish at_id at_stage) closed
  | report x at_id at_stage =>
    obtain rfl := set_of_set at_id (sessions_update at_id)
    rw [closings_of_concat rfl, if_pos (by rfl)]
    have sound := (steady.orderly.keeps _ x at_id).sound
    -- the loop that tells is the last of its session
    have ended : ∀ other, other ≠ p.loop → x.stage other = .unborn ∨ x.stage other = .gone :=
      fun other ne => sound.last p.loop other (by rw [at_stage]; rfl) ne
    have fate := steady.fates _ x at_id
    have fault := fate.fault_of_isFateful p.loop (by rw [at_stage]; rfl)
    cases fate with
    | whole kept => exact absurd fault kept
    | doomed _ _ _ _ left =>
      have load := sound.load_of_isLast p.loop (by rw [at_stage]; rfl)
      rcases left with h | ⟨loop, h⟩
      · omega
      · by_cases own : loop = p.loop
        · rw [own, at_stage] at h
          rcases h with h | h <;> cases h
        · rcases ended loop own with h' | h' <;> rw [h'] at h <;> rcases h with h | h <;> cases h
    | telling loop _ untold past at_loop =>
      refine .told fault ?_ (past.imp_left fun h => Nat.lt_of_lt_of_eq h length.symm) fun loop => ?_
      · simp [List.count_eq_zero_of_not_mem untold]
      · by_cases own : loop = p.loop
        · rw [own, Standing.stage_goTo, if_pos rfl]
          rintro ⟨⟩
        · rw [Standing.stage_goTo, if_neg own]
          rcases ended loop own with h | h <;> rw [h] <;> rintro ⟨⟩
    | told _ _ _ silent => exact absurd at_stage (silent p.loop)

theorem LoopStep.current (step : o.LoopStep p o') : o'.current = o.current := by
  cases step <;> rfl

theorem LoopStep.faults_cases (step : o.LoopStep p o') :
    o'.faults = o.faults ∨ o'.faults = o.faults ++ [p.session] := by
  cases step with
  | mark => exact .inr rfl
  | _ => exact .inl rfl

/-- What becomes of the other sessions when a loop takes a step. -/
theorem Steady.fate_other {id : Nat} (steady : o.Steady forsaken told) (step : o.LoopStep p o')
    (at_id : o.sessions[id]? = some x) (at_id' : o'.sessions[id]? = some x') (ne : id ≠ p.session) :
    Fate (told ++ o.closings (some p.session) o') o' id x' := by
  have other (loop : Loop) : (⟨id, loop⟩ : Place) ≠ p := fun same => ne (congrArg Place.session same)
  refine (steady.fates id x at_id).mono (fun loop => ?_) ?_ ?_ ?_ ?_
  · have same := step.stageAt?_of_ne (other loop)
    rw [stageAt?_of_at (p := ⟨id, loop⟩) at_id', stageAt?_of_at (p := ⟨id, loop⟩) at_id] at same
    exact Option.some.inj same
  · rcases step.faults_cases with same | more
    · rw [same]
    · rw [more]
      simp [ne]
  · rintro (older | closed)
    · exact .inl (Nat.lt_of_lt_of_eq older step.length.symm)
    · exact .inr (step.state_of_closed closed)
  · -- the step is one of a session that is not the latest, so it leaves the state as it is
    intro _ latest used _
    refine ⟨latest.trans step.length.symm, ?_⟩
    cases at_p : o.sessions[p.session]? with
    | none => rwa [step.of_absent at_p]
    | some y =>
      have bound := (List.getElem?_eq_some_iff.1 at_p).1
      have idle := (steady.orderly.keeps _ y at_p).idle (.inl (by omega)) p.loop
      rcases step.of_idle at_p idle with same | ⟨-, same⟩
      · rwa [same]
      · rw [same]
        exact used
  · exact count_append_closings fun same => ne (Option.some.inj same).symm

theorem Steady.custody_loopStep {id : Nat} (steady : o.Steady forsaken told)
    (step : o.LoopStep p o') (latest : id + 1 = o.sessions.length) : o'.Custody forsaken id := by
  refine (steady.custody id latest).blame step.same.2.2 step.current ?_ step.state_of_closed ?_
  · intro fault
    rcases step.faults_cases with same | more
    · rwa [same]
    · rw [more]
      exact List.mem_append_left _ fault
  · -- only a loop whose session was given up changes the state
    have fault_of {x : Standing} {stage : Stage} (at_id : o.sessions[p.session]? = some x)
        (at_stage : x.stage p.loop = stage) (busy : stage.isIdle = false)
        (fateful : stage.isFateful) : id ∈ o.faults := by
      obtain ⟨last, -⟩ := steady.orderly.of_busy at_id at_stage busy
      obtain rfl : p.session = id := by omega
      exact (steady.fates _ x at_id).fault_of_isFateful p.loop (at_stage ▸ fateful)
    cases step with
    | close x at_id at_stage => exact .inr (fault_of at_id at_stage rfl rfl)
    | finish x at_id at_stage => exact .inr (fault_of at_id at_stage rfl rfl)
    | _ => exact .inl rfl

/-- A close that tells has given its verdict. -/
theorem verdict_of_tells {number : Nat} (tells : o.tells (.call number)) :
    ∃ fatal, o.verdict? (.call number) = some fatal := by
  cases at_number : o.calls[number]? with
  | none => simp [Outline.tells, at_number] at tells
  | some c =>
    rw [(tells_call at_number).1] at tells
    rw [(tells_call at_number).2]
    cases c with
    | start | send | stopPolling => cases tells
    | close phase =>
      cases phase with
      | clear _ fatal | report _ fatal => exact ⟨fatal, rfl⟩
      | _ => cases tells

theorem Steady.mild_loopStep {number : Nat} (steady : o.Steady forsaken told)
    (step : o.LoopStep p o') (tells : o'.tells (.call number)) : o'.failed = false := by
  have tale := step.tale steady.orderly
  obtain ⟨same, verdict⟩ := tale.others (.call number) (by rintro ⟨⟩)
  rw [same] at tells
  have mild := steady.mild number tells
  cases tale.blame with
  | none failed => rw [failed, mild]
  | latest _ _ _ _ _ verdicts =>
    -- a close that tells has seen all loops end, so none of them gives its session up
    obtain ⟨fatal, given⟩ := verdict_of_tells tells
    have false_of := steady.judged number fatal given
    have true_of := verdicts _ fatal (verdict.trans given)
    rw [mild] at false_of
    cases false_of.symm.trans true_of

/-- A step of a loop that does not break off keeps an outline steady. -/
theorem Steady.loopStep (steady : o.Steady forsaken told) (step : o.LoopStep p o')
    (unbroken : o'.stageAt? p ≠ some .broken) :
    o'.Steady forsaken (told ++ o.closings (some p.session) o') := by
  have tale := step.tale steady.orderly
  have length := step.length
  have old {id : Nat} {x' : Standing} (at_id' : o'.sessions[id]? = some x') :
      ∃ x, o.sessions[id]? = some x := by
    have bound := (List.getElem?_eq_some_iff.1 at_id').1
    exact ⟨_, List.getElem?_eq_getElem (length ▸ bound)⟩
  refine ⟨steady.orderly.loopStep step, ?_, tale.faults_lt steady.faults,
    tale.failed_iff steady.failed, ?_, ?_, ?_, ?_, ?_, ?_, ?_, ?_⟩
  · intro none
    rw [← List.length_eq_zero_iff, length, List.length_eq_zero_iff] at none
    exact step.state_of_closed (steady.empty none)
  · rintro id (member | given)
    · rw [length]
      rcases List.mem_append.1 member with was | new
      · exact steady.known id (.inl was)
      · obtain rfl := Option.some.inj (mem_closings new)
        by_contra beyond
        have same := step.of_absent (List.getElem?_eq_none (Nat.le_of_not_lt beyond))
        rw [closings_of_eq (congrArg Outline.events same)] at new
        cases new
    · rw [length]
      exact steady.known id (.inr given)
  · intro q
    by_cases own : q = p
    · exact own ▸ unbroken
    · rw [step.stageAt?_of_ne own]
      exact steady.unbroken q
  · intro id stage at_poller
    rw [step.same.1]
    by_cases own : (⟨id, .poller⟩ : Place) = p
    · subst own
      obtain ⟨x', at_id', -⟩ := Option.map_eq_some_iff.1 at_poller
      obtain ⟨x, at_id⟩ := old at_id'
      have at_stage := stageAt?_of_at (p := ⟨id, .poller⟩) at_id
      refine (steady.polls id _ at_stage).imp_left fun unborn => ?_
      rw [step.of_unborn (at_stage.trans (congrArg some unborn)), at_stage, unborn] at at_poller
      exact (Option.some.inj at_poller).symm
    · rw [step.stageAt?_of_ne own] at at_poller
      exact steady.polls id stage at_poller
  · intro id latest
    exact steady.custody_loopStep step (length ▸ latest)
  · intro id x' at_id'
    by_cases own : id = p.session
    · subst own
      exact steady.fate_self step unbroken at_id'
    · obtain ⟨x, at_id⟩ := old at_id'
      exact steady.fate_other step at_id at_id' own
  · have judged := tale.judged (fun u => ∃ number, u = .call number)
      (by rintro _ fatal ⟨number, rfl⟩; exact steady.judged number fatal)
    exact fun number fatal => judged _ fatal ⟨number, rfl⟩
  · exact fun number tells => steady.mild_loopStep step tells
  · intro member
    rcases List.mem_append.1 member with was | new
    · exact steady.silent was
    · cases mem_closings new

end Outline

end FieldLink
