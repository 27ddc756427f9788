import FieldLink.Proofs.Link.Endings
import FieldLink.Proofs.Link.SessionEnd

/-!
# One session after another

As long as no session is given up, the sessions of a link follow each other however the steps of
loops, starts and closes interleave: all loops of a session have ended when the next is made
(`Outline.Serial`).  The reason is that one call at most is in charge of the link, a start until it
has stored its session or a close from when it takes the session, and that the link is open or
closed if none is (`Outline.Reign`).
-/

namespace FieldLink

/-- Whether a loop comes to this stage only after its session was given up. -/
def Stage.isGrave : Stage → Bool
  | failing .mark | leaving .count | leaving .judge => false
  | failing _ | leaving _ => true
  | _ => false

/-- Whether a call is in charge of the link. -/
def Call.reigns : Call → Bool
  | start phase =>
    match phase with
    | .enter | .check | .report | .leave _ | .done _ | .broken => false
    | _ => true
  | close phase => phase.session?.isSome ||
    match phase with
    | .judge _ | .finish _ _ => true
    | _ => false
  | _ => false

/-- Whether a close is to tell that its session was given up. -/
def Call.isFatal : Call → Bool
  | close (.finish _ fatal) | close (.clear _ fatal _) | close (.report _ fatal) => fatal
  | _ => false

namespace Outline

/-- All loops of all sessions have ended. -/
def Spent (o : Outline) : Prop := ∀ x ∈ o.sessions, x.isOver

/-- The latest session has the given number. -/
def Latest (id : Nat) (o : Outline) : Prop := id + 1 = o.sessions.length

/-- The reader of a session was not begun. -/
def Unread (id : Nat) (o : Outline) : Prop := ∀ x ∈ o.sessions[id]?, x.reader = .unborn

/-- What holds while a call is in charge that has come so far. -/
def Suits (o : Outline) : Call → Prop
  | .start .discard | .start .openUp | .start (.refuse _) => o.state = .opening ∧ o.Spent
  | .start (.makeQueue id) => o.state = .opening ∧ o.Spent ∧ id = o.sessions.length
  | .start (.forgetFailure id) | .start (.clear id) | .start (.count id) | .start (.plug id)
  | .start (.accept id) => o.state = .opening ∧ o.Latest id ∧ o.Unread id
  | .start (.launch .reader id) => o.state = .opened ∧ o.Latest id ∧ o.Unread id
  | .start (.launch _ id) | .start (.store id) => o.state = .opened ∧ o.Latest id
  | .close (.mark id) | .close (.unplug id) | .close (.cancel id) | .close (.join id) =>
    o.state ≠ .closed ∧ o.Latest id
  | .close (.judge _) | .close (.finish _ _) => o.state ≠ .closed ∧ o.Spent
  | _ => True

/-- No call is in charge but the one with the given number, if that one is. -/
def Solo (number : Nat) (o : Outline) : Prop :=
  ∀ (i : Nat) (c : Call), i ≠ number → o.calls[i]? = some c → c.reigns = false

/-- Who is in charge of the link. -/
inductive Reign (o : Outline) : Prop
  /-- Nobody, and the link is closed. -/
  | closed (free : ∀ c ∈ o.calls, c.reigns = false) (current : o.current = none)
      (closed : o.state = .closed) (spent : o.Spent)
  /-- Nobody, and the link is open. -/
  | opened (id : Nat) (free : ∀ c ∈ o.calls, c.reigns = false) (current : o.current = some id)
      (opened : o.state = .opened) (latest : o.Latest id)
  /-- Nobody, as a start has broken off. -/
  | broken (free : ∀ c ∈ o.calls, c.reigns = false) (current : o.current = none)
      (opening : o.state = .opening)
  /-- A call. -/
  | held (number : Nat) (c : Call) (at_number : o.calls[number]? = some c) (reigns : c.reigns)
      (solo : o.Solo number) (current : o.current = none) (suits : o.Suits c)

/-- The sessions follow each other, and none was given up. -/
structure Serial (o : Outline) : Prop where
  reign : o.Reign
  past : ∀ id x, o.sessions[id]? = some x → id + 1 < o.sessions.length → x.isOver
  failed : o.failed = false
  mild : ∀ p stage, o.stageAt? p = some stage → stage.isGrave = false

variable {o o' : Outline} {number : Nat} {c c' : Call}

/-! ## Steps of the loops -/

theorem Suits.mono (suits : o.Suits c) (state : o'.state = o.state)
    (length : o'.sessions.length = o.sessions.length) (spent : o.Spent → o'.Spent)
    (unread : ∀ id, o.Unread id → o'.Unread id) : o'.Suits c := by
  have latest {id : Nat} (h : o.Latest id) : o'.Latest id := Eq.trans h length.symm
  cases c with
  | send | stopPolling => trivial
  | start phase =>
    cases phase with
    | discard | openUp | refuse => exact ⟨state.trans suits.1, spent suits.2⟩
    | makeQueue id =>
      exact ⟨state.trans suits.1, spent suits.2.1, suits.2.2.trans length.symm⟩
    | forgetFailure id | clear id | count id | plug id | accept id =>
      exact ⟨state.trans suits.1, latest suits.2.1, unread id suits.2.2⟩
    | launch loop id =>
      cases loop with
      | reader => exact ⟨state.trans suits.1, latest suits.2.1, unread id suits.2.2⟩
      | writer | poller => exact ⟨state.trans suits.1, latest suits.2⟩
    | store id => exact ⟨state.trans suits.1, latest suits.2⟩
    | enter | check | report | leave | done | broken => trivial
  | close phase =>
    cases phase with
    | mark id | unplug id | cancel id | join id =>
      exact ⟨fun closed => suits.1 (state.symm.trans closed), latest suits.2⟩
    | judge | finish => exact ⟨fun closed => suits.1 (state.symm.trans closed), spent suits.2⟩
    | stopPolling | take | clear | report | done => trivial

theorem Reign.mono (reign : o.Reign) (calls : o'.calls = o.calls) (state : o'.state = o.state)
    (current : o'.current = o.current) (length : o'.sessions.length = o.sessions.length)
    (spent : o.Spent → o'.Spent) (unread : ∀ id, o.Unread id → o'.Unread id) : o'.Reign := by
  cases reign with
  | closed free none closed all =>
    exact .closed (calls ▸ free) (current.trans none) (state.trans closed) (spent all)
  | opened id free some opened latest =>
    exact .opened id (calls ▸ free) (current.trans some) (state.trans opened)
      (Eq.trans latest length.symm)
  | broken free none opening =>
    exact .broken (calls ▸ free) (current.trans none) (state.trans opening)
  | held number c at_number reigns solo none suits =>
    refine .held number c (calls ▸ at_number) reigns ?_ (current.trans none)
      (suits.mono state length spent unread)
    exact fun i d ne at_i => solo i d ne (calls ▸ at_i)

/-- A session of which a loop is at work is the latest one, and goes on. -/
theorem Serial.becomes {p : Place} {stage : Stage} {x x' : Standing} (serial : o.Serial)
    (at_id : o.sessions[p.session]? = some x) (busy : ¬(x.stage p.loop).isIdle)
    (becomes : Standing.Becomes p.loop stage x x')
    (sessions : o'.sessions = o.sessions.set p.session x') (mild : stage.isGrave = false)
    (calls : o'.calls = o.calls) (state : o'.state = o.state) (current : o'.current = o.current)
    (failed : o'.failed = o.failed) : o'.Serial := by
  have bound := (List.getElem?_eq_some_iff.1 at_id).1
  have length : o'.sessions.length = o.sessions.length := by rw [sessions, List.length_set]
  have at_self : o'.sessions[p.session]? = some x' := by
    rw [sessions, List.getElem?_set_self bound]
  have at_other {id : Nat} (ne : id ≠ p.session) : o'.sessions[id]? = o.sessions[id]? := by
    rw [sessions, List.getElem?_set_ne (Ne.symm ne)]
  have working : ¬x.isOver := fun finished => busy (Standing.isIdle_of_isOver finished p.loop)
  refine ⟨serial.reign.mono calls state current length ?_ ?_, ?_, failed.trans serial.failed, ?_⟩
  · exact fun spent => absurd (spent x (List.mem_of_getElem? at_id)) working
  · intro id unread y at_y
    by_cases own : id = p.session
    · subst own
      obtain rfl := Option.some.inj (at_self.symm.trans at_y)
      have unborn := unread x at_id
      have kept := becomes.stages .reader
      have other : Loop.reader ≠ p.loop := by
        intro same
        refine busy ?_
        rw [← same]
        show x.reader.isIdle
        rw [unborn]
        rfl
      rw [if_neg other] at kept
      exact kept.trans unborn
    · exact unread y ((at_other own).symm.trans at_y)
  · intro id y at_y before
    rw [length] at before
    have ne : id ≠ p.session := by
      rintro rfl
      exact working (serial.past _ x at_id before)
    exact serial.past id y ((at_other ne).symm.trans at_y) before
  · intro q stage' at_q
    obtain ⟨y, at_y, rfl⟩ := Option.map_eq_some_iff.1 at_q
    by_cases own : q.session = p.session
    · rw [own] at at_y
      obtain rfl := Option.some.inj (at_self.symm.trans at_y)
      rw [becomes.stages]
      split
      · exact mild
      · refine serial.mild ⟨p.session, q.loop⟩ _ ?_
        rw [stageAt?, at_id]
        rfl
    · refine serial.mild q _ ?_
      rw [stageAt?, ← at_other own, at_y]
      rfl

theorem Serial.goTo {p : Place} {stage : Stage} {x : Standing} (liveLoops : Int)
    (serial : o.Serial) (at_id : o.sessions[p.session]? = some x) (busy : ¬(x.stage p.loop).isIdle)
    (mild : stage.isGrave = false) : Serial { o.goTo p stage with liveLoops } :=
  serial.becomes at_id busy (.goTo p.loop stage x) (modify_eq_set_of_getElem? at_id) mild rfl rfl
    rfl rfl

/-- A step of a loop keeps the sessions apart, unless it gives its session up. -/
theorem Serial.loopStep {p : Place} (serial : o.Serial) (step : o.LoopStep p o')
    (kept : o'.faults = []) : o'.Serial := by
  -- a loop at a grave stage has given its session up before
  have grave {x : Standing} {stage : Stage} (at_id : o.sessions[p.session]? = some x)
      (at_stage : x.stage p.loop = stage) (grave : stage.isGrave = true) : o'.Serial := by
    have mild := serial.mild p stage (by rw [stageAt?_of_at at_id, at_stage])
    rw [grave] at mild
    cases mild
  cases step with
  | still => exact serial
  | work => exact ⟨serial.reign.mono rfl rfl rfl rfl id fun _ => id, serial.past, serial.failed,
      serial.mild⟩
  | stop x stage at_id at_stage stops =>
    refine serial.goTo _ at_id (by rw [at_stage]; decide) ?_
    unfold Stops at stops
    split at stops
    · rcases stops with rfl | ⟨rfl, -⟩ <;> rfl
    · rcases stops with rfl | ⟨rfl, -⟩ <;> rfl
    · rcases stops with rfl | rfl <;> rfl
  | mark => exact absurd kept (by simp)
  | close x at_id at_stage => exact grave at_id at_stage rfl
  | unplug x at_id at_stage => exact grave at_id at_stage rfl
  | cancel x at_id at_stage => exact grave at_id at_stage rfl
  | release x at_id at_stage =>
    exact serial.becomes at_id (by rw [at_stage]; decide) (.release p.loop _ x)
      (modify_eq_set_of_getElem? at_id) rfl rfl rfl rfl rfl
  | count x at_id at_stage =>
    refine serial.goTo _ at_id (by rw [at_stage]; decide) ?_
    split <;> rfl
  | judge x at_id at_stage =>
    refine serial.goTo o.liveLoops at_id (by rw [at_stage]; decide) ?_
    rw [serial.failed]
    rfl
  | finish x at_id at_stage => exact grave at_id at_stage rfl
  | pass x at_id at_stage => exact grave at_id at_stage rfl
  | report x at_id at_stage => exact grave at_id at_stage rfl

theorem LoopStep.faults {p : Place} (step : o.LoopStep p o') : o.faults <+: o'.faults := by
  cases step with
  | mark => exact List.prefix_append _ _
  | _ => exact List.prefix_refl _

/-! ## Steps of the calls -/

theorem Solo.of_free (free : ∀ c ∈ o.calls, c.reigns = false) : o.Solo number :=
  fun _ c _ at_i => free c (List.mem_of_getElem? at_i)

theorem Solo.set (solo : o.Solo number) (calls : o'.calls = o.calls.set number c) :
    o'.Solo number := by
  intro i d ne at_i
  rw [calls, List.getElem?_set_ne ne.symm] at at_i
  exact solo i d ne at_i

theorem Solo.free (solo : o.Solo number) (free : c.reigns = false)
    (calls : o'.calls = o.calls.set number c) : ∀ d ∈ o'.calls, d.reigns = false := by
  rw [calls]
  exact forall_mem_set_of_ne solo free

/-- The call that is in charge is the only one. -/
theorem Reign.of_reigns (reign : o.Reign) (at_number : o.calls[number]? = some c)
    (reigns : c.reigns) : o.Solo number ∧ o.current = none ∧ o.Suits c := by
  have free (all : ∀ d ∈ o.calls, d.reigns = false) : False := by
    rw [all c (List.mem_of_getElem? at_number)] at reigns
    cases reigns
  cases reign with
  | closed all | opened _ all | broken all => exact (free all).elim
  | held i d at_i _ solo current suits =>
    obtain rfl : number = i := by
      by_contra ne
      rw [solo number c ne at_number] at reigns
      cases reigns
    obtain rfl := Option.some.inj (at_number.symm.trans at_i)
    exact ⟨solo, current, suits⟩

/-- A call that is not in charge goes on, and does not come to be. -/
theorem Reign.pass (reign : o.Reign) (at_number : o.calls[number]? = some c)
    (free : c.reigns = false) (free' : c'.reigns = false)
    (calls : o'.calls = o.calls.set number c') (state : o'.state = o.state)
    (current : o'.current = o.current) (sessions : o'.sessions = o.sessions) : o'.Reign := by
  have all (free : ∀ d ∈ o.calls, d.reigns = false) : ∀ d ∈ o'.calls, d.reigns = false := by
    rw [calls]
    exact forall_mem_set free free'
  have spent (h : o.Spent) : o'.Spent := by rwa [Spent, sessions]
  cases reign with
  | closed others none closed h =>
    exact .closed (all others) (current.trans none) (state.trans closed) (spent h)
  | opened id others some opened latest =>
    exact .opened id (all others) (current.trans some) (state.trans opened)
      (by rwa [Latest, sessions])
  | broken others none opening =>
    exact .broken (all others) (current.trans none) (state.trans opening)
  | held i d at_i reigns solo none suits =>
    have ne : number ≠ i := by
      rintro rfl
      obtain rfl := Option.some.inj (at_number.symm.trans at_i)
      rw [free] at reigns
      cases reigns
    refine .held i d ?_ reigns ?_ (current.trans none)
      (suits.mono state (by rw [sessions]) spent fun id h => by rwa [Unread, sessions])
    · rw [calls, List.getElem?_set_ne ne, at_i]
    · rw [Solo, calls]
      exact forall_ne_set solo free'

/-- The link is not closed while a call is in charge. -/
theorem Suits.state_ne (suits : o.Suits c) (reigns : c.reigns) : o.state ≠ .closed := by
  have of_eq {state : LinkState} (same : o.state = state) (ne : state ≠ .closed) :
      o.state ≠ .closed := fun closed => ne (same.symm.trans closed)
  cases c with
  | send | stopPolling => cases reigns
  | start phase =>
    cases phase with
    | launch loop id => cases loop <;> exact of_eq suits.1 (by decide)
    | store => exact of_eq suits.1 (by decide)
    | enter | check | report | leave | done | broken => cases reigns
    | _ => exact of_eq suits.1 (by decide)
  | close phase =>
    cases phase with
    | stopPolling | take | clear | report | done => cases reigns
    | _ => exact suits.1

/-- A start comes to be in charge of a closed link. -/
theorem Reign.seize (reign : o.Reign) (at_number : o.calls[number]? = some c)
    (closed : o.state = .closed) (calls : o'.calls = o.calls.set number c') (reigns : c'.reigns)
    (current : o'.current = o.current) (suits : o.Spent → o'.Suits c') : o'.Reign := by
  cases reign with
  | closed free none _ spent =>
    refine .held number c' ?_ reigns ((Solo.of_free free).set calls) (current.trans none)
      (suits spent)
    rw [calls, List.getElem?_set_self (List.getElem?_eq_some_iff.1 at_number).1]
  | opened _ _ _ opened => cases closed.symm.trans opened
  | broken _ _ opening => cases closed.symm.trans opening
  | held _ _ _ reigns _ _ suits => exact absurd closed (suits.state_ne reigns)

/-- The sessions follow each other also when they change in what the order does not depend on. -/
theorem Serial.of_reign (serial : o.Serial) (reign : o'.Reign) (sessions : o'.sessions = o.sessions)
    (failed : o'.failed = o.failed) : o'.Serial where
  reign
  past := by
    rw [sessions]
    exact serial.past
  failed := failed.trans serial.failed
  mild p stage := by
    rw [stageAt?, sessions]
    exact serial.mild p stage

theorem Serial.spent_of_over (serial : o.Serial) {id : Nat} {x : Standing} (latest : o.Latest id)
    (at_id : o.sessions[id]? = some x) (finished : x.isOver) : o.Spent := by
  intro y member
  obtain ⟨k, at_k⟩ := List.mem_iff_getElem?.1 member
  have bound := (List.getElem?_eq_some_iff.1 at_k).1
  by_cases own : k = id
  · subst own
    obtain rfl := Option.some.inj (at_id.symm.trans at_k)
    exact finished
  · refine serial.past k y at_k ?_
    have last : id + 1 = o.sessions.length := latest
    omega

/-- The latest session changes, and none of its loops comes to a grave stage. -/
theorem Serial.renew {id : Nat} {f : Standing → Standing} (serial : o.Serial)
    (latest : o.Latest id)
    (mild : ∀ x loop, (x.stage loop).isGrave = false → ((f x).stage loop).isGrave = false)
    (sessions : o'.sessions = (o.update id f).sessions) (reign : o'.Reign)
    (failed : o'.failed = o.failed) : o'.Serial where
  reign
  past k y at_y before := by
    have length : o'.sessions.length = o.sessions.length := by simp [sessions, update]
    have last : id + 1 = o.sessions.length := latest
    have ne : id ≠ k := by omega
    rw [length] at before
    refine serial.past k y ?_ before
    rw [← at_y, sessions]
    simp [update, ne]
  failed := failed.trans serial.failed
  mild p stage at_p := by
    rw [stageAt?, sessions, ← stageAt?, stageAt?_update] at at_p
    obtain ⟨y, at_y, rfl⟩ := Option.map_eq_some_iff.1 at_p
    have old := serial.mild p (y.stage p.loop) (by rw [stageAt?, at_y]; rfl)
    split
    · exact mild y p.loop old
    · exact old

/-- A step of a close keeps the sessions apart. -/
theorem Serial.closeStep {phase phase' : ClosePhase} (serial : o.Serial)
    (at_number : o.calls[number]? = some (.close phase)) (step : o.CloseStep phase phase' o') :
    Serial { o' with calls := o.calls.set number (.close phase') } := by
  have reign := serial.reign
  have bound := (List.getElem?_eq_some_iff.1 at_number).1
  have at_self (c : Call) : (o.calls.set number c)[number]? = some c :=
    List.getElem?_set_self bound
  cases step with
  | wait =>
    refine serial.of_reign ?_ rfl rfl
    have same : o.calls.set number (.close phase) = o.calls := by
      obtain ⟨bound, at_number⟩ := List.getElem?_eq_some_iff.1 at_number
      rw [← at_number, List.set_getElem_self]
    exact reign.mono same rfl rfl rfl (fun h => h) fun _ h => h
  | stopPolling | takeNone | clear | skip | report =>
    exact serial.of_reign (reign.pass at_number rfl rfl rfl rfl rfl rfl) rfl rfl
  | take id current =>
    refine serial.of_reign ?_ rfl rfl
    cases reign with
    | closed _ none | broken _ none | held _ _ _ _ _ none => cases current.symm.trans none
    | opened id' free some opened latest =>
      obtain rfl := Option.some.inj (current.symm.trans some)
      refine .held number _ (at_self _) rfl ((Solo.of_free free).set rfl) rfl ⟨?_, latest⟩
      show o.state ≠ .closed
      rw [opened]
      decide
  | mark id =>
    obtain ⟨solo, none, used, latest⟩ := reign.of_reigns at_number rfl
    refine serial.of_reign (.held number _ (at_self _) rfl (solo.set rfl) none ⟨?_, latest⟩) rfl rfl
    show (if o.state = .opened then .closing else o.state) ≠ .closed
    split
    · decide
    · exact used
  | unplug id =>
    obtain ⟨solo, none, suits⟩ := reign.of_reigns at_number rfl
    exact serial.of_reign (.held number _ (at_self _) rfl (solo.set rfl) none suits) rfl rfl
  | cancel id =>
    obtain ⟨solo, none, used, latest⟩ := reign.of_reigns at_number rfl
    have length : (o.update id fun x => { x with cancelled := true }).sessions.length =
        o.sessions.length := by simp [update]
    exact serial.renew (f := fun x => { x with cancelled := true }) latest (fun _ _ mild => mild) rfl
      (.held number _ (at_self _) rfl (solo.set rfl) none ⟨used, Eq.trans latest length.symm⟩) rfl
  | join id x result at_id finished =>
    obtain ⟨solo, none, used, latest⟩ := reign.of_reigns at_number rfl
    have spent := serial.spent_of_over latest at_id finished
    exact serial.of_reign (.held number _ (at_self _) rfl (solo.set rfl) none ⟨used, spent⟩) rfl rfl
  | judge result =>
    obtain ⟨solo, none, suits⟩ := reign.of_reigns at_number rfl
    exact serial.of_reign (.held number _ (at_self _) rfl (solo.set rfl) none suits) rfl rfl
  | finish result fatal =>
    obtain ⟨solo, none, used, spent⟩ := reign.of_reigns at_number rfl
    exact serial.of_reign (.closed (solo.free rfl rfl) none rfl spent) rfl rfl

theorem Serial.callStep (serial : o.Serial) (step : o.CallStep number o') : o'.Serial := by
  cases step with
  | still => exact serial
  | plain c c' at_number before after =>
    have free {c : Call} (plain : c.isPlain) : c.reigns = false := by
      cases c with
      | send | stopPolling => rfl
      | start | close => cases plain
    exact serial.of_reign
      (serial.reign.pass at_number (free before) (free after) rfl rfl rfl rfl) rfl rfl
  | close phase phase' o' at_number step => exact serial.closeStep at_number step

/-- A new session whose loops were not begun. -/
theorem Serial.extend {x : Standing} (serial : o.Serial) (spent : o.Spent)
    (unborn : ∀ loop, x.stage loop = .unborn) (sessions : o'.sessions = o.sessions ++ [x])
    (reign : o'.Reign) (failed : o'.failed = o.failed) : o'.Serial where
  reign
  past id y at_y before := by
    rw [sessions] at at_y before
    rcases getElem?_concat_cases at_y with old | ⟨rfl, -⟩
    · exact spent y (List.mem_of_getElem? old)
    · simp at before
  failed := failed.trans serial.failed
  mild p stage at_p := by
    obtain ⟨y, at_y, rfl⟩ := Option.map_eq_some_iff.1 at_p
    rw [sessions] at at_y
    rcases getElem?_concat_cases at_y with old | ⟨-, rfl⟩
    · exact serial.mild p _ (by rw [stageAt?, old]; rfl)
    · rw [unborn]
      rfl

/-- A call is made. -/
theorem Serial.append (serial : o.Serial) (free : c.reigns = false) :
    Serial { o with calls := o.calls ++ [c] } := by
  refine serial.of_reign ?_ rfl rfl
  have all (others : ∀ d ∈ o.calls, d.reigns = false) : ∀ d ∈ o.calls ++ [c], d.reigns = false :=
    forall_mem_concat others free
  cases serial.reign with
  | closed others none closed spent => exact .closed (all others) none closed spent
  | opened id others some opened latest => exact .opened id (all others) some opened latest
  | broken others none opening => exact .broken (all others) none opening
  | held i d at_i reigns solo none suits =>
    have bound := (List.getElem?_eq_some_iff.1 at_i).1
    exact .held i d (by rw [List.getElem?_append_left bound, at_i]) reigns
      (forall_ne_concat solo free) none (suits.mono rfl rfl (fun h => h) fun _ h => h)

/-- A call in charge goes on, while nothing changes that the order depends on. -/
theorem Serial.advance (serial : o.Serial) (at_number : o.calls[number]? = some c)
    (reigns : c.reigns) (reigns' : c'.reigns) (calls : o'.calls = o.calls.set number c')
    (current : o'.current = none) (sessions : o'.sessions = o.sessions)
    (failed : o'.failed = false) (suits : o.Suits c → o'.Suits c') : o'.Serial := by
  obtain ⟨solo, -, was⟩ := serial.reign.of_reigns at_number reigns
  refine serial.of_reign (.held number c' ?_ reigns' (solo.set calls) current (suits was)) sessions
    (failed.trans serial.failed.symm)
  rw [calls, List.getElem?_set_self (List.getElem?_eq_some_iff.1 at_number).1]

/-! ## What is told -/

/-- Nobody has told or is to tell that a session was given up. -/
structure Clement (o : Outline) : Prop where
  judged : ∀ c ∈ o.calls, c.isFatal = false
  silent : .closed true ∉ o.events

theorem Clement.loopStep {p : Place} (clement : o.Clement) (serial : o.Serial)
    (step : o.LoopStep p o') : o'.Clement := by
  have calls := step.same.2.2
  refine ⟨by rw [calls]; exact clement.judged, ?_⟩
  cases step with
  | work x event at_id at_stage traffic =>
    intro told
    rcases List.mem_append.1 told with old | new
    · exact clement.silent old
    · rw [← List.mem_singleton.1 new] at traffic
      cases traffic
  | report x at_id at_stage =>
    have mild := serial.mild p _ (by rw [stageAt?_of_at at_id, at_stage])
    cases mild
  | _ => exact clement.silent

theorem Clement.set (events : List LinkEvent) (clement : o.Clement) (mild : c.isFatal = false)
    (calls : o'.calls = o.calls.set number c) (told : o'.events = o.events ++ events)
    (silent : .closed true ∉ events) : o'.Clement where
  judged := by
    rw [calls]
    exact forall_mem_set clement.judged mild
  silent := by
    rw [told, List.mem_append]
    rintro (old | new)
    · exact clement.silent old
    · exact silent new

theorem Clement.callStep (clement : o.Clement) (serial : o.Serial) (step : o.CallStep number o') :
    o'.Clement := by
  cases step with
  | still => exact clement
  | plain c c' at_number before after =>
    refine clement.set [] ?_ rfl (List.append_nil _).symm (by simp)
    cases c' with
    | send | stopPolling => rfl
    | start | close => cases after
  | close phase phase' o' at_number step =>
    have own := clement.judged _ (List.mem_of_getElem? at_number)
    have still (mild : (Call.close phase').isFatal = false) (told : o'.events = o.events) :
        Clement { o' with calls := o.calls.set number (.close phase') } :=
      clement.set [] mild rfl (told.trans (List.append_nil _).symm) (by simp)
    cases step with
    | judge result => exact still serial.failed rfl
    | report result fatal =>
      refine clement.set [.closed fatal] rfl rfl rfl ?_
      rw [show fatal = false from own]
      decide
    | finish | clear => exact still own rfl
    | wait => exact still own rfl
    | _ => exact still rfl rfl

end Outline

namespace Scene

variable {σ : Type} {s : Scene σ}

/-- A session is made when all before it have ended. -/
theorem serial_makeQueue (T : Transport σ) {number id : Nat}
    (at_number : s.calls[number]? = some (.start (.makeQueue id))) (serial : s.outline.Serial) :
    (s.act T (.call number)).outline.Serial := by
  rw [outline_act_start T at_number]
  obtain ⟨solo, none, opening, spent, last⟩ := serial.reign.of_reigns at_number rfl
  simp only [Link.startStep]
  split
  · exact serial.of_reign (.broken (solo.free rfl rfl) none opening) rfl rfl
  · have bound := (List.getElem?_eq_some_iff.1 at_number).1
    have unborn (loop : Loop) : (Session.standing { }).stage loop = .unborn := by
      cases loop <;> rfl
    have sessions : (s.link.sessions ++ [({ } : Session)]).map Session.standing =
        s.outline.sessions ++ [Session.standing { }] := List.map_append
    refine serial.extend spent unborn sessions
      (.held number _ (List.getElem?_set_self bound) rfl (solo.set rfl) none ⟨opening, ?_, ?_⟩) rfl
    · show id + 1 = ((s.link.sessions ++ [({ } : Session)]).map Session.standing).length
      rw [sessions, last, List.length_append]
      rfl
    · intro x at_id
      replace at_id : ((s.link.sessions ++ [({ } : Session)]).map Session.standing)[id]? = some x :=
        at_id
      rw [sessions, last, List.getElem?_concat_length] at at_id
      rw [← Option.some.inj at_id]
      rfl

/-- A loop of the latest session is begun. -/
theorem serial_launch (T : Transport σ) {number id : Nat} {loop : Loop}
    (at_number : s.calls[number]? = some (.start (.launch loop id))) (serial : s.outline.Serial) :
    (s.act T (.call number)).outline.Serial := by
  rw [outline_act_start T at_number]
  obtain ⟨solo, none, suits⟩ := serial.reign.of_reigns at_number rfl
  have bound := (List.getElem?_eq_some_iff.1 at_number).1
  obtain ⟨opened, latest⟩ : s.outline.state = .opened ∧ s.outline.Latest id := by
    cases loop with
    | reader => exact ⟨suits.1, suits.2.1⟩
    | writer | poller => exact suits
  have length : ((s.outline.update id (·.goTo loop .running)).sessions).length =
      s.outline.sessions.length := by simp [Outline.update]
  simp only [Link.startStep, Link.outline_launch]
  refine serial.renew latest (fun x other mild => ?_) rfl
    (.held number _ (List.getElem?_set_self bound) ?_ (solo.set rfl) none ?_) rfl
  · rw [Standing.stage_goTo]
    split
    · rfl
    · exact mild
  · cases loop with
    | reader | poller => rfl
    | writer => simp only [Link.afterLaunch]; split <;> rfl
  · have latest : id + 1 = ((s.outline.update id (·.goTo loop .running)).sessions).length :=
      Eq.trans latest length.symm
    cases loop with
    | reader | poller => exact ⟨opened, latest⟩
    | writer => simp only [Link.afterLaunch]; split <;> exact ⟨opened, latest⟩

/-- A step of a start keeps the sessions apart. -/
theorem serial_start (T : Transport σ) {number : Nat} {phase : StartPhase}
    (at_number : s.calls[number]? = some (.start phase)) (serial : s.outline.Serial) :
    (s.act T (.call number)).outline.Serial := by
  have none (reigns : (Call.start phase).reigns) : s.outline.current = none :=
    (serial.reign.of_reigns at_number reigns).2.1
  have failed := serial.failed
  rw [outline_act_start T at_number]
  -- a start that is not in charge goes on and does not come to be
  have pass (phase' : StartPhase) {locked : Bool} {events : List LinkEvent}
      (free : (Call.start phase).reigns = false) (free' : (Call.start phase').reigns = false) :
      Outline.Serial { s.outline with
        calls := s.calls.set number (.start phase'), locked, events } :=
    serial.of_reign (serial.reign.pass at_number free free' rfl rfl rfl rfl) rfl rfl
  cases phase with
  | enter =>
    simp only [Link.startStep]
    split <;> exact pass _ rfl rfl
  | check =>
    simp only [Link.startStep]
    split
    · exact pass _ rfl rfl
    · rename_i closed
      cases s.link.options.validate with
      | error e => exact pass _ rfl rfl
      | ok =>
        have closed : s.outline.state = .closed := not_not.1 closed
        exact serial.of_reign (serial.reign.seize at_number closed rfl rfl rfl
          fun spent => ⟨rfl, spent⟩) rfl rfl
  | discard => exact serial.advance at_number rfl rfl rfl rfl rfl failed fun h => h
  | openUp =>
    simp only [Link.startStep]
    cases T.openWith s.link.options s.link.device with
    | error e => exact serial.advance at_number rfl rfl rfl (none rfl) rfl failed fun h => h
    | ok device =>
      refine serial.advance at_number rfl rfl rfl (none rfl) rfl failed fun h => ⟨h.1, h.2, ?_⟩
      simp [Link.outline]
  | refuse e =>
    obtain ⟨solo, none, -, spent⟩ := serial.reign.of_reigns at_number rfl
    exact serial.of_reign (.closed (solo.free rfl rfl) none rfl spent) rfl rfl
  | makeQueue id =>
    rw [← outline_act_start T at_number]
    exact serial_makeQueue T at_number serial
  | forgetFailure id => exact serial.advance at_number rfl rfl rfl (none rfl) rfl rfl fun h => h
  | clear id | count id | plug id =>
    exact serial.advance at_number rfl rfl rfl (none rfl) rfl failed fun h => h
  | accept id =>
    exact serial.advance at_number rfl rfl rfl (none rfl) rfl failed fun h => ⟨rfl, h.2⟩
  | launch loop id =>
    rw [← outline_act_start T at_number]
    exact serial_launch T at_number serial
  | store id =>
    obtain ⟨solo, none, opened, latest⟩ := serial.reign.of_reigns at_number rfl
    exact serial.of_reign (.opened id (solo.free rfl rfl) rfl opened latest) rfl rfl
  | report | leave | done | broken => exact pass _ rfl rfl

theorem serial_fresh (options : LinkOptions) (device : σ) (now : Nat) :
    (fresh options device now).outline.Serial where
  reign := .closed (by rintro _ ⟨⟩) rfl rfl (by rintro _ ⟨⟩)
  past := by rintro _ _ ⟨⟩
  failed := rfl
  mild := by rintro _ _ ⟨⟩

/-- The sessions of a link follow each other, whatever happens, until one is given up. -/
theorem serial_act (T : Transport σ) (a : Action σ) (serial : s.outline.Serial)
    (kept : (s.act T a).outline.faults = []) : (s.act T a).outline.Serial := by
  cases a with
  | loop p => exact serial.loopStep (s.loopStep_act T p) kept
  | call number =>
    by_cases is_start : ∃ phase, s.calls[number]? = some (.start phase)
    · obtain ⟨phase, at_number⟩ := is_start
      exact serial_start T at_number serial
    · exact serial.callStep (s.callStep_act T number fun phase at_number =>
        absurd ⟨phase, at_number⟩ is_start)
  | make request => exact serial.append (by cases request <;> rfl)
  | device | clock | command | callback => exact serial

theorem clement_fresh (options : LinkOptions) (device : σ) (now : Nat) :
    (fresh options device now).outline.Clement where
  judged := by rintro _ ⟨⟩
  silent := by rintro ⟨⟩

/-- Nobody tells that a session was given up, unless one was. -/
theorem clement_act (T : Transport σ) (a : Action σ) (serial : s.outline.Serial)
    (clement : s.outline.Clement) : (s.act T a).outline.Clement := by
  cases a with
  | loop p => exact clement.loopStep serial (s.loopStep_act T p)
  | call number =>
    by_cases is_start : ∃ phase, s.calls[number]? = some (.start phase)
    · obtain ⟨phase, at_number⟩ := is_start
      rw [outline_act_start T at_number]
      refine clement.set phase.events rfl rfl
        (s.link.events_startStep T phase) ?_
      cases phase <;> simp [StartPhase.events]
    · exact clement.callStep serial (s.callStep_act T number fun phase at_number =>
        absurd ⟨phase, at_number⟩ is_start)
  | make request =>
    refine ⟨fun c member => ?_, clement.silent⟩
    rcases List.mem_append.1 member with old | new
    · exact clement.judged c old
    · rw [List.mem_singleton.1 new]
      cases request <;> rfl
  | device | clock | command | callback => exact clement

theorem faults_act (T : Transport σ) (a : Action σ) :
    s.outline.faults <+: (s.act T a).outline.faults := by
  cases a with
  | loop p => exact (s.loopStep_act T p).faults
  | call number =>
    cases at_number : s.calls[number]? with
    | none =>
      simp only [act, at_number]
      exact List.prefix_refl _
    | some c =>
      simp only [outline, act, at_number, List.filterMap_append]
      exact List.prefix_append _ _
  | make | device | clock | command | callback => exact List.prefix_refl _

theorem faults_run (T : Transport σ) (actions : List (Action σ)) :
    s.outline.faults <+: (s.run T actions).outline.faults := by
  induction actions generalizing s with
  | nil => exact List.prefix_refl _
  | cons a actions ih => exact (faults_act T a).trans ih

theorem serial_run (T : Transport σ) (actions : List (Action σ)) (serial : s.outline.Serial)
    (clement : s.outline.Clement) (kept : (s.run T actions).outline.faults = []) :
    (s.run T actions).outline.Serial ∧ (s.run T actions).outline.Clement := by
  induction actions generalizing s with
  | nil => exact ⟨serial, clement⟩
  | cons a actions ih =>
    have kept' : (s.act T a).outline.faults = [] := by
      have later : (s.act T a).outline.faults <+: (s.run T (a :: actions)).outline.faults :=
        faults_run T actions
      rw [kept] at later
      exact List.prefix_nil.1 later
    exact ih (serial_act T a serial kept') (clement_act T a serial clement) kept

/-- However loops and calls interleave: as long as no session was given up, the loops of all sessions
but the latest have ended, and nobody has told that a session was given up. -/
theorem sessions_in_turn (T : Transport σ) (options : LinkOptions) (device : σ) (now : Nat)
    (actions : List (Action σ)) (reached : (fresh options device now).run T actions = s)
    (kept : ∀ id, .failed id ∉ s.notes) :
    (∀ (id : Nat) (x : Session), s.link.sessions[id]? = some x →
      id + 1 < s.link.sessions.length → x.outcome?.isSome) ∧
    s.link.failed = false ∧ .closed true ∉ s.link.events := by
  have unblamed : s.outline.faults = [] :=
    List.eq_nil_iff_forall_not_mem.2 fun id fault => kept id (mem_faults_iff.1 fault)
  rw [← reached] at unblamed
  obtain ⟨serial, clement⟩ := serial_run T actions (serial_fresh options device now)
    (clement_fresh options device now) unblamed
  rw [reached] at serial clement
  refine ⟨fun id x at_id before => ?_, serial.failed, clement.silent⟩
  rw [Session.outcome?_isSome_iff]
  exact serial.past id _ (Link.standing_at at_id) (by simpa [outline, Link.outline] using before)

end Scene

end FieldLink
