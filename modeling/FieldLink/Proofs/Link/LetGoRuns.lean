import FieldLink.Proofs.Link.Dormant
import FieldLink.Proofs.Link.SessionEnd

/-!
# Runs on a link that has let its session go

The shadow of a scene is another one on a link that has let its session go (`Scene.Shadow`).  When
calls are made one after another, it follows every action until a start opens a session
(`Scene.shadow_run`).  From then on the links are the same, and so are all further calls, in
whatever order they are made (`Scene.level_run`).
-/

namespace FieldLink

/-- Nothing refuses a start that has opened its session. -/
theorem StartPhase.hasOpened_startStep {σ : Type} (T : Transport σ) {phase : StartPhase}
    (opened : phase.hasOpened) (l : Link σ) : (l.startStep T phase).1.hasOpened := by
  cases phase with
  | launch loop id =>
    cases loop with
    | reader | poller => rfl
    | writer =>
      simp only [Link.startStep, Link.afterLaunch]
      split <;> rfl
  | leave result | done result =>
    cases result with
    | ok => rfl
    | error => cases opened
  | count | plug | accept | store | report => rfl
  | _ => cases opened

/-- A start that has opened its session has succeeded when it is over. -/
theorem StartPhase.hasStarted_of_hasOpened {phase : StartPhase} (opened : phase.hasOpened)
    (finished : (Call.start phase).isOver) : (Call.start phase).hasStarted := by
  cases phase with
  | done result =>
    cases result with
    | ok => rfl
    | error => cases opened
  | broken => cases opened
  | _ => cases finished

namespace Call

theorem isOver_of_hasStarted {c : Call} (started : c.hasStarted) : c.isOver := by
  cases c with
  | start phase => cases phase <;> first | rfl | cases started
  | send | stopPolling | close => cases started

theorem not_isOver_of_pending? {c : Call} {id : Nat} (pends : c.pending? = some id) :
    ¬c.isOver := by
  cases c with
  | start phase => cases phase <;> first | (rintro ⟨⟩; done) | cases pends
  | send | stopPolling | close => cases pends

end Call

namespace Scene

variable {σ : Type} {T : Transport σ} {s u : Scene σ} {d n : Nat} {b : Bool} {calls : List Call}

/-! ## Scenes that are level -/

/-- The links are the same and so are all calls from the `n`th on, while those before are over. -/
def Level (n : Nat) (s u : Scene σ) : Prop :=
  u.link = s.link ∧ ∃ older older' later : List Call, s.calls = older ++ later ∧
    u.calls = older' ++ later ∧ older.length = n ∧ older'.length = n ∧
      (∀ c ∈ older, c.isOver) ∧ ∀ c ∈ older', c.isOver

theorem Level.drop_calls (level : s.Level n u) {k : Nat} (since : n ≤ k) :
    u.calls.drop k = s.calls.drop k := by
  obtain ⟨-, older, older', later, at_s, at_u, length, length', -⟩ := level
  have none : older.drop k = [] := List.drop_eq_nil_of_le (by omega)
  have none' : older'.drop k = [] := List.drop_eq_nil_of_le (by omega)
  rw [at_s, at_u, List.drop_append, List.drop_append, none, none', length, length']

/-- Scenes that are level stay so under the same actions. -/
theorem level_act (T : Transport σ) (level : s.Level n u) (a : Action σ) :
    (s.act T a).Level n (u.act T a) := by
  obtain ⟨link, older, older', later, at_s, at_u, length, length', ended, ended'⟩ := level
  cases a with
  | loop p => exact ⟨by simp only [act, link], older, older', later, at_s, at_u, length, length',
      ended, ended'⟩
  | call number =>
    by_cases early : number < n
    · have still {t : Scene σ} {first : List Call} (at_t : t.calls = first ++ later)
          (length : first.length = n) (ended : ∀ c ∈ first, c.isOver) :
          t.act T (.call number) = t := by
        refine act_call_of_isOver T fun c at_number => ?_
        rw [at_t, List.getElem?_append_left (by omega)] at at_number
        exact ended c (List.mem_of_getElem? at_number)
      rw [still at_s length ended, still at_u length' ended']
      exact ⟨link, older, older', later, at_s, at_u, length, length', ended, ended'⟩
    · have same {t : Scene σ} {first : List Call} (at_t : t.calls = first ++ later)
          (length : first.length = n) : t.calls[number]? = later[number - n]? := by
        rw [at_t, List.getElem?_append_right (by omega), length]
      cases at_number : later[number - n]? with
      | none =>
        simp only [act, (same at_s length).trans at_number, (same at_u length').trans at_number]
        exact ⟨link, older, older', later, at_s, at_u, length, length', ended, ended'⟩
      | some c =>
        rw [act_call T ((same at_s length).trans at_number),
          act_call T ((same at_u length').trans at_number)]
        refine ⟨by rw [link], older, older', later.set (number - n) (c.step T s.link).1, ?_, ?_,
          length, length', ended, ended'⟩
        · rw [at_s, List.set_append_right _ _ (by omega), length]
        · rw [at_u, List.set_append_right _ _ (by omega), length', link]
  | make request =>
    refine ⟨link, older, older', later ++ [request.call], ?_, ?_, length, length', ended, ended'⟩
    · simp only [act, at_s, List.append_assoc]
    · simp only [act, at_u, List.append_assoc]
  | device | clock | command | callback =>
    exact ⟨by simp only [act, link], older, older', later, at_s, at_u, length, length',
      ended, ended'⟩

/-- A call takes a step of its own, or stays where it is. -/
theorem call_act (T : Transport σ) {number : Nat} {c : Call} (at_number : s.calls[number]? = some c)
    (a : Action σ) : (s.act T a).calls[number]? = some c ∨
      (s.act T a).calls[number]? = some (c.step T s.link).1 := by
  cases a with
  | call k =>
    cases at_k : s.calls[k]? with
    | none =>
      simp only [act, at_k]
      exact .inl at_number
    | some c' =>
      rw [act_call T at_k]
      by_cases own : k = number
      · subst own
        rw [Option.some.inj (at_number.symm.trans at_k),
          List.getElem?_set_self (List.getElem?_eq_some_iff.1 at_k).1]
        exact .inr rfl
      · rw [List.getElem?_set_ne own]
        exact .inl at_number
  | make request =>
    have bound := (List.getElem?_eq_some_iff.1 at_number).1
    exact .inl ((List.getElem?_append_left bound).trans at_number)
  | loop | device | clock | command | callback => exact .inl at_number

theorem hasOpened_act (T : Transport σ) {number : Nat} {phase : StartPhase}
    (at_number : s.calls[number]? = some (.start phase)) (opened : phase.hasOpened) (a : Action σ) :
    ∃ phase', (s.act T a).calls[number]? = some (.start phase') ∧ phase'.hasOpened := by
  rcases call_act T at_number a with same | stepped
  · exact ⟨phase, same, opened⟩
  · exact ⟨_, stepped, StartPhase.hasOpened_startStep T opened s.link⟩

/-! ## Shadows -/

/-- A scene `u` on a bare link shadows the scene `s`, since `calls` were made.  All later calls are
over but the last at most, and none of them has started the link; or a start has opened a session,
and the scenes are level from it on. -/
inductive Shadow (calls : List Call) (d : Nat) (b : Bool) (s u : Scene σ) : Prop
  | rest (early : List Call) (ended : ∀ c ∈ early, c.isOver ∧ ¬c.hasStarted)
      (at_s : s.calls = calls ++ early) (at_u : u.calls = calls ++ early.map Call.quieted)
      (link : u.link = s.link.bare b) (dormant : s.link.Dormant d)
      (holding : s.link.Holding d b (early.any Call.hasClosed) s.link.sending)
  | busy (early : List Call) (c c' : Call) (b' : Bool)
      (ended : ∀ c ∈ early, c.isOver ∧ ¬c.hasStarted) (at_s : s.calls = calls ++ early ++ [c])
      (at_u : u.calls = calls ++ early.map Call.quieted ++ [c'])
      (link : u.link = s.link.bare b') (dormant : s.link.Dormant d)
      (shadow : s.link.Shadow d b (early.any Call.hasClosed) c c' b')
  | level (n : Nat) (phase : StartPhase) (since : calls.length ≤ n) (level : s.Level n u)
      (at_n : s.calls[n]? = some (.start phase)) (opened : phase.hasOpened)

/-- What neither makes a call nor takes a step of one leaves a shadow where it is. -/
theorem Shadow.pass {s' u' : Scene σ} (shadow : s.Shadow calls d b u) (at_s : s'.calls = s.calls)
    (at_u : u'.calls = u.calls) (level : ∀ n, s.Level n u → s'.Level n u')
    (link : ∀ b', s.link.Dormant d → u.link = s.link.bare b' → s'.link.Dormant d ∧
      u'.link = s'.link.bare b' ∧ s'.link.state = s.link.state ∧
        s'.link.current = s.link.current ∧ s'.link.sending = s.link.sending) :
    s'.Shadow calls d b u' := by
  cases shadow with
  | rest early ended before after bare dormant holding =>
    obtain ⟨dormant', bare', state, current, sending⟩ := link b dormant bare
    refine .rest early ended (at_s.trans before) (at_u.trans after) bare' dormant' ?_
    rw [sending]
    exact holding.congr state current
  | busy early c c' b' ended before after bare dormant shadow =>
    obtain ⟨dormant', bare', state, current, sending⟩ := link b' dormant bare
    exact .busy early c c' b' ended (at_s.trans before) (at_u.trans after) bare' dormant'
      (shadow.congr state current sending)
  | level n phase since same at_n opened =>
    refine .level n phase since (level n same) ?_ opened
    rw [at_s]
    exact at_n

/-- A call that is made is shadowed from its beginning. -/
theorem Shadow.make (request : Request) (shadow : s.Shadow calls d b u)
    (ended : ∀ c ∈ s.calls, c.isOver) :
    (s.act T (.make request)).Shadow calls d b (u.act T (.make request)) := by
  cases shadow with
  | rest early ended at_s at_u link dormant holding =>
    refine .busy early request.call request.call b ended ?_ ?_ link dormant
      (.light _ (Call.isLight_request request) holding)
    · simp only [act, at_s]
    · simp only [act, at_u]
  | busy early c c' b' _ at_s at_u link dormant shadow =>
    refine absurd (ended c ?_) shadow.not_isOver
    rw [at_s]
    exact List.mem_append_right _ (List.mem_singleton_self c)
  | level n phase since level at_n opened =>
    obtain ⟨phase', at_n', opened'⟩ := hasOpened_act T at_n opened (.make request)
    exact .level n phase' since (level_act T level _) at_n' opened'

/-- Calls that are over take no steps. -/
theorem act_call_of_over (T : Transport σ) {number : Nat} (ended : ∀ c ∈ s.calls, c.isOver) :
    s.act T (.call number) = s :=
  act_call_of_isOver T fun c at_number =>
    ended c (List.mem_of_getElem? (Option.mem_def.1 at_number))

/-- Only the last call takes steps when those before are over. -/
theorem act_call_of_ne_last (T : Transport σ) {number : Nat} {older : List Call} {c : Call}
    (at_s : s.calls = older ++ [c]) (ended : ∀ c ∈ older, c.isOver) (ne : number ≠ older.length) :
    s.act T (.call number) = s := by
  refine act_call_of_isOver T fun c' at_number => ?_
  rw [Option.mem_def, at_s] at at_number
  rcases getElem?_concat_cases at_number with old | ⟨last, -⟩
  · exact ended c' (List.mem_of_getElem? old)
  · exact absurd last ne

theorem act_call_last (T : Transport σ) {older : List Call} {c : Call}
    (at_s : s.calls = older ++ [c]) :
    (s.act T (.call older.length)).link = (c.step T s.link).2 ∧
      (s.act T (.call older.length)).calls = older ++ [(c.step T s.link).1] := by
  have at_last : s.calls[older.length]? = some c := by simp [at_s]
  rw [act_call T at_last]
  refine ⟨rfl, ?_⟩
  rw [at_s, List.set_append_right _ _ (Nat.le_refl _), Nat.sub_self]
  rfl

/-- A call and its shadow take their steps together. -/
theorem Shadow.call (T : Transport σ) (number : Nat) (free : ∀ c ∈ calls, c.isOver)
    (shadow : s.Shadow calls d b u) :
    (s.act T (.call number)).Shadow calls d b (u.act T (.call number)) := by
  have ended_s {early : List Call} (ended : ∀ c ∈ early, c.isOver ∧ ¬c.hasStarted) :
      ∀ c ∈ calls ++ early, c.isOver :=
    List.forall_mem_append.2 ⟨free, fun c member => (ended c member).1⟩
  have ended_u {early : List Call} (ended : ∀ c ∈ early, c.isOver ∧ ¬c.hasStarted) :
      ∀ c ∈ calls ++ early.map Call.quieted, c.isOver :=
    List.forall_mem_append.2
      ⟨free, List.forall_mem_map.2 fun c member => Call.isOver_quieted (ended c member).1⟩
  cases shadow with
  | rest early ended at_s at_u link dormant holding =>
    rw [act_call_of_over T (at_s ▸ ended_s ended), act_call_of_over T (at_u ▸ ended_u ended)]
    exact .rest early ended at_s at_u link dormant holding
  | busy early c c' b' ended at_s at_u link dormant shadow =>
    by_cases last : number = (calls ++ early).length
    · have length : (calls ++ early).length = (calls ++ early.map Call.quieted).length := by simp
      obtain ⟨link_s, calls_s⟩ := act_call_last T at_s
      obtain ⟨link_u, calls_u⟩ := act_call_last T at_u
      rw [← length] at link_u calls_u
      subst last
      have both := shadow.step T dormant
      rw [link] at link_u calls_u
      generalize c.step T s.link = x at both link_s calls_s
      generalize c'.step T (s.link.bare b') = y at both link_u calls_u
      cases both with
      | goes c c' b'' l dormant shadow =>
        refine .busy early c c' b'' ended calls_s calls_u ?_ ?_ ?_
        · rw [link_u, link_s]
        · rw [link_s]
          exact dormant
        · rw [link_s]
          exact shadow
      | ends c l dormant finished idle holding =>
        refine .rest (early ++ [c]) ?_ ?_ ?_ ?_ ?_ ?_
        · exact List.forall_mem_append.2 ⟨ended, List.forall_mem_singleton.2 ⟨finished, idle⟩⟩
        · rw [calls_s, List.append_assoc]
        · rw [calls_u, List.map_append, List.append_assoc]
          rfl
        · rw [link_u, link_s]
        · rw [link_s]
          exact dormant
        · rw [link_s, List.any_append, List.any_cons, List.any_nil, Bool.or_false]
          exact holding
      | opens phase l opened =>
        refine .level (calls ++ early).length phase (by simp) ⟨?_, _, _, [.start phase], calls_s,
          calls_u, rfl, length.symm, ended_s ended, ended_u ended⟩ ?_ opened
        · rw [link_u, link_s]
        · rw [calls_s, List.getElem?_append_right (Nat.le_refl _), Nat.sub_self]
          rfl
    · have last' : number ≠ (calls ++ early.map Call.quieted).length := by simpa using last
      rw [act_call_of_ne_last T at_s (ended_s ended) last,
        act_call_of_ne_last T at_u (ended_u ended) last']
      exact .busy early c c' b' ended at_s at_u link dormant shadow
  | level n phase since level at_n opened =>
    obtain ⟨phase', at_n', opened'⟩ := hasOpened_act T at_n opened (.call number)
    exact .level n phase' since (level_act T level _) at_n' opened'

/-- A shadow follows any action, if a call is made only when those before are over. -/
theorem Shadow.act (T : Transport σ) (free : ∀ c ∈ calls, c.isOver) (shadow : s.Shadow calls d b u)
    (a : Action σ) (turns : ∀ request, a = .make request → ∀ c ∈ s.calls, c.isOver) :
    (s.act T a).Shadow calls d b (u.act T a) := by
  cases a with
  | loop p =>
    refine shadow.pass rfl rfl (fun n level => level_act T level _) fun b' dormant bare => ?_
    obtain ⟨dormant', bare', same⟩ := dormant.step T p b'
    refine ⟨dormant', ?_, same⟩
    rw [← bare] at bare'
    exact bare'
  | call number => exact shadow.call T number free
  | make request => exact shadow.make request (turns request rfl)
  | device | clock | command | callback =>
    refine shadow.pass rfl rfl (fun n level => level_act T level _) fun b' dormant bare => ?_
    refine ⟨dormant.congr rfl rfl, ?_, rfl, rfl, rfl⟩
    simp only [Scene.act, bare]
    rfl

/-! ## Whole runs -/

/-- Whether every call of a run is made when those before it are over. -/
def oneByOne (T : Transport σ) : List (Action σ) → Scene σ → Bool
  | [], _ => true
  | .make request :: more, s =>
    s.calls.all Call.isOver && oneByOne T more (s.act T (.make request))
  | a :: more, s => oneByOne T more (s.act T a)

theorem oneByOne_cons {a : Action σ} {more : List (Action σ)} (turns : s.oneByOne T (a :: more)) :
    (∀ request, a = .make request → ∀ c ∈ s.calls, c.isOver) ∧ (s.act T a).oneByOne T more := by
  cases a with
  | make request =>
    obtain ⟨ended, later⟩ := Bool.and_eq_true_iff.1 turns
    exact ⟨fun _ _ => List.all_eq_true.1 ended, later⟩
  | loop | call | device | clock | command | callback => exact ⟨by rintro _ ⟨⟩, turns⟩

/-- The poller of a session takes no notice of a stop any more. -/
structure Retired (d : Nat) (s : Scene σ) : Prop where
  starts : StartsApart s
  idle : ∃ x, s.link.sessions[d]? = some x ∧ x.poller.stage.isIdle
  settled : ∀ c ∈ s.calls, c.pending? ≠ some d

theorem Link.isIdle_pollerNext {x : Session} (idle : x.poller.stage.isIdle) (l : Link σ) :
    (l.pollerNext x).stage.isIdle := by
  rcases PollerPhase.cases_of_isIdle idle with poller | poller | poller | poller
  all_goals simp only [Link.pollerNext, poller]
  all_goals rfl

theorem retired_act (T : Transport σ) (retired : s.Retired d) (a : Action σ) :
    (s.act T a).Retired d := by
  obtain ⟨x, at_d, idle⟩ := retired.idle
  obtain ⟨x', at_d', passes⟩ := passes_act T a at_d
  refine ⟨startsApart_act T retired.starts a, ⟨x', at_d', ?_⟩, fun c member pends => ?_⟩
  · by_cases own : a = .loop ⟨d, .poller⟩
    · rw [passes.poller own]
      exact Link.isIdle_pollerNext idle s.link
    · rcases passes.poller_of_ne own with same | ⟨⟨number, -, at_number⟩, -⟩
      · rw [same]
        exact idle
      · exact absurd rfl (retired.settled _ (List.mem_of_getElem? at_number))
  · rcases pending_act T retired.starts a member pends with ⟨c', old, pends⟩ | next
    · exact retired.settled c' old pends
    · have bound := (List.getElem?_eq_some_iff.1 at_d).1
      omega

theorem retired_run (T : Transport σ) (retired : s.Retired d) (actions : List (Action σ)) :
    (s.run T actions).Retired d :=
  run_of_act (Retired d) (fun _ a retired => retired_act T retired a) actions retired

/-- A retired poller may be cancelled before a run or after it. -/
theorem hush_run (T : Transport σ) (retired : s.Retired d) (actions : List (Action σ)) :
    (s.run T actions).hush d = (s.hush d).run T actions ∧
      (s.hush d).oneByOne T actions = s.oneByOne T actions := by
  induction actions generalizing s with
  | nil => exact ⟨rfl, rfl⟩
  | cons a actions ih =>
    obtain ⟨x, at_d, idle⟩ := retired.idle
    have moved : (s.act T a).hush d = (s.hush d).act T a :=
      hush_act T (List.getElem?_eq_some_iff.1 at_d).1
        (fun y at_y => .inl (by rwa [Option.some.inj (at_y.symm.trans at_d)])) a
    obtain ⟨run, turns⟩ := ih (retired_act T retired a)
    rw [moved] at run turns
    refine ⟨run, ?_⟩
    cases a with
    | make request => exact congrArg (s.calls.all Call.isOver && ·) turns
    | loop | call | device | clock | command | callback => exact turns

/-- A shadow follows every run whose calls are made one after another. -/
theorem shadow_run (T : Transport σ) (free : ∀ c ∈ calls, c.isOver) (actions : List (Action σ))
    (shadow : s.Shadow calls d b u) (turns : s.oneByOne T actions) :
    (s.run T actions).Shadow calls d b (u.run T actions) := by
  induction actions generalizing s u with
  | nil => exact shadow
  | cons a actions ih =>
    obtain ⟨ended, later⟩ := oneByOne_cons turns
    exact ih (shadow.act T free a ended) later

theorem level_run (T : Transport σ) (level : s.Level n u) (actions : List (Action σ)) :
    (s.run T actions).Level n (u.run T actions) := by
  induction actions generalizing s u with
  | nil => exact level
  | cons a actions ih => exact ih (level_act T level a)

end Scene

end FieldLink
