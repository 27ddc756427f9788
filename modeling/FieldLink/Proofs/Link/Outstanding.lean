import FieldLink.Proofs.Link.Marks

/-!
# Outstanding exchanges

What the mark of an outstanding exchange says if every send, and every loop between two awaits, goes
on uninterrupted (`Scene.Whole`), while starts and closes may be interrupted anywhere.  Between two
of these stretches no send is under way, so the mark is set just when some frame was accepted after
the mark was cleared last (`Unanswered`).

The mark is one for all frames: whoever clears it, for a chunk that was read or a frame that was
given up, clears it for every frame that still waits (`dropped_before_sent`, `answered_too_early`).
While it is set, a poller leaves out whatever it would offer.
-/

namespace FieldLink

/-- What a signal makes of the belief that an exchange is outstanding. -/
def Signal.outstanding (before : Bool) : Signal → Bool
  | accepted _ _ _ => true
  | cleared _ => false
  | marked _ | restored _ => before

/-- A frame was accepted, and the mark was not cleared after that. -/
def Unanswered (signals : List Signal) : Prop :=
  ∃ before who id frame after, signals = before ++ .accepted who id frame :: after ∧
    ∀ relief, .cleared relief ∉ after

theorem unanswered_cons (x : Signal) (signals : List Signal) :
    Unanswered (x :: signals) ↔
      (∃ who id frame, x = .accepted who id frame ∧ ∀ relief, .cleared relief ∉ signals) ∨
        Unanswered signals := by
  constructor
  · rintro ⟨before, who, id, frame, after, eq, uncleared⟩
    cases before with
    | nil =>
      obtain ⟨rfl, rfl⟩ := List.cons.inj eq
      exact .inl ⟨who, id, frame, rfl, uncleared⟩
    | cons y rest =>
      exact .inr ⟨rest, who, id, frame, after, (List.cons.inj eq).2, uncleared⟩
  · rintro (⟨who, id, frame, rfl, uncleared⟩ | ⟨before, who, id, frame, after, rfl, uncleared⟩)
    · exact ⟨[], who, id, frame, signals, rfl, uncleared⟩
    · exact ⟨x :: before, who, id, frame, after, rfl, uncleared⟩

/-- An exchange is outstanding after some signals if one of them is an acceptance that was not
cleared, or if it was before and was not cleared. -/
theorem foldl_outstanding_iff (signals : List Signal) (before : Bool) :
    signals.foldl Signal.outstanding before = true ↔
      Unanswered signals ∨ before = true ∧ ∀ relief, .cleared relief ∉ signals := by
  induction signals generalizing before with
  | nil => simp [Unanswered]
  | cons x signals ih =>
    rw [List.foldl_cons, ih, unanswered_cons]
    cases x with
    | marked who | restored who => simp [Signal.outstanding]
    | accepted who id frame =>
      simp only [Signal.outstanding, List.mem_cons]
      constructor
      · rintro (late | ⟨-, uncleared⟩)
        · exact .inl (.inr late)
        · exact .inl (.inl ⟨who, id, frame, rfl, uncleared⟩)
      · rintro ((⟨-, -, -, -, uncleared⟩ | late) | ⟨-, uncleared⟩)
        · exact .inr ⟨trivial, uncleared⟩
        · exact .inl late
        · exact .inr ⟨trivial, fun relief member => uncleared relief (.inr member)⟩
    | cleared relief =>
      simp only [Signal.outstanding, List.mem_cons]
      constructor
      · rintro (late | ⟨⟨⟩, -⟩)
        exact .inl (.inr late)
      · rintro ((⟨_, _, _, ⟨⟩, -⟩ | late) | ⟨-, uncleared⟩)
        · exact .inl late
        · exact absurd (.inl rfl) (uncleared relief)

/-- The action that moves a send. -/
def Sender.action {σ : Type} : Sender → Action σ
  | call number => .call number
  | reader session => .loop ⟨session, .reader⟩

theorem Action.sender?_eq_some_iff {σ : Type} {a : Action σ} {who : Sender} :
    a.sender? = some who ↔ a = who.action := by
  constructor
  · intro acts
    cases a with
    | loop p =>
      obtain ⟨id, loop⟩ := p
      cases loop <;> cases acts
      rfl
    | call number =>
      cases acts
      rfl
    | make | device | clock | command | callback => cases acts
  · rintro rfl
    cases who <;> rfl

namespace Scene

variable {σ : Type} {T : Transport σ} {s s' : Scene σ} {a b : Action σ} {out : Bool}

/-! ## Stretches -/

/-- A run in which a send, and a loop between two awaits, goes on uninterrupted. -/
inductive Whole (T : Transport σ) : Scene σ → List (Action σ) → Prop
  | nil {s : Scene σ} : Whole T s []
  /-- A loop goes on from one await to the next. -/
  | loop {s : Scene σ} {more : List (Action σ)} (p : Place) (count : Nat)
      (rests : (s.run T (List.replicate count (.loop p))).Rests (.loop p))
      (rest : Whole T (s.run T (List.replicate count (.loop p))) more) :
      Whole T s (List.replicate count (.loop p) ++ more)
  /-- A frame is sent. -/
  | send {s s' : Scene σ} {more : List (Action σ)} (frame : Frame) (count : Nat)
      (sends : (s.act T (.make (.send frame))).run T
        (List.replicate count (.call s.calls.length)) = s')
      (rests : s'.Rests (.call s.calls.length)) (rest : Whole T s' more) :
      Whole T s (.make (.send frame) :: List.replicate count (.call s.calls.length) ++ more)
  /-- Anything else happens, such as a step of a start or a close. -/
  | act {s : Scene σ} {more : List (Action σ)} (a : Action σ) (unlooped : ∀ p, a ≠ .loop p)
      (unsent : ∀ frame, a ≠ .make (.send frame)) (rest : Whole T (s.act T a) more) :
      Whole T s (a :: more)

theorem Whole.prepend {plain more : List (Action σ)} (unlooped : ∀ a ∈ plain, ∀ p, a ≠ .loop p)
    (unsent : ∀ a ∈ plain, ∀ frame, a ≠ .make (.send frame))
    (rest : Whole T (s.run T plain) more) : Whole T s (plain ++ more) := by
  induction plain generalizing s with
  | nil => exact rest
  | cons a plain ih =>
    refine .act a (unlooped a (List.mem_cons_self ..)) (unsent a (List.mem_cons_self ..)) ?_
    exact ih (fun b member => unlooped b (List.mem_cons_of_mem _ member))
      (fun b member => unsent b (List.mem_cons_of_mem _ member)) rest

/-- Whatever loop or send an action moves rests. -/
def Idle : Action σ → Scene σ → Prop
  | .loop p, s => s.Rests (.loop p)
  | .call number, s => ∀ frame phase, s.calls[number]? = some (.send frame phase) →
      (Call.send frame phase).isOver
  | _, _ => True

/-- A loop that rests stays so while others act, also if it is just begun. -/
theorem Passes.rests {id : Nat} {loop : Loop} {x x' : Session} (passes : s.Passes T a id x x')
    (ne : a ≠ .loop ⟨id, loop⟩) (rested : x.rests loop) : x'.rests loop := by
  cases loop with
  | reader =>
    show x'.reader.rests
    rcases passes.reader_of_ne ne with same | ⟨-, begun⟩
    · rw [same]
      exact rested
    · rw [begun]
      rfl
  | writer =>
    show x'.writer.rests
    rcases passes.writer_of_ne ne with same | ⟨-, begun⟩
    · rw [same]
      exact rested
    · rw [begun]
      rfl
  | poller =>
    show x'.poller.rests
    rcases passes.poller_of_ne ne with same | ⟨-, begun⟩
    · rw [same]
      exact rested
    · rw [begun]
      rfl

/-- A loop that rests stays so while others act, and one of a new session rests. -/
theorem rests_loop_act (T : Transport σ) {p : Place} (rests : s.Rests (.loop p))
    (ne : a ≠ .loop p) : (s.act T a).Rests (.loop p) := by
  obtain ⟨id, loop⟩ := p
  intro x' at_id'
  rcases session_act_cases T a at_id' with ⟨x, at_id, passes⟩ | ⟨-, rfl⟩
  · exact passes.rests ne (rests x at_id)
  · cases loop <;> rfl

/-- A loop or send that rests stays so while others act. -/
theorem idle_act (T : Transport σ) (idle : s.Idle b) (ne : a ≠ b)
    (unmade : ∀ frame, a = .make (.send frame) → b ≠ .call s.calls.length) :
    (s.act T a).Idle b := by
  cases b with
  | loop q => exact rests_loop_act T idle ne
  | call number =>
    intro frame phase at_number
    refine idle frame phase ?_
    cases a with
    | call k =>
      have ne : k ≠ number := fun same => ne (same ▸ rfl)
      cases at_k : s.calls[k]? with
      | none =>
        simp only [act, at_k] at at_number
        exact at_number
      | some c =>
        rw [act_call T at_k] at at_number
        simpa only [List.getElem?_set_ne ne] using at_number
    | make request =>
      rcases getElem?_concat_cases at_number with old | ⟨rfl, sent⟩
      · exact old
      · cases request with
        | send frame => exact absurd rfl (unmade frame rfl)
        | start | stopPolling | close => cases sent
    | loop | device | clock | command | callback => exact at_number
  | make | device | clock | command | callback => trivial

/-- An action that is neither a step of a loop nor a send leaves nothing under way that it moves. -/
theorem idle_act_self (T : Transport σ) (idle : s.Idle a) (unlooped : ∀ p, a ≠ .loop p) :
    (s.act T a).Idle a := by
  cases a with
  | loop p => exact absurd rfl (unlooped p)
  | call number =>
    cases at_number : s.calls[number]? with
    | none =>
      simp only [act, at_number]
      exact idle
    | some c =>
      intro frame phase at_number'
      rw [act_call T at_number] at at_number'
      rw [List.getElem?_set_self (List.getElem?_eq_some_iff.1 at_number).1] at at_number'
      have stepped := Option.some.inj at_number'
      cases c with
      | send frame' phase' =>
        have ended := idle frame' phase' at_number
        rw [Call.step_of_isOver T s.link ended] at stepped
        rw [← stepped]
        exact ended
      | stopPolling returned =>
        cases returned with
        | true => cases stepped
        | false =>
          simp only [Call.step] at stepped
          split at stepped <;> cases stepped
      | start | close => cases stepped
  | make | device | clock | command | callback => trivial

/-- A send that rests has nothing to put back. -/
theorem saved?_of_idle {who : Sender} (idle : s.Idle who.action) : s.saved? who = none := by
  cases who with
  | call number =>
    simp only [saved?]
    cases at_number : s.calls[number]? with
    | none => rfl
    | some c =>
      cases c with
      | send frame phase =>
        have ended := idle frame phase at_number
        cases phase <;> first | rfl | cases ended
      | start | stopPolling | close => rfl
  | reader id =>
    simp only [saved?]
    cases at_id : s.link.sessions[id]? with
    | none => rfl
    | some x =>
      have rested : x.reader.rests := idle x at_id
      show x.reader.saved? = none
      cases reader : x.reader <;> rw [reader] at rested <;> first | rfl | cases rested

/-! ## The mark between two stretches -/

/-- All loops and sends rest, and the mark says whether an exchange is outstanding. -/
structure Paused (out : Bool) (s : Scene σ) : Prop where
  idle : ∀ b, s.Idle b
  sending : s.link.sending = out

/-- All loops and sends rest but one.  If it sends, it has found what the mark is to say. -/
structure Stretched (a : Action σ) (out : Bool) (s : Scene σ) : Prop where
  idle : ∀ b, a ≠ b → s.Idle b
  found : ∀ who before, s.saved? who = some before → before = out ∧ s.link.sending = true
  sending : (∀ who, s.saved? who = none) → s.link.sending = out

theorem Paused.stretched (paused : Paused out s) (a : Action σ) : Stretched a out s where
  idle b _ := paused.idle b
  found who before found := by
    rw [saved?_of_idle (paused.idle _)] at found
    cases found
  sending _ := paused.sending

theorem Stretched.paused (stretched : Stretched a out s) (idle : s.Idle a) : Paused out s := by
  have all (b : Action σ) : s.Idle b := by
    by_cases own : a = b
    · exact own ▸ idle
    · exact stretched.idle b own
  exact ⟨all, stretched.sending fun who => saved?_of_idle (all _)⟩

theorem Stretched.saved?_of_ne (stretched : Stretched a out s) {who : Sender}
    (other : a.sender? ≠ some who) : s.saved? who = none :=
  saved?_of_idle (stretched.idle _ fun same => other (Action.sender?_eq_some_iff.2 same))

/-- If the one that moves has nothing to put back, nobody has. -/
theorem Stretched.unsaved (stretched : Stretched a out s) {who : Sender}
    (acts : a.sender? = some who) (saved : s'.saved? who = none)
    (others : ∀ v, v ≠ who → s'.saved? v = s.saved? v) (v : Sender) : s'.saved? v = none := by
  by_cases own : v = who
  · rw [own, saved]
  · rw [others v own]
    exact stretched.saved?_of_ne fun acts' => own (Option.some.inj (acts'.symm.trans acts))

theorem Stretched.of_unsaved (idle : ∀ b, a ≠ b → s.Idle b) (unsaved : ∀ who, s.saved? who = none)
    (sending : s.link.sending = out) : Stretched a out s where
  idle
  found who before found := by
    rw [unsaved] at found
    cases found
  sending _ := sending

/-- The one that moves, moves on. -/
theorem Stretched.act (T : Transport σ) (stretched : Stretched a out s)
    (unsent : ∀ frame, a ≠ .make (.send frame)) :
    Stretched a ((signalsOf a s).foldl Signal.outstanding out) (s.act T a) := by
  have idle (b : Action σ) (ne : a ≠ b) : (s.act T a).Idle b :=
    idle_act T (stretched.idle b ne) ne fun frame made => absurd made (unsent frame)
  have marking := s.marking_act T a
  generalize signalsOf a s = shown at marking
  cases marking with
  | still sending saved =>
    refine ⟨idle, fun who before found => ?_, fun unsaved => ?_⟩
    · rcases saved who with same | ⟨-, none⟩
      · rw [sending]
        exact stretched.found who before (same.symm.trans found)
      · cases none.symm.trans found
    · refine sending.trans (stretched.sending fun who => ?_)
      rcases saved who with same | ⟨other, -⟩
      · exact same.symm.trans (unsaved who)
      · exact stretched.saved?_of_ne other
  | mark who acts unsaved sending saved others =>
    have none := stretched.unsaved acts unsaved fun _ _ => rfl
    refine ⟨idle, fun v before found => ?_, fun unsaved' => ?_⟩
    · by_cases own : v = who
      · rw [own, saved] at found
        exact ⟨(Option.some.inj found).symm.trans (stretched.sending none), sending⟩
      · rw [others v own, none v] at found
        cases found
    · cases (saved.symm.trans (unsaved' who))
  | accept who before id frame acts was sending saved others =>
    exact .of_unsaved idle (stretched.unsaved acts saved others)
      (sending.trans (stretched.found who before was).2)
  | restore who before acts was sending saved others =>
    exact .of_unsaved idle (stretched.unsaved acts saved others)
      (sending.trans (stretched.found who before was).1)
  | clear relief sending unsaved saved =>
    refine .of_unsaved idle (fun v => ?_) sending
    rw [saved v]
    by_cases acts : a.sender? = some v
    · exact unsaved v acts
    · exact stretched.saved?_of_ne acts

theorem signals_append (first rest : List (Action σ)) (s : Scene σ) :
    s.signals T (first ++ rest) = s.signals T first ++ (s.run T first).signals T rest :=
  trace_append first rest s

theorem Stretched.run (T : Transport σ) (stretched : Stretched a out s)
    (unsent : ∀ frame, a ≠ .make (.send frame)) (count : Nat) :
    Stretched a ((s.signals T (List.replicate count a)).foldl Signal.outstanding out)
      (s.run T (List.replicate count a)) := by
  induction count generalizing s out with
  | zero => exact stretched
  | succ count ih =>
    have later := ih (stretched.act T unsent)
    rw [← List.foldl_append] at later
    exact later

/-- A frame that is to be sent has not touched the mark yet. -/
theorem Paused.make (T : Transport σ) (paused : Paused out s) (frame : Frame) :
    Stretched (.call s.calls.length) out (s.act T (.make (.send frame))) := by
  have idle (b : Action σ) (ne : .call s.calls.length ≠ b) :
      (s.act T (.make (.send frame))).Idle b := by
    by_cases own : .make (.send frame) = b
    · exact own ▸ trivial
    · exact idle_act T (paused.idle b) own fun _ _ same => ne same.symm
  refine .of_unsaved idle (fun who => ?_) paused.sending
  have marking := s.marking_act T (.make (.send frame))
  rw [show signalsOf (.make (.send frame)) s = [] from rfl] at marking
  cases marking with
  | still sending saved =>
    rcases saved who with same | ⟨-, none⟩
    · rw [same]
      exact saved?_of_idle (paused.idle _)
    · exact none

/-- Between the stretches of a run, the mark says whether an exchange is outstanding. -/
theorem Whole.paused {actions : List (Action σ)} (whole : Whole T s actions)
    (paused : Paused out s) :
    Paused ((s.signals T actions).foldl Signal.outstanding out) (s.run T actions) := by
  induction whole generalizing out with
  | nil => exact paused
  | loop p count rests rest ih =>
    have stretched := (paused.stretched (.loop p)).run T (by rintro _ ⟨⟩) count
    rw [signals_append, List.foldl_append, run_append]
    exact ih (stretched.paused rests)
  | @send s s' more frame count sends rests rest ih =>
    have stretched := (paused.make T frame).run T (by rintro _ ⟨⟩) count
    rw [sends] at stretched
    have parts : s.signals T (.make (.send frame) :: List.replicate count (.call s.calls.length)
          ++ more) =
        (s.act T (.make (.send frame))).signals T (List.replicate count (.call s.calls.length)) ++
          s'.signals T more := by
      rw [← sends]
      exact signals_append _ more (s.act T (.make (.send frame)))
    have comes : s.run T (.make (.send frame) :: List.replicate count (.call s.calls.length)
        ++ more) = s'.run T more := by
      rw [← sends]
      exact run_append T _ more (s.act T (.make (.send frame)))
    rw [parts, List.foldl_append, comes]
    refine ih (stretched.paused fun frame phase at_number => ?_)
    exact rests _ at_number
  | act a unlooped unsent rest ih =>
    have stretched := (paused.stretched a).act T unsent
    have later := ih (stretched.paused (idle_act_self T (paused.idle a) unlooped))
    rw [← List.foldl_append] at later
    exact later

theorem paused_fresh (options : LinkOptions) (device : σ) (now : Nat) :
    Paused false (fresh options device now) where
  idle b := by
    cases b with
    | loop p => rintro x ⟨⟩
    | call number => rintro frame phase ⟨⟩
    | make | device | clock | command | callback => trivial
  sending := rfl

end Scene

/-! ## Polls while an exchange is outstanding -/

/-- Whether a poller is about to queue a command. -/
def PollerPhase.offers : PollerPhase → Bool
  | offer _ => true
  | _ => false

/-- A cycle has left out all commands that it came to so far, out of some number. -/
def PollerPhase.Skips (commands : Nat) : PollerPhase → Prop
  | look cycle => cycle.offered = 0 ∧ cycle.skipped + cycle.left.length = commands
  | ask cycle =>
    cycle.left ≠ [] ∧ cycle.offered = 0 ∧ cycle.skipped + cycle.left.length = commands
  | offer _ => False
  | settle cycle _ | report cycle => cycle.offered = 0 ∧ cycle.skipped = commands
  | _ => True

namespace Link

variable {σ : Type} {x : Session} {l : Link σ}

theorem commands_pollerStep (id : Nat) (x : Session) (l : Link σ) :
    (l.pollerStep id x).commands = l.commands := by
  obtain ⟨sessions, state, liveLoops, events, same⟩ := l.pollerStep_writes id x
  rw [same]

/-- A poller comes to no offer while an exchange is outstanding. -/
theorem offers_pollerNext (sending : l.sending = true) : (l.pollerNext x).offers = false := by
  unfold pollerNext
  cases poller : x.poller with
  | ask cycle => simp [sending, PollerPhase.offers]
  | offer cycle =>
    cases left : cycle.left with
    | nil => simp [left, PollerPhase.offers]
    | cons command rest =>
      rcases result : (l.enqueue command).1 with e | _
      · cases e <;> simp [left, result, PollerPhase.offers]
      · simp [left, result, PollerPhase.offers]
  | look cycle =>
    cases left : cycle.left with
    | nil => simp [left, PollerPhase.offers]
    | cons command rest => simp only [left]; split <;> rfl
  | begin => simp only; split <;> rfl
  | wait | settle =>
    simp only
    split
    · rfl
    · split <;> rfl
  | leave phase =>
    simp only
    cases (l.leaveStep phase).1 <;> rfl
  | unborn | copy | report | gone | broken => rfl

/-- A cycle goes on leaving out all commands while an exchange is outstanding. -/
theorem skips_pollerNext (sending : l.sending = true)
    (skips : x.poller.Skips l.commands.length) :
    (l.pollerNext x).Skips l.commands.length := by
  unfold pollerNext
  cases poller : x.poller with
  | copy next => exact ⟨rfl, Nat.zero_add _⟩
  | look cycle =>
    rw [poller] at skips
    obtain ⟨offered, skipped⟩ := skips
    cases left : cycle.left with
    | nil =>
      rw [left] at skipped
      simp only [left]
      exact ⟨offered, skipped⟩
    | cons command rest =>
      simp only [left]
      split
      · trivial
      · exact ⟨by simp [left], offered, skipped⟩
  | ask cycle =>
    rw [poller] at skips
    obtain ⟨some_left, offered, skipped⟩ := skips
    simp only [sending, if_true]
    refine ⟨offered, ?_⟩
    have bound := List.length_pos_iff.2 some_left
    show cycle.skipped + 1 + cycle.left.tail.length = l.commands.length
    rw [List.length_tail]
    omega
  | offer cycle =>
    rw [poller] at skips
    exact skips.elim
  | settle cycle deadline =>
    rw [poller] at skips
    simp only
    split
    · trivial
    · split <;> exact skips
  | begin => simp only; split <;> trivial
  | wait =>
    simp only
    split
    · trivial
    · split <;> trivial
  | leave phase =>
    simp only
    cases (l.leaveStep phase).1 <;> trivial
  | unborn | report | gone | broken => trivial

end Link

namespace Scene

variable {σ : Type} {T : Transport σ} {s : Scene σ} {x : Session} {id : Nat}

/-- What a poller does, alone, while an exchange is outstanding. -/
structure Spared (T : Transport σ) (id : Nat) (x : Session) (s s' : Scene σ) : Prop where
  sending : s'.link.sending = true
  commands : s'.link.commands = s.link.commands
  accepted : ∀ k, s'.accepted k = s.accepted k
  session : ∃ x', s'.link.sessions[id]? = some x' ∧ x'.poller.offers = false ∧
    (x.poller.Skips s.link.commands.length → x'.poller.Skips s.link.commands.length)

theorem spared_step (T : Transport σ) (sending : s.link.sending = true)
    (at_id : s.link.sessions[id]? = some x) (silent : x.poller.offers = false) :
    Spared T id x s (s.act T (.loop ⟨id, .poller⟩)) := by
  have stepped := act_poller T at_id
  obtain ⟨x', at_id', passes⟩ := passes_act T (.loop ⟨id, .poller⟩) at_id
  refine ⟨?_, ?_, fun k => ?_, x', at_id', ?_, fun skips => ?_⟩
  · rw [stepped, Link.sending_pollerStep]
    exact sending
  · rw [stepped, Link.commands_pollerStep]
  · have noted : s.link.loopNotes ⟨id, .poller⟩ = [] := by
      simp only [Link.loopNotes, at_id, Link.pollerNotes]
      cases poller : x.poller with
      | offer => rw [poller] at silent; cases silent
      | _ => rfl
    simp only [act, accepted, noted, List.nil_append, List.filterMap_append,
      Link.filterMap_accepted?_eventNotes, List.append_nil]
  · rw [passes.poller rfl]
    exact Link.offers_pollerNext sending
  · rw [passes.poller rfl]
    exact Link.skips_pollerNext sending skips

theorem spared_run (T : Transport σ) (sending : s.link.sending = true)
    (at_id : s.link.sessions[id]? = some x) (silent : x.poller.offers = false) (count : Nat) :
    Spared T id x s (s.run T (List.replicate count (.loop ⟨id, .poller⟩))) := by
  induction count generalizing s x with
  | zero => exact ⟨sending, rfl, fun _ => rfl, x, at_id, silent, fun skips => skips⟩
  | succ count ih =>
    have first := spared_step T sending at_id silent
    obtain ⟨x', at_id', silent', skips'⟩ := first.session
    have later := ih first.sending at_id' silent'
    obtain ⟨x'', at_id'', silent'', skips''⟩ := later.session
    rw [first.commands] at skips''
    exact ⟨later.sending, later.commands.trans first.commands,
      fun k => (later.accepted k).trans (first.accepted k), x'', at_id'', silent'',
      fun skips => skips'' (skips' skips)⟩

/-- When every send, and every loop between two awaits, goes on uninterrupted:

* The mark is set just when a frame was accepted and the mark was not cleared after that.
* While it is set, a poller that goes on queues nothing, and a cycle that it begins has left out all
  commands when it lets the last exchange finish. -/
theorem sending_iff_unanswered (T : Transport σ) (options : LinkOptions) (device : σ) (now : Nat)
    (actions : List (Action σ)) (whole : Whole T (fresh options device now) actions)
    (reached : (fresh options device now).run T actions = s) :
    (s.link.sending = true ↔ Unanswered ((fresh options device now).signals T actions)) ∧
      (s.link.sending = true → ∀ (id count : Nat) (x : Session),
        s.link.sessions[id]? = some x →
          (∀ k, (s.run T (List.replicate count (.loop ⟨id, .poller⟩))).accepted k =
            s.accepted k) ∧
          ∀ (next deadline : Nat) (cycle : PollCycle) (x' : Session), x.poller = .wait next →
            (s.run T (List.replicate count (.loop ⟨id, .poller⟩))).link.sessions[id]? =
              some x' →
            x'.poller = .settle cycle deadline →
              cycle.offered = 0 ∧ cycle.skipped = s.link.commands.length) := by
  have paused := whole.paused (paused_fresh options device now)
  rw [reached] at paused
  refine ⟨?_, fun sending id count x at_id => ?_⟩
  · rw [paused.sending, foldl_outstanding_iff]
    simp
  · have rested : x.poller.rests := paused.idle (.loop ⟨id, .poller⟩) x at_id
    have silent : x.poller.offers = false := by
      cases poller : x.poller <;> rw [poller] at rested <;> first | rfl | cases rested
    have spared := spared_run T sending at_id silent count
    refine ⟨spared.accepted, fun next deadline cycle x' waits at_id' settles => ?_⟩
    obtain ⟨x'', at_id'', -, skips⟩ := spared.session
    obtain rfl := Option.some.inj (at_id''.symm.trans at_id')
    rw [waits, settles] at skips
    exact skips trivial

/-- The options of the rehearsal, but with polls. -/
def polling : LinkOptions := { rehearsed with poll := true }

/-- A link that has a command to poll is opened. -/
def pollingStart : List (Action Device) :=
  .command [9] :: .make .start :: List.replicate 16 (.call 0)

/-- Its poller is set, a frame is sent, and the time of the first cycle comes. -/
def pollingTurns : List (Action Device) :=
  List.replicate 1 (.loop ⟨0, .poller⟩) ++
    (.make (.send [1]) :: List.replicate 2 (.call 1) ++ [.clock 5000000000])

/-- What that comes to. -/
def pollingDue : Scene Device :=
  (fresh polling { } 0).run Device.transport (pollingStart ++ pollingTurns)

/-- The poller goes on while the frame waits to be written, and leaves its command out. -/
theorem sending_iff_unanswered_polling :
    pollingDue.link.sending = true ∧
      ∀ x ∈ (pollingDue.run Device.transport
          (List.replicate 5 (.loop ⟨0, .poller⟩))).link.sessions[0]?,
        ∃ cycle deadline, x.poller = .settle cycle deadline ∧ cycle.offered = 0 ∧
          cycle.skipped = 1 := by
  have turns : Whole Device.transport ((fresh polling { } 0).run Device.transport pollingStart)
      pollingTurns := by
    refine .loop ⟨0, .poller⟩ 1 (by rintro x ⟨⟩; rfl) ?_
    refine .send [1] 2 rfl (by rintro c ⟨⟩; rfl) ?_
    exact .act _ (by rintro _ ⟨⟩) (by rintro _ ⟨⟩) .nil
  have whole : Whole Device.transport (fresh polling { } 0) (pollingStart ++ pollingTurns) :=
    .prepend (by simp [pollingStart]) (by simp [pollingStart]) turns
  obtain ⟨iff, polls⟩ := sending_iff_unanswered Device.transport polling { } 0 _ whole
    (s := pollingDue) rfl
  have shown : (fresh polling { } 0).signals Device.transport (pollingStart ++ pollingTurns) =
      [.cleared .opening, .marked (.call 1), .accepted (.call 1) 0 [1]] := by
    decide +kernel
  have sending := iff.2
    ⟨[.cleared .opening, .marked (.call 1)], .call 1, 0, [1], [], shown, by simp⟩
  refine ⟨sending, fun x at_0 => ?_⟩
  obtain ⟨-, skips⟩ := polls sending 0 5 _ rfl
  obtain ⟨cycle, deadline, settles⟩ : ∃ cycle deadline, x.poller = .settle cycle deadline := by
    cases at_0
    exact ⟨_, _, rfl⟩
  exact ⟨cycle, deadline, settles, skips _ deadline cycle x rfl at_0 settles⟩

/-! ## One mark for all frames -/

/-- Two frames are sent on a link that gives a frame up after one attempt. -/
def twoSent : List (Action Device) :=
  .make .start :: List.replicate 16 (.call 0) ++ sendAlone 1 [1] ++ sendAlone 2 [2]

/-- The device rejects the first frame, and the writer goes on to its next await. -/
def firstRejected : List (Action Device) :=
  .device { opens := 1, script := [.fail Device.rejected] } ::
    List.replicate 8 (.loop ⟨0, .writer⟩)

/-- A link that gives a frame up clears the mark, though another frame waits to be written. -/
theorem dropped_before_sent :
    let s := (fresh { rehearsed with queueCapacity := 2, retries := 1 } { } 0).run Device.transport
      (twoSent ++ firstRejected)
    s.settled 0 = [[1]] ∧ s.accepted 0 = [[1], [2]] ∧ s.link.sending = false := by
  decide +kernel

/-- A chunk that is read before a frame is written clears the mark. -/
theorem answered_too_early :
    (rehearsal.run Device.transport (sendAnswered 1 [1])).accepted 0 = [[1]] ∧
      (rehearsal.run Device.transport (sendAnswered 1 [1])).wrote 0 = [] ∧
      (rehearsal.run Device.transport (sendAnswered 1 [1])).link.sending = false := by
  decide +kernel

end Scene

end FieldLink
