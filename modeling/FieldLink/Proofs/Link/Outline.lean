import FieldLink.Proofs.Link.FrameHandling
import FieldLink.Proofs.Link.Stages

/-!
# Outlines

The outline of a scene is what decides how its sessions begin and end: the state of the link and
the session that accepts frames, for every session whether it is cancelled, which halves of the
transport it holds and the stage of each of its loops, the calls, the events, and the sessions that
were given up.  `Outline.LoopStep` lists what a step of a loop may do to an outline, and
`Outline.CallStep` what a step of a call may do that is not a start.
-/

namespace FieldLink

/-- The session that was given up. -/
def Note.fault? : Note → Option Nat
  | failed session => some session
  | _ => none

/-- What decides how sessions begin and end. -/
structure Outline where
  options : LinkOptions
  state : LinkState
  outbox : Option Nat
  failed : Bool
  liveLoops : Int
  current : Option Nat
  locked : Bool
  sessions : List Standing
  events : List LinkEvent
  calls : List Call
  /-- The sessions that loops have begun to give up. -/
  faults : List Nat

/-- The outline of a link after some calls and faults. -/
def Link.outline {σ : Type} (calls : List Call) (faults : List Nat) (l : Link σ) : Outline where
  options := l.options
  state := l.state
  outbox := l.outbox
  failed := l.failed
  liveLoops := l.liveLoops
  current := l.current
  locked := l.locked
  sessions := l.sessions.map Session.standing
  events := l.events
  calls
  faults

/-- The outline of a scene. -/
def Scene.outline {σ : Type} (s : Scene σ) : Outline :=
  s.link.outline s.calls (s.notes.filterMap Note.fault?)

/-- Whether a call is neither a start nor a close. -/
def Call.isPlain : Call → Bool
  | send _ _ | stopPolling _ => true
  | _ => false

namespace Outline

/-- Changes a session. -/
def update (id : Nat) (f : Standing → Standing) (o : Outline) : Outline :=
  { o with sessions := o.sessions.modify id f }

/-- Takes a loop to a stage. -/
def goTo (p : Place) (stage : Stage) (o : Outline) : Outline :=
  o.update p.session (·.goTo p.loop stage)

/-- Whether a running loop of the session `x` may come to an end with a stage.  A reader or a writer
ends when it is cancelled, and a writer also when no frame can come any more. -/
def Stops (o : Outline) (p : Place) (x : Standing) (stage : Stage) : Prop :=
  match p.loop with
  | .reader | .writer =>
    stage = .failing .mark ∨ stage = .ending ∧ (x.cancelled ∨ o.outbox ≠ some p.session)
  | .poller => stage = .leaving .count ∨ stage = .broken

/-- What a step of a close does to the outline, from a phase to the next. -/
inductive CloseStep (o : Outline) : ClosePhase → ClosePhase → Outline → Prop
  | wait (phase : ClosePhase) : CloseStep o phase phase o
  | stopPolling : CloseStep o .stopPolling .take o
  | takeNone (none : o.current = none) : CloseStep o .take (.done (.ok ())) o
  | take (id : Nat) (current : o.current = some id) :
      CloseStep o .take (.mark id) { o with current := none }
  | mark (id : Nat) :
      CloseStep o (.mark id) (.unplug id)
        { o with state := if o.state = .opened then .closing else o.state }
  | unplug (id : Nat) : CloseStep o (.unplug id) (.cancel id) { o with outbox := none }
  | cancel (id : Nat) :
      CloseStep o (.cancel id) (.join id) (o.update id fun x => { x with cancelled := true })
  | join (id : Nat) (x : Standing) (result : Except LinkError Unit)
      (at_id : o.sessions[id]? = some x) (finished : x.isOver) :
      CloseStep o (.join id) (.judge result) o
  | judge (result : Except LinkError Unit) : CloseStep o (.judge result) (.finish result o.failed) o
  | finish (result : Except LinkError Unit) (fatal : Bool) :
      CloseStep o (.finish result fatal) (.clear result fatal (o.state ≠ .closed))
        { o with state := .closed }
  | clear (result : Except LinkError Unit) (fatal : Bool) :
      CloseStep o (.clear result fatal true) (.report result fatal) o
  | skip (result : Except LinkError Unit) (fatal : Bool) :
      CloseStep o (.clear result fatal false) (.done result) o
  | report (result : Except LinkError Unit) (fatal : Bool) :
      CloseStep o (.report result fatal) (.done result)
        { o with events := o.events ++ [.closed fatal] }

/-- What a step of a call does to the outline, once its starts are over. -/
inductive CallStep (number : Nat) (o : Outline) : Outline → Prop
  | still : CallStep number o o
  | plain (c c' : Call) (at_number : o.calls[number]? = some c) (before : c.isPlain)
      (after : c'.isPlain) : CallStep number o { o with calls := o.calls.set number c' }
  | close (phase phase' : ClosePhase) (o' : Outline)
      (at_number : o.calls[number]? = some (.close phase)) (step : o.CloseStep phase phase' o') :
      CallStep number o { o' with calls := o.calls.set number (.close phase') }

/-- What a step of the loop at `p` does to the outline. -/
inductive LoopStep (p : Place) (o : Outline) : Outline → Prop
  | still : LoopStep p o o
  | work (x : Standing) (event : LinkEvent) (at_id : o.sessions[p.session]? = some x)
      (at_stage : x.stage p.loop = .running) (traffic : event.isTraffic) :
      LoopStep p o { o with events := o.events ++ [event] }
  | stop (x : Standing) (stage : Stage) (at_id : o.sessions[p.session]? = some x)
      (at_stage : x.stage p.loop = .running) (stops : o.Stops p x stage) :
      LoopStep p o (o.goTo p stage)
  | mark (x : Standing) (at_id : o.sessions[p.session]? = some x)
      (at_stage : x.stage p.loop = .failing .mark) :
      LoopStep p o
        { o.goTo p (.failing .close) with failed := true, faults := o.faults ++ [p.session] }
  | close (x : Standing) (at_id : o.sessions[p.session]? = some x)
      (at_stage : x.stage p.loop = .failing .close) :
      LoopStep p o
        { o.goTo p (.failing .unplug) with
          state := if o.state = .opened then .closing else o.state }
  | unplug (x : Standing) (at_id : o.sessions[p.session]? = some x)
      (at_stage : x.stage p.loop = .failing .unplug) :
      LoopStep p o { o.goTo p (.failing .cancel) with outbox := none }
  | cancel (x : Standing) (at_id : o.sessions[p.session]? = some x)
      (at_stage : x.stage p.loop = .failing .cancel) :
      LoopStep p o
        (o.update p.session fun x => { x with cancelled := true }.goTo p.loop .ending)
  | release (x : Standing) (at_id : o.sessions[p.session]? = some x)
      (at_stage : x.stage p.loop = .ending) :
      LoopStep p o (o.update p.session fun x => (x.drop p.loop).goTo p.loop (.leaving .count))
  | count (x : Standing) (at_id : o.sessions[p.session]? = some x)
      (at_stage : x.stage p.loop = .leaving .count) :
      LoopStep p o
        { o.goTo p (if o.liveLoops = 1 then .leaving .judge else .gone) with
          liveLoops := o.liveLoops - 1 }
  | judge (x : Standing) (at_id : o.sessions[p.session]? = some x)
      (at_stage : x.stage p.loop = .leaving .judge) :
      LoopStep p o (o.goTo p (if o.failed then .leaving .finish else .gone))
  | finish (x : Standing) (at_id : o.sessions[p.session]? = some x)
      (at_stage : x.stage p.loop = .leaving .finish) (closing : o.state = .closing) :
      LoopStep p o { o.goTo p (.leaving .report) with state := .closed }
  | pass (x : Standing) (at_id : o.sessions[p.session]? = some x)
      (at_stage : x.stage p.loop = .leaving .finish) (closed : o.state ≠ .closing) :
      LoopStep p o (o.goTo p .gone)
  | report (x : Standing) (at_id : o.sessions[p.session]? = some x)
      (at_stage : x.stage p.loop = .leaving .report) :
      LoopStep p o { o.goTo p .gone with events := o.events ++ [.closed true] }

theorem update_of_eq {id : Nat} {f : Standing → Standing} {o : Outline} {x : Standing}
    (at_id : o.sessions[id]? = some x) (same : f x = x) : o.update id f = o :=
  congrArg (fun sessions => { o with sessions }) (modify_of_eq at_id same)

theorem update_update (id : Nat) (f g : Standing → Standing) (o : Outline) :
    (o.update id f).update id g = o.update id (g ∘ f) :=
  congrArg (fun sessions => { o with sessions }) (List.modify_modify_eq f g id o.sessions)

theorem goTo_of_eq {p : Place} {o : Outline} {x : Standing} {stage : Stage}
    (at_id : o.sessions[p.session]? = some x) (at_stage : x.stage p.loop = stage) :
    o.goTo p stage = o := by
  have same : x.goTo p.loop stage = x := by
    subst at_stage
    cases p.loop <;> rfl
  exact update_of_eq at_id same

/-- A loop may stay at its stage. -/
theorem LoopStep.stay {p : Place} {o : Outline} {x : Standing} {stage : Stage}
    (at_id : o.sessions[p.session]? = some x) (at_stage : x.stage p.loop = stage) :
    LoopStep p o (o.goTo p stage) := by
  rw [goTo_of_eq at_id at_stage]
  exact .still

/-- A running loop may report an event and go on. -/
theorem LoopStep.emit {p : Place} {o : Outline} {x : Standing} {event : LinkEvent}
    (at_id : o.sessions[p.session]? = some x) (at_stage : x.stage p.loop = .running)
    (traffic : event.isTraffic) :
    LoopStep p o ({ o with events := o.events ++ [event] }.goTo p .running) := by
  rw [goTo_of_eq (o := { o with events := o.events ++ [event] }) at_id at_stage]
  exact .work x event at_id at_stage traffic

variable {o o' : Outline}

/-- What no loop and no close changes. -/
theorem LoopStep.same {p : Place} (step : o.LoopStep p o') :
    o'.options = o.options ∧ o'.locked = o.locked ∧ o'.calls = o.calls := by
  cases step <;> exact ⟨rfl, rfl, rfl⟩

theorem LoopStep.events {p : Place} (step : o.LoopStep p o') : o.events <+: o'.events := by
  cases step with
  | work | report => exact List.prefix_append _ _
  | _ => exact List.prefix_refl _

theorem CallStep.same {number : Nat} (step : o.CallStep number o') :
    o'.options = o.options ∧ o'.locked = o.locked := by
  cases step with
  | still | plain => exact ⟨rfl, rfl⟩
  | close phase phase' o' at_number step => cases step <;> exact ⟨rfl, rfl⟩

theorem CallStep.events {number : Nat} (step : o.CallStep number o') : o.events <+: o'.events := by
  cases step with
  | still | plain => exact List.prefix_refl _
  | close phase phase' o' at_number step =>
    cases step with
    | report => exact List.prefix_append _ _
    | _ => exact List.prefix_refl _

end Outline

end FieldLink
