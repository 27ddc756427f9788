import FieldLink.Proofs.Transport.Queue

/-!
# Writes that follow a script

What a device in memory makes of writes that end at once, as they do while the scripts hold nothing
but acceptances, counts of bytes and failures (`Device.Prompt`).  Each takes the outcome at the front
of the script, or is accepted beyond it, and the outcome says what is taken of the frame, what the
write is answered, and whether the frame is read back (`Device.Prompt.write_eq`).

A device keeps four lists: the script, the frames that were to be written, the bytes that were taken,
and what there is to read.  However writes, scripts and settings of the loopback follow each other,
the four go on in step with the calls to write (`Device.writes_after_uses`).
-/

namespace FieldLink

/-! ## Outcomes -/

namespace WriteOutcome

/-- Whether a write ends at once, and the flush after it does not fail. -/
def isPrompt : WriteOutcome → Bool
  | accept | partly _ | fail _ => true
  | failFlush _ | stall _ => false

/-- What a write with this outcome takes of a frame. -/
def taken? (frame : Frame) : WriteOutcome → Option Frame
  | accept | failFlush _ => some frame
  | partly count => some (frame.take count)
  | fail _ | stall _ => none

/-- What a write with this outcome is answered. -/
def answer (frame : Frame) : WriteOutcome → Answer Nat
  | partly count => .done (min count frame.length)
  | fail f => .failed f
  | accept | failFlush _ | stall _ => .done frame.length

/-- A write that ends at once counts what it takes, or fails and takes nothing. -/
theorem answer_of_isPrompt {o : WriteOutcome} (prompt : o.isPrompt) (frame : Frame) :
    (∃ bytes, o.taken? frame = some bytes ∧ o.answer frame = .done bytes.length) ∨
      ∃ f, o = .fail f ∧ o.taken? frame = none ∧ o.answer frame = .failed f := by
  cases o with
  | accept => exact .inl ⟨frame, rfl, rfl⟩
  | partly count => exact .inl ⟨frame.take count, rfl, by rw [List.length_take]; rfl⟩
  | fail f => exact .inr ⟨f, rfl, rfl, rfl⟩
  | failFlush | stall => cases prompt

end WriteOutcome

namespace Device

variable {d d' d'' : Device}

/-! ## Devices that answer at once -/

/-- All writes end at once, and no flush fails. -/
structure Prompt (d : Device) : Prop where
  script : ∀ o ∈ d.script, o.isPrompt
  ready : d.stalledUntil = 0
  clean : d.flushFailure = none
  verdict : d.verdict = none

namespace Prompt

theorem of_alike (prompt : d.Prompt) (alike : d.Alike d') : d'.Prompt where
  script := alike.script ▸ prompt.script
  ready := alike.stalledUntil.elim (·.trans prompt.ready) id
  clean := alike.flushFailure.elim (·.trans prompt.clean) id
  verdict := alike.verdict.trans prompt.verdict

theorem flush (prompt : d.Prompt) : d.flush = (.done (), d) := by
  simp [Device.flush, prompt.clean]

/-- The next outcome of the script is a prompt one, as is acceptance beyond it. -/
theorem isPrompt_headD (prompt : d.Prompt) : (d.script.headD .accept).isPrompt := by
  cases script : d.script with
  | nil => rfl
  | cons o rest => exact prompt.script o (by simp [script])

/-- A write takes the next outcome off the script, which says the rest. -/
theorem write_eq (prompt : d.Prompt) (frame : Frame) (now : Nat) :
    d.write frame now =
      ((d.script.headD .accept).answer frame,
        { d with
          script := d.script.tail
          attempts := d.attempts ++ [frame]
          written := d.written ++ ((d.script.headD .accept).taken? frame).toList
          reads := d.reads ++
            if d.loopback && (d.script.headD .accept).accepts then [.data frame] else [] }) := by
  have free : d.stallEnd? now = none := by simp [stallEnd?, prompt.ready]
  have able := prompt.isPrompt_headD
  have all (noted : Device) : noted.takeAll frame =
      { noted with
        written := noted.written ++ [frame]
        reads := noted.reads ++ if noted.loopback && true then [.data frame] else [] } := by
    rw [takeAll]
    cases noted.loopback <;> simp
  simp only [Device.write, free]
  cases script : d.script with
  | nil => exact congrArg (Prod.mk _) (all _)
  | cons o rest =>
    rw [script] at able
    cases o with
    | accept => exact congrArg (Prod.mk _) (all _)
    | partly count => simp [follow, WriteOutcome.answer, WriteOutcome.taken?, WriteOutcome.accepts]
    | fail f => simp [follow, WriteOutcome.answer, WriteOutcome.taken?, WriteOutcome.accepts]
    | failFlush | stall => cases able

/-- A write meets the next outcome of the script. -/
theorem write (prompt : d.Prompt) (frame : Frame) (now : Nat) :
    (d.write frame now).1 = (d.script.headD .accept).answer frame ∧
      (d.write frame now).2.attempts = d.attempts ++ [frame] ∧
      (d.write frame now).2.written =
        d.written ++ ((d.script.headD .accept).taken? frame).toList ∧
      (d.write frame now).2.script = d.script.tail ∧ (d.write frame now).2.Prompt := by
  rw [prompt.write_eq frame now]
  have later : ∀ o ∈ d.script.tail, o.isPrompt := fun o member =>
    prompt.script o (List.mem_of_mem_tail member)
  exact ⟨rfl, rfl, rfl, rfl, ⟨later, prompt.ready, prompt.clean, prompt.verdict⟩⟩

end Prompt

/-! ## Calls to write -/

/-- A call to write: what it met, and what it was answered. -/
structure WriteCall where
  frame : Frame
  /-- The outcome at the front of the script, if there was one. -/
  scripted : Option WriteOutcome
  /-- Whether accepted writes were read back. -/
  loopback : Bool
  answer : Answer Nat
  deriving DecidableEq

namespace WriteCall

/-- The outcome of a call.  Beyond the script a write is accepted. -/
def outcome (call : WriteCall) : WriteOutcome := call.scripted.getD .accept

/-- What a call takes of its frame. -/
def taken? (call : WriteCall) : Option Frame := call.outcome.taken? call.frame

/-- What a call puts behind the queue. -/
def echo (call : WriteCall) : List ReadEvent :=
  if call.loopback && call.outcome.accepts then [.data call.frame] else []

/-- A call is answered as its outcome says. -/
structure Settled (call : WriteCall) : Prop where
  /-- It counts what it takes, or fails as scripted and takes nothing. -/
  counted : (∃ bytes, call.taken? = some bytes ∧ call.answer = .done bytes.length) ∨
    ∃ f, call.scripted = some (.fail f) ∧ call.taken? = none ∧ call.answer = .failed f
  /-- Beyond the script it takes the whole frame. -/
  accepted : call.scripted = none →
    call.taken? = some call.frame ∧ call.answer = .done call.frame.length

end WriteCall

/-- The call to write a frame. -/
def writeCall (frame : Frame) (now : Nat) (d : Device) : WriteCall :=
  ⟨frame, d.script.head?, d.loopback, (d.write frame now).1⟩

theorem outcome_writeCall (frame : Frame) (now : Nat) (d : Device) :
    (d.writeCall frame now).outcome = d.script.headD .accept := (List.headD_eq_head?_getD ..).symm

theorem Prompt.settled_writeCall (prompt : d.Prompt) (frame : Frame) (now : Nat) :
    (d.writeCall frame now).Settled := by
  have answer : (d.writeCall frame now).answer =
      (d.writeCall frame now).outcome.answer frame := by
    rw [outcome_writeCall]
    exact (prompt.write frame now).1
  have able : (d.writeCall frame now).outcome.isPrompt := by
    rw [outcome_writeCall]
    exact prompt.isPrompt_headD
  constructor
  · rcases WriteOutcome.answer_of_isPrompt able frame with
      ⟨bytes, taken, counts⟩ | ⟨f, fails, nothing, failed⟩
    · exact .inl ⟨bytes, taken, answer.trans counts⟩
    · refine .inr ⟨f, ?_, nothing, answer.trans failed⟩
      rw [WriteCall.outcome] at fails
      cases scripted : (d.writeCall frame now).scripted with
      | none => rw [scripted] at fails; cases fails
      | some o => rw [scripted] at fails; exact congrArg some fails
  · intro beyond
    have accepted : (d.writeCall frame now).outcome = .accept := by
      rw [WriteCall.outcome, beyond]
      rfl
    rw [answer, WriteCall.taken?, accepted]
    exact ⟨rfl, rfl⟩

namespace Use

/-- The call to write that a use is. -/
def writeCall? (d : Device) : Use → Option WriteCall
  | write frame now => some (d.writeCall frame now)
  | _ => none

/-- The frame that a use is to write. -/
def frame? : Use → Option Frame
  | write frame _ => some frame
  | _ => none

/-- The outcomes that a use adds to the script. -/
def outcomes : Use → List WriteOutcome
  | script outcomes => outcomes
  | _ => []

/-- What a use sets the loopback to. -/
def loopback? : Use → Option Bool
  | setLoopback loopback => some loopback
  | _ => none

/-- Whether a use adds no outcome but prompt ones. -/
def isPrompt (use : Use) : Bool := use.outcomes.all (·.isPrompt)

/-- Whether a use reads, or puts something there to be read itself. -/
def servesReads : Use → Bool
  | inject _ | read _ => true
  | _ => false

end Use

/-- The calls to write among some uses. -/
def writeCalls : List Use → Device → List WriteCall
  | [], _ => []
  | use :: uses, d => (use.writeCall? d).toList ++ writeCalls uses (use.act d)

/-- A device becomes another by uses among which are the calls to write. -/
structure Follows (d : Device) (uses : List Use) (calls : List WriteCall) (d' : Device) :
    Prop where
  /-- The outcomes that the calls took off the script, and those that are left, are all that ever
  were in it. -/
  script : calls.filterMap WriteCall.scripted ++ d'.script = d.script ++ uses.flatMap Use.outcomes
  frames : calls.map WriteCall.frame = uses.filterMap Use.frame?
  attempts : d'.attempts = d.attempts ++ uses.filterMap Use.frame?
  written : d'.written = d.written ++ calls.filterMap WriteCall.taken?
  settled : ∀ call ∈ calls, call.Settled
  /-- The loopback is as it was set last. -/
  loopback : d'.loopback = (uses.filterMap Use.loopback?).getLast?.getD d.loopback
  reads : (∀ use ∈ uses, use.servesReads = false) →
    d'.reads = d.reads ++ calls.flatMap WriteCall.echo
  prompt : d'.Prompt

namespace Follows

variable {uses uses' : List Use} {calls calls' : List WriteCall}

theorem refl (prompt : d.Prompt) : d.Follows [] [] d where
  script := (List.append_nil _).symm
  frames := rfl
  attempts := (List.append_nil _).symm
  written := (List.append_nil _).symm
  settled := by rintro _ ⟨⟩
  loopback := rfl
  reads _ := (List.append_nil _).symm
  prompt := prompt

theorem append (first : d.Follows uses calls d') (later : d'.Follows uses' calls' d'') :
    d.Follows (uses ++ uses') (calls ++ calls') d'' where
  -- the later uses begin with the script that the first ones have left
  script := by
    rw [List.filterMap_append, List.append_assoc, later.script, ← List.append_assoc, first.script,
      List.append_assoc, ← List.flatMap_append]
  frames := by rw [List.map_append, List.filterMap_append, first.frames, later.frames]
  attempts := by
    rw [List.filterMap_append, later.attempts, first.attempts, List.append_assoc]
  written := by
    rw [List.filterMap_append, later.written, first.written, List.append_assoc]
  settled call member :=
    (List.mem_append.1 member).elim (first.settled call) (later.settled call)
  loopback := by
    rw [List.filterMap_append, List.getLast?_append, Option.getD_or, later.loopback, first.loopback]
  reads still := by
    have before : ∀ use ∈ uses, use.servesReads = false := fun use member =>
      still use (List.mem_append_left _ member)
    have after : ∀ use ∈ uses', use.servesReads = false := fun use member =>
      still use (List.mem_append_right _ member)
    rw [List.flatMap_append, later.reads after, first.reads before, List.append_assoc]
  prompt := later.prompt

/-- A use that is no call to write may only add to the script, set the loopback, or serve reads. -/
theorem of_use {use : Use} (uncalled : use.frame? = none)
    (script : d'.script = d.script ++ use.outcomes) (attempts : d'.attempts = d.attempts)
    (written : d'.written = d.written) (loopback : d'.loopback = use.loopback?.getD d.loopback)
    (reads : use.servesReads = false → d'.reads = d.reads) (prompt : d'.Prompt) :
    d.Follows [use] [] d' where
  script := by rw [List.flatMap_singleton, script]; rfl
  frames := by rw [List.filterMap_cons_none uncalled]; rfl
  attempts := by rw [List.filterMap_cons_none uncalled, attempts]; exact (List.append_nil _).symm
  written := by rw [written]; exact (List.append_nil _).symm
  settled := by rintro _ ⟨⟩
  loopback := by
    rw [loopback]
    cases set : use.loopback? with
    | none => rw [List.filterMap_cons_none set]; rfl
    | some => rw [List.filterMap_cons_some set]; rfl
  reads still := by
    rw [reads (still use List.mem_cons_self)]
    exact (List.append_nil _).symm
  prompt := prompt

theorem of_alike (prompt : d.Prompt) (alike : d.Alike d') {use : Use}
    (uncalled : use.frame? = none) (unscripted : use.outcomes = [])
    (unset : use.loopback? = none) : d.Follows [use] [] d' :=
  .of_use uncalled (by rw [alike.script, unscripted, List.append_nil]) alike.attempts alike.written
    (by rw [alike.loopback, unset]; rfl) (fun _ => alike.reads) (prompt.of_alike alike)

/-- A call to write takes the front of the script, and its outcome says the rest. -/
theorem of_write (prompt : d.Prompt) (frame : Frame) (now : Nat) :
    d.Follows [.write frame now] [d.writeCall frame now] (d.write frame now).2 := by
  obtain ⟨-, attempts, written, script, prompt'⟩ := prompt.write frame now
  have outcome := d.outcome_writeCall frame now
  have taken : (d.writeCall frame now).taken? = (d.script.headD .accept).taken? frame := by
    rw [WriteCall.taken?, outcome]
    rfl
  have scripted : (d.writeCall frame now).scripted = d.script.head? := rfl
  refine ⟨?_, rfl, attempts, ?_, ?_, ?_, fun _ => ?_, prompt'⟩
  · rw [script]
    cases front : d.script with
    | nil => rw [List.filterMap_cons_none (scripted.trans (congrArg _ front))]; rfl
    | cons o rest =>
      rw [List.filterMap_cons_some (scripted.trans (congrArg _ front))]
      exact (List.append_nil _).symm
  · rw [written, ← taken]
    cases some_bytes : (d.writeCall frame now).taken? <;> simp [some_bytes]
  · rintro call member
    obtain rfl := List.mem_singleton.1 member
    exact prompt.settled_writeCall frame now
  · rw [prompt.write_eq frame now]
    rfl
  · rw [prompt.write_eq frame now, List.flatMap_singleton, WriteCall.echo, outcome]
    rfl

end Follows

/-- One use of a device that answers at once. -/
theorem Prompt.follows (prompt : d.Prompt) {use : Use} (able : use.isPrompt) :
    d.Follows [use] (use.writeCall? d).toList (use.act d) := by
  have same {d' : Device} (script : d'.script = d.script) : d'.script = d.script ++ [] := by
    rw [script, List.append_nil]
  cases use with
  | write frame now => exact .of_write prompt frame now
  | script outcomes =>
    have added : ∀ o ∈ d.script ++ outcomes, o.isPrompt := fun o member =>
      (List.mem_append.1 member).elim (prompt.script o) (List.all_eq_true.1 able o)
    exact .of_use rfl rfl rfl rfl rfl (fun _ => rfl)
      ⟨added, prompt.ready, prompt.clean, prompt.verdict⟩
  | inject event =>
    exact .of_use rfl (same rfl) rfl rfl rfl (by rintro ⟨⟩)
      ⟨prompt.script, prompt.ready, prompt.clean, prompt.verdict⟩
  | setLoopback loopback =>
    exact .of_use rfl (same rfl) rfl rfl rfl (fun _ => rfl)
      ⟨prompt.script, prompt.ready, prompt.clean, prompt.verdict⟩
  | read room =>
    obtain ⟨reads, read⟩ := d.read_eq room
    show d.Follows _ [] (d.read room).2
    rw [read]
    exact .of_use rfl (same rfl) rfl rfl rfl (by rintro ⟨⟩)
      ⟨prompt.script, prompt.ready, prompt.clean, prompt.verdict⟩
  | setRefusing | openWith | flush | shutdown | release =>
    exact .of_alike prompt (alike_act rfl) rfl rfl rfl

/-- Any uses of a device that answers at once. -/
theorem Prompt.follows_uses (prompt : d.Prompt) {uses : List Use}
    (able : ∀ use ∈ uses, use.isPrompt) : d.Follows uses (d.writeCalls uses) (d.use uses) := by
  induction uses generalizing d with
  | nil => exact .refl prompt
  | cons use uses ih =>
    have first := prompt.follows (able use List.mem_cons_self)
    exact first.append (ih first.prompt fun use member => able use (List.mem_cons_of_mem _ member))

/-- A device that answers at once is used in any way; `calls` are the calls to write among the uses,
each with what it met.

* The outcomes that calls found at the front of the script, and those that are left, are all that ever
  were in the script, in order.
* Each call is noted, and what it takes of its frame: all of it if it is accepted, as it is beyond the
  script, so many bytes if the outcome says so, and nothing if it fails.  It is answered with the count
  of what it took, or with the failure.
* If nobody reads and nothing else is put there to be read, what there is to read grows by the frames
  that were accepted while the loopback was on, which is as it was set last. -/
theorem writes_after_uses (prompt : d.Prompt) {uses : List Use}
    (able : ∀ use ∈ uses, use.isPrompt) :
    let calls := d.writeCalls uses
    let d' := d.use uses
    calls.filterMap WriteCall.scripted ++ d'.script = d.script ++ uses.flatMap Use.outcomes ∧
    calls.map WriteCall.frame = uses.filterMap Use.frame? ∧
    d'.attempts = d.attempts ++ uses.filterMap Use.frame? ∧
    d'.written = d.written ++ calls.filterMap WriteCall.taken? ∧
    (∀ call ∈ calls, call.Settled) ∧
    d'.loopback = (uses.filterMap Use.loopback?).getLast?.getD d.loopback ∧
    ((∀ use ∈ uses, use.servesReads = false) →
      d'.reads = d.reads ++ calls.flatMap WriteCall.echo) := by
  intro calls d'
  have follows : d.Follows uses calls d' := prompt.follows_uses able
  exact ⟨follows.script, follows.frames, follows.attempts, follows.written, follows.settled,
    follows.loopback, follows.reads⟩

/-- The script is added to halfway, and the loopback is on for two of the six writes, of which the
first is taken in part. -/
theorem writes_after_uses_mixed :
    let uses : List Use := [.script [.fail rejected, .partly 2], .write [1] 0, .setLoopback true,
      .write [2, 3, 4] 0, .script [.accept, .fail vanished, .partly 9], .write [5, 6] 0,
      .setLoopback false, .write [7] 0, .write [8, 9] 0, .write [10] 0]
    let d := ({ } : Device).use uses
    ({ } : Device).Prompt ∧ (∀ use ∈ uses, use.isPrompt) ∧
      (∀ use ∈ uses, use.servesReads = false) ∧
      d.script = [] ∧ d.attempts = [[1], [2, 3, 4], [5, 6], [7], [8, 9], [10]] ∧
      d.written = [[2, 3], [5, 6], [8, 9], [10]] ∧ d.reads = [.data [5, 6]] := by
  intro uses d
  have prompt : ({ } : Device).Prompt := ⟨by rintro _ ⟨⟩, rfl, rfl, rfl⟩
  have able : ∀ use ∈ uses, use.isPrompt := by decide
  have still : ∀ use ∈ uses, use.servesReads = false := by decide
  obtain ⟨script, -, attempts, written, -, -, reads⟩ := writes_after_uses prompt able
  exact ⟨prompt, able, still, List.append_right_eq_self.1 script, attempts, written, reads still⟩

end Device

end FieldLink
