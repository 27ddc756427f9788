import FieldLink.Link.Event
import FieldLink.Proofs.Transport.Script
import Mathlib.Data.List.Infix
import Mathlib.Logic.Function.Iterate

/-!
# What becomes of frames

What a writer is to make of frames that it takes one after the other, when the writes meet the
outcomes of a script.  A frame is tried until an outcome does not fall short of it, but no more often
than allowed; it is then sent, or dropped, or the device is gone (`Tally.serve`).  Each frame goes on
with the outcomes that the frames before have left.

A `Tally` lists the calls to write, each with the outcome that it met, and the events.  The frames
that are sent are those that were taken in full (`Tally.sent_serveAll`).
-/

namespace FieldLink

/-- The frame that was sent. -/
def LinkEvent.sent? : LinkEvent → Option Frame
  | sent frame => some frame
  | _ => none

namespace WriteOutcome

/-- Whether a frame is to be tried again after a write with this outcome. -/
def fallsShort (frame : Frame) : WriteOutcome → Bool
  | partly count => count < frame.length
  | fail f => f.fault = .transient
  | accept | failFlush _ | stall _ => false

/-- Whether the device is gone after a write with this outcome. -/
def isFatal : WriteOutcome → Bool
  | fail f => f.fault = .fatal
  | accept | partly _ | failFlush _ | stall _ => false

/-- Whether a write with this outcome takes a whole frame. -/
def takesAll (frame : Frame) : WriteOutcome → Bool
  | accept => true
  | partly count => frame.length ≤ count
  | fail _ | failFlush _ | stall _ => false

/-- Whatever ends at once falls short, is fatal, or takes all. -/
theorem takesAll_eq {o : WriteOutcome} (prompt : o.isPrompt) (frame : Frame) :
    o.takesAll frame = (!o.fallsShort frame && !o.isFatal) := by
  cases o with
  | accept => rfl
  | partly count => simp [takesAll, fallsShort, isFatal, ← decide_not]
  | fail f => cases fault : f.fault <;> simp [takesAll, fallsShort, isFatal, fault]
  | failFlush | stall => cases prompt

end WriteOutcome

/-- Which outcome decides on a frame, counted from one: the first that does not fall short of it.
When there is none, the next write decides, which is accepted. -/
def decisive (frame : Frame) (script : List WriteOutcome) : Nat :=
  script.findIdx (!·.fallsShort frame) + 1

/-- What was made of some frames. -/
structure Tally where
  /-- The calls to write, each with the outcome that it met. -/
  calls : List (Frame × WriteOutcome) := []
  events : List LinkEvent := []
  /-- The outcomes that are left. -/
  script : List WriteOutcome
  failed : Bool := false

namespace Tally

/-- The frames that were to be written, call by call. -/
def attempts (t : Tally) : List Frame := t.calls.map Prod.fst

/-- What was taken, call by call. -/
def written (t : Tally) : List Frame := t.calls.filterMap fun c => c.2.taken? c.1

/-- The frames that were taken in full, call by call. -/
def takenInFull (t : Tally) : List Frame := (t.calls.filter fun c => c.2.takesAll c.1).map Prod.fst

/-- The frames that were sent. -/
def sent (t : Tally) : List Frame := t.events.filterMap LinkEvent.sent?

/-- The outcome that the next call meets. -/
def next (t : Tally) : WriteOutcome := t.script.headD .accept

/-- Calls to write a frame. -/
def call (frame : Frame) (t : Tally) : Tally :=
  { t with calls := t.calls ++ [(frame, t.next)], script := t.script.tail }

/-- Makes of a frame what is to be made of it, in at most so many calls. -/
def serve (retries : Nat) (t : Tally) (frame : Frame) : Tally :=
  let count := decisive frame t.script
  if t.failed then t
  else if retries < count then
    { (call frame)^[retries] t with events := t.events ++ [.dropped frame retries] }
  else if t.script[count - 1]?.any (·.isFatal) then { (call frame)^[count] t with failed := true }
  else { (call frame)^[count] t with events := t.events ++ [.sent frame] }

/-- Makes of frames, one after the other, what is to be made of them. -/
def serveAll (retries : Nat) (frames : List Frame) (t : Tally) : Tally :=
  frames.foldl (serve retries) t

variable {retries count : Nat} {frame : Frame} {frames : List Frame} {t : Tally}

/-! ## Calls for one frame -/

theorem attempts_call (frame : Frame) (t : Tally) :
    (t.call frame).attempts = t.attempts ++ [frame] := List.map_append

theorem written_call (frame : Frame) (t : Tally) :
    (t.call frame).written = t.written ++ (t.next.taken? frame).toList := by
  rw [call, written, written, List.filterMap_append]
  cases taken : t.next.taken? frame <;> simp [taken]

theorem takenInFull_call (frame : Frame) (t : Tally) :
    (t.call frame).takenInFull =
      t.takenInFull ++ if t.next.takesAll frame then [frame] else [] := by
  rw [takenInFull, call, List.filter_append, List.map_append, ← takenInFull]
  cases all : t.next.takesAll frame <;> simp [all]

theorem script_calls (frame : Frame) (count : Nat) (t : Tally) :
    ((call frame)^[count] t).script = t.script.drop count := by
  induction count with
  | zero => rfl
  | succ count ih => rw [Function.iterate_succ_apply', call, ih, List.tail_drop]

theorem events_calls (frame : Frame) (count : Nat) (t : Tally) :
    ((call frame)^[count] t).events = t.events := by
  induction count with
  | zero => rfl
  | succ count ih => rw [Function.iterate_succ_apply', call, ih]

theorem failed_calls (frame : Frame) (count : Nat) (t : Tally) :
    ((call frame)^[count] t).failed = t.failed := by
  induction count with
  | zero => rfl
  | succ count ih => rw [Function.iterate_succ_apply', call, ih]

/-- As many calls are made as are counted, each with the whole frame. -/
theorem attempts_calls (frame : Frame) (count : Nat) (t : Tally) :
    ((call frame)^[count] t).attempts = t.attempts ++ List.replicate count frame := by
  induction count with
  | zero => exact (List.append_nil _).symm
  | succ count ih =>
    rw [Function.iterate_succ_apply', attempts_call, ih, List.replicate_succ', List.append_assoc]

theorem calls_prefix {fewer more : Nat} (le : fewer ≤ more) :
    ((call frame)^[fewer] t).calls <+: ((call frame)^[more] t).calls := by
  obtain ⟨rest, rfl⟩ := Nat.exists_eq_add_of_le le
  clear le
  induction rest with
  | zero => exact List.prefix_refl _
  | succ rest ih =>
    rw [← Nat.add_assoc, Function.iterate_succ_apply']
    exact ih.trans (List.prefix_append _ _)

/-- Which outcome the next call meets, when some were made. -/
theorem next_calls (frame : Frame) (count : Nat) (t : Tally) :
    ((call frame)^[count] t).next = t.script[count]?.getD .accept := by
  rw [next, script_calls, List.headD_eq_head?_getD, List.head?_drop]

/-- Before the decisive call all calls fall short, and that one does not. -/
theorem fallsShort_next_iff (early : count < decisive frame t.script) :
    ((call frame)^[count] t).next.fallsShort frame ↔ count + 1 < decisive frame t.script := by
  rw [next_calls]
  unfold decisive at early ⊢
  have bound : t.script.findIdx (!·.fallsShort frame) ≤ t.script.length := List.findIdx_le_length
  by_cases before : count < t.script.findIdx (!·.fallsShort frame)
  · have short := List.not_of_lt_findIdx before
    rw [List.getElem?_eq_getElem (by omega)]
    simp only [Option.getD_some]
    simp at short
    simp [short, before]
  · obtain rfl : count = t.script.findIdx (!·.fallsShort frame) := by omega
    refine ⟨fun short => ?_, by omega⟩
    by_cases within : t.script.findIdx (!·.fallsShort frame) < t.script.length
    · have decides := List.findIdx_getElem (w := within)
      rw [List.getElem?_eq_getElem within, Option.getD_some] at short
      rw [short] at decides
      cases decides
    · rw [List.getElem?_eq_none (by omega)] at short
      cases short

/-! ## One frame -/

theorem serve_of_failed (failed : t.failed) : t.serve retries frame = t := by
  simp [serve, failed]

theorem serve_of_late (unfailed : t.failed = false) (late : retries < decisive frame t.script) :
    t.serve retries frame =
      { (call frame)^[retries] t with events := t.events ++ [.dropped frame retries] } := by
  simp [serve, unfailed, late]

theorem serve_of_fatal (unfailed : t.failed = false) (timely : count < retries)
    (decides : count + 1 = decisive frame t.script)
    (fatal : ((call frame)^[count] t).next.isFatal) :
    t.serve retries frame = { (call frame)^[count + 1] t with failed := true } := by
  have some_fatal : t.script[count]?.any (·.isFatal) := by
    rw [next_calls] at fatal
    cases at_count : t.script[count]? with
    | none => rw [at_count] at fatal; cases fatal
    | some o => rw [at_count] at fatal; exact fatal
  simp only [serve, unfailed, ← decides, Nat.add_sub_cancel, some_fatal]
  simp
  omega

theorem serve_of_timely (unfailed : t.failed = false) (timely : count < retries)
    (decides : count + 1 = decisive frame t.script)
    (mild : ((call frame)^[count] t).next.isFatal = false) :
    t.serve retries frame =
      { (call frame)^[count + 1] t with events := t.events ++ [.sent frame] } := by
  have none_fatal : t.script[count]?.any (·.isFatal) = false := by
    rw [next_calls] at mild
    cases at_count : t.script[count]? with
    | none => rfl
    | some o => rw [at_count] at mild; exact mild
  simp only [serve, unfailed, ← decides, Nat.add_sub_cancel, none_fatal]
  simp
  omega

/-- The next call decides, or all that are allowed fall short. -/
theorem exists_decides_or_late (retries : Nat) (frame : Frame) (t : Tally) :
    (∃ count, count < retries ∧ count + 1 = decisive frame t.script) ∨
      retries < decisive frame t.script := by
  by_cases late : retries < decisive frame t.script
  · exact .inr late
  · refine .inl ⟨decisive frame t.script - 1, ?_, ?_⟩ <;> unfold decisive at late ⊢ <;> omega

/-- What is made of a frame comes behind what was made before, with the calls for the frame. -/
theorem calls_serve_prefix (unfailed : t.failed = false) (left : count ≤ retries)
    (short : count ≤ decisive frame t.script) :
    ((call frame)^[count] t).calls <+: (t.serve retries frame).calls := by
  obtain ⟨first, timely, decides⟩ | late := exists_decides_or_late retries frame t
  · cases mild : ((call frame)^[first] t).next.isFatal with
    | false =>
      rw [serve_of_timely unfailed timely decides mild]
      exact calls_prefix (by omega)
    | true =>
      rw [serve_of_fatal unfailed timely decides mild]
      exact calls_prefix (by omega)
  · rw [serve_of_late unfailed late]
    exact calls_prefix left

/-- How many calls are made for a frame. -/
theorem attempts_serve (unfailed : t.failed = false) :
    (t.serve retries frame).attempts =
      t.attempts ++ List.replicate (min retries (decisive frame t.script)) frame := by
  obtain ⟨first, timely, decides⟩ | late := exists_decides_or_late retries frame t
  · have count : min retries (decisive frame t.script) = first + 1 := by omega
    rw [count, ← attempts_calls]
    cases mild : ((call frame)^[first] t).next.isFatal with
    | false =>
      rw [serve_of_timely unfailed timely decides mild]
      rfl
    | true =>
      rw [serve_of_fatal unfailed timely decides mild]
      rfl
  · have count : min retries (decisive frame t.script) = retries := by omega
    rw [count, ← attempts_calls, serve_of_late unfailed late]
    rfl

theorem events_serve_prefix (retries : Nat) (frame : Frame) (t : Tally) :
    t.events <+: (t.serve retries frame).events := by
  cases unfailed : t.failed with
  | true =>
    rw [serve_of_failed unfailed]
  | false =>
    obtain ⟨first, timely, decides⟩ | late := exists_decides_or_late retries frame t
    · cases mild : ((call frame)^[first] t).next.isFatal with
      | false =>
        rw [serve_of_timely unfailed timely decides mild]
        exact List.prefix_append _ _
      | true =>
        rw [serve_of_fatal unfailed timely decides mild]
        simp only [events_calls]
        exact List.prefix_refl _
    · rw [serve_of_late unfailed late]
      exact List.prefix_append _ _

/-! ## All frames -/

theorem serveAll_concat (retries : Nat) (frames : List Frame) (frame : Frame) (t : Tally) :
    t.serveAll retries (frames ++ [frame]) = (t.serveAll retries frames).serve retries frame := by
  simp [serveAll]

theorem serveAll_append (retries : Nat) (frames more : List Frame) (t : Tally) :
    t.serveAll retries (frames ++ more) = (t.serveAll retries frames).serveAll retries more :=
  List.foldl_append

theorem serveAll_of_failed (failed : t.failed) (frames : List Frame) :
    t.serveAll retries frames = t := by
  induction frames with
  | nil => rfl
  | cons frame frames ih => rw [serveAll, List.foldl_cons, serve_of_failed failed]; exact ih

/-- The calls for a frame follow each other, and those for different frames come in the order of
the frames. -/
theorem attempts_serveAll (retries : Nat) (frames : List Frame) (t : Tally) :
    ∃ counts : List Nat, counts.length = frames.length ∧ (∀ count ∈ counts, count ≤ retries) ∧
      (t.serveAll retries frames).attempts =
        t.attempts ++ (List.zipWith List.replicate counts frames).flatten := by
  induction frames generalizing t with
  | nil => exact ⟨[], rfl, by rintro _ ⟨⟩, (List.append_nil _).symm⟩
  | cons frame frames ih =>
    obtain ⟨count, le, first⟩ : ∃ count ≤ retries,
        (t.serve retries frame).attempts = t.attempts ++ List.replicate count frame := by
      cases unfailed : t.failed with
      | true => exact ⟨0, Nat.zero_le _, by simp [serve_of_failed unfailed]⟩
      | false => exact ⟨_, Nat.min_le_left _ _, attempts_serve unfailed⟩
    obtain ⟨counts, length, bound, rest⟩ := ih (t.serve retries frame)
    refine ⟨count :: counts, by simp [length], ?_, ?_⟩
    · exact List.forall_mem_cons.2 ⟨le, bound⟩
    · rw [List.zipWith_cons_cons, List.flatten_cons, ← List.append_assoc, ← first]
      exact rest

/-! ## What was sent -/

theorem script_serve (retries : Nat) (frame : Frame) (t : Tally) :
    ∃ count, (t.serve retries frame).script = t.script.drop count := by
  cases unfailed : t.failed with
  | true => exact ⟨0, by rw [serve_of_failed unfailed]; rfl⟩
  | false =>
    obtain ⟨first, timely, decides⟩ | late := exists_decides_or_late retries frame t
    · cases mild : ((call frame)^[first] t).next.isFatal with
      | false =>
        exact ⟨first + 1, by rw [serve_of_timely unfailed timely decides mild]; exact script_calls ..⟩
      | true =>
        exact ⟨first + 1, by rw [serve_of_fatal unfailed timely decides mild]; exact script_calls ..⟩
    · exact ⟨retries, by rw [serve_of_late unfailed late]; exact script_calls ..⟩

theorem prompt_next (prompt : ∀ o ∈ t.script, o.isPrompt) (frame : Frame) (count : Nat) :
    ((call frame)^[count] t).next.isPrompt := by
  rw [next_calls]
  cases at_count : t.script[count]? with
  | none => rfl
  | some o => exact prompt o (List.mem_of_getElem? at_count)

/-- No call before the decisive one takes a frame in full. -/
theorem takenInFull_calls (prompt : ∀ o ∈ t.script, o.isPrompt)
    (early : count < decisive frame t.script) :
    ((call frame)^[count] t).takenInFull = t.takenInFull := by
  induction count with
  | zero => rfl
  | succ count ih =>
    have short := (fallsShort_next_iff (Nat.lt_of_succ_lt early)).2 early
    have part : ((call frame)^[count] t).next.takesAll frame = false := by
      rw [WriteOutcome.takesAll_eq (prompt_next prompt frame count), short]
      rfl
    rw [Function.iterate_succ_apply', takenInFull_call, ih (Nat.lt_of_succ_lt early), part]
    exact List.append_nil _

theorem sent_serve (prompt : ∀ o ∈ t.script, o.isPrompt) (agree : t.sent = t.takenInFull) :
    (t.serve retries frame).sent = (t.serve retries frame).takenInFull := by
  cases unfailed : t.failed with
  | true => rwa [serve_of_failed unfailed]
  | false =>
    obtain ⟨first, timely, decides⟩ | late := exists_decides_or_late retries frame t
    · -- the decisive call takes the whole frame, unless the device is gone
      have early : first < decisive frame t.script := by omega
      have decided : ((call frame)^[first] t).next.fallsShort frame = false := by
        rw [← Bool.not_eq_true, fallsShort_next_iff early]
        omega
      have full : ((call frame)^[first + 1] t).takenInFull =
          t.takenInFull ++ if ((call frame)^[first] t).next.isFatal then [] else [frame] := by
        rw [Function.iterate_succ_apply', takenInFull_call, takenInFull_calls prompt early,
          WriteOutcome.takesAll_eq (prompt_next prompt frame first), decided]
        cases ((call frame)^[first] t).next.isFatal <;> rfl
      cases mild : ((call frame)^[first] t).next.isFatal with
      | false =>
        rw [mild, ← agree] at full
        rw [serve_of_timely unfailed timely decides mild]
        refine Eq.trans ?_ full.symm
        simp [sent, LinkEvent.sent?]
      | true =>
        rw [mild, ← agree] at full
        rw [serve_of_fatal unfailed timely decides mild]
        refine Eq.trans ?_ full.symm
        simp only [sent, events_calls]
        exact (List.append_nil _).symm
    · have full := takenInFull_calls prompt late
      rw [← agree] at full
      rw [serve_of_late unfailed late]
      refine Eq.trans ?_ full.symm
      simp [sent, LinkEvent.sent?]

/-- The frames that are sent are those that were taken in full. -/
theorem sent_serveAll (prompt : ∀ o ∈ t.script, o.isPrompt) (agree : t.sent = t.takenInFull)
    (frames : List Frame) :
    (t.serveAll retries frames).sent = (t.serveAll retries frames).takenInFull := by
  induction frames generalizing t with
  | nil => exact agree
  | cons frame frames ih =>
    obtain ⟨count, script⟩ := script_serve retries frame t
    refine ih (fun o member => ?_) (sent_serve prompt agree)
    rw [script] at member
    exact prompt o (List.mem_of_mem_drop member)

end Tally

end FieldLink
