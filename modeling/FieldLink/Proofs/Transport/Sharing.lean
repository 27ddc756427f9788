import FieldLink.Proofs.Transport.Uses
import Mathlib.Data.List.DropRight
import Mathlib.Data.List.Induction

/-!
# A device that transports share

A device in memory may be opened again while earlier transports on it are still there.  Of all of
them it keeps a count of the openings, and one mark that says whether it is closed.

A `SharedDevice` numbers the transports as they are opened, and notes when one is opened, shut down
or dropped.  The count is that of the openings that succeeded, and the mark says that the transport
opened last has been shut down or dropped, or that an earlier one has been since
(`SharedDevice.closed_after_uses`).
-/

namespace FieldLink

/-- What becomes of the transports on a device. -/
inductive TransportNote where
  | opened
  | shut (number : Nat)
  | dropped (number : Nat)
  deriving DecidableEq, Repr

/-- The transport that a note puts an end to. -/
def TransportNote.ended? : TransportNote → Option Nat
  | opened => none
  | shut number | dropped number => some number

namespace Device.Use

variable {d : Device}

/-- Whether a use is made by a transport on the device. -/
def isCall : Use → Bool
  | read _ | write _ _ | flush | shutdown _ | release => true
  | script _ | inject _ | setLoopback _ | setRefusing _ | openWith _ => false

/-- What a use makes of the transports, if the one with a number makes it. -/
def note? (number : Nat) (d : Device) : Use → Option TransportNote
  | openWith options =>
    match d.openWith options with
    | .ok _ => some .opened
    | .error _ => none
  | shutdown _ => some (.shut number)
  | release => some (.dropped number)
  | _ => none

/-- The count and the mark of a device go by the notes, if its shutdowns succeed. -/
theorem opening_act (yields : d.shutdownOutcome = .succeed) (number : Nat) (use : Use) :
    (use.act d).opens = d.opens + (use.note? number d).toList.count .opened ∧
    (use.act d).closed = (use.note? number d).elim d.closed (·.ended?.isSome) ∧
    (use.act d).shutdownOutcome = .succeed := by
  cases use with
  | read room =>
    obtain ⟨reads, read⟩ := d.read_eq room
    simp only [act, read]
    exact ⟨rfl, rfl, yields⟩
  | write frame now =>
    obtain ⟨_, _, _, _, _, _, write⟩ := d.exists_write_eq frame now
    simp only [act, write]
    exact ⟨rfl, rfl, yields⟩
  | openWith options =>
    simp only [act, note?, Device.openWith]
    cases d.refusing with
    | true => exact ⟨rfl, rfl, yields⟩
    | false => exact ⟨rfl, rfl, yields⟩
  | flush =>
    simp only [act, note?, Device.flush]
    cases d.flushFailure with
    | none => exact ⟨rfl, rfl, yields⟩
    | some f => exact ⟨rfl, rfl, yields⟩
  | shutdown now =>
    simp only [act, note?, Device.shutdown, yields]
    exact ⟨rfl, rfl, trivial⟩
  | script | inject | setLoopback | setRefusing | release => exact ⟨rfl, rfl, yields⟩

/-- A use puts an end to no transport but the one that makes it. -/
theorem ended_of_note? {use : Use} {number ended : Nat} {note : TransportNote}
    (noted : use.note? number d = some note) (ends : note.ended? = some ended) :
    use.isCall ∧ ended = number := by
  cases use with
  | shutdown | release =>
    obtain rfl := Option.some.inj noted
    exact ⟨rfl, (Option.some.inj ends).symm⟩
  | openWith options =>
    simp only [note?] at noted
    split at noted
    · obtain rfl := Option.some.inj noted
      cases ends
    · cases noted
  | _ => cases noted

end Device.Use

/-- A device with any number of transports on it. -/
structure SharedDevice where
  device : Device := { }
  /-- What became of the transports so far, in order. -/
  notes : List TransportNote := []

namespace SharedDevice

variable {s : SharedDevice}

/-- How many transports there have been.  They are numbered from zero. -/
def opened (s : SharedDevice) : Nat := s.notes.count .opened

/-- Whether a transport is there. -/
def isAlive (s : SharedDevice) (number : Nat) : Bool :=
  number < s.opened && .dropped number ∉ s.notes

/-- The device changes, and a note is made. -/
def noting (s : SharedDevice) (device : Device) (note : TransportNote) : SharedDevice :=
  ⟨device, s.notes ++ [note]⟩

/-- A use of the device.  A call of a transport that is not there is none. -/
def act (s : SharedDevice) (number : Nat) (use : Device.Use) : SharedDevice :=
  if use.isCall && !s.isAlive number then s
  else match use.note? number s.device with
    | none => { s with device := use.act s.device }
    | some note => s.noting (use.act s.device) note

/-- A new device after some uses, each with the number of the transport that makes it, if one
does. -/
def run (uses : List (Nat × Device.Use)) : SharedDevice :=
  uses.foldl (fun s use => s.act use.1 use.2) { }

/-- A transport has been shut down or dropped. -/
def HasEnded (s : SharedDevice) (number : Nat) : Prop :=
  ∃ note ∈ s.notes, note.ended? = some number

/-- The notes since the last opening. -/
def recent (s : SharedDevice) : List TransportNote := s.notes.rtakeWhile (·.ended?.isSome)

/-- Since the last transport was opened, an earlier one has been shut down or dropped. -/
def Lingered (s : SharedDevice) : Prop :=
  ∃ note ∈ s.recent, ∃ number, note.ended? = some number ∧ number + 1 < s.opened

/-! ## One note more -/

variable {d : Device} {note : TransportNote} {number : Nat}

theorem opened_noting_opened : (s.noting d .opened).opened = s.opened + 1 := List.count_append

theorem opened_noting_ended (ended : note.ended? = some number) :
    (s.noting d note).opened = s.opened := by
  have other : note ≠ .opened := by
    rintro rfl
    cases ended
  rw [opened, noting, List.count_append, List.count_singleton, beq_false_of_ne other]
  rfl

theorem recent_noting_opened : (s.noting d .opened).recent = [] :=
  List.rtakeWhile_concat_neg _ _ _ (by decide)

theorem recent_noting_ended (ended : note.ended? = some number) :
    (s.noting d note).recent = s.recent ++ [note] :=
  List.rtakeWhile_concat_pos _ _ _ (by rw [ended]; rfl)

theorem exists_ended_of_mem_recent (member : note ∈ s.recent) :
    ∃ number, note.ended? = some number := by
  have ends : note.ended?.isSome :=
    List.mem_rtakeWhile_imp (p := fun note : TransportNote => note.ended?.isSome) member
  exact Option.isSome_iff_exists.1 ends

/-! ## What the device tells -/

/-- The count and the mark of the device tell of its transports. -/
structure Told (s : SharedDevice) : Prop where
  yields : s.device.shutdownOutcome = .succeed
  opens : s.device.opens = s.opened
  closed : s.device.closed = true ↔ s.recent ≠ []
  /-- Only transports that were opened come to an end. -/
  numbered : ∀ note ∈ s.notes, ∀ number, note.ended? = some number → number < s.opened
  /-- What ends the last transport comes after its opening. -/
  lately : ∀ note ∈ s.notes, ∀ number, note.ended? = some number → s.opened = number + 1 →
    note ∈ s.recent

namespace Told

theorem noting_opened (told : s.Told) (yields : d.shutdownOutcome = .succeed)
    (opens : d.opens = s.device.opens + 1) (closed : d.closed = false) :
    (s.noting d .opened).Told := by
  have opened : (s.noting d .opened).opened = s.opened + 1 := opened_noting_opened
  -- the new note ends no transport, and those that the others end have smaller numbers
  have earlier : ∀ note ∈ (s.noting d .opened).notes, ∀ number, note.ended? = some number →
      number < s.opened := by
    intro note member number ended
    rcases List.mem_append.1 member with before | last
    · exact told.numbered note before number ended
    · obtain rfl := List.mem_singleton.1 last
      cases ended
  refine ⟨yields, by rw [opened]; exact opens.trans (congrArg (· + 1) told.opens), ?_, ?_, ?_⟩
  · rw [recent_noting_opened]
    exact iff_of_false (by rw [noting, closed]; exact Bool.false_ne_true) (· rfl)
  · intro note member number ended
    rw [opened]
    exact Nat.lt_succ_of_lt (earlier note member number ended)
  · intro note member number ended last
    have := earlier note member number ended
    omega

theorem noting_ended (told : s.Told) (ended : note.ended? = some number)
    (known : number < s.opened) (yields : d.shutdownOutcome = .succeed)
    (opens : d.opens = s.device.opens) (closed : d.closed = true) : (s.noting d note).Told := by
  have opened : (s.noting d note).opened = s.opened := opened_noting_ended ended
  have recent : (s.noting d note).recent = s.recent ++ [note] := recent_noting_ended ended
  refine ⟨yields, by rw [opened]; exact opens.trans told.opens, ?_, ?_, ?_⟩
  · rw [recent]
    exact iff_of_true closed (List.append_ne_nil_of_right_ne_nil _ (List.cons_ne_nil _ _))
  · intro other member number' ended'
    rw [opened]
    rcases List.mem_append.1 member with before | last
    · exact told.numbered other before number' ended'
    · obtain rfl := List.mem_singleton.1 last
      obtain rfl := Option.some.inj (ended.symm.trans ended')
      exact known
  · intro other member number' ended' last
    rw [recent]
    rcases List.mem_append.1 member with before | new
    · exact List.mem_append_left _ (told.lately other before number' ended' (opened ▸ last))
    · exact List.mem_append_right _ new

theorem act (told : s.Told) (number : Nat) (use : Device.Use) : (s.act number use).Told := by
  unfold SharedDevice.act
  split
  case isTrue => exact told
  case isFalse allowed =>
    obtain ⟨opens, closed, yields⟩ := Device.Use.opening_act told.yields number use
    cases noted : use.note? number s.device with
    | none =>
      rw [noted] at opens closed
      exact ⟨yields, opens.trans told.opens, closed ▸ told.closed, told.numbered, told.lately⟩
    | some note =>
      rw [noted] at opens closed
      cases note with
      | opened => exact told.noting_opened yields opens closed
      | shut ended | dropped ended =>
        obtain ⟨call, rfl⟩ := Device.Use.ended_of_note? noted rfl
        have alive : s.isAlive ended := by simpa [call] using allowed
        have known : ended < s.opened := of_decide_eq_true (Bool.and_eq_true_iff.1 alive).1
        exact told.noting_ended rfl known yields opens closed

end Told

theorem told_run (uses : List (Nat × Device.Use)) : (run uses).Told := by
  induction uses using List.reverseRecOn with
  | nil =>
    exact
      { yields := rfl
        opens := rfl
        closed := iff_of_false Bool.false_ne_true (· rfl)
        numbered := by rintro _ ⟨⟩
        lately := by rintro _ ⟨⟩ }
  | append_singleton uses use ih =>
    rw [run, List.foldl_concat]
    exact ih.act use.1 use.2

/-- A new device is used in any way, and opened any number of times.  It counts the openings that
succeeded.  It is closed if the transport opened last has been shut down or dropped; and also if an
earlier one has been since then, whether the last one has or not. -/
theorem closed_after_uses (uses : List (Nat × Device.Use)) :
    let s := run uses
    s.device.opens = s.opened ∧
    (s.device.closed = true ↔ (∃ last, s.opened = last + 1 ∧ s.HasEnded last) ∨ s.Lingered) := by
  intro s
  have told : s.Told := told_run uses
  refine ⟨told.opens, told.closed.trans ⟨fun ended => ?_, ?_⟩⟩
  · obtain ⟨note, member⟩ := List.exists_mem_of_ne_nil _ ended
    obtain ⟨number, ends⟩ := exists_ended_of_mem_recent member
    have kept : note ∈ s.notes := (List.rtakeWhile_suffix _ _).subset member
    -- the device does not know which transport came to an end: the last one, or one before it
    rcases Nat.lt_or_eq_of_le (told.numbered note kept number ends) with earlier | last
    · exact .inr ⟨note, member, number, ends, earlier⟩
    · exact .inl ⟨number, last.symm, note, kept, ends⟩
  · rintro (⟨last, opened, note, kept, ends⟩ | ⟨note, member, -⟩)
    · exact List.ne_nil_of_mem (told.lately note kept last ends opened)
    · exact List.ne_nil_of_mem member

/-- The device is closed by an earlier transport, though the last one is still there. -/
example :
    let s := run [(0, .openWith { address := "COM3" }), (0, .openWith { address := "COM3" }),
      (0, .release)]
    s.device.closed = true ∧ s.opened = 2 ∧ s.notes = [.opened, .opened, .dropped 0] := by
  decide

end SharedDevice

end FieldLink
