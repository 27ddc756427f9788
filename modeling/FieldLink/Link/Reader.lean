import FieldLink.Link.Basic

/-!
# The reader

The reader reads chunk after chunk and hands each to the receive callback; with a chunk, the
response to the last frame is in.  It ends when it is cancelled, and gives the session up when the
transport has no more data or fails fatally.  A read that meets its deadline is simply begun again,
so deadlines do not show.
-/

namespace FieldLink

namespace Link

variable {σ : Type}

/-- Takes the reader of a session to a phase. -/
def readerTo (id : Nat) (phase : ReaderPhase) (l : Link σ) : Link σ :=
  l.update id fun s => { s with reader := phase }

/-- What the reader does with what it read. -/
def readerAfter (T : Transport σ) (answer : Answer Frame) (l : Link σ) : ReaderPhase :=
  match answer with
  | .waiting _ => .look
  | .done [] => .fail .mark
  | .done chunk => .deliver chunk
  | .failed f =>
    match T.classify l.device f with
    | .fatal => .fail .mark
    | .transient => .look

/-- One step of the reader of the session `id`. -/
def readerStep (T : Transport σ) (id : Nat) (s : Session) (l : Link σ) : Link σ :=
  match s.reader with
  | .unborn | .gone => l
  | .look => l.readerTo id (if s.cancelled then .release else .read)
  | .read =>
    let (answer, device) := T.read packetSize.toNat l.now l.device
    let l := { l with device }
    l.readerTo id (l.readerAfter T answer)
  | .deliver chunk =>
    match l.callback with
    | none => l.readerTo id (.clear chunk)
    | some c =>
      match c.replies with
      | [] => (l.deliver ⟨c.tag, chunk, none⟩).readerTo id (.clear chunk)
      | reply :: replies =>
        { l with callback := some { c with replies } }.readerTo id
          (.reply chunk c.tag reply .mark)
  | .reply chunk tag _ (.done result) =>
    (l.deliver ⟨tag, chunk, some result⟩).readerTo id (.clear chunk)
  | .reply chunk tag reply phase =>
    let (phase, l) := l.sendStep reply phase
    l.readerTo id (.reply chunk tag reply phase)
  | .clear chunk => l.clearSending.readerTo id (.report chunk)
  | .report chunk => (l.emit (.received chunk)).readerTo id .look
  | .fail phase =>
    let (next, l) := l.failStep id phase
    l.readerTo id (next.elim .release .fail)
  | .release =>
    (l.dropHalf T id fun s => { s with readHalf := false }).readerTo id (.leave .count)
  | .leave phase =>
    let (next, l) := l.leaveStep phase
    l.readerTo id (next.elim .gone .leave)

/-- Whether the reader has nothing to do but to wait. -/
def readerWaits (T : Transport σ) (s : Session) (l : Link σ) : Bool :=
  match s.reader with
  | .unborn | .gone => true
  | .look => !s.cancelled && (T.read packetSize.toNat l.now l.device).1.isWaiting
  | _ => false

end Link

end FieldLink
