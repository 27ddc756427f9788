import FieldLink.Transport.Basic

/-!
# A device to rehearse with

A device in memory.  Its writes follow a script of outcomes, and are accepted beyond it; what it has
to read is put there by whoever holds the device, or, as a loopback, by the accepted writes.  The
holder also sees each write that was tried, the bytes that were taken, how often the device was
opened, and whether it is closed.  `Device.transport` is the device as links see it.
-/

namespace FieldLink

/-- What the next write does. -/
inductive WriteOutcome where
  /-- All bytes are taken. -/
  | accept
  /-- At most this many bytes are taken. -/
  | partly (count : Nat)
  /-- The write fails. -/
  | fail (failure : Failure)
  /-- All bytes are taken, but the flush after the write fails. -/
  | failFlush (failure : Failure)
  /-- The device stalls for this many milliseconds.  The write then goes on as a new one. -/
  | stall (milliseconds : Nat)
  deriving DecidableEq, Repr

/-- What the device has to read. -/
inductive ReadEvent where
  | data (bytes : Frame)
  | failure (failure : Failure)
  | endOfStream
  deriving DecidableEq, Repr

/-- How a shutdown goes. -/
inductive ShutdownOutcome where
  | succeed
  | fail (failure : Failure)
  /-- The shutdown never comes to an end. -/
  | hang
  deriving DecidableEq, Repr

/-- The state of a device. -/
structure Device where
  /-- The outcomes of the next writes. -/
  script : List WriteOutcome := []
  /-- Each write that took an outcome, in order. -/
  attempts : List Frame := []
  /-- The bytes that were taken, write by write. -/
  written : List Frame := []
  /-- What is still to be read. -/
  reads : List ReadEvent := []
  /-- Whether accepted writes are read back. -/
  loopback : Bool := false
  /-- Whether the device refuses to be opened. -/
  refusing : Bool := false
  /-- How often the device was opened. -/
  opens : Nat := 0
  /-- Whether the device was closed since it was opened last. -/
  closed : Bool := false
  /-- Until when writes wait. -/
  stalledUntil : Nat := 0
  /-- What the next flush fails with. -/
  flushFailure : Option Failure := none
  shutdownOutcome : ShutdownOutcome := .succeed
  /-- How bad every failure is, if the device decides that itself. -/
  verdict : Option Fault := none

namespace Device

/-! ## What the holder of a device does -/

/-- The failure of a rejected write. -/
def rejected : Failure := .ofKind .other "mock write rejected"

/-- The failure of a write to a device that is gone. -/
def vanished : Failure := .ofKind .brokenPipe "device vanished"

/-- The failure of a read that may be tried again. -/
def hiccup : Failure := .ofKind .invalidData "mock read hiccup"

/-- The failure of a read from a device that is gone. -/
def missing : Failure := .ofKind .notFound "no such file or directory"

/-- Adds outcomes of writes to the script. -/
def addScript (d : Device) (outcomes : List WriteOutcome) : Device :=
  { d with script := d.script ++ outcomes }

/-- Adds something to read. -/
def inject (d : Device) (event : ReadEvent) : Device := { d with reads := d.reads ++ [event] }

/-! ## What a transport on the device does -/

/-- Opens the device. -/
def openWith (o : LinkOptions) (d : Device) : Except LinkError Device :=
  if d.refusing then .error (.connection o.address "mock told to refuse")
  else .ok { d with opens := d.opens + 1, closed := false }

/-- Reads up to `room` bytes.  What does not fit is left for the next read. -/
def read (room : Nat) (d : Device) : Answer Frame × Device :=
  match d.reads with
  | [] => (.waiting none, d)
  | .data bytes :: rest =>
    let left := bytes.drop room
    let reads := if left = [] then rest else .data left :: rest
    (.done (bytes.take room), { d with reads })
  | .failure f :: rest => (.failed f, { d with reads := rest })
  | .endOfStream :: rest => (.done [], { d with reads := rest })

/-- Takes all bytes of a frame. -/
def takeAll (frame : Frame) (d : Device) : Device :=
  { d with written := d.written ++ [frame]
           reads := if d.loopback then d.reads ++ [.data frame] else d.reads }

/-- Writes a frame with the outcomes that are left of a script.  An outcome is taken off the script
and the write is noted, however it ends. -/
def follow (frame : Frame) (now : Nat) (d : Device) : List WriteOutcome → Answer Nat × Device
  | [] =>
    let d := { d with script := [], attempts := d.attempts ++ [frame] }
    (.done frame.length, d.takeAll frame)
  | outcome :: rest =>
    let d := { d with script := rest, attempts := d.attempts ++ [frame] }
    match outcome with
    | .accept => (.done frame.length, d.takeAll frame)
    | .partly count =>
      let bytes := frame.take count
      (.done bytes.length, { d with written := d.written ++ [bytes] })
    | .fail f => (.failed f, d)
    | .failFlush f =>
      (.done frame.length, { d.takeAll frame with flushFailure := some f })
    | .stall milliseconds =>
      if milliseconds = 0 then follow frame now d rest
      else
        let resume := now + milliseconds * 1_000_000
        (.waiting (some resume), { d with stalledUntil := resume })

/-- When a stall that goes on will be over. -/
def stallEnd? (now : Nat) (d : Device) : Option Nat :=
  if now < d.stalledUntil then some d.stalledUntil else none

/-- Writes a frame, unless the device stalls. -/
def write (frame : Frame) (now : Nat) (d : Device) : Answer Nat × Device :=
  match d.stallEnd? now with
  | some resume => (.waiting (some resume), d)
  | none => follow frame now d d.script

/-- Writes a frame in as many writes as it takes.  The fuel is a count of writes; as each of them
takes a byte or ends the writing, the length of the frame is enough. -/
def writeAllWith (now : Nat) : Nat → Frame → Device → Answer Unit × Device
  | _, [], d => (.done (), d)
  | 0, _ :: _, d => (.waiting none, d)
  | fuel + 1, b :: bytes, d =>
    match d.write (b :: bytes) now with
    | (.waiting resume, d) => (.waiting resume, d)
    | (.failed f, d) => (.failed f, d)
    | (.done 0, d) => (.failed (.ofKind .writeZero "write zero"), d)
    | (.done n, d) => writeAllWith now fuel ((b :: bytes).drop n) d

/-- Writes a frame in as many writes as it takes. -/
def writeAll (frame : Frame) (now : Nat) (d : Device) : Answer Unit × Device :=
  writeAllWith now frame.length frame d

/-- Waits for what was written. -/
def flush (d : Device) : Answer Unit × Device :=
  match d.flushFailure with
  | none => (.done (), d)
  | some f => (.failed f, { d with flushFailure := none })

/-- Ends the writing, which closes the device if it succeeds.  A call that waits is made again at the
end of a stall, as all calls on the writing side are. -/
def shutdown (now : Nat) (d : Device) : Answer Unit × Device :=
  match d.shutdownOutcome with
  | .succeed => (.done (), { d with closed := true })
  | .fail f => (.failed f, d)
  | .hang => (.waiting (d.stallEnd? now), d)

/-- Gives the device up.  What it stalled on is forgotten. -/
def release (d : Device) : Device :=
  { d with closed := true, stalledUntil := 0, flushFailure := none }

/-- How bad a failure is. -/
def classify (d : Device) (f : Failure) : Fault := d.verdict.getD f.fault

/-- The device as a link sees it. -/
def transport : Transport Device where
  openWith := openWith
  read room _ := read room
  write := write
  flush _ := flush
  shutdown := shutdown
  release := release
  classify := classify

end Device

/-! ## A bench -/

/-- A device with at most one transport on it. -/
structure Bench where
  device : Device := { }
  /-- Whether there is a transport. -/
  isOpen : Bool := false

namespace Bench

/-- Opens a transport.  It takes the place of the one before, which is given up afterwards. -/
def openAt (address : String) (b : Bench) : Except LinkError Unit × Bench :=
  match b.device.openWith { address } with
  | .error e => (.error e, b)
  | .ok d => (.ok (), ⟨if b.isOpen then d.release else d, true⟩)

/-- Makes a call on the transport, if there is one. -/
def call {α : Type} (b : Bench) (f : Device → Answer α × Device) : Option (Answer α) × Bench :=
  if b.isOpen then
    let (answer, device) := f b.device
    (some answer, { b with device })
  else (none, b)

/-- Gives the transport up, if there is one. -/
def drop (b : Bench) : Option (Answer Unit) × Bench :=
  if b.isOpen then (some (.done ()), ⟨b.device.release, false⟩) else (none, b)

end Bench

end FieldLink
