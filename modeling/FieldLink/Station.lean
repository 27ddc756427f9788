import FieldLink.Link.Turns
import FieldLink.Registry
import FieldLink.Transport.Device

/-!
# Stations

A station runs links on devices in memory, all on one clock.  The clock stands still while the loops
run, and moves on from one timer to the next while a call waits or time is let pass.  The station
also keeps a registry of its links.
-/

namespace FieldLink

/-- A link of a station, by its number there, with the address of its port. -/
structure Member where
  number : Nat
  address : String
  deriving DecidableEq, Repr

/-- Forgets all registered links, and changes each of them. -/
def Registry.release {α : Type} (f : α → α) (links : List α) (r : Registry Member.address) :
    List α × Registry Member.address :=
  let (members, rest) := r.drain
  (members.foldl (fun links m => links.modify m.number f) links, rest)

/-- Links on one clock. -/
structure Station where
  /-- All links that were made, in order. -/
  links : List (Turns Device) := []
  /-- What the names stand for, by the numbers of the links. -/
  names : List (String × Nat) := []
  registry : Registry Member.address := { }
  now : Nat := 0

namespace Station

/-- The link that a name stands for. -/
def link? (name : String) (s : Station) : Option (Turns Device) :=
  s.names.lookup name >>= (s.links[·]?)

/-- The links that have a name. -/
def named (s : Station) : List (String × Turns Device) :=
  s.names.filterMap fun (name, number) => (s.links[number]?).map (name, ·)

/-- The name of a registered link, unless the name stands for another by now. -/
def nameOf? (m : Member) (s : Station) : Option String :=
  (s.names.find? (·.2 = m.number)).map (·.1)

/-- Changes every link. -/
def map (f : Turns Device → Turns Device) (s : Station) : Station :=
  { s with links := s.links.map f }

/-- Changes the link that a name stands for. -/
def modify (name : String) (f : Turns Device → Turns Device) (s : Station) : Station :=
  match s.names.lookup name with
  | none => s
  | some number => { s with links := s.links.modify number f }

/-- Makes a closed link on a new device.  If there was a link of that name, it goes on without one,
and stays registered if it was. -/
def make (name : String) (options : LinkOptions) (s : Station) : Station :=
  { s with
    links := s.links ++ [{ link := { options, device := { }, now := s.now } }]
    names := s.names.filter (·.1 ≠ name) ++ [(name, s.links.length)] }

/-- Changes the link that a name stands for as its holder does, or whoever holds its device. -/
def change (name : String) (f : Link Device → Link Device) (s : Station) : Station :=
  s.modify name (·.change Device.transport f)

/-- Changes the device of a link. -/
def changeDevice (name : String) (f : Device → Device) (s : Station) : Station :=
  s.change name fun l => { l with device := f l.device }

/-! ## Letting links run -/

/-- No loop takes more turns than this while the clock stands still. -/
def turnLimit : Nat := 1_000_000

/-- The clock stops at no more timers than this while a call waits. -/
def timerLimit : Nat := 1_000_000

/-- Lets all loops run until they wait.  The clock stands still. -/
def run (s : Station) : Station := s.map (·.run Device.transport turnLimit)

/-- When the next timer goes off. -/
def nextTimer (s : Station) : Option Nat :=
  (s.links.flatMap Turns.timers).min?

/-- Moves the clock on. -/
def moveTo (now : Nat) (s : Station) : Station :=
  { s.map (·.moveTo Device.transport now) with now }

/-- Lets time pass until `target`, stopping the clock at up to `limit` timers. -/
def passUntil (target : Nat) : Nat → Station → Station
  | 0, s => s
  | limit + 1, s =>
    let s := s.run
    match s.nextTimer with
    | none => (s.moveTo target).run
    | some t => if target < t then (s.moveTo target).run else passUntil target limit (s.moveTo t)

/-- Lets some time pass, in nanoseconds.  As timers go off at different times, the clock stops at no
more of them than there are nanoseconds. -/
def pass (time : Nat) (s : Station) : Station := s.passUntil (s.now + time) (time + 1)

/-- Lets time pass until no call waits any more, stopping the clock at up to `limit` timers. -/
def awaitCalls : Nat → Station → Station
  | 0, s => s
  | limit + 1, s =>
    if s.links.any Turns.isCalled then
      let s := s.run.map (·.proceed Device.transport)
      if s.links.any Turns.isCalled then
        match s.nextTimer with
        | none => s
        | some t => awaitCalls limit (s.moveTo t)
      else s
    else s

/-- Makes a call on a link, and lets time pass until it has returned. -/
def call (name : String) (c : Call) (s : Station) : Station :=
  (s.modify name (·.begin Device.transport c)).awaitCalls timerLimit

/-- What the last call on a link has returned. -/
def result? (name : String) (s : Station) : Option (Except LinkError Unit) :=
  s.link? name >>= Turns.result?

/-! ## The registry -/

/-- Registers a link. -/
def add (name : String) (s : Station) : Except LinkError Unit × Station :=
  match s.names.lookup name, s.link? name with
  | some number, some t =>
    match s.registry.add ⟨number, t.link.address⟩ with
    | .ok registry => (.ok (), { s with registry })
    | .error e => (.error e, s)
  | _, _ => (.ok (), s)

/-- Forgets the link that is registered for an address.  The link is not closed. -/
def remove (address : String) (s : Station) : Option Member × Station :=
  (s.registry.get? address, { s with registry := s.registry.remove address })

/-- Forgets all registered links, and closes them at the same time.  A link that has something to
say against it is closed nevertheless. -/
def closeAll (s : Station) : Station :=
  let (links, registry) :=
    s.registry.release (·.begin Device.transport (.close .stopPolling)) s.links
  { s with links, registry }.awaitCalls timerLimit

end Station

end FieldLink
