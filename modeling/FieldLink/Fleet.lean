import FieldLink.Config.Basic
import FieldLink.Station

/-!
# Fleets

The links that a configuration describes, each on the device of its port.  They are made and started
one after another, and those that run are registered.  A link that cannot be started is left out; one
that cannot be registered ends the opening, and so does a start that breaks off.
-/

namespace FieldLink

variable {σ : Type}

/-- The closed link that an entry of a configuration describes. -/
def LinkConfig.link (device : σ) (now : Nat) (entry : LinkConfig) : Link σ where
  options := entry.options
  device
  commands := entry.pollCommands
  callback := some { tag := entry.address }
  now

/-- That link after a start. -/
def LinkConfig.start (T : Transport σ) (device : σ) (now : Nat) (entry : LinkConfig) : Turns σ :=
  Turns.begin T (.start .enter) { link := entry.link device now }

/-- Links that were made, and the registry of those that run. -/
structure Fleet (σ : Type) where
  /-- All links that were made, in order. -/
  links : List (Turns σ) := []
  /-- The registered links, by their numbers in that order. -/
  registry : Registry Member.address := ⟨[], List.nodup_nil⟩

namespace Fleet

/-- Registers a link under the next number. -/
def register (t : Turns σ) (f : Fleet σ) : Except LinkError (Fleet σ) :=
  match f.registry.add ⟨f.links.length, t.link.address⟩ with
  | .ok registry => .ok { links := f.links ++ [t], registry }
  | .error e => .error e

/-- Takes links in after their starts, one after another.  There is no answer if a start broke
off. -/
def join : List (Turns σ) → Fleet σ → Option (Except LinkError (Fleet σ))
  | [], f => some (.ok f)
  | t :: rest, f =>
    match t.result? with
    | none => none
    | some (.error _) => join rest { f with links := f.links ++ [t] }
    | some (.ok ()) =>
      match f.register t with
      | .error e => some (.error e)
      | .ok f => join rest f

end Fleet

/-- Opens the links of a configuration, where each port has its device. -/
def Config.openLinks (T : Transport σ) (devices : String → σ) (now : Nat) (c : Config) :
    Option (Except LinkError (Fleet σ)) :=
  Fleet.join (c.links.map fun entry => entry.start T (devices entry.address) now) { }

end FieldLink
