import FieldLink.Error

/-!
# Registries

A registry holds links so that one address is driven by one link.  It is a finite map whose keys are
the addresses of the things in it.
-/

namespace FieldLink

/-- Things with different addresses, in the order in which they were registered. -/
structure Registry {α : Type} (address : α → String) where
  entries : List α := []
  nodup : (entries.map address).Nodup := by simp

namespace Registry

variable {α : Type} {address : α → String}

/-- The thing that is registered for an address. -/
def get? (key : String) (r : Registry address) : Option α :=
  r.entries.find? (address · = key)

/-- Registers a thing under its address, unless something is registered there. -/
def add (a : α) (r : Registry address) : Except LinkError (Registry address) :=
  if fresh : address a ∈ r.entries.map address then .error (.alreadyRegistered (address a))
  else
    .ok
      { entries := r.entries ++ [a]
        nodup := by
          rw [List.map_append, List.map_singleton, List.nodup_append]
          refine ⟨r.nodup, by simp, fun x hx y hy hxy => ?_⟩
          rw [List.mem_singleton.1 hy] at hxy
          exact fresh (hxy ▸ hx) }

/-- Forgets what is registered for an address. -/
def remove (key : String) (r : Registry address) : Registry address where
  entries := r.entries.filter (address · ≠ key)
  nodup := r.nodup.sublist (List.filter_sublist.map address)

/-- Forgets everything, and returns it. -/
def drain (r : Registry address) : List α × Registry address := (r.entries, ⟨[], List.nodup_nil⟩)

/-- The registered addresses, in the order of their characters. -/
def addresses (r : Registry address) : List String :=
  (r.entries.map address).mergeSort (· ≤ ·)

end Registry

end FieldLink
