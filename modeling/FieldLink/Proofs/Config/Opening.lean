import FieldLink.Fleet
import FieldLink.Proofs.Config.Validation
import FieldLink.Proofs.Link.Start
import FieldLink.Proofs.Registry.Basic

/-!
# Opening what a configuration describes

A configuration is valid if the options of each link are, and no two links have the same address.
These are the conditions under which every link starts and every link that has started can be
registered (`Config.openLinks_of_validate`).
-/

namespace FieldLink

/-! ## Starts that nothing stands in the way of -/

section

variable {σ : Type} {T : Transport σ} {device opened : σ} {now : Nat}

namespace Link

/-- A start that holds on to the current session does not ask for it again. -/
theorem startStep_ne_enter (T : Transport σ) {phase : StartPhase} {l : Link σ}
    (free : phase = .enter → l.locked = false) : (l.startStep T phase).1 ≠ .enter := by
  cases phase with
  | enter => simp [startStep, free rfl]
  | check =>
    simp only [startStep]
    split
    · simp
    · split <;> simp
  | openUp =>
    simp only [startStep]
    split <;> simp
  | makeQueue id =>
    simp only [startStep]
    split <;> simp
  | launch loop id =>
    cases loop with
    | reader | poller => simp [startStep, afterLaunch]
    | writer =>
      simp only [startStep, afterLaunch]
      split <;> simp
  | discard | refuse | forgetFailure | clear | count | plug | accept | store | report | leave
  | done | broken => simp [startStep]

/-- A start that need not wait takes all of its steps. -/
theorem run_start_eq (T : Transport σ) (limit : Nat) {phase : StartPhase} {l : Link σ}
    (free : phase = .enter → l.locked = false) :
    (Call.start phase).run T limit l =
      (.start ((startMove T)^[limit] (phase, l)).1, ((startMove T)^[limit] (phase, l)).2) := by
  induction limit generalizing phase l with
  | zero => rfl
  | succ limit ih =>
    by_cases finished : ∃ result, phase = .done result
    · obtain ⟨result, rfl⟩ := finished
      have fixed : startMove T (.done result, l) = (.done result, l) := rfl
      rw [Function.iterate_fixed fixed, Call.run, if_pos (by simp [Call.result?])]
    · have goes : ((Call.start phase).result?.isSome || (Call.start phase).waits l) = false := by
        cases phase with
        | enter => simp [Call.result?, Call.waits, free rfl]
        | done result => exact absurd ⟨result, rfl⟩ finished
        | _ => rfl
      rw [Function.iterate_succ_apply, Call.run, goes, if_neg Bool.false_ne_true]
      exact ih fun again => absurd again (startStep_ne_enter T free)

/-- A start that nothing interrupts opens a session on a closed link, if its options are valid, the
transport opens and there is a queue with so much room. -/
theorem run_start {l : Link σ} (unlocked : l.locked = false) (closed : l.state = .closed)
    (valid : l.options.validate = .ok ()) (opens : T.openWith l.options l.device = .ok opened)
    (fits : l.options.queueCapacity.toNat ≤ maxQueueCapacity) :
    (Call.start .enter).run T Call.stepLimit l =
      (.start (.done (.ok ())), l.withSession opened) := by
  have fixed : startMove T (.done (.ok ()), l.withSession opened) =
      (.done (.ok ()), l.withSession opened) := rfl
  have reached : (startMove T)^[Call.stepLimit] (.enter, l) =
      (.done (.ok ()), l.withSession opened) := by
    rw [Call.stepLimit, show 32 = 16 + 16 from rfl, Function.iterate_add_apply,
      start_opens unlocked closed valid opens fits, Function.iterate_fixed fixed]
  rw [run_start_eq T Call.stepLimit fun _ => unlocked, reached]

end Link

/-- The link of a valid entry starts on a device that can be opened. -/
theorem LinkConfig.start_succeeds (now : Nat) {entry : LinkConfig}
    (valid : entry.options.validate = .ok ())
    (opens : T.openWith entry.options device = .ok opened)
    (fits : entry.queueCapacity.toNat ≤ Link.maxQueueCapacity) :
    (entry.start T device now).link = (entry.link device now).withSession opened ∧
      (entry.start T device now).result? = some (.ok ()) := by
  have room : entry.options.queueCapacity = entry.queueCapacity := by rw [entry.options_eq]
  have run := Link.run_start (l := entry.link device now) rfl rfl valid opens (room ▸ fits)
  refine ⟨congrArg Prod.snd run, ?_⟩
  exact congrArg (fun x : Call × Link σ => x.1.result?) run

/-! ## Registering what has started -/

namespace Fleet

/-- What is registered of links that have started, the first of them under the given number. -/
def members (first : Nat) (ts : List (Turns σ)) : List Member :=
  (ts.zipIdx first).map fun (t, number) => ⟨number, t.link.address⟩

theorem map_address_members (first : Nat) (ts : List (Turns σ)) :
    (members first ts).map Member.address = ts.map (·.link.address) := by
  induction ts generalizing first with
  | nil => rfl
  | cons t ts ih => exact congrArg (t.link.address :: ·) (ih (first + 1))

theorem getElem?_members (first : Nat) {number : Nat} {ts : List (Turns σ)} {t : Turns σ}
    (at_number : ts[number]? = some t) :
    (members first ts)[number]? = some ⟨first + number, t.link.address⟩ := by
  simp [members, List.getElem?_zipIdx, at_number]

/-- Links that have started are all taken in, if their addresses differ from each other and from
those that are registered. -/
theorem join_of_started {ts : List (Turns σ)} {f : Fleet σ}
    (started : ∀ t ∈ ts, t.result? = some (.ok ()))
    (apart : (f.registry.entries.map Member.address ++ ts.map (·.link.address)).Nodup) :
    ∃ fleet, join ts f = some (.ok fleet) ∧ fleet.links = f.links ++ ts ∧
      fleet.registry.entries = f.registry.entries ++ members f.links.length ts := by
  induction ts generalizing f with
  | nil => exact ⟨f, rfl, by simp, by simp [members]⟩
  | cons t ts ih =>
    rw [List.map_cons, List.nodup_middle, List.nodup_cons] at apart
    obtain ⟨fresh, apart⟩ := apart
    have unknown : t.link.address ∉ f.registry.entries.map Member.address :=
      fun known => fresh (List.mem_append_left _ known)
    obtain ⟨registry, added, entries⟩ :=
      Registry.add_of_notMem (a := (⟨f.links.length, t.link.address⟩ : Member)) unknown
    have joined : join (t :: ts) f =
        join ts { links := f.links ++ [t], registry := registry } := by
      simp [join, started t (.head _), register, added]
    have apart' : (registry.entries.map Member.address ++ ts.map (·.link.address)).Nodup := by
      rw [entries, List.map_append, List.append_assoc, List.map_singleton, List.singleton_append,
        List.nodup_middle]
      exact List.nodup_cons.2 ⟨fresh, apart⟩
    obtain ⟨fleet, comes, links, all⟩ := ih (f := { links := f.links ++ [t], registry := registry })
      (fun u member => started u (.tail _ member)) apart'
    refine ⟨fleet, joined.trans comes, ?_, ?_⟩
    · rw [links, List.append_assoc, List.singleton_append]
    · rw [all, entries, List.append_assoc, List.singleton_append, List.length_append]
      rfl

end Fleet

/-- Every link of a valid configuration starts and is registered, if its device can be opened and
there is a queue with so much room.  What is registered under an address is the link that was made
for it, and the registered addresses are those of the configuration, in order. -/
theorem Config.openLinks_of_validate (T : Transport σ) (devices : String → σ) (now : Nat)
    {c : Config} (valid : c.validate = .ok ())
    (opens : ∀ entry ∈ c.links,
      ∃ opened, T.openWith entry.options (devices entry.address) = .ok opened)
    (fits : ∀ entry ∈ c.links, entry.queueCapacity.toNat ≤ Link.maxQueueCapacity) :
    ∃ fleet, c.openLinks T devices now = some (.ok fleet) ∧
      fleet.links = c.links.map (fun entry => entry.start T (devices entry.address) now) ∧
      (∀ t ∈ fleet.links, t.result? = some (.ok ()) ∧ t.link.state = .opened) ∧
      fleet.registry.addresses.Perm (c.links.map (·.address)) ∧
      fleet.registry.addresses.Pairwise (· < ·) ∧
      fleet.registry.addresses.length = c.links.length ∧
      ∀ (number : Nat) (entry : LinkConfig), c.links[number]? = some entry →
        fleet.registry.get? entry.address = some ⟨number, entry.address⟩ ∧
        fleet.links[number]? = some (entry.start T (devices entry.address) now) := by
  obtain ⟨sound, nodup⟩ := validate_eq_ok_iff.1 valid
  let start := fun entry : LinkConfig => entry.start T (devices entry.address) now
  have started : ∀ entry ∈ c.links, (start entry).result? = some (.ok ()) ∧
      (start entry).link.state = .opened ∧ (start entry).link.address = entry.address := by
    intro entry member
    obtain ⟨opened, opens⟩ := opens entry member
    obtain ⟨link, result⟩ :=
      LinkConfig.start_succeeds now (sound entry member) opens (fits entry member)
    refine ⟨result, ?_, ?_⟩
    · rw [link]
      rfl
    · rw [link]
      rfl
  have addresses : (c.links.map start).map (·.link.address) = c.links.map (·.address) := by
    rw [List.map_map]
    exact List.map_congr_left fun entry member => (started entry member).2.2
  have results : ∀ t ∈ c.links.map start, t.result? = some (.ok ()) ∧ t.link.state = .opened := by
    intro t made
    obtain ⟨entry, member, rfl⟩ := List.mem_map.1 made
    exact ⟨(started entry member).1, (started entry member).2.1⟩
  obtain ⟨fleet, joined, links, entries⟩ :=
    Fleet.join_of_started (f := { }) (fun t member => (results t member).1)
      (by rw [addresses]; exact nodup)
  have links : fleet.links = c.links.map start := links
  have entries : fleet.registry.entries = Fleet.members 0 (c.links.map start) := entries
  have registered : fleet.registry.addresses.Perm (c.links.map (·.address)) := by
    rw [← addresses, ← Fleet.map_address_members 0, ← entries]
    exact fleet.registry.addresses_perm
  refine ⟨fleet, joined, links, ?_, registered, fleet.registry.addresses_pairwise, ?_, ?_⟩
  · rw [links]
    exact results
  · rw [registered.length_eq, List.length_map]
  · intro number entry at_number
    have made : (c.links.map start)[number]? = some (start entry) := by
      rw [List.getElem?_map, at_number]
      rfl
    refine ⟨?_, by rw [links, made]⟩
    rw [Registry.get?_eq_some_iff, entries]
    have member := Fleet.getElem?_members 0 made
    rw [Nat.zero_add, (started entry (List.mem_of_getElem? at_number)).2.2] at member
    exact ⟨List.mem_of_getElem? member, rfl⟩

end

/-- The sample configuration is one of them, with a device in memory for each port. -/
theorem Config.openLinks_sample :
    ∃ fleet, sample.openLinks Device.transport (fun _ => { }) 0 = some (.ok fleet) ∧
      fleet.registry.get? "/dev/ttyUSB1" = some ⟨1, "/dev/ttyUSB1"⟩ := by
  have valid : sample.validate = .ok () := by rfl
  obtain ⟨fleet, opened, -, -, -, -, -, found⟩ :=
    openLinks_of_validate Device.transport (fun _ => { }) 0 valid
      (fun entry _ => ⟨_, rfl⟩) (by decide)
  exact ⟨fleet, opened, (found 1 _ rfl).1⟩

end FieldLink
