import FieldLink.Proofs.Config.RoundTrip

/-!
# Defaults of a configuration

The defaults of a link stand in three places: `Field.default?` is what a text leaves out, `new` is a
link of which only the address is given, and `LinkOptions.ofSettings` puts the options of a link
together from nothing.  The first two agree in every field (`default?_eq`), the last two agree in
every option, so a link may be written with any fields that tell it from a new one
(`Config.ofText_textOf_written`).
-/

namespace FieldLink

namespace LinkConfig

/-- What a text leaves out is as in a new link, whatever its address is. -/
theorem default?_eq (address : String) {f : Field} (other : f ≠ .address) :
    f.default? = some ((new address).setting f) := by
  cases f with
  | address => exact absurd rfl other
  | _ => rfl

/-- The fields, in the order in which they are written, tell the link from a new one at its
address. -/
structure IsWrittenIn (link : LinkConfig) (fields : List Field) : Prop where
  once : fields.Nodup
  address_mem : .address ∈ fields
  mem_of_ne : ∀ f, link.setting f ≠ (new link.address).setting f → f ∈ fields

/-- A link is made up again from the fields that it is written in. -/
theorem IsWrittenIn.ofSettings? {link : LinkConfig} {fields : List Field}
    (written : link.IsWrittenIn fields) :
    LinkConfig.ofSettings? (fields.map link.setting) = some link := by
  refine ofSettings?_map_setting written.once fun f omitted => ?_
  have other : f ≠ .address := by
    rintro rfl
    exact omitted written.address_mem
  have same : link.setting f = (new link.address).setting f := by
    by_contra differs
    exact omitted (written.mem_of_ne f differs)
  rw [default?_eq link.address other, same]

/-- A new link is opened with the options that none is set of. -/
theorem options_new (address : String) : (new address).options = .ofSettings address [] := by
  rw [options_eq]
  rfl

end LinkConfig

/-- Links are read as they are, whichever fields they are written in, and all that says what a link
is like if nothing is said about it says the same. -/
theorem Config.ofText_textOf_written {entries : List (LinkConfig × List LinkConfig.Field)}
    (written : ∀ e ∈ entries, e.1.IsWrittenIn e.2) :
    Config.ofText (Config.textOf (entries.map fun e => e.2.map e.1.setting)) =
        .ok ⟨entries.map Prod.fst⟩ ∧
      ∀ address, (LinkConfig.new address).options = .ofSettings address [] := by
  have read : Config.read? (Config.textOf (entries.map fun e => e.2.map e.1.setting)) =
      some ⟨entries.map Prod.fst⟩ :=
    Config.read?_textOf fun e mem => (written e mem).ofSettings?
  refine ⟨?_, LinkConfig.options_new⟩
  rw [Config.ofText, read]

/-- One link is written in the fields that it needs, another has its address last and a default
before it. -/
theorem Config.ofText_textOf_two :
    let meter : LinkConfig :=
      { address := "/dev/ttyUSB0", baudRate := 9600, parity := .none, stopBits := 2, poll := true
        pollCommands := [[1, 3, 0, 0, 0, 10, 197, 205]] }
    let relay : LinkConfig := { address := "COM3", timeoutMs := some 250 }
    let meterFields : List LinkConfig.Field :=
      [.address, .baudRate, .parity, .stopBits, .poll, .pollCommands]
    let relayFields : List LinkConfig.Field := [.rs485, .timeoutMs, .address]
    (∀ e ∈ [(meter, meterFields), (relay, relayFields)], e.1.IsWrittenIn e.2) ∧
      Config.ofText (Config.textOf [meterFields.map meter.setting, relayFields.map relay.setting]) =
        .ok ⟨[meter, relay]⟩ := by
  intro meter relay meterFields relayFields
  have written : ∀ e ∈ [(meter, meterFields), (relay, relayFields)], e.1.IsWrittenIn e.2 := by
    intro e mem
    rcases List.mem_pair.1 mem with rfl | rfl
    · refine ⟨by decide, by decide, fun f differs => ?_⟩
      cases f <;> first | decide | exact absurd rfl differs
    · refine ⟨by decide, by decide, fun f differs => ?_⟩
      cases f <;> first | decide | exact absurd rfl differs
  exact ⟨written, (Config.ofText_textOf_written written).1⟩

end FieldLink
