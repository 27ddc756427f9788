import FieldLink.Config.Setting
import FieldLink.Config.Skip

/-!
# Reading a configuration

A record is written as its fields in parentheses, each with a colon and its value, perhaps behind
the name of the record; fields that nobody knows are passed over.  An option is written as its
content, with or without the word for it.  `Config.read?` is the configuration that a text holds,
`Config.ofText` and `Config.ofFile` refuse what holds none.
-/

namespace FieldLink

namespace Config

/-- The levels to which values may be nested. -/
def maxDepth : Nat := 128

/-- What follows the name of a record, if a name is there at all. -/
def skipRecordName (name : String) (cs : List Char) : Option (List Char) :=
  if startsWith isNamePart cs then
    match readName cs with
    | some (found, rest) => if found = name then some rest else none
    | none => none
  else some cs

/-- A field with its value, or nothing if it is a field that `unknown` passes over. -/
def readField {α : Type} (known : String → Option (Scan α))
    (unknown : List Char → Option (List Char)) : Scan (Option α) := fun cs => do
  let (name, cs) ← readName cs
  let cs ← skipBlank cs
  let cs ← skipMark ":" cs
  match known name with
  | some value => do
    let (a, cs) ← value cs
    some (some a, cs)
  | none => do
    let cs ← unknown cs
    some (none, cs)

/-- The known fields of a record. -/
def readRecord {α : Type} (name : String) (known : String → Option (Scan α))
    (unknown : List Char → Option (List Char)) (fuel : Nat) : Scan (List α) := fun cs => do
  let cs ← skipRecordName name cs
  let cs ← skipBlank cs
  let cs ← skipWord "(" cs
  let (fields, cs) ← readItems ')' (readField known unknown) fuel true cs
  some (fields.filterMap id, cs)

/-- An option: the word for nothing, or the content with or without its word and parentheses. -/
def readOption {α : Type} (content : Scan α) : Scan (Option α) := fun cs =>
  match skipWord "None" cs, skipWord "Some" cs with
  | some rest, _ => some (none, rest)
  | none, some rest => do
    match ← skipBlank rest with
    | '(' :: rest => do
      let (a, rest) ← content (← skipBlank rest)
      let (_, rest) ← readComma rest
      let rest ← skipWord ")" rest
      some (some a, rest)
    | rest => (content rest).map fun (a, rest) => (some a, rest)
  | none, none => (content cs).map fun (a, rest) => (some a, rest)

/-- A list in brackets. -/
def readList {α : Type} (item : Scan α) (fuel : Nat) : Scan (List α) := fun cs => do
  let cs ← skipWord "[" cs
  readItems ']' item fuel true cs

/-- The name of a parity. -/
def readParity : Scan Parity := fun cs => do
  let (name, cs) ← readName cs
  let p ← [Parity.none, .even, .odd].find? fun p => p.word == name
  some (p, cs)

/-- A scan whose value is changed by a function. -/
def Scan.map {α β : Type} (f : α → β) (scan : Scan α) : Scan β := fun cs =>
  (scan cs).map fun (a, rest) => (f a, rest)

/-- A scan whose value is changed by a function that may refuse it. -/
def Scan.filterMap {α β : Type} (f : α → Option β) (scan : Scan α) : Scan β := fun cs => do
  let (a, rest) ← scan cs
  let b ← f a
  some (b, rest)

/-- A byte. -/
def readByte : Scan UInt8 := Scan.map UInt8.ofNat (readNatural UInt8.size)

/-- A number of 64 bits. -/
def readU64 : Scan UInt64 := Scan.map UInt64.ofNat (readNatural UInt64.size)

end Config

open Config

/-- A duration in parts, with no further field. -/
def Duration.read (fuel : Nat) : Scan Duration :=
  Scan.filterMap Duration.ofSettings? (readRecord "Duration" known (fun _ => none) fuel)
where
  /-- The values of the fields. -/
  known : String → Option (Scan Duration.Setting)
    | "secs" => some (Scan.map .seconds (readNatural UInt64.size))
    | "nanos" => some (Scan.map .nanoseconds (readNatural UInt32.size))
    | _ => none

/-- The settings of an adapter. -/
def Rs485.read (fuel : Nat) : Scan Rs485 :=
  Scan.filterMap Rs485.ofSettings?
    (readRecord "Rs485Options" known (skipValue fuel (maxDepth - 9)) fuel)
where
  /-- The values of the fields. -/
  known : String → Option (Scan Rs485.Setting)
    | "enabled" => some (Scan.map .enabled readBool)
    | "delay_rts_before_send" => some (Scan.map .delayRtsBeforeSend (Duration.read fuel))
    | "delay_rts_after_send" => some (Scan.map .delayRtsAfterSend (Duration.read fuel))
    | "rts_high_during_send" => some (Scan.map .rtsHighDuringSend readBool)
    | "rts_high_after_send" => some (Scan.map .rtsHighAfterSend readBool)
    | "rx_during_tx" => some (Scan.map .rxDuringTx readBool)
    | _ => none

/-- The value of a known field of a link. -/
def LinkConfig.readSetting (fuel : Nat) : String → Option (Scan LinkConfig.Setting)
  | "address" => some (Scan.map .address readText)
  | "baud_rate" => some (Scan.map (.baudRate ∘ UInt32.ofNat) (readNatural UInt32.size))
  | "data_bits" => some (Scan.map .dataBits readByte)
  | "stop_bits" => some (Scan.map .stopBits readByte)
  | "parity" => some (Scan.map .parity readParity)
  | "timeout_ms" => some (Scan.map .timeoutMs (readOption readU64))
  | "retries" => some (Scan.map .retries readU64)
  | "poll" => some (Scan.map .poll readBool)
  | "poll_interval_ms" => some (Scan.map .pollIntervalMs readU64)
  | "queue_capacity" => some (Scan.map .queueCapacity readU64)
  | "poll_commands" => some (Scan.map .pollCommands (readList (readList readByte fuel) fuel))
  | "rs485" => some (Scan.map .rs485 (readOption (Rs485.read fuel)))
  | _ => none

/-- A link. -/
def LinkConfig.read (fuel : Nat) : Scan LinkConfig :=
  Scan.filterMap LinkConfig.ofSettings?
    (readRecord "LinkConfig" (LinkConfig.readSetting fuel) (skipValue fuel (maxDepth - 6)) fuel)

namespace Config

/-- The links of a configuration; the field that holds them may be left out, but not repeated. -/
def ofLinkLists? : List (List LinkConfig) → Option Config
  | [] => some { }
  | [links] => some { links }
  | _ => none

/-- The value of the known field of a configuration. -/
def readLinks (fuel : Nat) : String → Option (Scan (List LinkConfig))
  | "links" => some (readList (LinkConfig.read fuel) fuel)
  | _ => none

/-- The record of a configuration. -/
def read (fuel : Nat) : Scan Config :=
  Scan.filterMap ofLinkLists?
    (readRecord "Config" (readLinks fuel) (skipValue fuel (maxDepth - 2)) fuel)

/-- A feature that may be asked for in front of the record; all of them are in use anyway. -/
def readFeature : Scan Unit := fun cs => do
  let (name, cs) ← readName cs
  if name ∈ ["unwrap_newtypes", "implicit_some", "unwrap_variant_newtypes"] then some ((), cs)
  else none

/-- What follows the lines that ask for features. -/
def skipFeatures : Nat → List Char → Option (List Char)
  | 0, _ => none
  | fuel + 1, cs =>
    if startsWith (· = '#') cs then do
      let cs ← ["#", "!", "[", "enable", "("].foldlM (fun cs mark => skipMark mark cs) cs
      let (features, cs) ← readItems ')' readFeature fuel true cs
      let cs ← skipBlank cs
      let cs ← skipMark "]" cs
      if features = [] then none else skipFeatures fuel cs
    else some cs

/-- The configuration that a text holds, if it holds nothing but one. -/
def read? (text : String) : Option Config := do
  let cs := text.toList
  let fuel := cs.length + 1
  let cs ← skipBlank cs
  let cs ← skipFeatures fuel cs
  let (config, cs) ← read fuel cs
  let cs ← skipBlank cs
  if cs = [] then some config else none

/-- The configuration that a text holds. -/
def ofText (text : String) : Except LinkError Config :=
  match read? text with
  | some config => .ok config
  | none => .error (.badConfig "Not a valid configuration")

/-- The configuration in a file, of which `contents` are the bytes if it could be read. -/
def ofFile (contents : Option ByteArray) : Except LinkError Config :=
  match contents.bind String.fromUTF8? with
  | some text => ofText text
  | none => .error .io

end Config

end FieldLink
