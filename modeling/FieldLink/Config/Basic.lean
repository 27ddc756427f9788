import FieldLink.Bytes
import FieldLink.Options.Setting
import FieldLink.Text.Quoted

/-!
# Configurations

A configuration describes the links to run.  What it leaves open about a link has the default that
stands beside the field.  `LinkConfig.options` are the options that a link is opened with, and
`Config.validate` checks each of the links, and that no two of them drive the same port.
-/

namespace FieldLink

/-- A link as a configuration describes it. -/
structure LinkConfig where
  /-- The name of the port. -/
  address : String
  baudRate : UInt32 := 19200
  dataBits : UInt8 := 8
  stopBits : UInt8 := 1
  parity : Parity := .even
  /-- The deadline of a single read or write in milliseconds, if it does not follow from the
  framing. -/
  timeoutMs : Option UInt64 := none
  /-- How often a frame is written before it is dropped. -/
  retries : UInt64 := 3
  /-- Whether the poll commands are sent periodically. -/
  poll : Bool := false
  /-- The time between two poll cycles in milliseconds. -/
  pollIntervalMs : UInt64 := 5000
  /-- How many frames may wait to be written. -/
  queueCapacity : UInt64 := 16
  /-- The frames sent in each poll cycle, in order. -/
  pollCommands : List Frame := []
  rs485 : Option Rs485 := none
  deriving DecidableEq

namespace LinkConfig

/-- The link with default framing at an address. -/
def new (address : String) : LinkConfig := { address }

/-- What the configuration sets of the options of the link. -/
def optionSettings (link : LinkConfig) : List LinkOptions.Setting :=
  [.baudRate link.baudRate, .dataBits link.dataBits, .stopBits link.stopBits, .parity link.parity,
    .retries link.retries, .poll link.poll, .pollInterval (.ofMilliseconds link.pollIntervalMs),
    .queueCapacity link.queueCapacity] ++
  (link.timeoutMs.map fun ms => .timeout (.ofMilliseconds ms)).toList ++
  (link.rs485.map .rs485).toList

/-- The options that the link is opened with. -/
def options (link : LinkConfig) : LinkOptions :=
  .ofSettings link.address link.optionSettings

theorem options_eq (link : LinkConfig) :
    link.options =
      { address := link.address
        framing := ⟨link.baudRate, link.dataBits, link.stopBits, link.parity⟩
        givenTimeout := link.timeoutMs.map .ofMilliseconds
        retries := link.retries
        poll := link.poll
        pollInterval := .ofMilliseconds link.pollIntervalMs
        queueCapacity := link.queueCapacity
        rs485 := link.rs485.getD { } } := by
  unfold options optionSettings
  cases link.timeoutMs <;> cases link.rs485 <;> rfl

end LinkConfig

/-- The links to run. -/
structure Config where
  links : List LinkConfig := []
  deriving DecidableEq

namespace Config

/-- A configuration with some of the fields filled in. -/
def sample : Config where
  links :=
    [{  address := "/dev/ttyUSB0"
        baudRate := 9600
        parity := .none
        stopBits := 2
        poll := true
        pollIntervalMs := 1000
        pollCommands :=
          [[0x01, 0x03, 0x00, 0x00, 0x00, 0x0A, 0xC5, 0xCD],
            [0x01, 0x04, 0x00, 0x10, 0x00, 0x02, 0x70, 0x0E]] },
      { address := "/dev/ttyUSB1", timeoutMs := some 500, retries := 5 }]

/-- The texts that occur a second time, in the order of their second occurrences, where `before`
holds what came before. -/
def repeatedIn (before : List String) : List String → List String
  | [] => []
  | a :: rest =>
    if before.count a = 1 then a :: repeatedIn (a :: before) rest
    else repeatedIn (a :: before) rest

/-- The addresses that more than one link has, in the order of their second occurrences. -/
def repeatedAddresses (c : Config) : List String := repeatedIn [] (c.links.map (·.address))

/-- Checks the links one after another, the first of them having the given index. -/
def validateFrom (index : Nat) : List LinkConfig → Except LinkError Unit
  | [] => .ok ()
  | link :: rest =>
    match link.options.validate with
    | .ok () => validateFrom (index + 1) rest
    | .error e =>
      .error (.badConfig ("The link with index " ++ toString index ++
        " (zero indexed) is not valid. Problem: " ++ e.message))

/-- Checks that no two links drive the same port. -/
def validateAddresses (c : Config) : Except LinkError Unit :=
  if c.repeatedAddresses = [] then .ok ()
  else
    .error (.badConfig ("A port can only be driven by one link. Duplicates: " ++
      Text.quoteList c.repeatedAddresses))

/-- Checks each link, and then that no port appears twice. -/
def validate (c : Config) : Except LinkError Unit := do
  validateFrom 0 c.links
  c.validateAddresses

end Config

end FieldLink
