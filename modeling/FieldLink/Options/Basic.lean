import FieldLink.Options.Framing

/-!
# Options of a link

What a link is opened with.  An option that is not given has the default that stands beside its
field.  Two times follow from the framing: the deadline of a single read or write, unless it is
given, and the pause between two exchanges.  `LinkOptions.validate` says which options describe a
link that may be opened.
-/

namespace FieldLink

/-- Settings of an adapter for a shared two-wire line.  They are handed on as they are. -/
structure Rs485 where
  enabled : Bool := false
  delayRtsBeforeSend : Duration := .zero
  delayRtsAfterSend : Duration := .zero
  rtsHighDuringSend : Bool := false
  rtsHighAfterSend : Bool := false
  rxDuringTx : Bool := false
  deriving DecidableEq

/-- The characters of the largest chunk that is read at once, and the packet that times are derived
for. -/
def packetSize : UInt64 := 15

/-- The deadline of a link whose framing gives none. -/
def fallbackTimeout : Duration := .ofMilliseconds 130

/-- The options of one serial link. -/
structure LinkOptions where
  /-- The name of the port. -/
  address : String
  framing : Framing := { }
  /-- The deadline of a single read or write, if it does not follow from the framing. -/
  givenTimeout : Option Duration := none
  /-- How often a frame is written before it is dropped. -/
  retries : UInt64 := 3
  /-- Whether poll commands are sent periodically. -/
  poll : Bool := false
  /-- The time between two poll cycles. -/
  pollInterval : Duration := .ofMilliseconds 5000
  /-- How many frames may wait to be written. -/
  queueCapacity : UInt64 := 16
  rs485 : Rs485 := { }
  deriving DecidableEq

namespace LinkOptions

/-- The time that a packet takes on the line, if the framing gives one. -/
def packetTime (o : LinkOptions) : Except LinkError Duration :=
  o.framing.transferTime packetSize

/-- The deadline of a single read or write. -/
def timeout (o : LinkOptions) : Duration :=
  match o.givenTimeout, o.packetTime with
  | some d, _ => d
  | none, .ok d => d
  | none, .error _ => fallbackTimeout

/-- The pause between the end of an exchange and the start of the next. -/
def interFrameDelay (o : LinkOptions) : Duration :=
  match o.packetTime with
  | .ok d => d
  | .error _ => o.timeout

/-- The address and the framing in short, such as `COM3 19200-8E1`. -/
def text (o : LinkOptions) : String :=
  o.address ++ " " ++ toString o.framing.baudRate.toNat ++ "-" ++
    toString o.framing.dataBits.toNat ++ o.framing.parity.letter ++
    toString o.framing.stopBits.toNat

/-- Checks that the options describe a link that may be opened. -/
def validate (o : LinkOptions) : Except LinkError Unit :=
  let refuse (problem : String) := .error (.badConfig ("`" ++ o.address ++ "`: " ++ problem))
  if o.address = "" then .error (.badConfig "the address cannot be empty")
  else
    match o.packetTime with
    | .error e => refuse e.message
    | .ok _ =>
      if o.framing.parity = .none ∧ o.framing.stopBits ≠ 2 then
        refuse ("no parity requires 2 stop bits, got " ++ toString o.framing.stopBits.toNat)
      else if o.queueCapacity = 0 then
        refuse "the write queue needs room for at least one frame"
      else .ok ()

end LinkOptions

end FieldLink
