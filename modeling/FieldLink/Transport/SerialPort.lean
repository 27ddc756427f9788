import FieldLink.Options.Basic

/-!
# Serial ports

What the driver of a serial port is told to open, and what it refuses.  The counts of bits are
judged before the port is looked for.  Whether there is a port is for the operating system to say,
and a port that cannot be opened is reported in its words.
-/

namespace FieldLink

namespace SerialPort

/-- The counts of data bits that a port can be set to. -/
inductive DataBits where
  | five
  | six
  | seven
  | eight
  deriving DecidableEq, Repr

/-- The counts of stop bits that a port can be set to. -/
inductive StopBits where
  | one
  | two
  deriving DecidableEq, Repr

/-- The setting for a count of data bits. -/
def dataBits (f : Framing) : Except LinkError DataBits :=
  if f.dataBits = 5 then .ok .five
  else if f.dataBits = 6 then .ok .six
  else if f.dataBits = 7 then .ok .seven
  else if f.dataBits = 8 then .ok .eight
  else .error (.badConfig (Framing.dataBitsProblem f.dataBits))

/-- The setting for a count of stop bits. -/
def stopBits (f : Framing) : Except LinkError StopBits :=
  if f.stopBits = 1 then .ok .one
  else if f.stopBits = 2 then .ok .two
  else .error (.badConfig (Framing.stopBitsProblem f.stopBits))

/-- What a port is opened with. -/
structure Settings where
  path : String
  baudRate : UInt32
  dataBits : DataBits
  stopBits : StopBits
  parity : Parity
  timeout : Duration
  deriving DecidableEq

/-- The settings of the port that a link runs on. -/
def settings (o : LinkOptions) : Except LinkError Settings := do
  let dataBits ← dataBits o.framing
  let stopBits ← stopBits o.framing
  pure ⟨o.address, o.framing.baudRate, dataBits, stopBits, o.framing.parity, o.timeout⟩

/-- Opens the port that a link runs on.  The system answers the settings with a port, or with its
words for why there is none. -/
def openWith {Port : Type} (system : Settings → Except String Port) (o : LinkOptions) :
    Except LinkError Port := do
  let s ← settings o
  (system s).mapError (.connection s.path)

end SerialPort

end FieldLink
