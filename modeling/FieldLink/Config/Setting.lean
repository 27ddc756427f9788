import FieldLink.Config.Basic

/-!
# Settings

A record of a configuration is written as settings: fields with their values, in any order, each
field at most once, fields with a default perhaps not at all.  This file holds the settings of a
link, of the adapter of a two-wire line, and of a duration, and for each record

* `settings`, all its settings in the order of their writing, and
* `ofSettings?`, the record that some settings make up, if they do.
-/

namespace FieldLink

/-! ## Durations -/

/-- A setting of a duration: a part of it. -/
inductive Duration.Setting where
  | seconds (n : Nat)
  | nanoseconds (n : Nat)

namespace Duration

/-- All settings of a duration. -/
def settings (d : Duration) : List Setting := [.seconds d.seconds, .nanoseconds d.subsecond]

/-- The duration with the given parts, both of which must be there. -/
def ofSettings? : List Setting → Option Duration
  | [.seconds s, .nanoseconds n] | [.nanoseconds n, .seconds s] => ofSeconds? s n
  | _ => none

end Duration

/-! ## Adapters of two-wire lines -/

/-- The fields of the settings of an adapter. -/
inductive Rs485.Field where
  | enabled
  | delayRtsBeforeSend
  | delayRtsAfterSend
  | rtsHighDuringSend
  | rtsHighAfterSend
  | rxDuringTx
  deriving DecidableEq

/-- A setting of an adapter. -/
inductive Rs485.Setting where
  | enabled (b : Bool)
  | delayRtsBeforeSend (d : Duration)
  | delayRtsAfterSend (d : Duration)
  | rtsHighDuringSend (b : Bool)
  | rtsHighAfterSend (b : Bool)
  | rxDuringTx (b : Bool)

namespace Rs485

/-- The field that a setting is for. -/
def Setting.field : Setting → Field
  | enabled _ => .enabled
  | delayRtsBeforeSend _ => .delayRtsBeforeSend
  | delayRtsAfterSend _ => .delayRtsAfterSend
  | rtsHighDuringSend _ => .rtsHighDuringSend
  | rtsHighAfterSend _ => .rtsHighAfterSend
  | rxDuringTx _ => .rxDuringTx

/-- The record with one field as the setting says. -/
def Setting.apply (r : Rs485) : Setting → Rs485
  | enabled b => { r with enabled := b }
  | delayRtsBeforeSend d => { r with delayRtsBeforeSend := d }
  | delayRtsAfterSend d => { r with delayRtsAfterSend := d }
  | rtsHighDuringSend b => { r with rtsHighDuringSend := b }
  | rtsHighAfterSend b => { r with rtsHighAfterSend := b }
  | rxDuringTx b => { r with rxDuringTx := b }

/-- The fields in the order of their writing. -/
def Field.all : List Field :=
  [.enabled, .delayRtsBeforeSend, .delayRtsAfterSend, .rtsHighDuringSend, .rtsHighAfterSend,
    .rxDuringTx]

/-- All settings of an adapter. -/
def settings (r : Rs485) : List Setting :=
  [.enabled r.enabled, .delayRtsBeforeSend r.delayRtsBeforeSend,
    .delayRtsAfterSend r.delayRtsAfterSend, .rtsHighDuringSend r.rtsHighDuringSend,
    .rtsHighAfterSend r.rtsHighAfterSend, .rxDuringTx r.rxDuringTx]

/-- The record with the given settings, which must set each field once. -/
def ofSettings? (settings : List Setting) : Option Rs485 :=
  let fields := settings.map Setting.field
  if fields.Nodup ∧ ∀ f ∈ Field.all, f ∈ fields then some (settings.foldl Setting.apply { })
  else none

end Rs485

/-! ## Links -/

/-- The fields of a link. -/
inductive LinkConfig.Field where
  | address
  | baudRate
  | dataBits
  | stopBits
  | parity
  | timeoutMs
  | retries
  | poll
  | pollIntervalMs
  | queueCapacity
  | pollCommands
  | rs485
  deriving DecidableEq

/-- A setting of a link. -/
inductive LinkConfig.Setting where
  | address (s : String)
  | baudRate (n : UInt32)
  | dataBits (n : UInt8)
  | stopBits (n : UInt8)
  | parity (p : Parity)
  | timeoutMs (n : Option UInt64)
  | retries (n : UInt64)
  | poll (b : Bool)
  | pollIntervalMs (n : UInt64)
  | queueCapacity (n : UInt64)
  | pollCommands (commands : List Frame)
  | rs485 (r : Option Rs485)

namespace LinkConfig

/-- The field that a setting is for. -/
def Setting.field : Setting → Field
  | address _ => .address
  | baudRate _ => .baudRate
  | dataBits _ => .dataBits
  | stopBits _ => .stopBits
  | parity _ => .parity
  | timeoutMs _ => .timeoutMs
  | retries _ => .retries
  | poll _ => .poll
  | pollIntervalMs _ => .pollIntervalMs
  | queueCapacity _ => .queueCapacity
  | pollCommands _ => .pollCommands
  | rs485 _ => .rs485

/-- The link with one field as the setting says. -/
def Setting.apply (link : LinkConfig) : Setting → LinkConfig
  | address s => { link with address := s }
  | baudRate n => { link with baudRate := n }
  | dataBits n => { link with dataBits := n }
  | stopBits n => { link with stopBits := n }
  | parity p => { link with parity := p }
  | timeoutMs n => { link with timeoutMs := n }
  | retries n => { link with retries := n }
  | poll b => { link with poll := b }
  | pollIntervalMs n => { link with pollIntervalMs := n }
  | queueCapacity n => { link with queueCapacity := n }
  | pollCommands commands => { link with pollCommands := commands }
  | rs485 r => { link with rs485 := r }

/-- The setting of a link for one field. -/
def setting (link : LinkConfig) : Field → Setting
  | .address => .address link.address
  | .baudRate => .baudRate link.baudRate
  | .dataBits => .dataBits link.dataBits
  | .stopBits => .stopBits link.stopBits
  | .parity => .parity link.parity
  | .timeoutMs => .timeoutMs link.timeoutMs
  | .retries => .retries link.retries
  | .poll => .poll link.poll
  | .pollIntervalMs => .pollIntervalMs link.pollIntervalMs
  | .queueCapacity => .queueCapacity link.queueCapacity
  | .pollCommands => .pollCommands link.pollCommands
  | .rs485 => .rs485 link.rs485

/-- The fields in the order of their writing. -/
def Field.all : List Field :=
  [.address, .baudRate, .dataBits, .stopBits, .parity, .timeoutMs, .retries, .poll,
    .pollIntervalMs, .queueCapacity, .pollCommands, .rs485]

/-- All settings of a link. -/
def settings (link : LinkConfig) : List Setting := Field.all.map link.setting

/-- What a field is set to if nothing is written for it.  The address has no such setting. -/
def Field.default? : Field → Option Setting
  | .address => none
  | .baudRate => some (.baudRate 19200)
  | .dataBits => some (.dataBits 8)
  | .stopBits => some (.stopBits 1)
  | .parity => some (.parity .even)
  | .timeoutMs => some (.timeoutMs none)
  | .retries => some (.retries 3)
  | .poll => some (.poll false)
  | .pollIntervalMs => some (.pollIntervalMs 5000)
  | .queueCapacity => some (.queueCapacity 16)
  | .pollCommands => some (.pollCommands [])
  | .rs485 => some (.rs485 none)

/-- The setting that is written for a field, or else its default. -/
def Field.settingIn? (settings : List Setting) (f : Field) : Option Setting :=
  (settings.find? (·.field = f)).or f.default?

/-- The link with the given settings, which must set the address and no field twice.  The other
fields are set to their defaults. -/
def ofSettings? (settings : List Setting) : Option LinkConfig := do
  let all ← Field.all.mapM (Field.settingIn? settings)
  if (settings.map Setting.field).Nodup then some (all.foldl Setting.apply { address := "" })
  else none

end LinkConfig

end FieldLink
