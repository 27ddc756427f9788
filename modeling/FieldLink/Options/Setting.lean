import FieldLink.Options.Basic

/-!
# Settings of the options of a link

The options of a link are put together from settings, one option each, in any order.  An option that
is set again has the value that it was given last, and one that is not set has its default.
-/

namespace FieldLink.LinkOptions

/-- A setting of an option. -/
inductive Setting where
  | baudRate (n : UInt32)
  | dataBits (n : UInt8)
  | stopBits (n : UInt8)
  | parity (p : Parity)
  | timeout (d : Duration)
  | retries (n : UInt64)
  | poll (b : Bool)
  | pollInterval (d : Duration)
  | queueCapacity (n : UInt64)
  | rs485 (r : Rs485)

/-- The options with one of them as the setting says. -/
def Setting.apply (o : LinkOptions) : Setting → LinkOptions
  | baudRate n => { o with framing.baudRate := n }
  | dataBits n => { o with framing.dataBits := n }
  | stopBits n => { o with framing.stopBits := n }
  | parity p => { o with framing.parity := p }
  | timeout d => { o with givenTimeout := some d }
  | retries n => { o with retries := n }
  | poll b => { o with poll := b }
  | pollInterval d => { o with pollInterval := d }
  | queueCapacity n => { o with queueCapacity := n }
  | rs485 r => { o with rs485 := r }

/-- The options of the link at an address, with the given settings. -/
def ofSettings (address : String) (settings : List Setting) : LinkOptions :=
  { settings.foldl Setting.apply { address } with address }

end FieldLink.LinkOptions
