import FieldLink.Config.Setting

/-!
# Writing a configuration

A configuration is written with one field or item a line, each behind four blanks for every level
that it is inside, and with a comma behind it.  `Config.text` writes all settings of all links, and
`Config.textOf` any choice of settings in any order.
-/

namespace FieldLink.Config

/-- A new line at a level. -/
def newLine (level : Nat) : List Char := '\n' :: List.replicate (4 * level) ' '

/-- Items between brackets at a level, on lines of their own one level further in. -/
def layOut (level : Nat) (opening closing : Char) (items : List (List Char)) : List Char :=
  if items = [] then [opening, closing]
  else
    opening :: items.flatMap (fun item => newLine (level + 1) ++ item ++ [',']) ++
      newLine level ++ [closing]

/-- A field with its value. -/
def fieldText (name : String) (value : List Char) : List Char := name.toList ++ [':', ' '] ++ value

/-- A number in decimal digits. -/
def numberText (n : Nat) : List Char := Nat.toDigits 10 n

/-- A truth value. -/
def boolText (b : Bool) : List Char := (if b then "true" else "false").toList

/-- An option: its content, or the word for nothing. -/
def optionText {α : Type} (content : α → List Char) : Option α → List Char
  | some a => content a
  | none => "None".toList

/-- A list at a level. -/
def listText {α : Type} (level : Nat) (item : α → List Char) (items : List α) : List Char :=
  layOut level '[' ']' (items.map item)

/-- A record at a level, of whose settings the texts are given. -/
def recordText (level : Nat) (settings : List (List Char)) : List Char :=
  layOut level '(' ')' settings

end FieldLink.Config

namespace FieldLink

open Config

/-- A setting of a duration. -/
def Duration.Setting.text : Duration.Setting → List Char
  | seconds n => fieldText "secs" (numberText n)
  | nanoseconds n => fieldText "nanos" (numberText n)

/-- A duration at a level. -/
def Duration.text (level : Nat) (d : Duration) : List Char :=
  recordText level (d.settings.map Duration.Setting.text)

/-- A setting of an adapter at a level. -/
def Rs485.Setting.text (level : Nat) : Rs485.Setting → List Char
  | enabled b => fieldText "enabled" (boolText b)
  | delayRtsBeforeSend d => fieldText "delay_rts_before_send" (d.text level)
  | delayRtsAfterSend d => fieldText "delay_rts_after_send" (d.text level)
  | rtsHighDuringSend b => fieldText "rts_high_during_send" (boolText b)
  | rtsHighAfterSend b => fieldText "rts_high_after_send" (boolText b)
  | rxDuringTx b => fieldText "rx_during_tx" (boolText b)

/-- The settings of an adapter at a level. -/
def Rs485.text (level : Nat) (r : Rs485) : List Char :=
  recordText level (r.settings.map (Rs485.Setting.text (level + 1)))

/-- A setting of a link at a level. -/
def LinkConfig.Setting.text (level : Nat) : LinkConfig.Setting → List Char
  | address s => fieldText "address" (Text.quote true s)
  | baudRate n => fieldText "baud_rate" (numberText n.toNat)
  | dataBits n => fieldText "data_bits" (numberText n.toNat)
  | stopBits n => fieldText "stop_bits" (numberText n.toNat)
  | parity p => fieldText "parity" p.word.toList
  | timeoutMs n => fieldText "timeout_ms" (optionText (fun n => numberText n.toNat) n)
  | retries n => fieldText "retries" (numberText n.toNat)
  | poll b => fieldText "poll" (boolText b)
  | pollIntervalMs n => fieldText "poll_interval_ms" (numberText n.toNat)
  | queueCapacity n => fieldText "queue_capacity" (numberText n.toNat)
  | pollCommands commands =>
    fieldText "poll_commands"
      (listText level (listText (level + 1) (fun b : UInt8 => numberText b.toNat)) commands)
  | rs485 r => fieldText "rs485" (optionText (Rs485.text level) r)

namespace Config

/-- The text of a configuration whose links have the given settings. -/
def textOf (links : List (List LinkConfig.Setting)) : String :=
  let link (settings : List LinkConfig.Setting) :=
    recordText 2 (settings.map (LinkConfig.Setting.text 3))
  String.ofList (recordText 0 [fieldText "links" (listText 1 link links)])

/-- The text of a configuration, with all settings of its links. -/
def text (c : Config) : String := textOf (c.links.map LinkConfig.settings)

end Config

end FieldLink
