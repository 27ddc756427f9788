import FieldLink.Proofs.Config.Records

/-!
# Configurations to text and back

The text of a configuration holds that configuration (`ofText_text`).  More generally `textOf` may
be given any settings of the links in any order: they are read as the links that they make up
(`read?_textOf`).
-/

namespace FieldLink

open Config

/-! ## Durations -/

theorem Duration.seconds_lt (d : Duration) : d.seconds < UInt64.size := by
  have bound := d.nanoseconds_lt
  unfold seconds
  omega

theorem Duration.subsecond_lt (d : Duration) : d.subsecond < UInt32.size := by
  have bound : d.subsecond < 1_000_000_000 := Nat.mod_lt _ (by decide)
  exact Nat.lt_trans bound (by decide)

theorem Duration.reads {level fuel : Nat} (d : Duration) (enough : (d.text level).length < fuel) :
    Reads (Duration.read fuel) (d.text level) d := by
  refine (reads_record enough ?_).filterMap d.ofSeconds?_seconds
  intro s mem _
  rcases List.mem_pair.1 mem with rfl | rfl
  · exact reads_field (by decide) rfl ((reads_natural d.seconds_lt).map _)
  · exact reads_field (by decide) rfl ((reads_natural d.subsecond_lt).map _)

/-! ## Adapters of two-wire lines -/

theorem length_lt_of_fieldText {name : String} {value : List Char} {fuel : Nat}
    (enough : (fieldText name value).length < fuel) : value.length < fuel := by
  rw [fieldText, List.length_append] at enough
  omega

/-- Each setting of an adapter is read as it is written. -/
theorem Rs485.Setting.reads {level fuel : Nat} {unknown : List Char → Option (List Char)}
    (s : Rs485.Setting) (enough : (s.text level).length < fuel) :
    Reads (readField (Rs485.read.known fuel) unknown) (s.text level) (some s) := by
  cases s with
  | enabled b | rtsHighDuringSend b | rtsHighAfterSend b | rxDuringTx b =>
    exact reads_field (by decide) rfl ((reads_bool b).map _)
  | delayRtsBeforeSend d | delayRtsAfterSend d =>
    exact reads_field (by decide) rfl ((d.reads (length_lt_of_fieldText enough)).map _)

theorem Rs485.ofSettings?_settings (r : Rs485) : Rs485.ofSettings? r.settings = some r := by
  have fields : r.settings.map Setting.field = Field.all := rfl
  have made : r.settings.foldl Setting.apply { } = r := rfl
  rw [ofSettings?, fields, made]
  exact if_pos (by decide)

theorem Rs485.reads {level fuel : Nat} (r : Rs485) (enough : (r.text level).length < fuel) :
    Reads (Rs485.read fuel) (r.text level) r := by
  refine (reads_record enough ?_).filterMap r.ofSettings?_settings
  intro s _ short
  exact s.reads short

/-! ## Links -/

theorem reads_byte (n : UInt8) : Reads readByte (numberText n.toNat) n := by
  have read := (reads_natural n.toNat_lt).map UInt8.ofNat
  rwa [UInt8.ofNat_toNat] at read

theorem reads_u64 (n : UInt64) : Reads readU64 (numberText n.toNat) n := by
  have read := (reads_natural n.toNat_lt).map UInt64.ofNat
  rwa [UInt64.ofNat_toNat] at read

theorem reads_timeout (n : Option UInt64) :
    Reads (readOption readU64) (optionText (fun n => numberText n.toNat) n) n := by
  refine reads_option (fun n _ => reads_u64 n) fun n _ => ?_
  refine startsWith_mono (startsWith_numberText n.toNat) fun c digit => ?_
  rw [Bool.and_eq_true, decide_eq_true_eq, decide_eq_true_eq]
  constructor <;> rintro rfl <;> cases digit

theorem reads_rs485 {level fuel : Nat} {r : Option Rs485}
    (enough : (optionText (Rs485.text level) r).length < fuel) :
    Reads (readOption (Rs485.read fuel)) (optionText (Rs485.text level) r) r := by
  apply reads_option
  · rintro r rfl
    exact r.reads enough
  · intro r _
    rfl

theorem reads_frames {level fuel : Nat} {commands : List Frame}
    (enough : (listText level (listText (level + 1) fun b : UInt8 => numberText b.toNat)
      commands).length < fuel) :
    Reads (readList (readList readByte fuel) fuel)
      (listText level (listText (level + 1) fun b : UInt8 => numberText b.toNat) commands)
      commands := by
  refine reads_list_self enough fun bytes _ short => ?_
  exact reads_list_self short fun n _ _ => reads_byte n

/-- Each setting of a link is read as it is written. -/
theorem LinkConfig.Setting.reads {level fuel : Nat} {unknown : List Char → Option (List Char)}
    (s : LinkConfig.Setting) (enough : (s.text level).length < fuel) :
    Reads (readField (LinkConfig.readSetting fuel) unknown) (s.text level) (some s) := by
  cases s with
  | address s => exact reads_field (by decide) rfl ((reads_text s).map _)
  | baudRate n =>
    have read := (reads_natural n.toNat_lt).map (LinkConfig.Setting.baudRate ∘ UInt32.ofNat)
    rw [Function.comp_apply, UInt32.ofNat_toNat] at read
    exact reads_field (by decide) rfl read
  | dataBits n | stopBits n => exact reads_field (by decide) rfl ((reads_byte n).map _)
  | parity p => exact reads_field (by decide) rfl ((reads_parity p).map _)
  | timeoutMs n => exact reads_field (by decide) rfl ((reads_timeout n).map _)
  | retries n | pollIntervalMs n | queueCapacity n =>
    exact reads_field (by decide) rfl ((reads_u64 n).map _)
  | poll b => exact reads_field (by decide) rfl ((reads_bool b).map _)
  | pollCommands commands =>
    exact reads_field (by decide) rfl ((reads_frames (length_lt_of_fieldText enough)).map _)
  | rs485 r =>
    exact reads_field (by decide) rfl ((reads_rs485 (length_lt_of_fieldText enough)).map _)

@[simp]
theorem LinkConfig.field_setting (link : LinkConfig) (f : Field) : (link.setting f).field = f := by
  cases f <;> rfl

theorem LinkConfig.map_field_setting (link : LinkConfig) (fields : List Field) :
    (fields.map link.setting).map Setting.field = fields := by
  simp [Function.comp_def]

theorem LinkConfig.foldl_apply_settings (link : LinkConfig) :
    link.settings.foldl Setting.apply { address := "" } = link := by
  cases link
  rfl

/-- A chosen field is set to what is written for it. -/
theorem LinkConfig.settingIn?_of_mem {link : LinkConfig} {fields : List Field} {f : Field}
    (chosen : f ∈ fields) :
    Field.settingIn? (fields.map link.setting) f = some (link.setting f) := by
  have isSome : (fields.find? (· = f)).isSome := by simpa [List.find?_isSome] using chosen
  obtain ⟨g, found⟩ := Option.isSome_iff_exists.1 isSome
  obtain rfl : g = f := by simpa using List.find?_some found
  have named : (fun s : Setting => decide (s.field = g)) ∘ link.setting = fun f => decide (f = g) :=
    funext fun f => by rw [Function.comp_apply, field_setting]
  have written : (fields.map link.setting).find? (·.field = g) = some (link.setting g) := by
    rw [List.find?_map, named, found, Option.map_some]
  rw [Field.settingIn?, written, Option.some_or]

/-- A field that is not chosen is set to its default. -/
theorem LinkConfig.settingIn?_of_notMem {link : LinkConfig} {fields : List Field} {f : Field}
    (omitted : f ∉ fields) : Field.settingIn? (fields.map link.setting) f = f.default? := by
  have missing : (fields.map link.setting).find? (·.field = f) = none := by
    simpa [List.find?_eq_none] using fun g mem (same : g = f) => omitted (same ▸ mem)
  rw [Field.settingIn?, missing, Option.none_or]

/-- The settings of some fields make up the link if those of the others are the defaults. -/
theorem LinkConfig.ofSettings?_map_setting {link : LinkConfig} {fields : List Field}
    (once : fields.Nodup) (defaults : ∀ f ∉ fields, f.default? = some (link.setting f)) :
    LinkConfig.ofSettings? (fields.map link.setting) = some link := by
  have each : Field.settingIn? (fields.map link.setting) = fun f => pure (link.setting f) := by
    funext f
    by_cases chosen : f ∈ fields
    · exact settingIn?_of_mem chosen
    · exact (settingIn?_of_notMem chosen).trans (defaults f chosen)
  have all : Field.all.mapM (Field.settingIn? (fields.map link.setting)) = some link.settings := by
    rw [each]
    exact List.mapM_pure
  simp only [ofSettings?, all, map_field_setting, Option.bind_eq_bind, Option.bind_some, once,
    if_true, foldl_apply_settings]

theorem LinkConfig.ofSettings?_settings (link : LinkConfig) :
    LinkConfig.ofSettings? link.settings = some link := by
  refine ofSettings?_map_setting (by decide) fun f omitted => absurd ?_ omitted
  cases f <;> decide

/-- The settings of a link are read as the link that they make up. -/
theorem LinkConfig.reads {level fuel : Nat} {settings : List LinkConfig.Setting} {link : LinkConfig}
    (made : LinkConfig.ofSettings? settings = some link)
    (enough : (recordText level (settings.map (Setting.text (level + 1)))).length < fuel) :
    Reads (LinkConfig.read fuel) (recordText level (settings.map (Setting.text (level + 1))))
      link := by
  refine (reads_record enough ?_).filterMap made
  intro s _ short
  exact s.reads short

namespace Config

/-! ## Configurations -/

theorem read_links {ι : Type} {indices : List ι} {word : ι → List Char} {link : ι → LinkConfig}
    {fuel : Nat} (enough : (recordText 0 [fieldText "links" (listText 1 word indices)]).length < fuel)
    (reads : ∀ i ∈ indices, (word i).length < fuel →
      Reads (LinkConfig.read fuel) (word i) (link i)) :
    Config.read fuel (recordText 0 [fieldText "links" (listText 1 word indices)]) =
      some (⟨indices.map link⟩, []) := by
  have record : readRecord "Config" (readLinks fuel) (skipValue fuel (maxDepth - 2)) fuel
      (recordText 0 ([indices.map link].map fun _ => fieldText "links" (listText 1 word indices)) ++
        []) = some ([indices.map link], []) := by
    refine readRecord_recordText enough ?_ []
    intro links mem short
    obtain rfl := List.mem_singleton.1 mem
    exact reads_field (by decide) rfl (reads_list (length_lt_of_fieldText short) reads)
  rw [List.append_nil] at record
  exact Option.bind_eq_some_iff.2 ⟨_, record, rfl⟩

/-- What is written of links is read as the links that it makes up. -/
theorem read?_textOf {ι : Type} {indices : List ι} {settings : ι → List LinkConfig.Setting}
    {link : ι → LinkConfig}
    (made : ∀ i ∈ indices, LinkConfig.ofSettings? (settings i) = some (link i)) :
    read? (textOf (indices.map settings)) = some ⟨indices.map link⟩ := by
  let text := recordText 0 [fieldText "links" (listText 1
    (fun i => recordText 2 ((settings i).map (LinkConfig.Setting.text 3))) indices)]
  have is_text : (textOf (indices.map settings)).toList = text := by
    rw [textOf, String.toList_ofList, listText, List.map_map]
    rfl
  have start : skipBlank text = some text := skipBlank_cons (by decide) _
  have features : skipFeatures (text.length + 1) text = some text := rfl
  have ends : skipBlank [] = some [] := rfl
  have read : Config.read (text.length + 1) text = some (⟨indices.map link⟩, []) :=
    read_links (Nat.lt_succ_self _) fun i mem short => LinkConfig.reads (made i mem) short
  simp [read?, is_text, start, features, read, ends]

/-- The text of a configuration is read as that configuration. -/
theorem ofText_text (c : Config) : ofText c.text = .ok c := by
  have read : read? c.text = some ⟨c.links.map id⟩ :=
    read?_textOf fun link _ => link.ofSettings?_settings
  rw [ofText, read, List.map_id]

end Config

end FieldLink
