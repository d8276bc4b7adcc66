import SourceUpgrade.Analysis.Codec
import SourceUpgrade.Proofs.Outcome
import SourceUpgrade.Proofs.Snapshot.RoundTrip

namespace SourceUpgrade

open Json (Fields Value)

/-!
# Analyses that are read as they were written

What can be read in many forms is written in one: every named field is there, and every group of
fields is an object. The only part of an analysis that is not a named field are the further fields of
references; an analysis that has been read is `Sound`, which says how these are, and a sound analysis
without floats among them is read back from its text.
-/

namespace Analysis

/-! ## Meanings of lists and of fields that may be missing -/

section

variable {α : Type} {meaning? : Value → Option α} {default result : α} {found : Option Value}

theorem mapM_cons_eq_some_iff
    {item : Value}
    {items : List Value}
    {results : List α} :
    (item :: items).mapM meaning? = some results ↔
      ∃ first rest,
        meaning? item = some first ∧ items.mapM meaning? = some rest ∧ results = first :: rest := by
  simp only [List.mapM_cons, Option.bind_eq_bind, Option.bind_eq_some_iff]
  constructor
  · rintro ⟨first, ofItem, rest, ofItems, same⟩
    exact ⟨first, rest, ofItem, ofItems, (Option.some.inj same).symm⟩
  · rintro ⟨first, rest, ofItem, ofItems, rfl⟩
    exact ⟨first, ofItem, rest, ofItems, rfl⟩

/-- The meanings in a list are those of its items, one after the other. -/
theorem forall₂_of_mapM
    {items : List Value}
    {results : List α}
    (described : items.mapM meaning? = some results) :
    List.Forall₂ (fun item result => meaning? item = some result) items results := by
  induction items generalizing results with
  | nil =>
      obtain rfl : [] = results := Option.some.inj described
      exact .nil
  | cons item items inductionHypothesis =>
      obtain ⟨first, rest, ofItem, ofItems, rfl⟩ := mapM_cons_eq_some_iff.mp described
      exact .cons ofItem (inductionHypothesis ofItems)

/-- Every meaning in a list is that of an item. -/
theorem exists_of_mem_mapM
    {items : List Value}
    {results : List α}
    (described : items.mapM meaning? = some results)
    (member : result ∈ results) :
    ∃ item ∈ items, meaning? item = some result := by
  induction items generalizing results with
  | nil =>
      obtain rfl : [] = results := Option.some.inj described
      cases member
  | cons item items inductionHypothesis =>
      obtain ⟨first, rest, ofItem, ofItems, rfl⟩ := mapM_cons_eq_some_iff.mp described
      rcases List.mem_cons.mp member with rfl | later
      · exact ⟨item, List.mem_cons_self, ofItem⟩
      · obtain ⟨other, inItems, ofOther⟩ := inductionHypothesis ofItems later
        exact ⟨other, List.mem_cons_of_mem _ inItems, ofOther⟩

/-- Items that are written so as to be read back are read back in a list. -/
theorem mapM_map_eq_some
    {write : α → Value}
    {results : List α}
    (each : ∀ result ∈ results, meaning? (write result) = some result) :
    (results.map write).mapM meaning? = some results := by
  induction results with
  | nil =>
      rfl
  | cons first rest inductionHypothesis =>
      obtain ⟨ofFirst, ofRest⟩ := List.forall_mem_cons.mp each
      exact mapM_cons_eq_some_iff.mpr ⟨first, rest, ofFirst, inductionHypothesis ofRest, rfl⟩

/-- A field has its default or the meaning of its value. -/
theorem eq_default_or_of_optional?
    (described : optional? meaning? default found = some result) :
    result = default ∨ ∃ value, found = some value ∧ meaning? value = some result := by
  unfold optional? at described
  split at described
  · exact .inl (Option.some.inj described).symm
  · exact .inl (Option.some.inj described).symm
  · exact .inr ⟨_, rfl, described⟩

/-- What is listed in a field is the meaning of an item. -/
theorem exists_of_mem_optional?_list?
    {results : List α}
    (described : optional? (list? meaning?) [] found = some results)
    (member : result ∈ results) :
    ∃ items, found = some (.array items) ∧ ∃ item ∈ items, meaning? item = some result := by
  rcases eq_default_or_of_optional? described with rfl | ⟨value, isFound, ofValue⟩
  · cases member
  · cases value with
    | array items =>
        exact ⟨items, isFound, exists_of_mem_mapM ofValue member⟩
    | null | bool | number | string | object =>
        cases ofValue

theorem optional?_list?_map
    {write : α → Value}
    {results : List α}
    (each : ∀ result ∈ results, meaning? (write result) = some result) :
    optional? (list? meaning?) [] (some (.array (results.map write))) = some results :=
  mapM_map_eq_some each

theorem optional?_ofStrings (texts : List String) :
    optional? (list? Value.string?) [] (some (.ofStrings texts)) = some texts :=
  optional?_list?_map fun _ _ => rfl

end

/-- The second of two fields, given by name or by place, is within their value. -/
theorem asRead_of_pairOf?
    {first second : String}
    {depth : Nat}
    {value inner : Value}
    {held : Option Value}
    (asRead : value.AsRead depth)
    (pair : pairOf? first second value = some (held, some inner)) :
    inner.AsRead (depth - 1) := by
  cases asRead with
  | null | bool | number | string =>
      cases pair
  | array _ each =>
      unfold pairOf? at pair
      dsimp only at pair
      split at pair
      · obtain ⟨-, found⟩ := Prod.mk.inj (Option.some.inj pair)
        exact each inner (List.mem_of_getElem? found)
      · cases pair
  | object _ ascending each =>
      obtain ⟨-, found⟩ := Prod.mk.inj (Option.some.inj pair)
      exact each _ ((Fields.get?_eq_some_iff ascending.nodup_keys).mp found)

/-- Two fields are given by an object that has them. -/
theorem pairOf?_record
    {first second : String}
    (differ : first ≠ second)
    (firstValue secondValue : Value) :
    pairOf? first second (.record [(first, firstValue), (second, secondValue)]) =
      some (some firstValue, some secondValue) := by
  have besides : Fields.Besides first second 0 [] := ⟨differ, .nil, nofun, nofun, nofun⟩
  rw [Value.record, pairOf?, besides.get?_sorted_first, besides.get?_sorted_second]

end Analysis

open Analysis

/-! ## What is read -/

/-- A reference as it is read: its further fields are in order and have other keys than its own. -/
def Reference.Sound (reference : Reference) : Prop :=
  Fields.Besides "url" "snippet" (Json.nestingLimit - 5) reference.extra

/-- An analysis as it is read. -/
def Analysis.Sound (analysis : Analysis) : Prop :=
  ∀ entry ∈ analysis.guidance, ∀ reference ∈ entry.references, reference.Sound

/-- No further field of a reference has a float in it. -/
def Analysis.IsIntegral (analysis : Analysis) : Prop :=
  ∀ entry ∈ analysis.guidance, ∀ reference ∈ entry.references, Integral reference.extra

/-- An object is a reference if its named fields are texts, null or missing. -/
theorem Reference.ofJson?_eq_some_iff
    {fields : Fields}
    {reference : Reference} :
    Reference.ofJson? (.object fields) = some reference ↔
      optional? Value.string? "" (fields.get? "url") = some reference.url ∧
        optional? Value.string? "" (fields.get? "snippet") = some reference.snippet ∧
          reference.extra = (fields.erase "url").erase "snippet" := by
  simp only [ofJson?, Option.bind_eq_bind, Option.bind_eq_some_iff]
  constructor
  · rintro ⟨url, ofUrl, snippet, ofSnippet, same⟩
    obtain rfl := Option.some.inj same
    exact ⟨ofUrl, ofSnippet, rfl⟩
  · rintro ⟨ofUrl, ofSnippet, extra⟩
    refine ⟨reference.url, ofUrl, reference.snippet, ofSnippet, ?_⟩
    rw [← extra]
    rfl

/-- What is read as files to look at are two lists of texts. -/
theorem PrioritizedFiles.ofJson?_eq_some_iff
    {value : Value}
    {files : PrioritizedFiles} :
    PrioritizedFiles.ofJson? value = some files ↔
      ∃ risky all,
        pairOf? "risky_first" "all_package_files" value = some (risky, all) ∧
          optional? (list? Value.string?) [] risky = some files.riskyFirst ∧
            optional? (list? Value.string?) [] all = some files.allPackageFiles := by
  simp only [ofJson?, Option.bind_eq_bind, Option.bind_eq_some_iff]
  constructor
  · rintro ⟨⟨risky, all⟩, isPair, first, ofRisky, second, ofAll, same⟩
    obtain rfl := Option.some.inj same
    exact ⟨risky, all, isPair, ofRisky, ofAll⟩
  · rintro ⟨risky, all, isPair, ofRisky, ofAll⟩
    exact ⟨(risky, all), isPair, _, ofRisky, _, ofAll, rfl⟩

/-- What is read as an entry is a topic and a list of references. -/
theorem GuidanceEntry.ofJson?_eq_some_iff
    {value : Value}
    {entry : GuidanceEntry} :
    GuidanceEntry.ofJson? value = some entry ↔
      ∃ topic references,
        pairOf? "topic" "references" value = some (topic, references) ∧
          optional? Value.string? defaultTopic topic = some entry.topic ∧
            optional? (list? Reference.ofJson?) [] references = some entry.references := by
  simp only [ofJson?, Option.bind_eq_bind, Option.bind_eq_some_iff]
  constructor
  · rintro ⟨⟨topic, references⟩, isPair, first, ofTopic, second, ofReferences, same⟩
    obtain rfl := Option.some.inj same
    exact ⟨topic, references, isPair, ofTopic, ofReferences⟩
  · rintro ⟨topic, references, isPair, ofTopic, ofReferences⟩
    exact ⟨(topic, references), isPair, _, ofTopic, _, ofReferences, rfl⟩

/-- What is read as an analysis are its five fields. -/
theorem Analysis.ofFields?_eq_some_iff
    {fields : Fields}
    {analysis : Analysis} :
    Analysis.ofFields? fields = some analysis ↔
      optional? Value.string? "" (fields.get? "package") = some analysis.package ∧
        optional? Value.string? "" (fields.get? "current_version") =
            some analysis.currentVersion ∧
          optional? Value.string? "" (fields.get? "target_version") =
              some analysis.targetVersion ∧
            optional? PrioritizedFiles.ofJson? .none (fields.get? "prioritized_files") =
                some analysis.prioritized ∧
              optional? (list? GuidanceEntry.ofJson?) [] (fields.get? "rag_guidance") =
                some analysis.guidance := by
  simp only [ofFields?, Option.bind_eq_bind, Option.bind_eq_some_iff]
  constructor
  · rintro ⟨package, ofPackage, current, ofCurrent, target, ofTarget, files, ofFiles, guidance,
      ofGuidance, same⟩
    obtain rfl := Option.some.inj same
    exact ⟨ofPackage, ofCurrent, ofTarget, ofFiles, ofGuidance⟩
  · rintro ⟨ofPackage, ofCurrent, ofTarget, ofFiles, ofGuidance⟩
    exact ⟨_, ofPackage, _, ofCurrent, _, ofTarget, _, ofFiles, _, ofGuidance, rfl⟩

/-- A reference that has been read is sound. -/
theorem Reference.sound_of_ofJson?
    {value : Value}
    {reference : Reference}
    (asRead : value.AsRead (Json.nestingLimit - 4))
    (described : Reference.ofJson? value = some reference) :
    reference.Sound := by
  cases asRead with
  | null | bool | number | string | array =>
      cases described
  | object _ ascending each =>
      obtain ⟨-, -, extra⟩ := ofJson?_eq_some_iff.mp described
      rw [Sound, extra]
      exact .of_erase (by decide) ascending each

/-- The references of an entry that has been read are sound. -/
theorem GuidanceEntry.sound_of_ofJson?
    {value : Value}
    {entry : GuidanceEntry}
    (asRead : value.AsRead (Json.nestingLimit - 2))
    (described : GuidanceEntry.ofJson? value = some entry) :
    ∀ reference ∈ entry.references, reference.Sound := by
  intro reference member
  obtain ⟨topic, references, isPair, -, ofReferences⟩ := ofJson?_eq_some_iff.mp described
  obtain ⟨items, rfl, item, inItems, ofItem⟩ := exists_of_mem_optional?_list? ofReferences member
  cases asRead_of_pairOf? asRead isPair with
  | array _ each =>
      exact Reference.sound_of_ofJson? (each item inItems) ofItem

namespace Analysis

theorem ofJson_object_eq_ok_iff
    {fields : Fields}
    {analysis : Analysis} :
    ofJson (.object fields) = .ok analysis ↔ ofFields? fields = some analysis := by
  cases described : ofFields? fields <;> simp [ofJson, described]

theorem read_eq_ok_iff
    {payload : String}
    {analysis : Analysis} :
    Analysis.read payload = .ok analysis ↔
      ∃ fields : Fields,
        Json.read payload = .ok (.object fields) ∧ ofFields? fields = some analysis := by
  unfold read
  cases Json.read payload with
  | error fault =>
      simp
  | ok value =>
      cases value with
      | object fields =>
          simp [ofJson_object_eq_ok_iff]
      | null | bool | number | string | array =>
          simp [ofJson]

/-- The analysis that is read from a payload is sound. -/
theorem sound_of_read
    {payload : String}
    {analysis : Analysis}
    (accepted : Analysis.read payload = .ok analysis) :
    analysis.Sound := by
  obtain ⟨fields, isRead, described⟩ := read_eq_ok_iff.mp accepted
  obtain ⟨-, -, -, -, ofGuidance⟩ := ofFields?_eq_some_iff.mp described
  intro entry member
  obtain ⟨items, found, item, inItems, ofItem⟩ := exists_of_mem_optional?_list? ofGuidance member
  cases Json.asRead_of_read isRead with
  | object _ ascending each =>
      cases each _ ((Fields.get?_eq_some_iff ascending.nodup_keys).mp found) with
      | array _ eachItem =>
          exact GuidanceEntry.sound_of_ofJson? (eachItem item inItems) ofItem

end Analysis

/-! ## What is written -/

theorem nesting_ofStrings_le (texts : List String) : (Value.ofStrings texts).nesting ≤ 1 := by
  refine Nat.succ_le_succ (Json.nestingItems_le_iff.mpr ?_)
  intro item member
  obtain ⟨text, -, rfl⟩ := List.mem_map.mp member
  exact Nat.zero_le _

theorem normal_ofStrings (texts : List String) :
    (Value.ofStrings texts).normal = .ofStrings texts := by
  rw [Value.ofStrings, Value.normal, Json.normalItems_eq_map, List.map_map]
  rfl

theorem not_mem_numbers_ofStrings
    {texts : List String}
    {number : Json.Number} :
    number ∉ (Value.ofStrings texts).numbers := by
  intro within
  obtain ⟨item, member, within⟩ := Json.mem_numbersItems.mp within
  obtain ⟨text, -, rfl⟩ := List.mem_map.mp member
  cases within

/-- Files to look at are read back. -/
theorem PrioritizedFiles.ofJson?_toJson (files : PrioritizedFiles) :
    PrioritizedFiles.ofJson? files.toJson.normal = some files := by
  have normal :
      files.toJson.normal =
        .record
          [("risky_first", .ofStrings files.riskyFirst),
            ("all_package_files", .ofStrings files.allPackageFiles)] := by
    simp only [toJson, Value.normal, Json.normalFields, normal_ofStrings]
  rw [normal]
  exact ofJson?_eq_some_iff.mpr
    ⟨_, _, pairOf?_record (by decide) _ _, optional?_ofStrings _, optional?_ofStrings _⟩

/-- A sound reference is read back. -/
theorem Reference.Sound.ofJson?_toJson
    {reference : Reference}
    (sound : reference.Sound) :
    Reference.ofJson? reference.toJson.normal = some reference := by
  rw [toJson, sound.normal_object, Value.record]
  refine ofJson?_eq_some_iff.mpr ⟨?_, ?_, (sound.erase_erase_sorted _ _).symm⟩
  · rw [sound.get?_sorted_first]
    rfl
  · rw [sound.get?_sorted_second]
    rfl

/-- An entry with sound references is read back. -/
theorem GuidanceEntry.ofJson?_toJson
    {entry : GuidanceEntry}
    (sound : ∀ reference ∈ entry.references, reference.Sound) :
    GuidanceEntry.ofJson? entry.toJson.normal = some entry := by
  have normal :
      entry.toJson.normal =
        .record
          [("topic", .string entry.topic),
            ("references",
              .array (entry.references.map fun reference => reference.toJson.normal))] := by
    simp only [toJson, Value.normal, Json.normalFields, Json.normalItems_eq_map, List.map_map]
    rfl
  have ofReferences :=
    optional?_list?_map fun reference member => (sound reference member).ofJson?_toJson
  rw [normal]
  exact ofJson?_eq_some_iff.mpr ⟨_, _, pairOf?_record (by decide) _ _, rfl, ofReferences⟩

/-! ## How deep texts nest, and their numbers -/

theorem PrioritizedFiles.nesting_toJson_le (files : PrioritizedFiles) :
    files.toJson.nesting ≤ 2 := by
  refine Nat.succ_le_succ (Json.nestingFields_le_iff.mpr ?_)
  exact List.forall_mem_cons.mpr
    ⟨nesting_ofStrings_le _, List.forall_mem_singleton.mpr (nesting_ofStrings_le _)⟩

theorem GuidanceEntry.nesting_toJson_le
    {entry : GuidanceEntry}
    (sound : ∀ reference ∈ entry.references, reference.Sound) :
    entry.toJson.nesting ≤ Json.nestingLimit - 2 := by
  have references :
      (Value.array (entry.references.map Reference.toJson)).nesting ≤ Json.nestingLimit - 3 := by
    refine Nat.succ_le_succ (m := Json.nestingLimit - 4) (Json.nestingItems_le_iff.mpr ?_)
    intro item member
    obtain ⟨reference, inEntry, rfl⟩ := List.mem_map.mp member
    exact (sound reference inEntry).nesting_object_le _ _
  refine Nat.succ_le_succ (m := Json.nestingLimit - 3) (Json.nestingFields_le_iff.mpr ?_)
  exact List.forall_mem_cons.mpr ⟨Nat.zero_le _, List.forall_mem_singleton.mpr references⟩

theorem PrioritizedFiles.not_mem_numbers_toJson
    {files : PrioritizedFiles}
    {number : Json.Number} :
    number ∉ files.toJson.numbers := by
  intro within
  obtain ⟨field, member, within⟩ := Json.mem_numbersFields.mp within
  rcases List.mem_cons.mp member with rfl | member
  · exact not_mem_numbers_ofStrings within
  · obtain rfl := List.mem_singleton.mp member
    exact not_mem_numbers_ofStrings within

/-- The numbers of an entry are those of the further fields of its references. -/
theorem GuidanceEntry.mem_numbers_toJson
    {entry : GuidanceEntry}
    {number : Json.Number}
    (within : number ∈ entry.toJson.numbers) :
    ∃ reference ∈ entry.references, ∃ field ∈ reference.extra, number ∈ field.2.numbers := by
  obtain ⟨field, member, within⟩ := Json.mem_numbersFields.mp within
  rcases List.mem_cons.mp member with rfl | member
  · cases within
  · obtain rfl := List.mem_singleton.mp member
    obtain ⟨item, inItems, within⟩ := Json.mem_numbersItems.mp within
    obtain ⟨reference, inEntry, rfl⟩ := List.mem_map.mp inItems
    exact ⟨reference, inEntry, Fields.Besides.mem_numbers_object _ _ within⟩

namespace Analysis

variable {analysis : Analysis}

/-- A sound analysis nests within the limit of the reader. -/
theorem Sound.nesting_toJson_le
    (sound : analysis.Sound) :
    analysis.toJson.nesting ≤ Json.nestingLimit := by
  have guidance :
      (Value.array (analysis.guidance.map GuidanceEntry.toJson)).nesting ≤
        Json.nestingLimit - 1 := by
    refine Nat.succ_le_succ (m := Json.nestingLimit - 2) (Json.nestingItems_le_iff.mpr ?_)
    intro item member
    obtain ⟨entry, inGuidance, rfl⟩ := List.mem_map.mp member
    exact GuidanceEntry.nesting_toJson_le (sound entry inGuidance)
  have files : analysis.prioritized.toJson.nesting ≤ Json.nestingLimit - 1 :=
    (PrioritizedFiles.nesting_toJson_le _).trans (by decide)
  refine Nat.succ_le_succ (m := Json.nestingLimit - 1) (Json.nestingFields_le_iff.mpr ?_)
  intro field member
  simp only [List.mem_cons, List.not_mem_nil, or_false] at member
  rcases member with rfl | rfl | rfl | rfl | rfl
  · exact Nat.zero_le _
  · exact Nat.zero_le _
  · exact Nat.zero_le _
  · exact files
  · exact guidance

/-- The numbers of an analysis are those of the further fields of its references. -/
theorem mem_numbers_toJson
    {number : Json.Number}
    (within : number ∈ analysis.toJson.numbers) :
    ∃ entry ∈ analysis.guidance,
      ∃ reference ∈ entry.references, ∃ field ∈ reference.extra, number ∈ field.2.numbers := by
  obtain ⟨field, member, within⟩ := Json.mem_numbersFields.mp within
  simp only [List.mem_cons, List.not_mem_nil, or_false] at member
  rcases member with rfl | rfl | rfl | rfl | rfl
  · cases within
  · cases within
  · cases within
  · exact absurd within PrioritizedFiles.not_mem_numbers_toJson
  · obtain ⟨item, inItems, within⟩ := Json.mem_numbersItems.mp within
    obtain ⟨entry, inGuidance, rfl⟩ := List.mem_map.mp inItems
    exact ⟨entry, inGuidance, GuidanceEntry.mem_numbers_toJson within⟩

/-- A sound analysis is read back from its fields in order. -/
theorem Sound.ofJson_toJson
    (sound : analysis.Sound) :
    ofJson analysis.toJson.normal = .ok analysis := by
  let fields : Fields :=
    [("package", .string analysis.package),
      ("current_version", .string analysis.currentVersion),
      ("target_version", .string analysis.targetVersion),
      ("prioritized_files", analysis.prioritized.toJson.normal),
      ("rag_guidance", .array (analysis.guidance.map fun entry => entry.toJson.normal))]
  have normal : analysis.toJson.normal = .object fields.sorted := by
    simp only [toJson, Value.normal, Json.normalFields, Json.normalItems_eq_map, List.map_map]
    rfl
  have different : fields.keys.Nodup := by
    have names :
        ["package", "current_version", "target_version", "prioritized_files",
          "rag_guidance"].Nodup := by
      decide
    exact names
  have described : ofFields? fields.sorted = some analysis := by
    simp only [ofFields?_eq_some_iff, Fields.get?_sorted different]
    refine ⟨rfl, rfl, rfl, ?_, ?_⟩
    · exact PrioritizedFiles.ofJson?_toJson _
    · exact optional?_list?_map fun entry member =>
        GuidanceEntry.ofJson?_toJson (sound entry member)
  rw [normal]
  exact ofJson_object_eq_ok_iff.mpr described

/-- A sound analysis without floats is read back from its text. -/
theorem Sound.read_write
    (sound : analysis.Sound)
    (integral : analysis.IsIntegral) :
    Analysis.read analysis.write = .ok analysis := by
  have inRange : ∀ number ∈ analysis.toJson.numbers, number.InRange := by
    intro number within
    obtain ⟨entry, inGuidance, reference, inEntry, field, member, within⟩ :=
      mem_numbers_toJson within
    exact ((sound entry inGuidance reference inEntry).asRead field member).inRange within
  have isInteger : ∀ number ∈ analysis.toJson.numbers, number.IsInteger := by
    intro number within
    obtain ⟨entry, inGuidance, reference, inEntry, field, member, within⟩ :=
      mem_numbers_toJson within
    exact integral entry inGuidance reference inEntry field member number within
  have same : analysis.toJson.reread = analysis.toJson :=
    Value.reread_eq_self fun number within =>
      (inRange number within).reread_eq (isInteger number within)
  have readBack : Json.read analysis.write = .ok analysis.toJson.normal := by
    rw [write, Json.read_pretty inRange sound.nesting_toJson_le, same]
  rw [Analysis.read, readBack]
  exact sound.ofJson_toJson

end Analysis

end SourceUpgrade
