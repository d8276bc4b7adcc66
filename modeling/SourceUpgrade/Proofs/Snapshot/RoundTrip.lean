import Mathlib.Data.List.Basic
import SourceUpgrade.Proofs.Json.AsRead
import SourceUpgrade.Proofs.Snapshot.Contents
import SourceUpgrade.Snapshot.Codec

namespace SourceUpgrade

open Json (Fields Value)

/-!
# Snapshots that are read as they were written

A snapshot that has been read is `Sound`: its further fields have none of the keys with a meaning,
and a label that is no text stands among them only if there is no other. Setting contents keeps it
so, and a sound snapshot is read back from its text with the numbers of its further fields read
again; without floats it is read back as it is.
-/

/-! ## What is read -/

/-- No value of these fields has a float in it. -/
def Integral (fields : Fields) : Prop :=
  ∀ field ∈ fields, ∀ number ∈ field.2.numbers, number.IsInteger

/-- A file as it is read: its further fields are in order and have other keys than its own. -/
structure SourceFile.Sound (file : SourceFile) : Prop where
  ascending : Fields.Ascending file.extra
  asRead : ∀ field ∈ file.extra, field.2.AsRead (Json.nestingLimit - 3)
  noPath : "path" ∉ Fields.keys file.extra
  noContent : "content" ∉ Fields.keys file.extra

/-- A snapshot as it is read: its further fields are in order and have other keys than its own. -/
structure Snapshot.Sound (snapshot : Snapshot) : Prop where
  ascending : Fields.Ascending snapshot.extra
  asRead : ∀ field ∈ snapshot.extra, field.2.AsRead (Json.nestingLimit - 1)
  noFiles : "files" ∉ Fields.keys snapshot.extra
  noLabel : snapshot.label ≠ "" → "label" ∉ Fields.keys snapshot.extra
  otherLabel : ∀ text, Fields.get? snapshot.extra "label" ≠ some (.string text)
  files : ∀ file ∈ snapshot.files, file.Sound

/-- No further field of a snapshot or of its files has a float in it. -/
structure Snapshot.IsIntegral (snapshot : Snapshot) : Prop where
  extra : Integral snapshot.extra
  files : ∀ file ∈ snapshot.files, Integral file.extra

theorem string?_eq_some_iff
    {value : Value}
    {text : String} :
    value.string? = some text ↔ value = .string text := by
  cases value <;> simp [Value.string?]

/-- An object is a file if it has a text as path and a text or null as content. -/
theorem SourceFile.ofJson?_eq_some_iff
    {fields : Fields}
    {file : SourceFile} :
    SourceFile.ofJson? (.object fields) = some file ↔
      fields.get? "path" = some (.string file.path) ∧
        (fields.get? "content" = some (.string file.content) ∨
          fields.get? "content" = some .null ∧ file.content = "") ∧
        file.extra = (fields.erase "path").erase "content" := by
  constructor
  · intro described
    simp only [ofJson?, Option.bind_eq_bind, Option.bind_eq_some_iff] at described
    obtain ⟨path, ⟨value, foundPath, isText⟩, described⟩ := described
    obtain rfl := string?_eq_some_iff.mp isText
    split at described
    · rename_i foundContent
      obtain rfl := Option.some.inj described
      exact ⟨foundPath, Or.inl foundContent, rfl⟩
    · rename_i foundContent
      obtain rfl := Option.some.inj described
      exact ⟨foundPath, Or.inr ⟨foundContent, rfl⟩, rfl⟩
    · cases described
  · rintro ⟨foundPath, content, extra⟩
    obtain ⟨path, content, extra⟩ := file
    rcases content with foundContent | ⟨foundContent, rfl⟩
    · simp_all [ofJson?, Value.string?]
    · simp_all [ofJson?, Value.string?]

/-- Files with different paths are a snapshot. -/
theorem Snapshot.ofFiles_eq_ok_iff
    {files : List SourceFile}
    {label : String}
    {extra : Fields}
    {snapshot : Snapshot} :
    Snapshot.ofFiles files label extra = .ok snapshot ↔
      snapshot.files = files ∧ snapshot.label = label ∧ snapshot.extra = extra := by
  unfold ofFiles
  split
  · rename_i path repeated
    constructor
    · intro failed
      cases failed
    · rintro ⟨rfl, _, _⟩
      have distinct := (firstRepeated?_eq_none_iff _).mpr snapshot.distinctPaths
      rw [distinct] at repeated
      cases repeated
  · constructor
    · intro made
      obtain rfl := Except.ok.inj made
      exact ⟨rfl, rfl, rfl⟩
    · rintro ⟨rfl, rfl, rfl⟩
      rfl

/-- An object is a snapshot if it has a list of files with different paths. -/
theorem Snapshot.ofFields_eq_ok_iff
    {fields : Fields}
    {snapshot : Snapshot} :
    Snapshot.ofFields fields = .ok snapshot ↔
      ∃ entries, fields.get? "files" = some (.array entries) ∧
        snapshot.files = entries.filterMap SourceFile.ofJson? ∧
        (fields.get? "label" = some (.string snapshot.label) ∧
            snapshot.extra = (fields.erase "files").erase "label" ∨
          (∀ text, fields.get? "label" ≠ some (.string text)) ∧
            snapshot.label = "" ∧ snapshot.extra = fields.erase "files") := by
  unfold ofFields
  split
  · rename_i entries foundFiles
    simp only [foundFiles, Option.some.injEq, Value.array.injEq, exists_eq_left']
    split
    · rename_i label foundLabel
      rw [ofFiles_eq_ok_iff]
      constructor
      · rintro ⟨files, rfl, extra⟩
        exact ⟨files, Or.inl ⟨foundLabel, extra⟩⟩
      · rintro ⟨files, ⟨sameLabel, extra⟩ | ⟨noLabel, _⟩⟩
        · obtain rfl : label = snapshot.label := by simpa [foundLabel] using sameLabel
          exact ⟨files, rfl, extra⟩
        · exact absurd foundLabel (noLabel label)
    · rename_i noLabel
      rw [ofFiles_eq_ok_iff]
      constructor
      · rintro ⟨files, label, extra⟩
        exact ⟨files, Or.inr ⟨noLabel, label, extra⟩⟩
      · rintro ⟨files, ⟨foundLabel, _⟩ | ⟨_, label, extra⟩⟩
        · exact absurd foundLabel (noLabel _)
        · exact ⟨files, label, extra⟩
  · rename_i noFiles
    constructor
    · intro failed
      cases failed
    · rintro ⟨entries, foundFiles, _⟩
      exact absurd foundFiles (noFiles entries)

/-- A file that has been read is sound. -/
theorem SourceFile.sound_of_ofJson?
    {entry : Value}
    {file : SourceFile}
    (asRead : entry.AsRead (Json.nestingLimit - 2))
    (described : SourceFile.ofJson? entry = some file) :
    file.Sound := by
  cases asRead with
  | null | bool | number | string | array =>
      cases described
  | object allowed ascending each =>
      obtain ⟨_, _, extra⟩ := ofJson?_eq_some_iff.mp described
      have besides := Fields.Besides.of_erase (by decide : "path" ≠ "content") ascending each
      rw [← extra] at besides
      exact ⟨besides.ascending, besides.asRead, besides.noFirst, besides.noSecond⟩

namespace Snapshot

theorem read_eq_ok_iff
    {payload : String}
    {snapshot : Snapshot} :
    Snapshot.read payload = .ok snapshot ↔
      ∃ fields : Fields, Json.read payload = .ok (.object fields) ∧
        ofFields fields = .ok snapshot := by
  unfold read
  cases Json.read payload with
  | error fault =>
      simp
  | ok value =>
      cases value <;> simp [ofJson]

/-- The snapshot that is read from an object is sound. -/
theorem sound_of_ofFields
    {fields : Fields}
    {snapshot : Snapshot}
    (asRead : (Value.object fields).AsRead Json.nestingLimit)
    (described : ofFields fields = .ok snapshot) :
    snapshot.Sound := by
  obtain ⟨entries, foundFiles, files, labelled⟩ := ofFields_eq_ok_iff.mp described
  cases asRead with
  | object allowed ascending each =>
      have filesSound : ∀ file ∈ snapshot.files, file.Sound := by
        intro file member
        rw [files] at member
        obtain ⟨entry, inEntries, described⟩ := List.mem_filterMap.mp member
        have inFields := (Fields.get?_eq_some_iff ascending.nodup_keys).mp foundFiles
        cases each _ inFields with
        | array _ eachEntry =>
            exact SourceFile.sound_of_ofJson? (eachEntry entry inEntries) described
      rcases labelled with ⟨_, extra⟩ | ⟨noLabel, empty, extra⟩
      · have without : "label" ∉ Fields.keys snapshot.extra := by
          rw [extra]
          exact Fields.not_mem_keys_erase _ _
        refine ⟨?_, ?_, ?_, fun _ => without, ?_, filesSound⟩
        · rw [extra]
          exact (ascending.erase "files").erase "label"
        · intro field member
          rw [extra] at member
          exact each field (Fields.mem_erase.mp (Fields.mem_erase.mp member).1).1
        · rw [extra]
          exact Fields.not_mem_keys_erase_erase _ _ _
        · intro text
          rw [Fields.get?_eq_none_iff.mpr without]
          exact nofun
      · refine ⟨?_, ?_, ?_, fun nonempty => absurd empty nonempty, ?_, filesSound⟩
        · rw [extra]
          exact ascending.erase "files"
        · intro field member
          rw [extra] at member
          exact each field (Fields.mem_erase.mp member).1
        · rw [extra]
          exact Fields.not_mem_keys_erase _ _
        · intro text
          rw [extra, Fields.get?_erase_of_ne (by decide)]
          exact noLabel text

end Snapshot

/-! ## Numbers that are read again -/

/-- Fields without floats have their numbers read as they were written. -/
theorem rereadFields_eq_self
    {depth : Nat}
    {fields : Fields}
    (asRead : ∀ field ∈ fields, field.2.AsRead depth)
    (integral : Integral fields) :
    Json.rereadFields fields = fields := by
  rw [Json.rereadFields_eq_map]
  refine (List.map_congr_left ?_).trans (List.map_id' _)
  intro field member
  refine Prod.ext rfl (Value.reread_eq_self ?_)
  intro number within
  exact ((asRead field member).inRange within).reread_eq (integral field member number within)

/-- A file with the numbers of its further fields read again. -/
def SourceFile.reread (file : SourceFile) : SourceFile where
  path := file.path
  content := file.content
  extra := Json.rereadFields file.extra

/-- A snapshot with the numbers of all its further fields read again. -/
def Snapshot.reread (snapshot : Snapshot) : Snapshot where
  files := snapshot.files.map SourceFile.reread
  label := snapshot.label
  extra := Json.rereadFields snapshot.extra
  distinctPaths := by
    rw [List.map_map]
    exact snapshot.distinctPaths

theorem Snapshot.reread_toJson (snapshot : Snapshot) :
    snapshot.toJson.reread = snapshot.reread.toJson := by
  have files :
      (Value.array (snapshot.files.map SourceFile.toJson)).reread =
        .array (snapshot.reread.files.map SourceFile.toJson) := by
    rw [Value.reread, Json.rereadItems_eq_map, Snapshot.reread, List.map_map, List.map_map]
    rfl
  rw [toJson, toJson, Value.reread, toFields, toFields]
  by_cases empty : snapshot.label.isEmpty
  · simp [Json.rereadFields, empty, files, reread]
  · simp [Json.rereadFields, empty, files, reread, Value.reread_eq_string_iff.mpr rfl]

theorem SourceFile.Sound.reread
    {file : SourceFile}
    (sound : file.Sound) :
    file.reread.Sound where
  ascending := sound.ascending.rereadFields
  asRead := Json.asRead_rereadFields sound.asRead
  noPath := by
    rw [SourceFile.reread, Json.keys_rereadFields]
    exact sound.noPath
  noContent := by
    rw [SourceFile.reread, Json.keys_rereadFields]
    exact sound.noContent

/-! ## What is written -/

namespace SourceFile.Sound

variable {file : SourceFile}

/-- The further fields of a file have other keys than its own. -/
theorem besides
    (sound : file.Sound) :
    Fields.Besides "path" "content" (Json.nestingLimit - 3) file.extra :=
  ⟨by decide, sound.ascending, sound.asRead, sound.noPath, sound.noContent⟩

theorem normal_toJson
    (sound : file.Sound) :
    file.toJson.normal =
      .record (("path", .string file.path) :: ("content", .string file.content) :: file.extra) :=
  sound.besides.normal_object _ _

theorem ofJson?_toJson
    (sound : file.Sound) :
    SourceFile.ofJson? file.toJson.normal = some file := by
  have besides := sound.besides
  rw [sound.normal_toJson, Value.record]
  exact ofJson?_eq_some_iff.mpr
    ⟨besides.get?_sorted_first _ _, .inl (besides.get?_sorted_second _ _),
      (besides.erase_erase_sorted _ _).symm⟩

theorem nesting_toJson_le
    (sound : file.Sound) :
    file.toJson.nesting ≤ Json.nestingLimit - 2 :=
  sound.besides.nesting_object_le _ _

theorem inRange_of_mem_numbers
    (sound : file.Sound)
    {number : Json.Number}
    (within : number ∈ file.toJson.numbers) :
    number.InRange := by
  obtain ⟨field, member, within⟩ := Fields.Besides.mem_numbers_object _ _ within
  exact (sound.asRead field member).inRange within

end SourceFile.Sound

namespace Snapshot

/-- The fields that are written besides the files. -/
def fieldsBesideFiles (snapshot : Snapshot) : Fields :=
  if snapshot.label.isEmpty then snapshot.extra
  else ("label", .string snapshot.label) :: snapshot.extra

theorem fieldsBesideFiles_of_empty
    {snapshot : Snapshot}
    (empty : snapshot.label = "") :
    snapshot.fieldsBesideFiles = snapshot.extra := by
  rw [fieldsBesideFiles, empty]
  rfl

theorem fieldsBesideFiles_of_nonempty
    {snapshot : Snapshot}
    (nonempty : snapshot.label ≠ "") :
    snapshot.fieldsBesideFiles = ("label", .string snapshot.label) :: snapshot.extra := by
  rw [fieldsBesideFiles, if_neg (by simpa using nonempty)]

/-- All fields as they are read back, the files first. -/
def readBackFields (snapshot : Snapshot) : Fields :=
  ("files", .array (snapshot.files.map fun file => file.toJson.normal)) ::
    snapshot.fieldsBesideFiles

theorem mem_toFields
    {snapshot : Snapshot}
    {field : String × Value}
    (member : field ∈ snapshot.toFields) :
    field = ("label", .string snapshot.label) ∨
      field = ("files", .array (snapshot.files.map SourceFile.toJson)) ∨
        field ∈ snapshot.extra := by
  rw [toFields] at member
  split at member
  · exact Or.inr (by simpa using member)
  · simpa using member

namespace Sound

variable {snapshot : Snapshot}

theorem nodup_keys
    (sound : snapshot.Sound) :
    (Fields.keys snapshot.readBackFields).Nodup := by
  rw [readBackFields]
  by_cases empty : snapshot.label = ""
  · rw [fieldsBesideFiles_of_empty empty]
    exact List.nodup_cons.mpr ⟨sound.noFiles, sound.ascending.nodup_keys⟩
  · rw [fieldsBesideFiles_of_nonempty empty]
    exact List.nodup_cons.mpr
      ⟨List.not_mem_cons_of_ne_of_not_mem (by decide : "files" ≠ "label") sound.noFiles,
        List.nodup_cons.mpr ⟨sound.noLabel empty, sound.ascending.nodup_keys⟩⟩

theorem normalFields_fieldsBesideFiles
    (sound : snapshot.Sound) :
    Json.normalFields snapshot.fieldsBesideFiles = snapshot.fieldsBesideFiles := by
  have extraNormal : Json.normalFields snapshot.extra = snapshot.extra :=
    Value.AsRead.normalFields_eq sound.asRead
  rw [fieldsBesideFiles]
  split
  · exact extraNormal
  · rw [Json.normalFields, extraNormal]
    rfl

/-- A snapshot is read back as an object with its fields in order. -/
theorem normal_toJson
    (sound : snapshot.Sound) :
    snapshot.toJson.normal = .record snapshot.readBackFields := by
  have written :
      snapshot.toFields.Perm
        (("files", .array (snapshot.files.map SourceFile.toJson)) ::
          snapshot.fieldsBesideFiles) := by
    rw [toFields, fieldsBesideFiles]
    split
    · exact .refl _
    · exact .swap _ _ _
  have filesNormal :
      (Value.array (snapshot.files.map SourceFile.toJson)).normal =
        .array (snapshot.files.map fun file => file.toJson.normal) := by
    rw [Value.normal, Json.normalItems_eq_map, List.map_map]
    rfl
  have readBack : (Json.normalFields snapshot.toFields).Perm snapshot.readBackFields := by
    rw [Json.normalFields_eq_map]
    refine (written.map _).trans (.of_eq ?_)
    rw [← Json.normalFields_eq_map, Json.normalFields, filesNormal,
      sound.normalFields_fieldsBesideFiles]
    rfl
  exact congrArg Value.object (Fields.sorted_congr sound.nodup_keys readBack)

theorem filterMap_ofJson?
    (sound : snapshot.Sound) :
    (snapshot.files.map fun file => file.toJson.normal).filterMap SourceFile.ofJson? =
      snapshot.files := by
  rw [List.filterMap_map]
  refine (List.filterMap_congr ?_).trans List.filterMap_some
  intro file member
  exact (sound.files file member).ofJson?_toJson

/-- A snapshot is read back from its fields in order. -/
theorem ofFields_readBackFields
    (sound : snapshot.Sound) :
    ofFields snapshot.readBackFields.sorted = .ok snapshot := by
  have different := sound.nodup_keys
  have withoutFiles :
      snapshot.readBackFields.sorted.erase "files" = snapshot.fieldsBesideFiles.sorted :=
    Fields.erase_sorted_cons different
  have labelLookup :
      snapshot.readBackFields.sorted.get? "label" = snapshot.fieldsBesideFiles.get? "label" := by
    rw [Fields.get?_sorted different, readBackFields, Fields.get?_cons, if_neg (by decide)]
  have differentLater := (List.nodup_cons.mp different).2
  refine ofFields_eq_ok_iff.mpr
    ⟨snapshot.files.map fun file => file.toJson.normal, ?_, sound.filterMap_ofJson?.symm, ?_⟩
  · rw [Fields.get?_sorted different, readBackFields, Fields.get?_cons, if_pos rfl]
  · rw [withoutFiles, labelLookup]
    by_cases empty : snapshot.label = ""
    · rw [fieldsBesideFiles_of_empty empty, Fields.sorted_of_ascending sound.ascending]
      exact Or.inr ⟨sound.otherLabel, empty, rfl⟩
    · rw [fieldsBesideFiles_of_nonempty empty] at differentLater ⊢
      rw [Fields.get?_cons, if_pos rfl, Fields.erase_sorted_cons differentLater,
        Fields.sorted_of_ascending sound.ascending]
      exact Or.inl ⟨rfl, rfl⟩

/-- A snapshot nests within the limit of the reader. -/
theorem nesting_toJson_le
    (sound : snapshot.Sound) :
    snapshot.toJson.nesting ≤ Json.nestingLimit := by
  have files :
      (Value.array (snapshot.files.map SourceFile.toJson)).nesting ≤ Json.nestingLimit - 1 := by
    refine Nat.succ_le_succ (m := Json.nestingLimit - 2) (Json.nestingItems_le_iff.mpr ?_)
    intro item member
    obtain ⟨file, inFiles, rfl⟩ := List.mem_map.mp member
    exact (sound.files file inFiles).nesting_toJson_le
  have extra : ∀ field ∈ snapshot.extra, field.2.nesting ≤ Json.nestingLimit - 1 :=
    fun field member => (sound.asRead field member).nesting_le
  refine Nat.succ_le_succ (m := Json.nestingLimit - 1) (Json.nestingFields_le_iff.mpr ?_)
  intro field member
  rcases mem_toFields member with rfl | rfl | inExtra
  · exact Nat.zero_le _
  · exact files
  · exact extra field inExtra

/-- The integers of a snapshot have 64 bits. -/
theorem inRange_of_mem_numbers
    (sound : snapshot.Sound)
    {number : Json.Number}
    (within : number ∈ snapshot.toJson.numbers) :
    number.InRange := by
  obtain ⟨field, member, within⟩ := Json.mem_numbersFields.mp within
  rcases mem_toFields member with rfl | rfl | inExtra
  · cases within
  · obtain ⟨item, inItems, within⟩ := Json.mem_numbersItems.mp within
    obtain ⟨file, inFiles, rfl⟩ := List.mem_map.mp inItems
    exact (sound.files file inFiles).inRange_of_mem_numbers within
  · exact (sound.asRead field inExtra).inRange within

/-- Numbers that are read again leave a snapshot sound. -/
theorem reread
    (sound : snapshot.Sound) :
    snapshot.reread.Sound where
  ascending := sound.ascending.rereadFields
  asRead := Json.asRead_rereadFields sound.asRead
  noFiles := by
    rw [Snapshot.reread, Json.keys_rereadFields]
    exact sound.noFiles
  noLabel nonempty := by
    rw [Snapshot.reread, Json.keys_rereadFields]
    exact sound.noLabel nonempty
  otherLabel text found := by
    refine sound.otherLabel text ?_
    rw [Snapshot.reread, Fields.get?_eq_some_iff sound.ascending.rereadFields.nodup_keys,
      Json.rereadFields_eq_map] at found
    obtain ⟨⟨key, value⟩, member, same⟩ := List.mem_map.mp found
    obtain ⟨rfl, isText⟩ := Prod.mk.inj same
    obtain rfl := Value.reread_eq_string_iff.mp isText
    exact (Fields.get?_eq_some_iff sound.ascending.nodup_keys).mpr member
  files file member := by
    obtain ⟨before, inFiles, rfl⟩ := List.mem_map.mp member
    exact (sound.files before inFiles).reread

/-- A snapshot is read as an object, with the numbers of its further fields read again. -/
theorem readFields_write
    (sound : snapshot.Sound) :
    Json.read snapshot.write = .ok (.record snapshot.reread.readBackFields) := by
  rw [← sound.reread.normal_toJson, ← reread_toJson]
  exact Json.read_pretty (fun _ => sound.inRange_of_mem_numbers) sound.nesting_toJson_le

/-- A snapshot is read back, with the numbers of its further fields read again. -/
theorem read_write_reread
    (sound : snapshot.Sound) :
    Snapshot.read snapshot.write = .ok snapshot.reread :=
  read_eq_ok_iff.mpr ⟨_, sound.readFields_write, sound.reread.ofFields_readBackFields⟩

/-- Without floats all numbers are read as they were written. -/
theorem reread_eq_self
    (sound : snapshot.Sound)
    (integral : snapshot.IsIntegral) :
    snapshot.reread = snapshot := by
  refine eq_of_files_eq ?_ rfl (rereadFields_eq_self sound.asRead integral.extra)
  refine (List.map_congr_left ?_).trans (List.map_id' _)
  intro file member
  rw [SourceFile.reread, rereadFields_eq_self (sound.files file member).asRead
    (integral.files file member)]

theorem read_write_fields
    (sound : snapshot.Sound)
    (integral : snapshot.IsIntegral) :
    Json.read snapshot.write = .ok (.record snapshot.readBackFields) := by
  rw [sound.readFields_write, sound.reread_eq_self integral]

theorem read_write
    (sound : snapshot.Sound)
    (integral : snapshot.IsIntegral) :
    Snapshot.read snapshot.write = .ok snapshot := by
  rw [sound.read_write_reread, sound.reread_eq_self integral]

/-- Whatever contents are changed, a snapshot stays sound. -/
theorem mapContents
    (sound : snapshot.Sound)
    (change : String → String → String) :
    (snapshot.mapContents change).Sound := by
  refine ⟨sound.ascending, sound.asRead, sound.noFiles, sound.noLabel, sound.otherLabel, ?_⟩
  intro file member
  obtain ⟨before, inFiles, rfl⟩ := List.mem_map.mp member
  have beforeSound := sound.files before inFiles
  exact ⟨beforeSound.ascending, beforeSound.asRead, beforeSound.noPath, beforeSound.noContent⟩

theorem setContent
    (sound : snapshot.Sound)
    (path content : String) :
    (snapshot.setContent path content).Sound := by
  rw [setContent_eq_mapContents]
  exact sound.mapContents _

end Sound

/-- The snapshot that is read from a payload is sound. -/
theorem sound_of_read
    {payload : String}
    {snapshot : Snapshot}
    (accepted : Snapshot.read payload = .ok snapshot) :
    snapshot.Sound := by
  obtain ⟨fields, readPayload, described⟩ := read_eq_ok_iff.mp accepted
  exact sound_of_ofFields (Json.asRead_of_read readPayload) described

theorem IsIntegral.setContent
    {snapshot : Snapshot}
    (integral : snapshot.IsIntegral)
    (path content : String) :
    (snapshot.setContent path content).IsIntegral := by
  refine ⟨integral.extra, ?_⟩
  intro file member
  obtain ⟨before, inFiles, rfl⟩ := List.mem_map.mp member
  unfold replaceIn
  split
  · exact integral.files before inFiles
  · exact integral.files before inFiles

/-- Whatever contents are set, a sound snapshot without floats stays one. -/
theorem Sound.foldl_setContent
    {snapshot : Snapshot}
    (sound : snapshot.Sound)
    (integral : snapshot.IsIntegral)
    (changes : List (String × String)) :
    let changed := changes.foldl (fun copy change => copy.setContent change.1 change.2) snapshot
    changed.Sound ∧ changed.IsIntegral := by
  induction changes generalizing snapshot with
  | nil =>
      exact ⟨sound, integral⟩
  | cons change changes inductionHypothesis =>
      exact inductionHypothesis (sound.setContent change.1 change.2)
        (integral.setContent change.1 change.2)

end Snapshot

end SourceUpgrade
