import SourceUpgrade.Proofs.Snapshot.RoundTrip

namespace SourceUpgrade.Snapshot

open Json (Fields Value)

/-!
# From a payload to a snapshot and back

Reading a payload and writing the snapshot does to the fields of the payload what `tidied` says:
entries that are no files are left out, a content that is null becomes the empty text, and an empty
label goes. Every other field stays, further fields of files and a label that is no text included.
-/

/-- A content that is null becomes the empty text; other fields stay. -/
def fillContent (field : String × Value) : String × Value :=
  if field = ("content", .null) then ("content", .string "") else field

/-- An entry that is a file, its content filled in; nothing if it is no file. -/
def tidyEntry : Value → Option Value
  | .object fields =>
      match Fields.get? fields "path", Fields.get? fields "content" with
      | some (.string _), some (.string _) => some (.object (fields.map fillContent))
      | some (.string _), some .null => some (.object (fields.map fillContent))
      | _, _ => none
  | _ => none

/-- A field of a payload: entries that are no files go, and an empty label goes. -/
def tidyField : String × Value → Option (String × Value)
  | ("files", .array entries) => some ("files", .array (entries.filterMap tidyEntry))
  | ("label", .string "") => none
  | field => some field

/-- The fields of a payload, those that have no place in a snapshot left out. -/
def tidied (fields : Fields) : Fields :=
  fields.filterMap tidyField

theorem fillContent_fst
    (field : String × Value) :
    (fillContent field).1 = field.1 := by
  unfold fillContent
  split
  · rename_i same
    rw [same]
  · rfl

theorem fillContent_of_ne
    {field : String × Value}
    (differs : field.1 ≠ "content") :
    fillContent field = field :=
  if_neg fun same => differs (congrArg Prod.fst same)

theorem fst_of_tidyField
    {field kept : String × Value}
    (isKept : tidyField field = some kept) :
    kept.1 = field.1 := by
  unfold tidyField at isKept
  split at isKept
  · obtain rfl := Option.some.inj isKept
    rfl
  · cases isKept
  · obtain rfl := Option.some.inj isKept
    rfl

theorem tidyField_of_ne
    {field : String × Value}
    (notFiles : field.1 ≠ "files")
    (notEmpty : field ≠ ("label", .string "")) :
    tidyField field = some field := by
  unfold tidyField
  split
  · exact absurd rfl notFiles
  · exact absurd rfl notEmpty
  · rfl

theorem tidied_ascending
    {fields : Fields}
    (ascending : fields.Ascending) :
    (tidied fields).Ascending := by
  refine List.Pairwise.filterMap _ ?_ ascending
  intro first second less keptFirst isFirst keptSecond isSecond
  rw [fst_of_tidyField isFirst, fst_of_tidyField isSecond]
  exact less

/-- A file is written with the fields that it was read from, its content filled in. -/
theorem toJson_of_ofJson?
    {fields : Fields}
    {file : SourceFile}
    (asRead : (Value.object fields).AsRead (Json.nestingLimit - 2))
    (described : SourceFile.ofJson? (.object fields) = some file) :
    file.toJson.normal = .object (fields.map fillContent) := by
  have sound : file.Sound := SourceFile.sound_of_ofJson? asRead described
  obtain ⟨foundPath, foundContent, extra⟩ := SourceFile.ofJson?_eq_some_iff.mp described
  have extraSame : file.extra.map fillContent = file.extra := by
    refine (List.map_congr_left ?_).trans (List.map_id _)
    intro field member
    exact fillContent_of_ne fun same => sound.noContent (same ▸ List.mem_map_of_mem member)
  cases asRead with
  | object _ ascending _ =>
      have filledAscending : Fields.Ascending (fields.map fillContent) := by
        refine List.pairwise_map.mpr (ascending.imp ?_)
        intro first second less
        rw [fillContent_fst, fillContent_fst]
        exact less
      have filled :
          (fields.map fillContent).Perm
            (("path", .string file.path) :: ("content", .string file.content) :: file.extra) := by
        rcases foundContent with foundText | ⟨foundNull, empty⟩
        · have sameFields := Fields.perm_cons_cons_erase_erase ascending.nodup_keys foundPath
            foundText (by decide)
          rw [← extra] at sameFields
          refine (sameFields.map fillContent).trans (.of_eq ?_)
          rw [List.map_cons, List.map_cons, extraSame]
          rfl
        · have sameFields := Fields.perm_cons_cons_erase_erase ascending.nodup_keys foundPath
            foundNull (by decide)
          rw [← extra] at sameFields
          refine (sameFields.map fillContent).trans (.of_eq ?_)
          rw [List.map_cons, List.map_cons, extraSame, empty]
          rfl
      rw [sound.normal_toJson]
      exact congrArg Value.object (Fields.sorted_eq_of_perm filledAscending filled.symm)

/-- An entry is tidied by reading the file that it describes and writing it. -/
theorem tidyEntry_eq
    {entry : Value}
    (asRead : entry.AsRead (Json.nestingLimit - 2)) :
    tidyEntry entry = (SourceFile.ofJson? entry).map fun file => file.toJson.normal := by
  cases entry with
  | object fields =>
      unfold tidyEntry
      dsimp only
      split
      · rename_i path content foundPath foundContent
        have described :
            SourceFile.ofJson? (.object fields) =
              some ⟨path, content, Fields.erase (Fields.erase fields "path") "content"⟩ :=
          SourceFile.ofJson?_eq_some_iff.mpr ⟨foundPath, Or.inl foundContent, rfl⟩
        rw [described, Option.map_some, toJson_of_ofJson? asRead described]
      · rename_i path foundPath foundContent
        have described :
            SourceFile.ofJson? (.object fields) =
              some ⟨path, "", Fields.erase (Fields.erase fields "path") "content"⟩ :=
          SourceFile.ofJson?_eq_some_iff.mpr ⟨foundPath, Or.inr ⟨foundContent, rfl⟩, rfl⟩
        rw [described, Option.map_some, toJson_of_ofJson? asRead described]
      · rename_i noText noNull
        have notDescribed : SourceFile.ofJson? (.object fields) = none := by
          refine Option.eq_none_iff_forall_ne_some.mpr ?_
          intro file described
          obtain ⟨foundPath, foundContent, _⟩ := SourceFile.ofJson?_eq_some_iff.mp described
          rcases foundContent with foundText | ⟨foundNull, _⟩
          · exact noText _ _ foundPath foundText
          · exact noNull _ foundPath foundNull
        rw [notDescribed, Option.map_none]
  | null | bool | number | string | array =>
      rfl

theorem filterMap_tidyEntry
    {entries : List Value}
    (each : ∀ entry ∈ entries, entry.AsRead (Json.nestingLimit - 2)) :
    entries.filterMap tidyEntry =
      (entries.filterMap SourceFile.ofJson?).map fun file => file.toJson.normal := by
  rw [List.map_filterMap]
  refine List.filterMap_congr ?_
  intro entry member
  exact tidyEntry_eq (each entry member)

theorem tidied_eq_self
    {fields : Fields}
    (others : ∀ field ∈ fields, field.1 ≠ "files" ∧ field ≠ ("label", .string "")) :
    tidied fields = fields := by
  refine (List.filterMap_congr ?_).trans List.filterMap_some
  intro field member
  exact tidyField_of_ne (others field member).1 (others field member).2

/-- The fields besides the files are tidied by taking out the label and writing it. -/
theorem tidied_perm_fieldsBesideFiles
    {fields : Fields}
    {snapshot : Snapshot}
    (asRead : (Value.object fields).AsRead Json.nestingLimit)
    (described : ofFields fields = .ok snapshot) :
    (tidied (fields.erase "files")).Perm snapshot.fieldsBesideFiles := by
  have sound : snapshot.Sound := sound_of_ofFields asRead described
  obtain ⟨_, _, _, labelled⟩ := ofFields_eq_ok_iff.mp described
  cases asRead with
  | object _ ascending _ =>
      have restAscending := ascending.erase "files"
      rcases labelled with ⟨foundLabel, extra⟩ | ⟨noLabel, empty, extra⟩
      · have foundLater : Fields.get? (fields.erase "files") "label" = some (.string snapshot.label) := by
          rw [Fields.get?_erase_of_ne (by decide), foundLabel]
        have sameFields :=
          (Fields.perm_cons_erase restAscending.nodup_keys foundLater).filterMap tidyField
        have extraStays : tidied snapshot.extra = snapshot.extra := by
          refine tidied_eq_self ?_
          intro field member
          have key := List.mem_map_of_mem (f := Prod.fst) member
          refine ⟨fun same => sound.noFiles (same ▸ key), ?_⟩
          rintro rfl
          rw [extra] at key
          exact Fields.not_mem_keys_erase _ _ key
        rw [← extra] at sameFields
        refine sameFields.trans (.of_eq ?_)
        by_cases empty : snapshot.label = ""
        · rw [fieldsBesideFiles_of_empty empty, empty]
          exact extraStays
        · have kept : tidyField ("label", .string snapshot.label) =
              some ("label", .string snapshot.label) :=
            tidyField_of_ne (by decide : "label" ≠ "files") (by simpa using empty)
          rw [fieldsBesideFiles_of_nonempty empty, List.filterMap_cons_some kept]
          exact congrArg _ extraStays
      · rw [fieldsBesideFiles_of_empty empty, extra]
        refine .of_eq (tidied_eq_self ?_)
        intro field member
        refine ⟨(Fields.mem_erase.mp member).2, ?_⟩
        rintro rfl
        have found := (Fields.get?_eq_some_iff ascending.nodup_keys).mpr (Fields.mem_erase.mp member).1
        exact noLabel "" found

/-- The fields of a payload are tidied by reading the snapshot that they describe and writing it. -/
theorem tidied_perm_readBackFields
    {fields : Fields}
    {snapshot : Snapshot}
    (asRead : (Value.object fields).AsRead Json.nestingLimit)
    (described : ofFields fields = .ok snapshot) :
    snapshot.readBackFields.Perm (tidied fields) := by
  have tidiedRest := tidied_perm_fieldsBesideFiles asRead described
  obtain ⟨entries, foundFiles, files, _⟩ := ofFields_eq_ok_iff.mp described
  cases asRead with
  | object _ ascending each =>
      have entriesAsRead : ∀ entry ∈ entries, entry.AsRead (Json.nestingLimit - 2) := by
        cases each _ ((Fields.get?_eq_some_iff ascending.nodup_keys).mp foundFiles) with
        | array _ eachEntry =>
            exact eachEntry
      have sameFields := (Fields.perm_cons_erase ascending.nodup_keys foundFiles).filterMap tidyField
      refine (sameFields.trans ?_).symm
      have head : tidyField ("files", .array entries) =
          some ("files", .array (snapshot.files.map fun file => file.toJson.normal)) := by
        rw [files, ← filterMap_tidyEntry entriesAsRead]
        rfl
      rw [List.filterMap_cons_some head]
      exact tidiedRest.cons _

/--
A snapshot that was read and has no floats in its further fields is read back from its text as it
is, whatever contents have been set. If none has been set, the text has the fields of the payload,
tidied.
-/
theorem read_write_of_read
    {payload : String}
    {snapshot : Snapshot}
    (accepted : Snapshot.read payload = .ok snapshot)
    (integral : snapshot.IsIntegral) :
    (∀ changes : List (String × String),
        let changed :=
          changes.foldl (fun copy change => copy.setContent change.1 change.2) snapshot
        Snapshot.read changed.write = .ok changed) ∧
      ∃ fields : Fields, Json.read payload = .ok (.object fields) ∧
        Json.read snapshot.write = .ok (.object (tidied fields)) := by
  obtain ⟨fields, readPayload, described⟩ := read_eq_ok_iff.mp accepted
  have asRead := Json.asRead_of_read readPayload
  have sound : snapshot.Sound := sound_of_ofFields asRead described
  constructor
  · intro changes
    obtain ⟨changedSound, changedIntegral⟩ := sound.foldl_setContent integral changes
    exact changedSound.read_write changedIntegral
  · refine ⟨fields, readPayload, ?_⟩
    have ascending : (tidied fields).Ascending := by
      cases asRead with
      | object _ ascending _ =>
          exact tidied_ascending ascending
    rw [sound.read_write_fields integral, Value.record,
      Fields.sorted_eq_of_perm ascending (tidied_perm_readBackFields asRead described)]

/-- A payload with a number as label, a further field and an entry that is no file. -/
theorem read_write_of_read_numbered_label :
    let payload :=
      "\x7b\"files\":[\x7b\"path\":\"a.ts\",\"content\":null,\"size\":7\x7d,true],\"label\":3\x7d"
    let snapshot : Snapshot :=
      ⟨[⟨"a.ts", "", [("size", .ofNat 7)]⟩], "", [("label", .ofNat 3)], by decide⟩
    Snapshot.read payload = .ok snapshot ∧ snapshot.IsIntegral ∧
      (∀ changes : List (String × String),
        let changed :=
          changes.foldl (fun copy change => copy.setContent change.1 change.2) snapshot
        Snapshot.read changed.write = .ok changed) ∧
      ∃ fields : Fields, Json.read payload = .ok (.object fields) ∧
        Json.read snapshot.write = .ok (.object (tidied fields)) := by
  intro payload snapshot
  have accepted : Snapshot.read payload = .ok snapshot := by decide +kernel
  have integral : snapshot.IsIntegral := by
    constructor
    · simp [snapshot, Integral, Value.ofNat, Value.numbers, Json.Number.IsInteger]
    · simp [snapshot, Integral, Value.ofNat, Value.numbers, Json.Number.IsInteger]
  exact ⟨accepted, integral, read_write_of_read accepted integral⟩

end SourceUpgrade.Snapshot
