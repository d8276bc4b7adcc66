import SourceUpgrade.Proofs.Outcome
import SourceUpgrade.Proofs.Snapshot.Contents
import SourceUpgrade.Proofs.Snapshot.RoundTrip
import SourceUpgrade.Snapshot.Store

namespace SourceUpgrade

open Json (Fields Value)

/-!
# Files and their index agree

A store says twice where its files are: in the row itself and in the index. `Store.Indexed` says
that the two agree. Putting in a file with a new path keeps it, setting a content keeps it, and so
everything that is looked up through the index is what the row says: `Store.read_eq` and
`Store.setContents_ofSnapshot` say that a store is read and overwritten as a snapshot is.
-/

/-! ## What a payload lists -/

/-- The file that an entry describes: its path is a text, and its content a text or null. -/
inductive SourceFile.Describes : Value → SourceFile → Prop where
  | text
      {fields : Fields}
      {path content : String}
      (hasPath : fields.get? "path" = some (.string path))
      (hasContent : fields.get? "content" = some (.string content)) :
      Describes (.object fields) ⟨path, content, (fields.erase "path").erase "content"⟩
  | null
      {fields : Fields}
      {path : String}
      (hasPath : fields.get? "path" = some (.string path))
      (hasContent : fields.get? "content" = some .null) :
      Describes (.object fields) ⟨path, "", (fields.erase "path").erase "content"⟩

/-- The files that entries describe, in order; entries that describe none are passed over. -/
inductive Gathers : List Value → List SourceFile → Prop where
  | nil : Gathers [] []
  | file
      {entry : Value}
      {entries : List Value}
      {file : SourceFile}
      {files : List SourceFile}
      (described : SourceFile.Describes entry file)
      (rest : Gathers entries files) :
      Gathers (entry :: entries) (file :: files)
  | other
      {entry : Value}
      {entries : List Value}
      {files : List SourceFile}
      (malformed : ∀ file, ¬ SourceFile.Describes entry file)
      (rest : Gathers entries files) :
      Gathers (entry :: entries) files

/-- A payload is an object with a list of entries, which describe these files. -/
def Lists (payload : String) (files : List SourceFile) : Prop :=
  ∃ (fields : Fields) (entries : List Value),
    Json.read payload = .ok (.object fields) ∧
      fields.get? "files" = some (.array entries) ∧
        Gathers entries files

theorem SourceFile.ofJson?_iff_describes
    {entry : Value}
    {file : SourceFile} :
    SourceFile.ofJson? entry = some file ↔ Describes entry file := by
  constructor
  · intro described
    cases entry with
    | object fields =>
        obtain ⟨hasPath, hasContent, extra⟩ := ofJson?_eq_some_iff.mp described
        obtain ⟨path, content, _⟩ := file
        obtain rfl := extra
        rcases hasContent with hasText | ⟨hasNull, rfl⟩
        · exact .text hasPath hasText
        · exact .null hasPath hasNull
    | null | bool | number | string | array =>
        cases described
  · rintro (⟨hasPath, hasContent⟩ | ⟨hasPath, hasContent⟩)
    · exact ofJson?_eq_some_iff.mpr ⟨hasPath, Or.inl hasContent, rfl⟩
    · exact ofJson?_eq_some_iff.mpr ⟨hasPath, Or.inr ⟨hasContent, rfl⟩, rfl⟩

/-- Entries describe exactly one list of files. -/
theorem gathers_iff
    {entries : List Value}
    {files : List SourceFile} :
    Gathers entries files ↔ entries.filterMap SourceFile.ofJson? = files := by
  constructor
  · intro gathers
    induction gathers with
    | nil =>
        rfl
    | file described _ inductionHypothesis =>
        rw [List.filterMap_cons_some (SourceFile.ofJson?_iff_describes.mpr described),
          inductionHypothesis]
    | other malformed _ inductionHypothesis =>
        rw [List.filterMap_cons_none, inductionHypothesis]
        refine Option.eq_none_iff_forall_ne_some.mpr fun file described => ?_
        exact malformed file (SourceFile.ofJson?_iff_describes.mp described)
  · rintro rfl
    induction entries with
    | nil =>
        exact .nil
    | cons entry rest inductionHypothesis =>
        cases described : SourceFile.ofJson? entry with
        | none =>
            rw [List.filterMap_cons_none described]
            refine .other (fun file isFile => ?_) inductionHypothesis
            rw [SourceFile.ofJson?_iff_describes.mpr isFile] at described
            cases described
        | some file =>
            rw [List.filterMap_cons_some described]
            exact .file (SourceFile.ofJson?_iff_describes.mp described) inductionHypothesis

/-- An entry that is found to be repeated stands in the list twice, or was seen and stands in it. -/
theorem repeated_of_firstRepeatedFrom
    {α : Type}
    [DecidableEq α]
    {seen entries : List α}
    {entry : α}
    (found : firstRepeatedFrom seen entries = some entry) :
    [entry, entry].Sublist entries ∨ entry ∈ seen ∧ entry ∈ entries := by
  induction entries generalizing seen with
  | nil =>
      cases found
  | cons other rest inductionHypothesis =>
      by_cases known : other ∈ seen
      · rw [firstRepeatedFrom, if_pos known] at found
        obtain rfl := Option.some.inj found
        exact Or.inr ⟨known, List.mem_cons_self⟩
      · rw [firstRepeatedFrom, if_neg known] at found
        rcases inductionHypothesis found with twice | ⟨isSeen, later⟩
        · exact Or.inl (twice.cons _)
        · rcases List.mem_cons.mp isSeen with rfl | isSeen
          · exact Or.inl ((List.singleton_sublist.mpr later).cons_cons _)
          · exact Or.inr ⟨isSeen, List.mem_cons_of_mem _ later⟩

namespace Snapshot

/-- What a snapshot is read from lists its files. -/
theorem lists_of_read
    {payload : String}
    {snapshot : Snapshot}
    (read : Snapshot.read payload = .ok snapshot) :
    Lists payload snapshot.files := by
  obtain ⟨fields, isObject, described⟩ := read_eq_ok_iff.mp read
  obtain ⟨entries, hasFiles, files, _⟩ := ofFields_eq_ok_iff.mp described
  exact ⟨fields, entries, isObject, hasFiles, gathers_iff.mpr files.symm⟩

/-- What lists files is read as they are made a snapshot, with some label and further fields. -/
theorem exists_read_eq
    {payload : String}
    {files : List SourceFile}
    (lists : Lists payload files) :
    ∃ label extra, Snapshot.read payload = ofFiles files label extra := by
  obtain ⟨fields, entries, isObject, hasFiles, gathers⟩ := lists
  obtain rfl := gathers_iff.mp gathers
  rw [read, isObject]
  dsimp only [ofJson]
  rw [ofFields, hasFiles]
  dsimp only
  split
  · exact ⟨_, _, rfl⟩
  · exact ⟨_, _, rfl⟩

/-- A payload is read as a snapshot exactly if it lists files with different paths. -/
theorem read_ok_iff_lists
    {payload : String} :
    (∃ snapshot, Snapshot.read payload = .ok snapshot) ↔
      ∃ files, Lists payload files ∧ (files.map SourceFile.path).Nodup := by
  constructor
  · rintro ⟨snapshot, read⟩
    exact ⟨snapshot.files, lists_of_read read, snapshot.distinctPaths⟩
  · rintro ⟨files, lists, distinct⟩
    obtain ⟨label, extra, read⟩ := exists_read_eq lists
    exact ⟨⟨files, label, extra, distinct⟩, read.trans (ofFiles_eq_ok_iff.mpr ⟨rfl, rfl, rfl⟩)⟩

/-- A repeated path keeps files from being a snapshot. -/
theorem ofFiles_of_repeated
    {files : List SourceFile}
    {label : String}
    {extra : Fields}
    {path : String}
    (repeated : firstRepeated? (files.map SourceFile.path) = some path) :
    ofFiles files label extra = .error (.duplicatePath path) := by
  unfold ofFiles
  split
  · rename_i other found
    obtain rfl : other = path := Option.some.inj (found.symm.trans repeated)
    rfl
  · rename_i found
    cases found.symm.trans repeated

/-- A payload that is refused for a path lists files. -/
theorem exists_lists_of_duplicatePath
    {payload path : String}
    (refused : Snapshot.read payload = .error (.duplicatePath path)) :
    ∃ files, Lists payload files := by
  unfold read at refused
  cases isRead : Json.read payload with
  | error fault =>
      rw [isRead] at refused
      cases refused
  | ok value =>
      rw [isRead] at refused
      cases value with
      | object fields =>
          dsimp only [ofJson] at refused
          rw [ofFields] at refused
          split at refused
          · rename_i entries hasFiles
            exact ⟨_, fields, entries, isRead, hasFiles, gathers_iff.mpr rfl⟩
          · cases refused
      | null | bool | number | string | array =>
          cases refused

/-- A payload that is refused for a path lists two files with it. -/
theorem lists_of_duplicatePath
    {payload path : String}
    (refused : Snapshot.read payload = .error (.duplicatePath path)) :
    ∃ files, Lists payload files ∧ [path, path].Sublist (files.map SourceFile.path) := by
  obtain ⟨files, lists⟩ := exists_lists_of_duplicatePath refused
  obtain ⟨label, extra, read⟩ := exists_read_eq lists
  rw [read] at refused
  refine ⟨files, lists, ?_⟩
  cases repeated : firstRepeated? (files.map SourceFile.path) with
  | none =>
      have distinct := (firstRepeated?_eq_none_iff _).mp repeated
      have made : ofFiles files label extra = .ok ⟨files, label, extra, distinct⟩ :=
        ofFiles_eq_ok_iff.mpr ⟨rfl, rfl, rfl⟩
      rw [made] at refused
      cases refused
  | some other =>
      rw [ofFiles_of_repeated repeated] at refused
      obtain rfl : other = path := SnapshotError.duplicatePath.inj (Except.error.inj refused)
      rcases repeated_of_firstRepeatedFrom repeated with twice | ⟨isSeen, -⟩
      · exact twice
      · exact absurd isSeen List.not_mem_nil

/-- The position of a path is where its file stands. -/
theorem position?_eq_some_iff
    {snapshot : Snapshot}
    {path : String}
    {position : Nat} :
    snapshot.position? path = some position ↔
      (snapshot.files[position]?).map SourceFile.path = some path := by
  rw [position?, List.findIdx?_eq_some_iff_getElem, Option.map_eq_some_iff]
  constructor
  · rintro ⟨inside, here, -⟩
    exact ⟨_, List.getElem?_eq_getElem inside, by simpa using here⟩
  · rintro ⟨file, found, rfl⟩
    obtain ⟨inside, rfl⟩ := List.getElem?_eq_some_iff.mp found
    refine ⟨inside, by simp, ?_⟩
    intro earlier before same
    have distinct := List.pairwise_iff_getElem.mp snapshot.distinctPaths earlier position
      (by simpa using before.trans inside) (by simpa using inside) before
    simp only [List.getElem_map] at distinct
    exact distinct (by simpa using same)

/-- A content is set at the position of its path. -/
theorem setContent_files
    {snapshot : Snapshot}
    {path content : String}
    {position : Nat}
    (found : snapshot.position? path = some position) :
    (snapshot.setContent path content).files =
      snapshot.files.modify position fun file => { file with content := content } := by
  refine List.ext_getElem? fun other => ?_
  rw [setContent, List.getElem?_map, List.getElem?_modify]
  cases held : snapshot.files[other]? with
  | none =>
      rfl
  | some file =>
      have here : file.path = path ↔ position = other := by
        constructor
        · rintro rfl
          have foundToo : snapshot.position? file.path = some other :=
            position?_eq_some_iff.mpr (by rw [held, Option.map_some])
          exact Option.some.inj (found.symm.trans foundToo)
        · rintro rfl
          simpa [held] using position?_eq_some_iff.mp found
      simp [replaceIn, here]

/-- Setting the content of a path without a position changes nothing. -/
theorem setContent_of_position?_eq_none
    {snapshot : Snapshot}
    {path : String}
    (unknown : snapshot.position? path = none)
    (content : String) :
    snapshot.setContent path content = snapshot := by
  refine eq_of_files_eq ?_ rfl rfl
  refine (List.map_congr_left fun file member => ?_).trans (List.map_id _)
  have differs : file.path ≠ path := by
    simpa using List.findIdx?_eq_none_iff.mp unknown file member
  exact if_neg differs

/-- A path has a content if it has a position, that of the file there. -/
theorem get?_eq_bind_position?
    (snapshot : Snapshot)
    (path : String) :
    snapshot.get? path =
      (snapshot.position? path).bind fun position =>
        (snapshot.files[position]?).map SourceFile.content := by
  refine Option.ext fun content => ?_
  rw [get?_eq_some_iff, Option.bind_eq_some_iff]
  constructor
  · rintro ⟨file, member, rfl, rfl⟩
    obtain ⟨position, found⟩ := List.mem_iff_getElem?.mp member
    exact ⟨position, position?_eq_some_iff.mpr (by rw [found, Option.map_some]),
      by rw [found, Option.map_some]⟩
  · rintro ⟨position, found, held⟩
    obtain ⟨file, here, rfl⟩ := Option.map_eq_some_iff.mp held
    have samePath := position?_eq_some_iff.mp found
    rw [here, Option.map_some, Option.some.injEq] at samePath
    exact ⟨file, List.mem_of_getElem? here, samePath, rfl⟩

end Snapshot

namespace Store

/-! ## Agreement -/

/-- The index has each path that a file has, with the file's position, and no other path. -/
def Indexed (store : Store) : Prop :=
  ∀ path position,
    store.position? path = some position ↔
      (store.files[position]?).map SourceFile.path = some path

/-- Stores that agree with their indexes are the same if all but their indexes are. -/
theorem Indexed.eq_of_files_eq
    {first second : Store}
    (indexed : first.Indexed)
    (indexedToo : second.Indexed)
    (files : first.files = second.files)
    (label : first.label = second.label)
    (extra : first.extra = second.extra) :
    first = second := by
  have index : first.index = second.index := by
    refine Std.ExtHashMap.ext_getElem? fun path => Option.ext fun position => ?_
    have samePosition := indexedToo path position
    rw [← files] at samePosition
    exact (indexed path position).trans samePosition.symm
  cases first
  cases second
  simp only at files label extra index
  subst files label extra index
  rfl

theorem indexed_empty (label : String) : (empty label).Indexed := by
  intro path position
  simp [empty, position?]

/-- Setting a content keeps files and index in agreement. -/
theorem Indexed.setContent
    {store : Store}
    (indexed : store.Indexed)
    (path content : String) :
    (store.setContent path content).1.Indexed := by
  intro other position
  rw [Store.setContent]
  cases store.position? path with
  | none =>
      exact indexed other position
  | some here =>
      rw [Array.getElem?_modify]
      refine (indexed other position).trans ?_
      split
      · rw [Option.map_map]
        rfl
      · rfl

/-- A file that is put in has the last position; all other paths have the positions they had. -/
theorem position?_put
    (store : Store)
    (file : SourceFile)
    (path : String) :
    (store.put file).position? path =
      if file.path = path then some store.files.size else store.position? path := by
  rw [position?, put, Std.ExtHashMap.getElem?_insert]
  exact if_congr beq_iff_eq rfl rfl

theorem contains_put
    (store : Store)
    (file : SourceFile)
    (path : String) :
    (store.put file).contains path = true ↔ path = file.path ∨ store.contains path = true := by
  rw [contains, put, Std.ExtHashMap.contains_insert, Bool.or_eq_true, beq_iff_eq, eq_comm]
  rfl

/-- Putting in a file with a new path keeps files and index in agreement. -/
theorem Indexed.put
    {store : Store}
    {file : SourceFile}
    (indexed : store.Indexed)
    (fresh : store.position? file.path = none) :
    (store.put file).Indexed := by
  intro path position
  have notBefore : (store.files[position]?).map SourceFile.path ≠ some file.path := by
    rw [Ne, ← indexed, fresh]
    exact nofun
  rw [position?_put, Store.put, Array.getElem?_push]
  by_cases last : position = store.files.size
  · by_cases here : file.path = path
    · simp [last, here]
    · have notHere : store.position? path ≠ some store.files.size := by
        rw [Ne, indexed]
        simp
      simpa [last, here] using notHere
  · by_cases here : file.path = path
    · subst here
      simpa [last, Ne.symm last] using notBefore
    · simpa [last, here] using indexed path position

/-- Setting a content tells that a path is unknown exactly if nothing is looked up for it. -/
theorem Indexed.told_iff
    {store : Store}
    (indexed : store.Indexed)
    (path content : String) :
    (store.setContent path content).2 = false ↔ store.get? path = none := by
  rw [Store.setContent, Store.get?]
  cases found : store.position? path with
  | none =>
      simp
  | some position =>
      obtain ⟨file, held, -⟩ := Option.map_eq_some_iff.mp ((indexed path position).mp found)
      simp [held]

/-- Where setting a content tells that a path is unknown, nothing is overwritten. -/
theorem unchanged_of_told
    {store : Store}
    {path content : String}
    (unknown : (store.setContent path content).2 = false) :
    (store.setContent path content).1 = store := by
  rw [setContent] at unknown ⊢
  cases found : store.position? path with
  | none =>
      rfl
  | some position =>
      simp [found] at unknown

/-! ## Reading -/

section

variable (files : List SourceFile) (store : Store)

theorem foldl_put_files :
    (files.foldl put store).files = store.files ++ files.toArray := by
  induction files generalizing store with
  | nil =>
      simp
  | cons file rest inductionHypothesis =>
      simp [inductionHypothesis, put]

theorem foldl_put_label :
    (files.foldl put store).label = store.label := by
  induction files generalizing store with
  | nil =>
      rfl
  | cons file rest inductionHypothesis =>
      exact inductionHypothesis _

end

/-- Putting in files with new paths, each another one, keeps files and index in agreement. -/
theorem Indexed.foldl_put
    {store : Store}
    {files : List SourceFile}
    (indexed : store.Indexed)
    (distinct : (files.map SourceFile.path).Nodup)
    (fresh : ∀ file ∈ files, store.position? file.path = none) :
    (files.foldl Store.put store).Indexed := by
  induction files generalizing store with
  | nil =>
      exact indexed
  | cons file rest inductionHypothesis =>
      obtain ⟨notLater, distinctRest⟩ := List.nodup_cons.mp distinct
      refine inductionHypothesis (indexed.put (fresh file List.mem_cons_self)) distinctRest ?_
      intro later member
      have differs : file.path ≠ later.path :=
        fun same => notLater (same ▸ List.mem_map_of_mem member)
      rw [position?_put, if_neg differs]
      exact fresh later (List.mem_cons_of_mem _ member)

/-- Files are added up to the first whose path is in the index or that of an earlier one. -/
theorem foldlM_add
    {store : Store}
    {seen : List String}
    (sameSeen : ∀ path, path ∈ seen ↔ store.contains path = true)
    (files : List SourceFile) :
    files.foldlM add store =
      match firstRepeatedFrom seen (files.map SourceFile.path) with
      | some path => .error (.duplicatePath path)
      | none => .ok (files.foldl put store) := by
  induction files generalizing store seen with
  | nil =>
      rfl
  | cons file rest inductionHypothesis =>
      rw [List.foldlM_cons, List.map_cons, firstRepeatedFrom, add]
      by_cases known : file.path ∈ seen
      · rw [if_pos known, if_pos ((sameSeen file.path).mp known)]
        rfl
      · rw [if_neg known, if_neg fun has => known ((sameSeen file.path).mpr has)]
        refine inductionHypothesis fun path => ?_
        rw [List.mem_cons, contains_put, sameSeen]

/-- A snapshot in storage. -/
def ofSnapshot (snapshot : Snapshot) : Store where
  files := snapshot.files.toArray
  label := snapshot.label
  extra := snapshot.extra
  index := .ofList snapshot.paths.zipIdx

/-- The index of a snapshot in storage has the positions of the paths. -/
theorem position?_ofSnapshot
    (snapshot : Snapshot)
    (path : String) :
    (ofSnapshot snapshot).position? path = snapshot.position? path := by
  cases found : snapshot.position? path with
  | none =>
      refine Std.ExtHashMap.getElem?_ofList_of_contains_eq_false ?_
      rw [List.zipIdx_map_fst, Snapshot.paths, List.contains_eq_mem, decide_eq_false_iff_not]
      intro member
      obtain ⟨file, held, samePath⟩ := List.mem_map.mp member
      simpa [samePath] using List.findIdx?_eq_none_iff.mp found file held
  | some position =>
      have distinct : (snapshot.paths.zipIdx.map Prod.fst).Nodup := by
        rw [List.zipIdx_map_fst]
        exact snapshot.distinctPaths
      refine Std.ExtHashMap.getElem?_ofList_of_mem (beq_self_eq_true path) ?_ ?_
      · exact (List.pairwise_map.mp distinct).imp beq_eq_false_iff_ne.mpr
      · rw [List.mk_mem_zipIdx_iff_getElem?, Snapshot.paths, List.getElem?_map]
        exact Snapshot.position?_eq_some_iff.mp found

theorem indexed_ofSnapshot (snapshot : Snapshot) : (ofSnapshot snapshot).Indexed := by
  intro path position
  rw [position?_ofSnapshot, Snapshot.position?_eq_some_iff, ofSnapshot, List.getElem?_toArray]

/-- Files make a store as they make a snapshot; a repeated path keeps them from being either. -/
theorem ofFiles_eq
    (files : List SourceFile)
    (label : String)
    (extra : Fields) :
    (ofFiles files label).map (fun store => { store with extra := extra }) =
      (Snapshot.ofFiles files label extra).map ofSnapshot := by
  have sameSeen : ∀ path, path ∈ ([] : List String) ↔ (empty label).contains path = true := by
    simp [empty, contains]
  rw [ofFiles, foldlM_add sameSeen, ← firstRepeated?]
  cases repeated : firstRepeated? (files.map SourceFile.path) with
  | some path =>
      rw [Snapshot.ofFiles_of_repeated repeated]
      rfl
  | none =>
      have distinct := (firstRepeated?_eq_none_iff _).mp repeated
      have made : Snapshot.ofFiles files label extra = .ok ⟨files, label, extra, distinct⟩ :=
        Snapshot.ofFiles_eq_ok_iff.mpr ⟨rfl, rfl, rfl⟩
      have indexed : (files.foldl put (empty label)).Indexed :=
        (indexed_empty label).foldl_put distinct fun file _ => by simp [empty, position?]
      rw [made]
      refine congrArg Except.ok (Indexed.eq_of_files_eq ?_ (indexed_ofSnapshot _) ?_ ?_ rfl)
      · exact indexed
      · simp [foldl_put_files, empty, ofSnapshot]
      · simp [foldl_put_label, empty, ofSnapshot]

/-- An object is stored as it is taken for a snapshot. -/
theorem ofFields_eq (fields : Fields) :
    ofFields fields = (Snapshot.ofFields fields).map ofSnapshot := by
  have sameLabel : (fields.erase "files").get? "label" = fields.get? "label" :=
    Fields.get?_erase_of_ne (by decide : "label" ≠ "files") fields
  unfold ofFields Snapshot.ofFields takeLabel
  cases fields.get? "files" with
  | none =>
      rfl
  | some value =>
      cases value with
      | array entries =>
          simp only [sameLabel]
          cases fields.get? "label" with
          | none =>
              exact ofFiles_eq ..
          | some label =>
              cases label with
              | string | null | bool | number | array | object =>
                  exact ofFiles_eq ..
      | null | bool | number | string | object =>
          rfl

/-- A store is read as a snapshot is, with the same errors. -/
theorem read_eq (payload : String) :
    read payload = (Snapshot.read payload).map ofSnapshot := by
  unfold read Snapshot.read
  cases Json.read payload with
  | error fault =>
      rfl
  | ok value =>
      cases value with
      | object fields =>
          exact ofFields_eq fields
      | null | bool | number | string | array =>
          rfl

/-! ## Looking up and overwriting -/

section

variable (snapshot : Snapshot)

theorem get?_ofSnapshot (path : String) :
    (ofSnapshot snapshot).get? path = snapshot.get? path := by
  rw [get?, position?_ofSnapshot, Snapshot.get?_eq_bind_position?]
  simp only [ofSnapshot, List.getElem?_toArray]

/-- A content is overwritten in storage as it is in the snapshot; an unknown path is told. -/
theorem setContent_ofSnapshot (path content : String) :
    (ofSnapshot snapshot).setContent path content =
      (ofSnapshot (snapshot.setContent path content), (snapshot.position? path).isSome) := by
  have indexed := (indexed_ofSnapshot snapshot).setContent path content
  rw [setContent, position?_ofSnapshot] at indexed ⊢
  cases found : snapshot.position? path with
  | none =>
      rw [Snapshot.setContent_of_position?_eq_none found]
      rfl
  | some position =>
      rw [found] at indexed
      refine Prod.ext (indexed.eq_of_files_eq (indexed_ofSnapshot _) ?_ rfl rfl) rfl
      simp [ofSnapshot, Snapshot.setContent_files found]

/-- Contents are overwritten in storage, one after the other, as they are in the snapshot. -/
theorem setContents_ofSnapshot (changes : List (String × String)) :
    (ofSnapshot snapshot).setContents changes =
      ofSnapshot
        (changes.foldl (fun copy change => copy.setContent change.1 change.2) snapshot) := by
  induction changes generalizing snapshot with
  | nil =>
      rfl
  | cons change rest inductionHypothesis =>
      rw [setContents, List.foldl_cons, setContent_ofSnapshot]
      exact inductionHypothesis _

end

/-- What setting contents leaves of a store that was loaded. -/
structure Follows (loaded : Store) (changes : List (String × String)) (store : Store) : Prop where
  indexed : store.Indexed
  paths_eq : store.paths = loaded.paths
  fileExtras_eq :
    store.files.toList.map SourceFile.extra = loaded.files.toList.map SourceFile.extra
  label_eq : store.label = loaded.label
  extra_eq : store.extra = loaded.extra
  get?_eq :
    ∀ path,
      store.get? path =
        (loaded.get? path).map fun before => (changes.reverse.lookup path).getD before
  told_iff : ∀ path content, (store.setContent path content).2 = false ↔ store.get? path = none
  unchanged :
    ∀ path content,
      (store.setContent path content).2 = false → (store.setContent path content).1 = store
  eq_iff : store = loaded ↔ ∀ path, store.get? path = loaded.get? path

/-- A snapshot in storage follows any changes of contents. -/
theorem follows_ofSnapshot
    (snapshot : Snapshot)
    (changes : List (String × String)) :
    Follows (ofSnapshot snapshot) changes ((ofSnapshot snapshot).setContents changes) := by
  let change (path before : String) : String := (changes.reverse.lookup path).getD before
  have changed :
      (ofSnapshot snapshot).setContents changes = ofSnapshot (snapshot.mapContents change) := by
    rw [setContents_ofSnapshot, Snapshot.foldl_setContent_lookup]
  have outline := snapshot.sameOutline_mapContents change
  have contents (path : String) :
      (ofSnapshot (snapshot.mapContents change)).get? path =
        ((ofSnapshot snapshot).get? path).map (change path) := by
    rw [get?_ofSnapshot, get?_ofSnapshot, Snapshot.get?_mapContents]
  have agreed := indexed_ofSnapshot (snapshot.mapContents change)
  rw [changed]
  exact
    { indexed := agreed
      paths_eq := outline.paths_eq
      fileExtras_eq := outline.fileExtras_eq
      label_eq := outline.label_eq
      extra_eq := outline.extra_eq
      get?_eq := contents
      told_iff := fun path content => agreed.told_iff path content
      unchanged := fun path content => unchanged_of_told
      eq_iff := by
        constructor
        · rintro same
          simp [same]
        · intro same
          refine congrArg ofSnapshot (Snapshot.mapContents_eq_self fun path => ?_)
          rw [← get?_ofSnapshot, ← get?_ofSnapshot, same] }

/--
A payload can be loaded exactly if it is an object with a list of entries in which those that
describe files describe them with different paths. The store has these files, in order, and its
index has their positions and nothing else. That stays so whatever contents are set: what is looked
up is what was set last, and all else is as it was loaded. The snapshot that is read of the payload
is the one in the store, before and after.
-/
theorem indexed_of_read (payload : String) :
    ((∃ store, read payload = .ok store) ↔
        ∃ files, Lists payload files ∧ (files.map SourceFile.path).Nodup) ∧
      (∀ path, read payload = .error (.duplicatePath path) →
        ∃ files, Lists payload files ∧ [path, path].Sublist (files.map SourceFile.path)) ∧
      (∀ store, read payload = .ok store →
        Lists payload store.files.toList ∧
          ∀ changes, store.Follows changes (store.setContents changes)) ∧
      read payload = (Snapshot.read payload).map ofSnapshot ∧
      ∀ snapshot, Snapshot.read payload = .ok snapshot →
        ∀ changes : List (String × String),
          let changed :=
            changes.foldl (fun copy change => copy.setContent change.1 change.2) snapshot
          (ofSnapshot snapshot).setContents changes = ofSnapshot changed ∧
            ∀ path, (ofSnapshot changed).get? path = changed.get? path := by
  have stored : read payload = (Snapshot.read payload).map ofSnapshot := read_eq payload
  refine ⟨?accepts, ?refuses, ?loads, stored, fun snapshot _ changes =>
    ⟨setContents_ofSnapshot snapshot changes, get?_ofSnapshot _⟩⟩
  case accepts =>
    rw [← Snapshot.read_ok_iff_lists, stored]
    cases Snapshot.read payload <;> simp [Except.map]
  case refuses =>
    intro path refused
    refine Snapshot.lists_of_duplicatePath ?_
    cases read : Snapshot.read payload with
    | error error =>
        rw [stored, read] at refused
        exact congrArg Except.error (Except.error.inj refused)
    | ok snapshot =>
        rw [stored, read] at refused
        cases refused
  case loads =>
    intro store loaded
    rw [stored] at loaded
    cases read : Snapshot.read payload with
    | error error =>
        rw [read] at loaded
        cases loaded
    | ok snapshot =>
        rw [read] at loaded
        obtain rfl := Except.ok.inj loaded
        exact ⟨Snapshot.lists_of_read read, follows_ofSnapshot snapshot⟩

end Store

end SourceUpgrade
