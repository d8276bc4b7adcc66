import Mathlib.Data.List.Basic
import Mathlib.Data.List.Nodup
import SourceUpgrade.Snapshot.Basic

namespace SourceUpgrade.Snapshot

/-!
# Contents of a snapshot

Paths differ, so a snapshot is a finite map from paths to contents. Setting contents one after the
other amounts to one change of all contents at once: `foldl_setContent` says which.
-/

/-- The content of a path is that of the file with this path. -/
theorem get?_eq_some_iff
    {snapshot : Snapshot}
    {path content : String} :
    snapshot.get? path = some content ↔
      ∃ file ∈ snapshot.files, file.path = path ∧ file.content = content := by
  unfold get?
  rw [Option.map_eq_some_iff]
  constructor
  · rintro ⟨file, found, rfl⟩
    exact ⟨file, List.mem_of_find?_eq_some found, by simpa using List.find?_some found, rfl⟩
  · rintro ⟨file, member, rfl, rfl⟩
    cases found : snapshot.files.find? fun other => other.path == file.path with
    | none =>
        simpa using List.find?_eq_none.mp found file member
    | some other =>
        have samePath : other.path = file.path := by
          simpa using List.find?_some found
        have same : other = file :=
          List.inj_on_of_nodup_map snapshot.distinctPaths
            (List.mem_of_find?_eq_some found) member samePath
        exact ⟨other, rfl, by rw [same]⟩

/-- Every file of a snapshot is found under its path. -/
theorem get?_of_mem
    {snapshot : Snapshot}
    {file : SourceFile}
    (member : file ∈ snapshot.files) :
    snapshot.get? file.path = some file.content :=
  get?_eq_some_iff.mpr ⟨file, member, rfl, rfl⟩

/-- The paths of a snapshot are those at which it has a content. -/
theorem mem_paths_iff
    {snapshot : Snapshot}
    {path : String} :
    path ∈ snapshot.paths ↔ ∃ content, snapshot.get? path = some content := by
  constructor
  · intro member
    obtain ⟨file, held, rfl⟩ := List.mem_map.mp member
    exact ⟨file.content, get?_of_mem held⟩
  · rintro ⟨content, found⟩
    obtain ⟨file, held, rfl, -⟩ := get?_eq_some_iff.mp found
    exact List.mem_map_of_mem held

/-- The snapshot with all contents changed, each in dependence of its path. -/
def mapContents
    (snapshot : Snapshot)
    (change : String → String → String) :
    Snapshot where
  files := snapshot.files.map fun file =>
    { file with content := change file.path file.content }
  label := snapshot.label
  extra := snapshot.extra
  distinctPaths := by
    rw [List.map_map]
    exact snapshot.distinctPaths

/-- Snapshots with the same files, label and further fields are the same. -/
theorem eq_of_files_eq
    {first second : Snapshot}
    (files : first.files = second.files)
    (label : first.label = second.label)
    (extra : first.extra = second.extra) :
    first = second := by
  cases first
  cases second
  simp only at files label extra
  subst files label extra
  rfl

/-- Changes that agree on the files of a snapshot give the same snapshot. -/
theorem mapContents_congr
    {snapshot : Snapshot}
    {first second : String → String → String}
    (same :
      ∀ file ∈ snapshot.files,
        first file.path file.content = second file.path file.content) :
    snapshot.mapContents first = snapshot.mapContents second := by
  refine eq_of_files_eq ?_ rfl rfl
  refine List.map_congr_left ?_
  intro file member
  rw [same file member]

/-- Changing nothing gives the snapshot itself. -/
theorem mapContents_self (snapshot : Snapshot) :
    snapshot.mapContents (fun _ content => content) = snapshot := by
  refine eq_of_files_eq ?_ rfl rfl
  exact List.map_id' snapshot.files

/-- Two changes in a row are one change. -/
theorem mapContents_mapContents
    (snapshot : Snapshot)
    (first second : String → String → String) :
    (snapshot.mapContents first).mapContents second =
      snapshot.mapContents fun path content => second path (first path content) := by
  refine eq_of_files_eq ?_ rfl rfl
  simp [mapContents, Function.comp_def]

/-- Whether a snapshot is another one with different contents at most. -/
structure SameOutline (first second : Snapshot) : Prop where
  paths_eq : second.paths = first.paths
  fileExtras_eq : second.files.map SourceFile.extra = first.files.map SourceFile.extra
  label_eq : second.label = first.label
  extra_eq : second.extra = first.extra

/-- Changing contents keeps everything else. -/
theorem sameOutline_mapContents
    (snapshot : Snapshot)
    (change : String → String → String) :
    snapshot.SameOutline (snapshot.mapContents change) where
  paths_eq := by
    simp [paths, mapContents, Function.comp_def]
  fileExtras_eq := by
    simp [mapContents, Function.comp_def]
  label_eq := rfl
  extra_eq := rfl

/-- The content of a path is changed as it is for that path. -/
theorem get?_mapContents
    (snapshot : Snapshot)
    (change : String → String → String)
    (path : String) :
    (snapshot.mapContents change).get? path = (snapshot.get? path).map (change path) := by
  apply Option.ext
  intro content
  rw [get?_eq_some_iff, Option.map_eq_some_iff]
  constructor
  · rintro ⟨changed, member, rfl, rfl⟩
    obtain ⟨file, held, rfl⟩ := List.mem_map.mp member
    exact ⟨file.content, get?_of_mem held, rfl⟩
  · rintro ⟨before, found, rfl⟩
    obtain ⟨file, member, rfl, rfl⟩ := get?_eq_some_iff.mp found
    exact ⟨_, List.mem_map.mpr ⟨file, member, rfl⟩, rfl, rfl⟩

/-- A change that changes the content of no path gives the snapshot itself. -/
theorem mapContents_eq_self
    {snapshot : Snapshot}
    {change : String → String → String}
    (same : ∀ path, (snapshot.mapContents change).get? path = snapshot.get? path) :
    snapshot.mapContents change = snapshot := by
  refine (mapContents_congr fun file member => ?_).trans snapshot.mapContents_self
  have unchanged := same file.path
  rw [get?_mapContents, get?_of_mem member, Option.map_some] at unchanged
  exact Option.some.inj unchanged

/-- Setting a content changes all contents, those of other paths to what they are. -/
theorem setContent_eq_mapContents
    (snapshot : Snapshot)
    (path content : String) :
    snapshot.setContent path content =
      snapshot.mapContents fun other before => if other = path then content else before := by
  refine eq_of_files_eq ?_ rfl rfl
  refine List.map_congr_left ?_
  intro file _
  by_cases here : file.path = path
  · simp [replaceIn, here]
  · simp [replaceIn, here]

/-- After any contents were set, each path has the content that was set last for it, if any. -/
theorem foldl_setContent_lookup
    (snapshot : Snapshot)
    (changes : List (String × String)) :
    changes.foldl (fun copy change => copy.setContent change.1 change.2) snapshot =
      snapshot.mapContents fun path before => (changes.reverse.lookup path).getD before := by
  induction changes generalizing snapshot with
  | nil =>
      simpa using snapshot.mapContents_self.symm
  | cons change rest inductionHypothesis =>
      obtain ⟨path, content⟩ := change
      rw [List.foldl_cons, inductionHypothesis, setContent_eq_mapContents, mapContents_mapContents]
      apply mapContents_congr
      intro file _
      rw [List.reverse_cons, List.lookup_append]
      cases rest.reverse.lookup file.path with
      | some later =>
          rfl
      | none =>
          by_cases here : file.path = path
          · simp [here]
          · have notHere : (file.path == path) = false := beq_eq_false_iff_ne.mpr here
            simp [here, List.lookup_cons, notHere]

/-- Setting the contents of several paths, each to its own, changes them all at once. -/
theorem foldl_setContent
    (snapshot : Snapshot)
    (paths : List String)
    (target : String → String) :
    (paths.map fun path => (path, target path)).foldl
        (fun copy file => copy.setContent file.1 file.2) snapshot =
      snapshot.mapContents fun path content =>
        if path ∈ paths then target path else content := by
  refine (snapshot.foldl_setContent_lookup _).trans (mapContents_congr fun file _ => ?_)
  rw [← List.map_reverse]
  by_cases known : file.path ∈ paths
  · rw [List.lookup_graph _ (List.mem_reverse.mpr known), if_pos known, Option.getD_some]
  · have unknown :
        (paths.reverse.map fun path => (path, target path)).lookup file.path = none := by
      refine List.lookup_eq_none_iff.mpr fun change member => bne_iff_ne.mpr ?_
      obtain ⟨path, listed, rfl⟩ := List.mem_map.mp member
      exact fun same => known (same ▸ List.mem_reverse.mp listed)
    rw [unknown, if_neg known, Option.getD_none]

end SourceUpgrade.Snapshot
