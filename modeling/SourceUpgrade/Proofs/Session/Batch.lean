import SourceUpgrade.Proofs.Session.Action
import SourceUpgrade.Proofs.Snapshot.Contents

namespace SourceUpgrade

/-!
# What is previewed and what is written

The records of a preview name different files of the repository, in its order, and each record tells
what the rules make of its file. Applying changes exactly the files that the records name:
`withContents_newContents` says what the modified repository is, and `newContents_files` which files
are reported.
-/

/-- A record is made exactly of a counted change to another content. -/
theorem RecordStyle.record?_eq_some_iff
    {style : RecordStyle}
    {path before after : String}
    {changes : Nat}
    {notes : List String}
    {record : ChangeRecord} :
    style.record? path before after changes notes = some record ↔
      changes ≠ 0 ∧
        before ≠ after ∧
        record =
          { file := path
            beforeHash := (style.fingerprints before after).1
            afterHash := (style.fingerprints before after).2
            changes := changes
            notes := notes
            patch := Patch.unified path before after style.contextRadius } := by
  unfold record?
  by_cases skipped : changes = 0 ∨ before = after
  · rw [if_pos skipped]
    rcases skipped with noChange | same
    · simp [noChange]
    · simp [same]
  · rw [if_neg skipped]
    obtain ⟨counted, differ⟩ := not_or.mp skipped
    simp [counted, differ, eq_comm]

namespace Session

/-! ## Previewed files -/

/-- The record of a file carries the file's path. -/
theorem file_of_record?
    {session : Session}
    {repository : Snapshot}
    {analysis : Analysis}
    {path : String}
    {record : ChangeRecord}
    (made : session.record? repository analysis path = some record) :
    record.file = path := by
  obtain ⟨-, -, rfl⟩ := RecordStyle.record?_eq_some_iff.mp made
  rfl

/-- The files of a preview are the selected paths of which there is a record. -/
theorem batch_files
    (session : Session)
    (repository : Snapshot)
    (analysis : Analysis) :
    (session.batch repository analysis).map ChangeRecord.file =
      (session.setup.selector.select repository analysis.prioritized).filter
        fun path => (session.record? repository analysis path).isSome := by
  unfold batch
  induction session.setup.selector.select repository analysis.prioritized with
  | nil =>
      rfl
  | cons path rest inductionHypothesis =>
      cases made : session.record? repository analysis path with
      | none =>
          simp [made, inductionHypothesis]
      | some record =>
          simp [made, inductionHypothesis, file_of_record? made]

/-- The files of a preview are files of the repository, in its order. -/
theorem batch_files_sublist
    (session : Session)
    (repository : Snapshot)
    (analysis : Analysis) :
    ((session.batch repository analysis).map ChangeRecord.file).Sublist repository.paths := by
  rw [batch_files]
  exact List.filter_sublist.trans List.filter_sublist

/-- A preview names no file twice. -/
theorem batch_files_nodup
    (session : Session)
    (repository : Snapshot)
    (analysis : Analysis) :
    ((session.batch repository analysis).map ChangeRecord.file).Nodup :=
  (session.batch_files_sublist repository analysis).nodup repository.distinctPaths

/-- Every record of a preview tells what the rules make of one file of the repository. -/
theorem exists_of_mem_batch
    {session : Session}
    {repository : Snapshot}
    {analysis : Analysis}
    {record : ChangeRecord}
    (member : record ∈ session.batch repository analysis) :
    ∃ before,
      repository.get? record.file = some before ∧
        session.setup.settings.recordStyle.record? record.file before
            (session.transformed analysis record.file before).content
            (session.transformed analysis record.file before).changes
            (session.transformed analysis record.file before).notes =
          some record := by
  obtain ⟨path, selected, made⟩ := List.mem_filterMap.mp member
  have known : path ∈ repository.paths := (List.mem_filter.mp selected).1
  obtain ⟨file, held, rfl⟩ := List.mem_map.mp known
  have found := Snapshot.get?_of_mem held
  rw [file_of_record? made]
  refine ⟨file.content, found, ?_⟩
  simpa [record?, found] using made

/-- What the rules make of a file depends on the registry and the guidance only. -/
theorem transformed_congr
    {first second : Session}
    (registry : first.registry = second.registry)
    (guidance : first.guidance = second.guidance)
    (analysis : Analysis)
    (path content : String) :
    first.transformed analysis path content = second.transformed analysis path content := by
  unfold transformed
  rw [registry, guidance]

/-- What a preview finds depends on the setup, the registry and the guidance only. -/
theorem batch_congr
    {first second : Session}
    (setup : first.setup = second.setup)
    (registry : first.registry = second.registry)
    (guidance : first.guidance = second.guidance)
    (repository : Snapshot)
    (analysis : Analysis) :
    first.batch repository analysis = second.batch repository analysis := by
  unfold batch record?
  simp only [transformed_congr registry guidance, setup]

/-! ## Written files -/

/-- What applying writes to a path of a repository. -/
def output
    (session : Session)
    (repository : Snapshot)
    (analysis : Analysis)
    (path : String) :
    String :=
  (session.transformed analysis path ((repository.get? path).getD "")).content

/-- Whether applying changes the file at a path. -/
def rewrites
    (session : Session)
    (repository : Snapshot)
    (analysis : Analysis)
    (path : String) :
    Bool :=
  match repository.get? path with
  | none => false
  | some before => session.output repository analysis path != before

/-- Applying writes to those previewed files that the rules change by now. -/
theorem newContents_eq
    (session : Session)
    (repository : Snapshot)
    (analysis : Analysis) :
    session.newContents repository analysis =
      ((session.diffs.map ChangeRecord.file).filter
        (session.rewrites repository analysis)).map
          fun path => (path, session.output repository analysis path) := by
  unfold newContents
  induction session.diffs with
  | nil =>
      rfl
  | cons record rest inductionHypothesis =>
      rw [List.filterMap_cons, inductionHypothesis, List.map_cons, List.filter_cons]
      cases found : repository.get? record.file with
      | none =>
          simp [found, rewrites, output]
      | some before =>
          by_cases same : (session.transformed analysis record.file before).content = before
          · simp [found, rewrites, output, same]
          · simp [found, rewrites, output, same]

/-- The files that applying reports are the previewed ones that the rules change by now. -/
theorem newContents_files
    (session : Session)
    (repository : Snapshot)
    (analysis : Analysis) :
    (session.newContents repository analysis).map Prod.fst =
      (session.diffs.map ChangeRecord.file).filter (session.rewrites repository analysis) := by
  rw [newContents_eq, List.map_map]
  exact List.map_id' _

/-- The modified repository has the rules' output in every previewed file and is else the same. -/
theorem withContents_newContents
    (session : Session)
    (repository : Snapshot)
    (analysis : Analysis) :
    withContents repository (session.newContents repository analysis) =
      repository.mapContents fun path content =>
        if path ∈ session.diffs.map ChangeRecord.file then
          (session.transformed analysis path content).content
        else content := by
  rw [newContents_eq]
  unfold withContents
  rw [Snapshot.foldl_setContent]
  apply Snapshot.mapContents_congr
  intro file member
  have found := Snapshot.get?_of_mem member
  by_cases previewed : file.path ∈ session.diffs.map ChangeRecord.file
  · by_cases same : (session.transformed analysis file.path file.content).content = file.content
    · simp [List.mem_filter, rewrites, output, found, same]
    · simp [List.mem_filter, rewrites, output, found, same, previewed]
  · simp [List.mem_filter, previewed]

/-- What the modified repository has at a path: the rules' output if the file was previewed. -/
theorem get?_withContents
    (session : Session)
    (repository : Snapshot)
    (analysis : Analysis)
    (path : String) :
    (withContents repository (session.newContents repository analysis)).get? path =
      (repository.get? path).map fun before =>
        if path ∈ session.diffs.map ChangeRecord.file then
          (session.transformed analysis path before).content
        else before := by
  rw [withContents_newContents, Snapshot.get?_mapContents]

/-- A previewed file of the repository has the rules' output in the modified repository. -/
theorem get?_withContents_newContents
    {session : Session}
    {repository : Snapshot}
    {analysis : Analysis}
    {record : ChangeRecord}
    {before : String}
    (member : record ∈ session.diffs)
    (found : repository.get? record.file = some before) :
    (withContents repository (session.newContents repository analysis)).get? record.file =
      some (session.transformed analysis record.file before).content := by
  have previewed : record.file ∈ session.diffs.map ChangeRecord.file :=
    List.mem_map_of_mem member
  rw [get?_withContents, found, Option.map_some, if_pos previewed]

end Session

end SourceUpgrade
