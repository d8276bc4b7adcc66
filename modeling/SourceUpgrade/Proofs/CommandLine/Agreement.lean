import SourceUpgrade.Proofs.CommandLine.Frame
import SourceUpgrade.Proofs.Patch.Unified

namespace SourceUpgrade.CommandLine

/-!
# Commands agree

A preview, a whole run and an application load the same inputs in different ways, and each begins
with a gate of its own. All the same they come to one batch, since a batch depends on no gate:
`commands_agree` says that a whole run prints what a preview prints and one more line, and that an
application names the files of the same records.
-/

/-! ## The same files -/

/-- Whether two invocations have the same files to read, whatever else they are told. -/
structure Invocation.SameFiles (first second : Invocation) : Prop where
  repository : first.repository = second.repository
  analysis : first.analysis = second.analysis
  rules : first.rules = second.rules
  settings : first.settings = second.settings
  guidance : first.guidance = second.guidance

section

variable {first second : Invocation}

/-- A session is prepared from the files alone. -/
theorem Invocation.SameFiles.prepare_eq
    (same : first.SameFiles second)
    (files : Files) :
    prepare files first = prepare files second := by
  simp only [prepare, same.rules, same.settings, same.guidance]

/-- What is loaded depends on the files alone. -/
theorem Invocation.SameFiles.loads
    {files : Files}
    {work : Work}
    (same : first.SameFiles second)
    (loads : first.Loads files work) :
    second.Loads files work where
  prepared := same.prepare_eq files ▸ loads.prepared
  inputs := same.repository ▸ same.analysis ▸ loads.inputs

end

/-! ## Printed lines -/

/-- The lines of a printed text, each with its end mark. -/
def printedLines (text : String) : List Patch.Line :=
  Patch.splitLines text.toList

theorem endsLine_line (text : String) : Patch.EndsLine (line text).toList := by
  rw [line, String.toList_append]
  exact Patch.endsLine_append_lineFeed _

theorem endsLine_join
    {texts : List String}
    (each : ∀ text ∈ texts, Patch.EndsLine text.toList) :
    Patch.EndsLine (String.join texts).toList := by
  rw [String.toList_join]
  exact Patch.endsLine_flatMap each

theorem endsLine_lines (texts : List String) : Patch.EndsLine (lines texts).toList := by
  refine endsLine_join fun text member => ?_
  obtain ⟨content, -, rfl⟩ := List.mem_map.mp member
  exact endsLine_line content

/-- What a preview says about a file ends its last line. -/
theorem endsLine_printRecord
    {settings : Settings}
    {record : ChangeRecord}
    {before after : String}
    (describes : record.Describes settings before after) :
    Patch.EndsLine (printRecord record).toList := by
  rw [printRecord, String.toList_append, String.toList_append, describes.patch]
  exact ((endsLine_line _).append (endsLine_lines _)).append (Patch.endsLine_unified _ _ _ _)

/-- A record of a batch describes a change. -/
theorem Work.describes_of_mem_batch
    {work : Work}
    {record : ChangeRecord}
    (member : record ∈ work.batch) :
    ∃ settings before after, before ≠ after ∧ record.Describes settings before after := by
  obtain ⟨before, -, made⟩ := Session.exists_of_mem_batch member
  obtain ⟨-, differ, -⟩ := RecordStyle.record?_eq_some_iff.mp made
  exact ⟨_, before, _, differ, Session.describes_of_record? made⟩

/-- No record of a batch is without a patch. -/
theorem Work.patch_ne_empty
    {work : Work}
    {record : ChangeRecord}
    (member : record ∈ work.batch) :
    record.patch ≠ "" := by
  obtain ⟨_, before, after, differ, describes⟩ := Work.describes_of_mem_batch member
  rw [describes.patch]
  exact mt (Patch.unified_replays _ _ _ _).1.mp differ

/-- A printed batch ends its last line. -/
theorem Work.endsLine_printRecords (work : Work) :
    Patch.EndsLine (printRecords work.batch).toList := by
  refine endsLine_join fun text member => ?_
  obtain ⟨record, inBatch, rfl⟩ := List.mem_map.mp member
  obtain ⟨_, _, _, -, describes⟩ := Work.describes_of_mem_batch inBatch
  exact endsLine_printRecord describes

/-- The last line of a whole run is one line. -/
theorem standsAlone_runLine
    (count : Nat)
    (applied : Bool) :
    Patch.StandsAlone (runLine count applied).toList := by
  let words := if applied then ", applied" else " (dry run)"
  have text :
      (runLine count applied).toList =
        Nat.toDigits 10 count ++ (" files changed".toList ++ words.toList) ++ ['\n'] := by
    simp only [runLine, line, Text.decimal, String.toList_append, String.toList_ofList,
      List.append_assoc]
    rfl
  have unendedWords : Patch.IsUnended (" files changed".toList ++ words.toList) := by
    refine Patch.isUnended_of_all ?_
    cases applied <;> decide
  rw [text]
  refine ⟨((Patch.isUnended_toDigits count).append unendedWords).isEnded_append, ?_⟩
  -- The first character is a digit.
  obtain ⟨digit, digits, written⟩ := List.exists_cons_of_ne_nil (Nat.toDigits_ne_nil (n := count))
  have isDigit := Patch.isUnended_toDigits count digit (written ▸ List.mem_cons_self)
  rw [written]
  exact fun same => isDigit.2 (Option.some.inj same)

/-- The text of a whole run is that of a batch and one line more. -/
theorem Work.printedLines_append_runLine
    (work : Work)
    (count : Nat)
    (applied : Bool) :
    printedLines (printRecords work.batch ++ runLine count applied) =
      printedLines (printRecords work.batch) ++ [(runLine count applied).toList] := by
  have last := standsAlone_runLine count applied
  have single := Patch.splitLines_flatten (List.forall_mem_singleton.mpr last)
  rw [List.flatten_singleton] at single
  rw [printedLines, String.toList_append,
    work.endsLine_printRecords.splitLines_append last.noLineFeed, single]
  rfl

/-! ## What commands print in text -/

/-- Whether a whole run applies changes: the gate is off, and there are some. -/
def Invocation.applies (invocation : Invocation) (work : Work) : Bool :=
  !invocation.dryRun && !work.batch.isEmpty

theorem Invocation.applies_of_blocked
    {invocation : Invocation}
    {work : Work}
    (blocked : invocation.dryRun = true ∨ work.batch = []) :
    invocation.applies work = false := by
  rcases blocked with on | none
  · simp [applies, on]
  · simp [applies, none]

theorem Invocation.applies_of_changes
    {invocation : Invocation}
    {work : Work}
    (off : invocation.dryRun = false)
    (changes : work.batch ≠ []) :
    invocation.applies work = true := by
  simp [applies, off, changes]

section

variable {disk : Disk} {arguments : List String} {invocation : Invocation} {work : Work}
  (asked : readArguments arguments = .invoke invocation)
  (loads : invocation.Loads disk.read? work) (asText : invocation.json = false)

include asked loads asText

/-- A preview prints its batch, whatever it is told about the gate and the destination. -/
theorem runIn_diff (isDiff : invocation.command = .diff) :
    (runIn disk arguments).1 = .success (printRecords work.batch) := by
  obtain ⟨inputs, give, performs⟩ := loads.step_eq
  rw [runIn, asked, Request.step, performs, Invocation.perform, isDiff]
  dsimp only
  rw [diff_of_give give, asText]
  rfl

/-- A whole run prints the same batch and a line on what was done, and attempts to write the result
if changes were applied. -/
theorem runIn_run (isRun : invocation.command = .run) :
    runIn disk arguments =
      (.success
          (printRecords work.batch ++ runLine work.batch.length (invocation.applies work)),
        if invocation.applies work then
          (disk.write? (invocation.destination work) work.rewritten.write).getD disk
        else disk) := by
  obtain ⟨inputs, give, performs⟩ := loads.step_eq
  rw [runIn, asked, Request.step, performs, Invocation.perform, Invocation.destination, isRun]
  dsimp only
  by_cases blocked : invocation.dryRun = true ∨ work.batch = []
  · obtain ⟨reply, done⟩ := run_of_blocked give blocked
    rw [done, Invocation.applies_of_blocked blocked, Step.takeIn, runOutcome, asText,
      work.previewed_diffs]
    rfl
  · obtain ⟨notOn, changes⟩ := not_or.mp blocked
    have off : invocation.dryRun = false := Bool.not_eq_true _ ▸ notOn
    have sameDiffs : work.applied.diffs = work.batch := work.previewed_diffs false
    obtain ⟨reply, exported, done⟩ := run_of_changes give off changes
    rw [done, Invocation.applies_of_changes off changes, Step.takeIn]
    cases disk.write? _ work.rewritten.write with
    | none | some =>
        simp only [runOutcome, asText, sameDiffs]
        rfl

/-- An application whose write is accepted prints the files of the batch, and where they went. -/
theorem runIn_apply
    (isApply : invocation.command = .apply)
    (off : invocation.dryRun = false)
    (changes : work.batch ≠ [])
    (accepted : disk.write? (invocation.destination work) work.rewritten.write ≠ none) :
    (runIn disk arguments).1 =
      .success
        (printApplied ⟨work.batch.map ChangeRecord.file⟩
          ⟨invocation.destination work, work.rewritten.size⟩) := by
  obtain ⟨inputs, give, performs⟩ := loads.step_eq
  obtain ⟨written, made⟩ := Option.ne_none_iff_exists'.mp accepted
  have here : invocation.destination work = invocation.out.getD work.exportPath := by
    rw [Invocation.destination, isApply]
  rw [here] at made ⊢
  rw [runIn, asked, Request.step, performs, Invocation.perform, isApply]
  dsimp only
  rw [apply_of_changes give off changes, Step.takeIn, made, asText]
  rfl

end

/--
On files that load, a preview succeeds and prints the records of the batch, each with a patch. On the
same files a whole run succeeds too, with the gate on or off, and prints the text of the preview and
then one line; lines end with a line feed, a carriage return or both. If there are records, an
application with the gate off whose write is accepted succeeds as well, and before a line about the
export it has one line for each of these records, in the same order, with the file of the record.
-/
theorem commands_agree
    {disk : Disk}
    {arguments : List String}
    {preview : Invocation}
    {work : Work}
    (asked : readArguments arguments = .invoke preview)
    (isPreview : preview.command = .diff)
    (asText : preview.json = false)
    (loads : preview.Loads disk.read? work) :
    let previewed := (runIn disk arguments).1
    previewed.code = 0 ∧
      previewed.output = printRecords work.batch ∧
        (∀ record ∈ work.batch, record.patch ≠ "") ∧
          ∀ otherArguments other,
            readArguments otherArguments = .invoke other →
              other.json = false →
                preview.SameFiles other →
                  let done := (runIn disk otherArguments).1
                  (other.command = .run →
                    done.code = 0 ∧
                      ∃ last,
                        done.output = previewed.output ++ last ∧
                          printedLines done.output =
                            printedLines previewed.output ++ [last.toList]) ∧
                    (other.command = .apply →
                      other.dryRun = false →
                        work.batch ≠ [] →
                          disk.write? (other.destination work) work.rewritten.write ≠ none →
                            done.code = 0 ∧
                              ∃ exported,
                                done.output =
                                  lines (work.batch.map fun record => "applied " ++ record.file) ++
                                    line ("Wrote " ++ exported)) := by
  intro previewed
  have previewDone : previewed = .success _ := runIn_diff asked loads asText isPreview
  rw [previewDone]
  refine ⟨rfl, rfl, fun record member => Work.patch_ne_empty member, ?_⟩
  intro otherArguments other otherAsked otherAsText same done
  have otherLoads := same.loads loads
  refine ⟨fun isRun => ?_, fun isApply off changes accepted => ?_⟩
  · have runDone : done = .success _ :=
      congrArg Prod.fst (runIn_run otherAsked otherLoads otherAsText isRun)
    rw [runDone]
    exact ⟨rfl, _, rfl, work.printedLines_append_runLine _ _⟩
  · have applyDone : done = .success _ :=
      runIn_apply otherAsked otherLoads otherAsText isApply off changes accepted
    rw [applyDone]
    refine ⟨rfl, Text.decimal work.rewritten.size ++ " files to " ++ other.destination work, ?_⟩
    simp only [Outcome.success, printApplied, List.map_map, String.append_assoc]
    rfl

/-- Where a page is out of date, a dry run prints the preview and one line, and the page is applied. -/
theorem commands_agree_router :
    let previewed := (runIn routerDisk (plainArguments .diff [])).1
    let ran := (runIn routerDisk (plainArguments .run ["--dry-run"])).1
    let applied := (runIn routerDisk (plainArguments .apply ["--out", "out.json"])).1
    previewed.code = 0 ∧
      ran.code = 0 ∧
        (∃ last, ran.output = previewed.output ++ last) ∧
          applied.code = 0 ∧
            ∃ exported,
              applied.output =
                lines (routerWork.batch.map fun record => "applied " ++ record.file) ++
                  line ("Wrote " ++ exported) := by
  have askedPreview :
      readArguments (plainArguments .diff []) = .invoke (plainInvocation .diff none) := by
    decide +kernel
  have askedRun :
      readArguments (plainArguments .run ["--dry-run"]) =
        .invoke { plainInvocation .run none with dryRun := true } := by
    decide +kernel
  have askedApply :
      readArguments (plainArguments .apply ["--out", "out.json"]) =
        .invoke (plainInvocation .apply (some "out.json")) := by
    decide +kernel
  obtain ⟨previewOk, -, -, others⟩ :=
    commands_agree askedPreview rfl rfl (routerWork_loads .diff none)
  obtain ⟨runOk, last, ends, -⟩ := (others _ _ askedRun rfl ⟨rfl, rfl, rfl, rfl, rfl⟩).1 rfl
  have accepted :
      routerDisk.write? ((plainInvocation .apply (some "out.json")).destination routerWork)
          routerWork.rewritten.write ≠
        none := by
    change routerDisk.write? "out.json" _ ≠ none
    rw [routerDisk_write?]
    exact nofun
  have applied :=
    (others _ _ askedApply rfl ⟨rfl, rfl, rfl, rfl, rfl⟩).2 rfl rfl routerWork_changes accepted
  exact ⟨previewOk, runOk, ⟨last, ends⟩, applied⟩

end SourceUpgrade.CommandLine
