import SourceUpgrade.Proofs.CommandLine.Agreement

namespace SourceUpgrade.CommandLine

/-!
# What the last line of a whole run tells

A whole run in text ends with a line that says whether changes were applied or only shown. It says
`, applied` as soon as the session has applied them; whether the export that follows is written has
no say in it. It says ` (dry run)` in all other cases, also if the gate was off and there was
nothing to apply. `run_reports` tells what each of the two means for the disk, and
`run_reports_what_is_not_so` has a run for each way in which the words say more.
-/

/-- Whether what was printed ends with a line that ends with some words. -/
def Outcome.LastLineEnds (outcome : Outcome) (words : String) : Prop :=
  ∃ front, outcome.output = front ++ line words

/-- A text does not end with both kinds of words. -/
theorem line_applied_ne_line_dryRun (first second : String) :
    first ++ line ", applied" ≠ second ++ line " (dry run)" := by
  intro same
  -- The characters in front of the line break differ.
  have reversed := congrArg (fun text => text.toList.reverse) same
  simp [line] at reversed

/-- The last line of a whole run ends with the words for what was done, and with no others. -/
theorem lastLineEnds_runLine (printed : String) (count : Nat) (applied : Bool) :
    let outcome := Outcome.success (printed ++ runLine count applied)
    (outcome.LastLineEnds ", applied" ↔ applied = true) ∧
      (outcome.LastLineEnds " (dry run)" ↔ applied = false) := by
  let words := if applied then ", applied" else " (dry run)"
  have ends :
      printed ++ runLine count applied =
        printed ++ (Text.decimal count ++ " files changed") ++ line words := by
    simp only [runLine, line, words, String.append_assoc]
  cases applied with
  | true =>
      refine ⟨iff_of_true ⟨_, ends⟩ rfl, iff_of_false ?_ Bool.false_ne_true.symm⟩
      rintro ⟨other, same⟩
      exact line_applied_ne_line_dryRun _ _ (ends.symm.trans same)
  | false =>
      refine ⟨iff_of_false ?_ Bool.false_ne_true, iff_of_true ⟨_, ends⟩ rfl⟩
      rintro ⟨other, same⟩
      exact line_applied_ne_line_dryRun _ _ (same.symm.trans ends)

section

variable {disk : Disk} {arguments : List String} {invocation : Invocation} {work : Work}
  (asked : readArguments arguments = .invoke invocation) (isRun : invocation.command = .run)
  (asText : invocation.json = false) (loads : invocation.Loads disk.read? work)

include asked isRun asText loads

/-- With the gate on or without changes, a whole run says that it was a dry run. -/
theorem runIn_of_blocked
    (blocked : invocation.dryRun = true ∨ work.batch = []) :
    (runIn disk arguments).1.code = 0 ∧
      (runIn disk arguments).1.LastLineEnds " (dry run)" ∧
        ¬ (runIn disk arguments).1.LastLineEnds ", applied" ∧
          (runIn disk arguments).2 = disk := by
  obtain ⟨said, saidDry⟩ :=
    lastLineEnds_runLine (printRecords work.batch) work.batch.length false
  rw [runIn_run asked loads asText isRun, Invocation.applies_of_blocked blocked]
  exact ⟨rfl, saidDry.mpr rfl, said.not.mpr Bool.false_ne_true, rfl⟩

/-- With the gate off, a whole run says that it applied changes, and it attempts to write. -/
theorem runIn_of_changes
    (off : invocation.dryRun = false)
    (changes : work.batch ≠ []) :
    (runIn disk arguments).1.code = 0 ∧
      (runIn disk arguments).1.LastLineEnds ", applied" ∧
        ¬ (runIn disk arguments).1.LastLineEnds " (dry run)" ∧
          (runIn disk arguments).2 =
            (disk.write? (invocation.destination work) work.rewritten.write).getD disk := by
  obtain ⟨said, saidDry⟩ :=
    lastLineEnds_runLine (printRecords work.batch) work.batch.length true
  rw [runIn_run asked loads asText isRun, Invocation.applies_of_changes off changes]
  exact ⟨rfl, said.mpr rfl, saidDry.not.mpr Bool.false_ne_true.symm, rfl⟩

end

/-- The path that a text asks for is the text without blanks around it, unless nothing is left. -/
theorem requestedPath_getD (out : Option String) :
    requestedPath (out.getD "") = (out.map Text.trimString).filter fun path => path ≠ "" := by
  cases out with
  | none =>
      rfl
  | some path =>
      by_cases blank : Text.trimString path = ""
      · simp [requestedPath, blank, Option.filter_some]
      · simp [requestedPath, blank, Option.filter_some]

/--
In text, a whole run that succeeds says that it applied changes exactly if the gate was off and
there were changes, and it says that it was a dry run in all other cases. In the first case the
session has modified its snapshot, and the text of that is at the destination if the write has been
accepted; if not, the disk is as it was. The destination is the path that was given, without
blanks around it, or else the one in the settings. In the second case the disk is as it was.
-/
theorem run_reports
    {disk : Disk}
    {arguments : List String}
    {invocation : Invocation}
    (asked : readArguments arguments = .invoke invocation)
    (isRun : invocation.command = .run)
    (asText : invocation.json = false)
    (succeeds : (runIn disk arguments).1.code = 0) :
    let outcome := (runIn disk arguments).1
    let after := (runIn disk arguments).2
    ∃ work,
      invocation.Loads disk.read? work ∧
        (outcome.LastLineEnds ", applied" ↔ invocation.dryRun = false ∧ work.batch ≠ []) ∧
          (outcome.LastLineEnds " (dry run)" ↔ invocation.dryRun = true ∨ work.batch = []) ∧
            (outcome.LastLineEnds ", applied" →
              ∃ destination snapshot,
                destination =
                    ((invocation.out.map Text.trimString).filter fun path => path ≠ "").getD
                      work.exportPath ∧
                  work.applied.modified = some snapshot ∧
                    (disk.write? destination snapshot.write = none → after = disk) ∧
                      ∀ written,
                        disk.write? destination snapshot.write = some written →
                          after = written ∧ after.read? destination = some snapshot.write) ∧
              (outcome.LastLineEnds " (dry run)" → after = disk) := by
  intro outcome after
  by_cases loads : ∃ work, invocation.Loads disk.read? work
  · obtain ⟨work, loads⟩ := loads
    refine ⟨work, loads, ?_⟩
    by_cases blocked : invocation.dryRun = true ∨ work.batch = []
    · obtain ⟨-, said, notSaid, left⟩ := runIn_of_blocked asked isRun asText loads blocked
      have notApplied : ¬ (invocation.dryRun = false ∧ work.batch ≠ []) := by
        rintro ⟨off, changes⟩
        rcases blocked with on | noChanges
        · exact Bool.false_ne_true (off.symm.trans on)
        · exact changes noChanges
      exact ⟨iff_of_false notSaid notApplied, iff_of_true said blocked,
        fun other => absurd other notSaid, fun _ => left⟩
    · obtain ⟨notOn, changes⟩ := not_or.mp blocked
      have off : invocation.dryRun = false := Bool.not_eq_true _ ▸ notOn
      obtain ⟨-, said, notSaid, left⟩ := runIn_of_changes asked isRun asText loads off changes
      refine ⟨iff_of_true said ⟨off, changes⟩, iff_of_false notSaid blocked, fun _ => ?_,
        fun other => absurd other notSaid⟩
      refine ⟨invocation.destination work, work.rewritten, ?_, work.applied_modified, ?_, ?_⟩
      · rw [Invocation.destination, isRun, ← requestedPath_getD]
      · intro refused
        exact left.trans (by rw [refused]; rfl)
      · intro written accepted
        have made : after = written := left.trans (by rw [accepted]; rfl)
        exact ⟨made, made ▸ Disk.read?_of_write? accepted⟩
  · obtain ⟨failure, output, fails⟩ := Invocation.step_fails (not_exists.mp loads)
    rw [runIn, asked, Request.step, fails, Step.takeIn] at succeeds
    cases succeeds

theorem plainInvocation_destination
    {path name : String}
    (trimmed : Text.trimString path = name)
    (notBlank : name ≠ "")
    (work : Work) :
    (plainInvocation .run (some path)).destination work = name := by
  simp [Invocation.destination, plainInvocation, requestedPath, trimmed, notBlank]

/-- The page is rewritten, and what was written is at the path that was given. -/
theorem run_reports_router :
    readArguments (plainArguments .run ["--out", "out.json"]) =
        .invoke (plainInvocation .run (some "out.json")) ∧
      (runIn routerDisk (plainArguments .run ["--out", "out.json"])).1.code = 0 ∧
        (runIn routerDisk (plainArguments .run ["--out", "out.json"])).1.LastLineEnds
            ", applied" ∧
          ∃ (work : Work) (snapshot : Snapshot),
            work.applied.modified = some snapshot ∧
              (runIn routerDisk (plainArguments .run ["--out", "out.json"])).2.read? "out.json" =
                some snapshot.write := by
  have asked :
      readArguments (plainArguments .run ["--out", "out.json"]) =
        .invoke (plainInvocation .run (some "out.json")) := by
    decide +kernel
  obtain ⟨succeeds, said, -, -⟩ :=
    runIn_of_changes asked rfl rfl (routerWork_loads ..) rfl routerWork_changes
  obtain ⟨work, -, -, -, applied, -⟩ := run_reports asked rfl rfl succeeds
  obtain ⟨destination, snapshot, given, modified, -, accepted⟩ := applied said
  refine ⟨asked, succeeds, said, work, snapshot, modified, ?_⟩
  have here : destination = "out.json" := by
    have noBlanks : Text.trimString "out.json" = "out.json" := by
      decide +kernel
    rw [given]
    simp [plainInvocation, noBlanks, Option.filter_some]
  rw [here] at accepted
  exact (accepted _ (routerDisk_write? _)).2

/-- A disk with a repository without files. -/
def emptyDisk : Disk :=
  inputDisk "\x7b\"files\":[]\x7d" Session.upgradeText

/--
The last line says more than is so in three ways. An export that is refused counts as applied; so
does one that goes to another path, without the blanks that were given; and a run with the gate off
that has nothing to apply counts as a dry run.
-/
theorem run_reports_what_is_not_so :
    ((runIn routerDisk (plainArguments .run ["--out", "missing/out.json"])).1.code = 0 ∧
        (runIn routerDisk (plainArguments .run ["--out", "missing/out.json"])).1.LastLineEnds
            ", applied" ∧
          (runIn routerDisk (plainArguments .run ["--out", "missing/out.json"])).2.read?
              "missing/out.json" =
            none) ∧
      ((runIn routerDisk (plainArguments .run ["--out", " out.json"])).1.code = 0 ∧
          (runIn routerDisk (plainArguments .run ["--out", " out.json"])).1.LastLineEnds
              ", applied" ∧
            (runIn routerDisk (plainArguments .run ["--out", " out.json"])).2.read? " out.json" =
              none) ∧
        ((runIn emptyDisk (plainArguments .run [])).1.code = 0 ∧
          "--dry-run" ∉ plainArguments .run [] ∧
            (runIn emptyDisk (plainArguments .run [])).1.LastLineEnds " (dry run)") := by
  refine ⟨?_, ?_, ?_⟩
  · have asked :
        readArguments (plainArguments .run ["--out", "missing/out.json"]) =
          .invoke (plainInvocation .run (some "missing/out.json")) := by
      decide +kernel
    obtain ⟨succeeds, said, -, left⟩ :=
      runIn_of_changes asked rfl rfl (routerWork_loads ..) rfl routerWork_changes
    have noPlace : routerDisk.place? "missing/out.json" = none := by
      decide +kernel
    have noTarget : routerDisk.target? "missing/out.json" = none := by
      rw [Disk.target?, noPlace, Option.filter_none]
    have noBlanks : Text.trimString "missing/out.json" = "missing/out.json" := by
      decide +kernel
    refine ⟨succeeds, said, ?_⟩
    rw [left, plainInvocation_destination noBlanks (by decide), Disk.write?_of_no_target noTarget,
      Disk.read?, noPlace, Option.bind_none]
  · have asked :
        readArguments (plainArguments .run ["--out", " out.json"]) =
          .invoke (plainInvocation .run (some " out.json")) := by
      decide +kernel
    obtain ⟨succeeds, said, -, left⟩ :=
      runIn_of_changes asked rfl rfl (routerWork_loads ..) rfl routerWork_changes
    have place : routerDisk.place? " out.json" = some ["work", " out.json"] := rfl
    have absent : routerDisk.textAt? ["work", " out.json"] = none := by
      decide +kernel
    have trimmed : Text.trimString " out.json" = "out.json" := by
      decide +kernel
    refine ⟨succeeds, said, ?_⟩
    rw [left, plainInvocation_destination trimmed (by decide), routerDisk_write?,
      Option.getD_some, Disk.read?, Disk.place?_put place, Option.bind_some,
      Disk.textAt?_put, if_neg (by decide), absent]
  · have asked :
        readArguments (plainArguments .run []) = .invoke (plainInvocation .run none) := by
      decide +kernel
    have noFiles :
        Snapshot.read "\x7b\"files\":[]\x7d" = .ok ⟨[], "", [], by simp⟩ := by
      decide +kernel
    have loads :
        (plainInvocation .run none).Loads emptyDisk.read?
          (plainWork ⟨[], "", [], by simp⟩ Session.routerUpgrade) :=
      plainInvocation_loads noFiles Session.read_upgradeText .run none
    obtain ⟨succeeds, said, -, -⟩ := runIn_of_blocked asked rfl rfl loads (.inr rfl)
    exact ⟨succeeds, by decide, said⟩

end SourceUpgrade.CommandLine
