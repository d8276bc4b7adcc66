import SourceUpgrade.Proofs.Rule.Isolation
import SourceUpgrade.Proofs.Session.Coverage

namespace SourceUpgrade

/-!
# Sessions with rules that do not compile

A custom rule whose pattern does not compile puts a note into every record of a preview and leaves
no other trace. `Session.batch_withRule` says what such a rule does to the records, and
`Desk.run_withoutFailures` that runs of the same operations at desks that differ in such rules leave
the same and have the same replies but for what these tell of rules.
-/

/-! ## Records and their notes -/

namespace ChangeRecord

/-- A record without its notes. -/
def withoutNotes (record : ChangeRecord) : ChangeRecord :=
  { record with notes := [] }

/-- Whether a record is another one with a note put somewhere between the notes. -/
def GainsNote (note : String) (record gained : ChangeRecord) : Prop :=
  ∃ earlier later,
    record.notes = earlier ++ later ∧
      gained = { record with notes := earlier ++ note :: later }

end ChangeRecord

namespace RecordStyle

variable (style : RecordStyle) (path before after : String) (changes : Nat)

/-- The notes of a record are those that it was given, and nothing else depends on them. -/
theorem record?_withoutNotes (notes : List String) :
    (style.record? path before after changes notes).map ChangeRecord.withoutNotes =
      style.record? path before after changes [] := by
  unfold record?
  split <;> rfl

theorem record?_gainsNote
    (note : String)
    (earlier later : List String) :
    Option.Rel (ChangeRecord.GainsNote note)
      (style.record? path before after changes (earlier ++ later))
      (style.record? path before after changes (earlier ++ note :: later)) := by
  unfold record?
  split
  · exact .none
  · exact .some ⟨earlier, later, rfl, rfl⟩

end RecordStyle

/-- A summary of a preview without the notes in its records. -/
def DiffSummary.withoutNotes (summary : DiffSummary) : DiffSummary :=
  { summary with preview := summary.preview.map ChangeRecord.withoutNotes }

namespace Session

/-! ## Another rule that does not compile -/

/-- A session with another custom rule at a position. -/
def withRule (session : Session) (position : Nat) (rule : CustomRule) : Session :=
  { session with registry := session.registry.withRule position rule }

section

variable {broken : CustomRule} (fails : broken.compiles = false)

include fails

/-- The record of a file gains the note of a rule that does not compile. -/
theorem record?_withRule
    (session : Session)
    (position : Nat)
    (repository : Snapshot)
    (analysis : Analysis)
    (path : String) :
    Option.Rel (ChangeRecord.GainsNote (CustomRule.errorNote broken.name))
      (session.record? repository analysis path)
      ((session.withRule position broken).record? repository analysis path) := by
  have notes :=
    session.registry.notes_run position (.ofAnalysis analysis session.guidance) path
      ((repository.get? path).getD "")
  have done :=
    Registry.run_withRule fails session.registry position (.ofAnalysis analysis session.guidance)
      path ((repository.get? path).getD "")
  unfold record? transformed withRule
  simp only [notes, done]
  exact RecordStyle.record?_gainsNote ..

/-- All records of a preview gain the note of a rule that does not compile. -/
theorem batch_withRule
    (session : Session)
    (position : Nat)
    (repository : Snapshot)
    (analysis : Analysis) :
    List.Forall₂ (ChangeRecord.GainsNote (CustomRule.errorNote broken.name))
      (session.batch repository analysis)
      ((session.withRule position broken).batch repository analysis) := by
  refine List.rel_filterMap (R := Eq) ?_ (List.forall₂_refl _)
  rintro path _ rfl
  exact record?_withRule fails session position repository analysis path

end

/-! ## Sessions without the rules that do not compile -/

/-- A session without the rules that do not compile and without the notes of previewed records. -/
def withoutFailures (session : Session) : Session :=
  { session with
    registry := session.registry.compiling
    diffs := session.diffs.map ChangeRecord.withoutNotes }

theorem withoutFailures_withoutFailures (session : Session) :
    session.withoutFailures.withoutFailures = session.withoutFailures := by
  simp [withoutFailures, Registry.compiling_compiling, ChangeRecord.withoutNotes]

theorem withRule_withoutFailures
    {broken : CustomRule}
    (fails : broken.compiles = false)
    (session : Session)
    (position : Nat) :
    (session.withRule position broken).withoutFailures = session.withoutFailures := by
  rw [withoutFailures, withRule, Registry.compiling_withRule fails]
  rfl

section

variable (session : Session) (repository : Snapshot) (analysis : Analysis)

theorem diffSummary_withoutFailures :
    session.withoutFailures.diffSummary = session.diffSummary.withoutNotes := by
  simp [diffSummary, withoutFailures, DiffSummary.withoutNotes, ChangeRecord.withoutNotes]

/-- What is previewed without the rules that do not compile is the same but for notes. -/
theorem batch_withoutFailures :
    (session.withoutFailures.batch repository analysis).map ChangeRecord.withoutNotes =
      (session.batch repository analysis).map ChangeRecord.withoutNotes := by
  unfold batch
  rw [List.map_filterMap, List.map_filterMap]
  refine List.filterMap_congr fun path _ => ?_
  unfold record? transformed
  simp only [RecordStyle.record?_withoutNotes]
  simp only [withoutFailures, Registry.run_compiling]

theorem previewed_withoutFailures :
    (session.withoutFailures.previewed repository analysis).withoutFailures =
      (session.previewed repository analysis).withoutFailures := by
  change
    { session with
      registry := session.registry.compiling.compiling
      diffs := (session.withoutFailures.batch repository analysis).map ChangeRecord.withoutNotes
      state := .previewed } = _
  rw [batch_withoutFailures, Registry.compiling_compiling]
  rfl

/-- What is written without the rules that do not compile is the same. -/
theorem newContents_withoutFailures :
    session.withoutFailures.newContents repository analysis =
      session.newContents repository analysis := by
  unfold newContents transformed
  simp only [withoutFailures, List.filterMap_map, Registry.run_compiling]
  rfl

/-- Applying without the rules that do not compile gives the same. -/
theorem apply_withoutFailures :
    session.withoutFailures.apply =
      session.apply.map fun answer => (answer.1.withoutFailures, answer.2) := by
  have sameGate : session.withoutFailures.dryRun = session.dryRun := rfl
  have sameInputs : session.withoutFailures.inputs = session.inputs := rfl
  have sameState : session.withoutFailures.state = session.state := rfl
  have sameEmpty : session.withoutFailures.diffs.isEmpty = session.diffs.isEmpty := List.isEmpty_map
  unfold apply
  rw [sameGate, sameEmpty, sameInputs, sameState]
  cases session.dryRun with
  | true =>
      rfl
  | false =>
      cases session.diffs.isEmpty with
      | true =>
          rfl
      | false =>
          cases session.inputs with
          | error error =>
              rfl
          | ok inputs =>
              simp only [bind, Except.bind, newContents_withoutFailures]
              cases session.state.moveTo .applied <;> rfl

theorem applyUnlessDry_withoutFailures :
    session.withoutFailures.applyUnlessDry =
      (session.applyUnlessDry.1.withoutFailures, session.applyUnlessDry.2) := by
  have sameGate : session.withoutFailures.dryRun = session.dryRun := rfl
  unfold applyUnlessDry
  rw [sameGate, apply_withoutFailures]
  cases session.dryRun with
  | true =>
      rfl
  | false =>
      cases session.apply <;> rfl

end

end Session

/-! ## Replies and what they tell of rules -/

/-- A reply without what it tells of rules: how many there are, their names and their notes. -/
def Reply.withoutRules : Reply → Reply
  | .ok (.rules _) => .ok (.rules 0)
  | .ok (.suggestion found) => .ok (.suggestion { found with rules := [] })
  | .ok (.diffs summary applied) => .ok (.diffs summary.withoutNotes applied)
  | reply => reply

namespace Session

/-- An answer of a session but for the rules that do not compile and for what is told of any. -/
def answerWithoutFailures (answer : Session × Reply) : Session × Reply :=
  (answer.1.withoutFailures, Reply.withoutRules answer.2)

/-- An outcome but for the rules that do not compile and for what its result tells of any. -/
def outcomeWithoutFailures
    {α : Type}
    (result : α → Result)
    (outcome : Except SessionError (Session × α)) :
    Except SessionError (Session × Reply) :=
  outcome.map fun answer => (answer.1.withoutFailures, Reply.withoutRules (.ok (result answer.2)))

/-- Outcomes that are the same but for rules that do not compile are settled alike. -/
theorem settle_withoutFailures
    {α : Type}
    {result : α → Result}
    {outcome other : Except SessionError (Session × α)}
    (same : outcomeWithoutFailures result outcome = outcomeWithoutFailures result other)
    (session : Session) :
    answerWithoutFailures (session.withoutFailures.settle result outcome) =
      answerWithoutFailures (session.settle result other) := by
  cases outcome with
  | error error =>
      cases other with
      | error otherError =>
          obtain rfl : error = otherError := Except.error.inj same
          simp only [settle, answerWithoutFailures, withoutFailures_withoutFailures]
      | ok answer =>
          cases same
  | ok answer =>
      cases other with
      | error otherError =>
          cases same
      | ok otherAnswer =>
          exact Except.ok.inj same

section

variable (session : Session)

theorem loadRepository_withoutFailures (payload : String) :
    outcomeWithoutFailures .repository (session.withoutFailures.loadRepository payload) =
      outcomeWithoutFailures .repository (session.loadRepository payload) := by
  unfold loadRepository
  cases Snapshot.read payload with
  | error error =>
      rfl
  | ok snapshot =>
      exact congrArg (fun loaded => Except.ok (loaded, _))
        (session.loadSnapshot snapshot).1.withoutFailures_withoutFailures

theorem loadAnalysis_withoutFailures (payload : String) :
    outcomeWithoutFailures .analysis (session.withoutFailures.loadAnalysis payload) =
      outcomeWithoutFailures .analysis (session.loadAnalysis payload) := by
  unfold loadAnalysis
  cases Analysis.read payload with
  | error error =>
      rfl
  | ok analysis =>
      exact congrArg (fun loaded => Except.ok (loaded, _))
        (session.loadReadAnalysis analysis).1.withoutFailures_withoutFailures

theorem addRule_withoutFailures (spec : CustomRuleSpec) :
    (session.withoutFailures.addRule spec).withoutFailures =
      (session.addRule spec).withoutFailures := by
  simp [addRule, withoutFailures, Registry.register, Registry.compiling,
    ChangeRecord.withoutNotes]

theorem readRule_withoutFailures (payload : String) :
    outcomeWithoutFailures .rules (session.withoutFailures.readRule payload) =
      outcomeWithoutFailures .rules (session.readRule payload) := by
  unfold readRule
  cases CustomRuleSpec.read payload with
  | error error =>
      rfl
  | ok spec =>
      exact congrArg (fun added => Except.ok (added, _)) (session.addRule_withoutFailures spec)

theorem setDryRun_withoutFailures (dryRun : Bool) :
    (session.withoutFailures.setDryRun dryRun).withoutFailures =
      (session.setDryRun dryRun).withoutFailures :=
  congrArg (fun session => session.setDryRun dryRun) session.withoutFailures_withoutFailures

theorem reloaded_withoutFailures
    (snapshot : Snapshot)
    (analysis : Analysis)
    (dryRun : Bool) :
    session.withoutFailures.reloaded snapshot analysis dryRun =
      (session.reloaded snapshot analysis dryRun).withoutFailures :=
  rfl

theorem suggest_withoutFailures :
    Reply.withoutRules (session.withoutFailures.suggest.map .suggestion) =
      Reply.withoutRules (session.suggest.map .suggestion) := by
  have sameInputs : session.withoutFailures.inputs = session.inputs := rfl
  unfold suggest
  rw [sameInputs]
  cases session.inputs <;> rfl

theorem generate_withoutFailures :
    outcomeWithoutFailures (fun summary => .diffs summary none) session.withoutFailures.generate =
      outcomeWithoutFailures (fun summary => .diffs summary none) session.generate := by
  have sameInputs : session.withoutFailures.inputs = session.inputs := rfl
  have sameState : session.withoutFailures.state = session.state := rfl
  unfold generate
  rw [sameInputs, sameState]
  cases session.inputs with
  | error error =>
      rfl
  | ok inputs =>
      obtain ⟨repository, analysis⟩ := inputs
      cases moved : session.state.moveTo .previewed with
      | error error =>
          rfl
      | ok state =>
          obtain ⟨-, rfl⟩ := moveTo_ok_iff.mp moved
          have samePreview := session.previewed_withoutFailures repository analysis
          have sameSummary := congrArg diffSummary samePreview
          rw [diffSummary_withoutFailures, diffSummary_withoutFailures] at sameSummary
          exact congrArg₂
            (fun next summary => Except.ok (next, Except.ok (Result.diffs summary none)))
            samePreview sameSummary

theorem full_withoutFailures (repository analysis flag : String) :
    answerWithoutFailures (session.withoutFailures.full repository analysis flag) =
      answerWithoutFailures (session.full repository analysis flag) := by
  cases readRepository : Snapshot.read repository with
  | error error =>
      simp only [full_of_bad_repository readRepository, answerWithoutFailures,
        withoutFailures_withoutFailures]
  | ok snapshot =>
      have sameLoaded :
          (session.withoutFailures.loadSnapshot snapshot).1 =
            (session.loadSnapshot snapshot).1.withoutFailures :=
        rfl
      cases read : Analysis.read analysis with
      | error error =>
          simp only [full_of_bad_analysis readRepository read, answerWithoutFailures, sameLoaded,
            withoutFailures_withoutFailures]
      | ok analysis =>
          have samePreview :=
            (session.reloaded snapshot analysis (readFlag flag)).previewed_withoutFailures snapshot
              analysis
          simp only [full_of_read readRepository read, reloaded_withoutFailures,
            answerWithoutFailures, Reply.withoutRules, ← diffSummary_withoutFailures, samePreview]
          have sameApplied := congrArg applyUnlessDry samePreview
          rw [applyUnlessDry_withoutFailures, applyUnlessDry_withoutFailures,
            Prod.mk.injEq] at sameApplied
          rw [sameApplied.1, sameApplied.2]

end

end Session

/-! ## Runs -/

namespace Desk

/-- The desk with another custom rule at a position. -/
def withRule (desk : Desk) (position : Nat) (rule : CustomRule) : Desk :=
  { desk with session := desk.session.withRule position rule }

/-- The desk without the rules that do not compile. -/
def withoutFailures (desk : Desk) : Desk :=
  { desk with session := desk.session.withoutFailures }

/-- An outcome of an operation but for the rules that do not compile and for what is told of any. -/
def outcomeWithoutFailures (outcome : Desk × Reply) : Desk × Reply :=
  (outcome.1.withoutFailures, Reply.withoutRules outcome.2)

theorem withoutFailures_withoutFailures (desk : Desk) :
    desk.withoutFailures.withoutFailures = desk.withoutFailures := by
  simp only [withoutFailures, Session.withoutFailures_withoutFailures]

theorem withRule_withoutFailures
    {broken : CustomRule}
    (fails : broken.compiles = false)
    (desk : Desk)
    (position : Nat) :
    (desk.withRule position broken).withoutFailures = desk.withoutFailures := by
  simp only [withRule, withoutFailures, Session.withRule_withoutFailures fails]

theorem withSession_withoutFailures
    (desk : Desk)
    {answer other : Session × Reply}
    (same : Session.answerWithoutFailures answer = Session.answerWithoutFailures other) :
    outcomeWithoutFailures (desk.withoutFailures.withSession answer) =
      outcomeWithoutFailures (desk.withSession other) :=
  congrArg (fun answer : Session × Reply => (Desk.mk answer.1 desk.disk, answer.2)) same

/-- An export writes and replies the same without the rules that do not compile. -/
theorem exportTo_withoutFailures (desk : Desk) (path : String) :
    outcomeWithoutFailures (desk.withoutFailures.exportTo path) =
      outcomeWithoutFailures (desk.exportTo path) := by
  have sameExport :
      desk.withoutFailures.session.exportTo desk.withoutFailures.disk (requestedPath path) =
        desk.session.exportTo desk.disk (requestedPath path) :=
    rfl
  unfold exportTo
  rw [sameExport]
  cases desk.session.exportTo desk.disk (requestedPath path) with
  | error error =>
      simp only [outcomeWithoutFailures, withoutFailures_withoutFailures]
  | ok answer =>
      simp only [outcomeWithoutFailures, withoutFailures, Session.withoutFailures_withoutFailures]

/-- An operation leaves and replies the same without the rules that do not compile. -/
theorem perform_withoutFailures (desk : Desk) (operation : Operation) :
    outcomeWithoutFailures (desk.withoutFailures.perform operation) =
      outcomeWithoutFailures (desk.perform operation) := by
  cases operation with
  | loadRepository payload =>
      exact desk.withSession_withoutFailures
        (Session.settle_withoutFailures (desk.session.loadRepository_withoutFailures payload) _)
  | loadAnalysis payload =>
      exact desk.withSession_withoutFailures
        (Session.settle_withoutFailures (desk.session.loadAnalysis_withoutFailures payload) _)
  | addRule payload =>
      exact desk.withSession_withoutFailures
        (Session.settle_withoutFailures (desk.session.readRule_withoutFailures payload) _)
  | setDryRun flag =>
      exact desk.withSession_withoutFailures
        (congrArg (Prod.mk · _) (desk.session.setDryRun_withoutFailures (readFlag flag)))
  | suggest =>
      exact congrArg₂ Prod.mk desk.withoutFailures_withoutFailures
        desk.session.suggest_withoutFailures
  | generate =>
      exact desk.withSession_withoutFailures
        (Session.settle_withoutFailures desk.session.generate_withoutFailures _)
  | apply =>
      refine desk.withSession_withoutFailures (Session.settle_withoutFailures ?_ _)
      change
        Session.outcomeWithoutFailures .applied desk.session.withoutFailures.apply =
          Session.outcomeWithoutFailures .applied desk.session.apply
      rw [Session.apply_withoutFailures]
      cases desk.session.apply with
      | error error =>
          rfl
      | ok answer =>
          exact congrArg (fun applied => Except.ok (applied, _))
            answer.1.withoutFailures_withoutFailures
  | exportTo path =>
      exact desk.exportTo_withoutFailures path
  | full repository analysis flag =>
      exact desk.withSession_withoutFailures
        (desk.session.full_withoutFailures repository analysis flag)

/-- What the replies of a run tell apart from rules. -/
def repliesWithoutRules (replies : List (Operation × Reply)) : List Reply :=
  replies.map fun answer => Reply.withoutRules answer.2

/-- Desks that are the same but for rules that do not compile stay so, with the same replies. -/
theorem run_withoutFailures
    {first second : Desk}
    (same : first.withoutFailures = second.withoutFailures)
    (operations : List Operation) :
    repliesWithoutRules (first.replies operations) =
        repliesWithoutRules (second.replies operations) ∧
      (first.run operations).withoutFailures = (second.run operations).withoutFailures := by
  induction operations generalizing first second with
  | nil =>
      exact ⟨rfl, same⟩
  | cons operation rest inductionHypothesis =>
      -- Both desks come to what the desk without such rules comes to.
      have sameOutcome :
          outcomeWithoutFailures (first.perform operation) =
            outcomeWithoutFailures (second.perform operation) := by
        rw [← perform_withoutFailures first, same, perform_withoutFailures]
      obtain ⟨sameDesk, sameReply⟩ := Prod.mk.inj sameOutcome
      obtain ⟨sameReplies, sameRun⟩ := inductionHypothesis sameDesk
      refine ⟨?_, sameRun⟩
      simp only [repliesWithoutRules, replies, List.map_cons] at sameReplies ⊢
      rw [sameReply, sameReplies]

end Desk

namespace CustomRule

/-- A rule is what its specification is compiled to. -/
theorem eq_ofSpec (rule : CustomRule) : rule = .ofSpec rule.spec := by
  obtain ⟨spec, compiled, template, rfl, rfl⟩ := rule
  rfl

/--
A rule that does not compile is isolated at whatever position among the custom rules it stands. Of a
run of the rules on a file it changes the notes only: its own comes between those of the rules before
it and those of the rules after it. So the records of a preview are the same and each gains the note,
and whatever operations are performed with the rule there, they leave the same changes but for notes,
the same modified repository and the same exports, and reply the same but for what they tell of
rules. A rule that is read at a desk stands at the last position.
-/
theorem isolated_of_not_compiles
    {broken : CustomRule}
    (fails : broken.compiles = false) :
    (∀ (registry : Registry) (position : Nat) (context : RuleContext) (path content : String),
        let begun := (registry.upTo position).run context path content
        let rest := (registry.after position).run context path begun.content
        let plain := registry.run context path content
        plain.notes = begun.notes ++ rest.notes ∧
          (registry.withRule position broken).run context path content =
            { plain with notes := begun.notes ++ errorNote broken.name :: rest.notes }) ∧
      (∀ (session : Session) (position : Nat) (repository : Snapshot) (analysis : Analysis),
        List.Forall₂ (ChangeRecord.GainsNote (errorNote broken.name))
          (session.batch repository analysis)
          ((session.withRule position broken).batch repository analysis)) ∧
      (∀ (desk : Desk) (position : Nat) (operations : List Operation),
        let plain := desk.run operations
        let done := (desk.withRule position broken).run operations
        done.session.diffs.map ChangeRecord.withoutNotes =
            plain.session.diffs.map ChangeRecord.withoutNotes ∧
          done.session.modified = plain.session.modified ∧
          done.session.state = plain.session.state ∧
          done.disk = plain.disk ∧
          Desk.repliesWithoutRules ((desk.withRule position broken).replies operations) =
            Desk.repliesWithoutRules (desk.replies operations)) ∧
      ∀ (desk : Desk) (payload : String),
        CustomRuleSpec.read payload = .ok broken.spec →
          (desk.perform (.addRule payload)).1 =
            desk.withRule desk.session.registry.customs.length broken := by
  refine ⟨?run, ?preview, ?operations, ?added⟩
  case run =>
    intro registry position context path content begun rest plain
    exact ⟨registry.notes_run position context path content,
      registry.run_withRule fails position context path content⟩
  case preview =>
    exact Session.batch_withRule fails
  case operations =>
    intro desk position operations plain done
    obtain ⟨sameReplies, sameRun⟩ :=
      Desk.run_withoutFailures (desk.withRule_withoutFailures fails position) operations
    obtain ⟨sameSession, sameDisk⟩ := Desk.mk.inj sameRun
    obtain ⟨-, -, -, -, -, -, sameDiffs, sameModified, sameState, -⟩ :=
      Session.mk.inj sameSession
    exact ⟨sameDiffs, sameModified, sameState, sameDisk, sameReplies⟩
  case added =>
    intro desk payload read
    have added :
        desk.session.addRule broken.spec =
          desk.session.withRule desk.session.registry.customs.length broken := by
      simp [Session.addRule, Session.withRule, Registry.register, Registry.withRule,
        ← eq_ofSpec]
    simp only [Desk.perform, Session.readRule, read, Session.settle, added]
    rfl

/-- A page is upgraded the same with a rule whose pattern is an open bracket. -/
theorem isolated_of_not_compiles_bracket :
    let broken := CustomRule.ofSpec ⟨"bad", "[", "x"⟩
    let payload := "\x7b\"name\":\"bad\",\"pattern\":\"[\",\"replacement\":\"x\"\x7d"
    let repository :=
      "\x7b\"files\":[\x7b\"path\":\"a.ts\"," ++
        "\"content\":\"import\x7buseRouter\x7dfrom'next/router'\"\x7d]\x7d"
    let analysis := "\x7b\"package\":\"next\",\"target_version\":\"14\"\x7d"
    let desk :=
      Desk.mk (.ofSetup (.ofSettings .standard .failing Session.standard_selector_isOk)) .empty
    let operations :=
      [.loadRepository repository, .loadAnalysis analysis, .generate, .setDryRun "no", .apply]
    let done := (desk.perform (.addRule payload)).1.run operations
    broken.compiles = false ∧
      CustomRuleSpec.read payload = .ok broken.spec ∧
      done.session.diffs.flatMap ChangeRecord.notes =
        ["Switched useRouter import to next/navigation (App Router).", errorNote "bad"] ∧
      done.session.modified.isSome ∧
      done.session.modified = (desk.run operations).session.modified := by
  intro broken payload repository analysis desk operations done
  have fails : broken.compiles = false := by
    decide +kernel
  have read : CustomRuleSpec.read payload = .ok broken.spec := by
    decide +kernel
  have notes :
      done.session.diffs.flatMap ChangeRecord.notes =
        ["Switched useRouter import to next/navigation (App Router).", errorNote "bad"] := by
    decide +kernel
  have modified : done.session.modified.isSome := by
    decide +kernel
  obtain ⟨-, -, runs, added⟩ := isolated_of_not_compiles fails
  have placed := added desk payload read
  have sameModified := (runs desk desk.session.registry.customs.length operations).2.1
  rw [← placed] at sameModified
  exact ⟨fails, read, notes, modified, sameModified⟩

end CustomRule

end SourceUpgrade
