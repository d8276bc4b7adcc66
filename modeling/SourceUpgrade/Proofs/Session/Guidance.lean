import SourceUpgrade.Proofs.Session.Agreement

namespace SourceUpgrade

/-!
# Guidance

Guidance comes with an analysis and from a source that is asked about it. A session shows it to its
users and hands it to every rule with every file. Rules do not read it: what a run of operations
does to two sessions that differ in guidance is the same but for the guidance that they show.
`Desk.guidance_never_steers` says what can differ: the source and the guidance of a session, the
guidance of its analysis, the topics told when an analysis is loaded, and the guidance of
suggestions.
-/

/-! ## Rules -/

/-- Whether a rule is applicable does not depend on guidance. -/
theorem Rule.applicable_guidance
    (rule : Rule)
    (context : RuleContext)
    (guidance : Guidance)
    (path content : String) :
    rule.applicable { context with guidance := guidance } path content =
      rule.applicable context path content := by
  cases rule with
  | builtIn rule =>
      cases rule <;> rfl
  | custom rule =>
      rfl

/-- What a rule makes of a content does not depend on guidance. -/
theorem Rule.transform_guidance
    (rule : Rule)
    (context : RuleContext)
    (guidance : Guidance)
    (content : String) :
    rule.transform { context with guidance := guidance } content =
      rule.transform context content := by
  cases rule with
  | builtIn rule =>
      cases rule <;> rfl
  | custom rule =>
      rfl

/-- What the rules of a registry make of a file does not depend on guidance. -/
theorem Registry.run_guidance
    (registry : Registry)
    (context : RuleContext)
    (guidance : Guidance)
    (path content : String) :
    registry.run { context with guidance := guidance } path content =
      registry.run context path content := by
  have sameStep :
      FileTransform.apply { context with guidance := guidance } path =
        FileTransform.apply context path := by
    funext done rule
    rw [FileTransform.apply, FileTransform.apply, Rule.applicable_guidance,
      Rule.transform_guidance]
  rw [run, run, sameStep]

/-! ## Sessions without guidance -/

/-- An analysis without its guidance. -/
def Analysis.withoutGuidance (analysis : Analysis) : Analysis :=
  { analysis with guidance := [] }

/-- A setup whose source has no answers. -/
def Setup.withoutGuidance (setup : Setup) : Setup :=
  { setup with source := .failing }

namespace Session

/-- A session without guidance: none held, none in its analysis, and none answered. -/
def withoutGuidance (session : Session) : Session :=
  { session with
    setup := session.setup.withoutGuidance
    analysis := session.analysis.map Analysis.withoutGuidance
    guidance := [] }

section

variable (session : Session) (repository : Snapshot) (analysis : Analysis)

theorem transformed_withoutGuidance
    (path content : String) :
    session.withoutGuidance.transformed analysis.withoutGuidance path content =
      session.transformed analysis path content :=
  session.registry.run_guidance (.ofAnalysis analysis session.guidance) [] path content

theorem batch_withoutGuidance :
    session.withoutGuidance.batch repository analysis.withoutGuidance =
      session.batch repository analysis := by
  unfold batch record?
  simp only [transformed_withoutGuidance]
  rfl

theorem newContents_withoutGuidance :
    session.withoutGuidance.newContents repository analysis.withoutGuidance =
      session.newContents repository analysis := by
  unfold newContents
  simp only [transformed_withoutGuidance]
  rfl

theorem inputs_withoutGuidance :
    session.withoutGuidance.inputs =
      session.inputs.map fun inputs => (inputs.1, inputs.2.withoutGuidance) := by
  unfold inputs withoutGuidance
  cases session.repository <;> cases session.analysis <;> rfl

end

/-- An outcome without the guidance of the session that it gives. -/
def outcomeWithoutGuidance
    {α : Type}
    (outcome : Except SessionError (Session × α)) :
    Except SessionError (Session × α) :=
  outcome.map fun answer => (answer.1.withoutGuidance, answer.2)

/-- Reading and adding a rule does not depend on guidance. -/
theorem readRule_withoutGuidance
    (session : Session)
    (payload : String) :
    session.withoutGuidance.readRule payload =
      outcomeWithoutGuidance (session.readRule payload) := by
  unfold readRule
  cases CustomRuleSpec.read payload <;> rfl

/-- A suggestion depends on guidance by showing it only. -/
theorem suggest_withoutGuidance (session : Session) :
    session.withoutGuidance.suggest =
      session.suggest.map fun found => { found with guidance := [] } := by
  unfold suggest
  rw [inputs_withoutGuidance]
  cases session.inputs <;> rfl

/-- A preview does not depend on guidance. -/
theorem generate_withoutGuidance (session : Session) :
    session.withoutGuidance.generate = outcomeWithoutGuidance session.generate := by
  unfold generate
  rw [inputs_withoutGuidance]
  cases session.inputs with
  | error error =>
      rfl
  | ok inputs =>
      have sameState :
          session.withoutGuidance.state.moveTo .previewed = session.state.moveTo .previewed :=
        rfl
      simp only [Except.map, bind, Except.bind, batch_withoutGuidance, sameState]
      cases session.state.moveTo .previewed <;> rfl

/-- Applying does not depend on guidance. -/
theorem apply_withoutGuidance (session : Session) :
    session.withoutGuidance.apply = outcomeWithoutGuidance session.apply := by
  unfold apply
  have sameGate : session.withoutGuidance.dryRun = session.dryRun := rfl
  have sameDiffs : session.withoutGuidance.diffs = session.diffs := rfl
  have sameState :
      session.withoutGuidance.state.moveTo .applied = session.state.moveTo .applied :=
    rfl
  rw [sameGate, sameDiffs, inputs_withoutGuidance]
  cases session.dryRun with
  | true =>
      rfl
  | false =>
      cases session.diffs.isEmpty with
      | true =>
          rfl
      | false =>
          cases session.inputs with
          | error error =>
              rfl
          | ok inputs =>
              simp only [Except.map, bind, Except.bind, newContents_withoutGuidance, sameState]
              cases session.state.moveTo .applied <;> rfl

/-- Applying unless the gate is on does not depend on guidance. -/
theorem applyUnlessDry_withoutGuidance (session : Session) :
    session.withoutGuidance.applyUnlessDry =
      (session.applyUnlessDry.1.withoutGuidance, session.applyUnlessDry.2) := by
  unfold applyUnlessDry
  have sameGate : session.withoutGuidance.dryRun = session.dryRun := rfl
  rw [sameGate, apply_withoutGuidance]
  cases session.dryRun with
  | true =>
      rfl
  | false =>
      cases session.apply <;> rfl

theorem setDryRun_withoutGuidance
    (session : Session)
    (dryRun : Bool) :
    (session.setDryRun dryRun).withoutGuidance = session.withoutGuidance.setDryRun dryRun :=
  rfl

section

variable {first second : Session} (same : first.withoutGuidance = second.withoutGuidance)

include same

/-- Loading a repository keeps sessions the same but for guidance. -/
theorem loadSnapshot_withoutGuidance
    (snapshot : Snapshot) :
    (first.loadSnapshot snapshot).1.withoutGuidance =
      (second.loadSnapshot snapshot).1.withoutGuidance := by
  have once (session : Session) :
      (session.loadSnapshot snapshot).1.withoutGuidance =
        (session.withoutGuidance.loadSnapshot snapshot).1 := by
    unfold loadSnapshot afterLoad stateAfterLoad withoutGuidance
    cases session.analysis <;> rfl
  rw [once, once, same]

/-- Loading analyses that differ in guidance keeps sessions the same but for guidance. -/
theorem loadReadAnalysis_withoutGuidance
    {analysis other : Analysis}
    (sameAnalysis : analysis.withoutGuidance = other.withoutGuidance) :
    (first.loadReadAnalysis analysis).1.withoutGuidance =
      (second.loadReadAnalysis other).1.withoutGuidance := by
  have once (session : Session) (analysis : Analysis) :
      (session.loadReadAnalysis analysis).1.withoutGuidance =
        (session.withoutGuidance.loadReadAnalysis analysis.withoutGuidance).1.withoutGuidance :=
    rfl
  rw [once first, once second, same, sameAnalysis]

/-- Previews of analyses that differ in guidance are the same. -/
theorem previewed_withoutGuidance
    (snapshot : Snapshot)
    {analysis other : Analysis}
    (sameAnalysis : analysis.withoutGuidance = other.withoutGuidance) :
    (first.previewed snapshot analysis).withoutGuidance =
      (second.previewed snapshot other).withoutGuidance := by
  have once (session : Session) (analysis : Analysis) :
      (session.previewed snapshot analysis).withoutGuidance =
        session.withoutGuidance.previewed snapshot analysis.withoutGuidance := by
    unfold previewed
    rw [batch_withoutGuidance]
    rfl
  rw [once first, once second, same, sameAnalysis]

/-- Both inputs loaded, their changes previewed and the gate set: the same but for guidance. -/
theorem previewed_reloaded_withoutGuidance
    (snapshot : Snapshot)
    {analysis other : Analysis}
    (sameAnalysis : analysis.withoutGuidance = other.withoutGuidance)
    (dryRun : Bool) :
    ((first.reloaded snapshot analysis dryRun).previewed snapshot analysis).withoutGuidance =
      ((second.reloaded snapshot other dryRun).previewed snapshot other).withoutGuidance := by
  have loaded :=
    loadReadAnalysis_withoutGuidance (loadSnapshot_withoutGuidance same snapshot) sameAnalysis
  have gated :
      (first.reloaded snapshot analysis dryRun).withoutGuidance =
        (second.reloaded snapshot other dryRun).withoutGuidance :=
    congrArg (fun session => session.setDryRun dryRun) loaded
  exact previewed_withoutGuidance gated snapshot sameAnalysis

end

end Session

/-! ## Operations -/

/-- A reply without the topics of an analysis and without the guidance of suggestions. -/
def Reply.withoutGuidance : Reply → Reply
  | .ok (.analysis summary) => .ok (.analysis { summary with topics := [] })
  | .ok (.suggestion found) => .ok (.suggestion { found with guidance := [] })
  | reply => reply

/-- A suggestion without guidance is that of a session without guidance. -/
theorem reply_suggest_withoutGuidance (session : Session) :
    Reply.withoutGuidance (session.suggest.map .suggestion) =
      session.withoutGuidance.suggest.map .suggestion := by
  rw [Session.suggest_withoutGuidance]
  cases session.suggest <;> rfl

/-- Whether two operations are the same but for the guidance of analyses that they load. -/
inductive Operation.SameButGuidance : Operation → Operation → Prop where
  | refl (operation : Operation) :
      SameButGuidance operation operation
  | loadAnalysis
      {payload other : String}
      {analysis otherAnalysis : Analysis}
      (read : Analysis.read payload = .ok analysis)
      (readOther : Analysis.read other = .ok otherAnalysis)
      (same : analysis.withoutGuidance = otherAnalysis.withoutGuidance) :
      SameButGuidance (.loadAnalysis payload) (.loadAnalysis other)
  | full
      {payload other : String}
      {analysis otherAnalysis : Analysis}
      (read : Analysis.read payload = .ok analysis)
      (readOther : Analysis.read other = .ok otherAnalysis)
      (same : analysis.withoutGuidance = otherAnalysis.withoutGuidance)
      (repository flag : String) :
      SameButGuidance (.full repository payload flag) (.full repository other flag)

namespace Desk

/-- The desk with its session without guidance. -/
def withoutGuidance (desk : Desk) : Desk :=
  { desk with session := desk.session.withoutGuidance }

/-- Whether what two performances leave and reply is the same but for guidance. -/
def SameOutcome (first second : Desk × Reply) : Prop :=
  first.1.withoutGuidance = second.1.withoutGuidance ∧
    Reply.withoutGuidance first.2 = Reply.withoutGuidance second.2

section

variable {first second : Desk} (same : first.withoutGuidance = second.withoutGuidance)

include same

theorem session_withoutGuidance :
    first.session.withoutGuidance = second.session.withoutGuidance :=
  (Desk.mk.inj same).1

theorem disk_of_withoutGuidance :
    first.disk = second.disk :=
  (Desk.mk.inj same).2

/-- Sessions that are the same but for guidance make desks that are. -/
theorem withSession_sameOutcome
    {answer other : Session × Reply}
    (sameSession : answer.1.withoutGuidance = other.1.withoutGuidance)
    (sameReply : Reply.withoutGuidance answer.2 = Reply.withoutGuidance other.2) :
    SameOutcome (first.withSession answer) (second.withSession other) := by
  refine ⟨?_, sameReply⟩
  simp only [withSession, withoutGuidance, sameSession, disk_of_withoutGuidance same]

/-- Outcomes that are the same but for guidance are settled alike. -/
theorem settle_sameOutcome
    {α : Type}
    {result : α → Result}
    {outcome other : Except SessionError (Session × α)}
    (sameOutcome :
      Session.outcomeWithoutGuidance outcome = Session.outcomeWithoutGuidance other) :
    SameOutcome (first.withSession (first.session.settle result outcome))
      (second.withSession (second.session.settle result other)) := by
  cases outcome with
  | error error =>
      cases other with
      | error otherError =>
          obtain rfl : error = otherError := Except.error.inj sameOutcome
          exact withSession_sameOutcome same (session_withoutGuidance same) rfl
      | ok answer =>
          cases sameOutcome
  | ok answer =>
      cases other with
      | error otherError =>
          cases sameOutcome
      | ok otherAnswer =>
          obtain ⟨sameSession, sameValue⟩ := Prod.mk.inj (Except.ok.inj sameOutcome)
          refine withSession_sameOutcome same sameSession ?_
          simp only [Session.settle, sameValue]

/-- An export has the same outcome but for guidance. -/
theorem exportTo_sameOutcome (path : String) :
    SameOutcome (first.exportTo path) (second.exportTo path) := by
  have once (session : Session) (disk : Disk) :
      session.exportTo disk (requestedPath path) =
        session.withoutGuidance.exportTo disk (requestedPath path) :=
    rfl
  unfold exportTo
  rw [once first.session, once second.session, session_withoutGuidance same,
    disk_of_withoutGuidance same]
  cases second.session.withoutGuidance.exportTo second.disk (requestedPath path) with
  | error error =>
      exact ⟨same, rfl⟩
  | ok answer =>
      refine ⟨?_, rfl⟩
      simp only [withoutGuidance, session_withoutGuidance same]

/-- Loading analyses that differ in guidance has the same outcome but for guidance. -/
theorem perform_loadAnalysis_sameOutcome
    {payload other : String}
    {analysis otherAnalysis : Analysis}
    (read : Analysis.read payload = .ok analysis)
    (readOther : Analysis.read other = .ok otherAnalysis)
    (sameAnalysis : analysis.withoutGuidance = otherAnalysis.withoutGuidance) :
    SameOutcome (first.perform (.loadAnalysis payload)) (second.perform (.loadAnalysis other)) := by
  simp only [perform, Session.loadAnalysis, read, readOther]
  refine withSession_sameOutcome same ?_ ?_
  · exact Session.loadReadAnalysis_withoutGuidance (session_withoutGuidance same) sameAnalysis
  · simp only [Analysis.withoutGuidance, Analysis.mk.injEq] at sameAnalysis
    simp [Session.settle, Session.loadReadAnalysis, Reply.withoutGuidance, sameAnalysis]

/-- The composite operation with analyses that differ in guidance has the same outcome. -/
theorem perform_full_sameOutcome
    {repository payload other flag : String}
    {snapshot : Snapshot}
    {analysis otherAnalysis : Analysis}
    (readRepository : Snapshot.read repository = .ok snapshot)
    (read : Analysis.read payload = .ok analysis)
    (readOther : Analysis.read other = .ok otherAnalysis)
    (sameAnalysis : analysis.withoutGuidance = otherAnalysis.withoutGuidance) :
    SameOutcome (first.perform (.full repository payload flag))
      (second.perform (.full repository other flag)) := by
  simp only [perform, Session.full_of_read readRepository read,
    Session.full_of_read readRepository readOther]
  have samePreview :=
    Session.previewed_reloaded_withoutGuidance (session_withoutGuidance same) snapshot
      sameAnalysis (readFlag flag)
  generalize (first.session.reloaded snapshot analysis (readFlag flag)).previewed snapshot analysis =
    preview at samePreview ⊢
  generalize
    (second.session.reloaded snapshot otherAnalysis (readFlag flag)).previewed snapshot
      otherAnalysis = otherPreview at samePreview ⊢
  have sameApplied := congrArg Session.applyUnlessDry samePreview
  rw [Session.applyUnlessDry_withoutGuidance, Session.applyUnlessDry_withoutGuidance,
    Prod.mk.injEq] at sameApplied
  have sameSummary : preview.diffSummary = otherPreview.diffSummary := by
    change preview.withoutGuidance.diffSummary = otherPreview.withoutGuidance.diffSummary
    rw [samePreview]
  refine withSession_sameOutcome same sameApplied.1 ?_
  rw [sameSummary, sameApplied.2]

/-- An operation has the same outcome but for guidance, whatever its guidance is. -/
theorem perform_sameOutcome
    {operation other : Operation}
    (sameOperation : operation.SameButGuidance other) :
    SameOutcome (first.perform operation) (second.perform other) := by
  have sameSession := session_withoutGuidance same
  cases sameOperation with
  | loadAnalysis read readOther sameAnalysis =>
      exact perform_loadAnalysis_sameOutcome same read readOther sameAnalysis
  | full read readOther sameAnalysis repository flag =>
      cases readRepository : Snapshot.read repository with
      | error error =>
          simp only [perform, Session.full_of_bad_repository readRepository]
          exact withSession_sameOutcome same sameSession rfl
      | ok snapshot =>
          exact perform_full_sameOutcome same readRepository read readOther sameAnalysis
  | refl =>
      cases operation with
      | loadRepository payload =>
          refine settle_sameOutcome same ?_
          unfold Session.loadRepository
          cases Snapshot.read payload with
          | error error =>
              rfl
          | ok snapshot =>
              have sameLoaded := Session.loadSnapshot_withoutGuidance sameSession snapshot
              exact congrArg (fun session => Except.ok (session, _)) sameLoaded
      | loadAnalysis payload =>
          cases read : Analysis.read payload with
          | error error =>
              simp only [perform, Session.loadAnalysis, read]
              exact withSession_sameOutcome same sameSession rfl
          | ok analysis =>
              exact perform_loadAnalysis_sameOutcome same read read rfl
      | addRule payload =>
          refine settle_sameOutcome same ?_
          rw [← Session.readRule_withoutGuidance, ← Session.readRule_withoutGuidance, sameSession]
      | setDryRun flag =>
          refine withSession_sameOutcome same ?_ rfl
          rw [Session.setDryRun_withoutGuidance, Session.setDryRun_withoutGuidance, sameSession]
      | suggest =>
          refine ⟨same, ?_⟩
          simp only [perform, reply_suggest_withoutGuidance, sameSession]
      | generate =>
          refine settle_sameOutcome same ?_
          rw [← Session.generate_withoutGuidance, ← Session.generate_withoutGuidance, sameSession]
      | apply =>
          refine settle_sameOutcome same ?_
          rw [← Session.apply_withoutGuidance, ← Session.apply_withoutGuidance, sameSession]
      | exportTo path =>
          exact exportTo_sameOutcome same path
      | full repository payload flag =>
          cases readRepository : Snapshot.read repository with
          | error error =>
              simp only [perform, Session.full_of_bad_repository readRepository]
              exact withSession_sameOutcome same sameSession rfl
          | ok snapshot =>
              cases read : Analysis.read payload with
              | error error =>
                  simp only [perform, Session.full_of_bad_analysis readRepository read]
                  exact withSession_sameOutcome same
                    (Session.loadSnapshot_withoutGuidance sameSession snapshot) rfl
              | ok analysis =>
                  exact perform_full_sameOutcome same readRepository read read rfl

end

/-- What a reply tells apart from guidance. -/
def repliesWithoutGuidance (replies : List (Operation × Reply)) : List Reply :=
  replies.map fun answer => Reply.withoutGuidance answer.2

/-- Runs of the same operations but for guidance have the same replies and leave the same desk. -/
theorem run_sameOutcome
    {first second : Desk}
    (same : first.withoutGuidance = second.withoutGuidance)
    {operations others : List Operation}
    (sameOperations : List.Forall₂ Operation.SameButGuidance operations others) :
    repliesWithoutGuidance (first.replies operations) =
        repliesWithoutGuidance (second.replies others) ∧
      (first.run operations).withoutGuidance = (second.run others).withoutGuidance := by
  induction sameOperations generalizing first second with
  | nil =>
      exact ⟨rfl, same⟩
  | cons sameOperation sameRest inductionHypothesis =>
      obtain ⟨sameDesk, sameReply⟩ := perform_sameOutcome same sameOperation
      obtain ⟨sameReplies, sameRun⟩ := inductionHypothesis sameDesk
      refine ⟨?_, sameRun⟩
      simp only [repliesWithoutGuidance, replies, List.map_cons] at sameReplies ⊢
      rw [sameReply, sameReplies]

/--
Two desks that are the same but for guidance, above all for the sources that their sessions ask, are
given the same operations but for the guidance of the analyses loaded. Their replies are the same
but for topics and for the guidance of suggestions; they end with the same changes previewed and
modified, in the same state, and with the same exports written.
-/
theorem guidance_never_steers
    {first second : Desk}
    (same : first.withoutGuidance = second.withoutGuidance)
    {operations others : List Operation}
    (sameOperations : List.Forall₂ Operation.SameButGuidance operations others) :
    repliesWithoutGuidance (first.replies operations) =
        repliesWithoutGuidance (second.replies others) ∧
      (first.run operations).withoutGuidance = (second.run others).withoutGuidance ∧
      (first.run operations).session.diffs = (second.run others).session.diffs ∧
      (first.run operations).session.modified = (second.run others).session.modified ∧
      (first.run operations).session.state = (second.run others).session.state ∧
      (first.run operations).disk = (second.run others).disk := by
  obtain ⟨sameReplies, sameRun⟩ := run_sameOutcome same sameOperations
  obtain ⟨-, -, -, -, -, -, sameDiffs, sameModified, sameState, -⟩ :=
    Session.mk.inj (session_withoutGuidance sameRun)
  exact
    ⟨sameReplies, sameRun, sameDiffs, sameModified, sameState, disk_of_withoutGuidance sameRun⟩

/-- A page is upgraded alike with guidance from nowhere and with guidance on routers. -/
theorem guidance_never_steers_router :
    let setup := Setup.ofSettings .standard .failing Session.standard_selector_isOk
    let answer := { GuidanceMatch.blank with url := "docs/app", framework := "nextjs" }
    let first := Desk.mk (.ofSetup setup) .empty
    let second := Desk.mk (.ofSetup { setup with source := .ofMatches [answer] }) .empty
    let repository :=
      "\x7b\"files\":[\x7b\"path\":\"a.ts\"," ++
        "\"content\":\"import\x7buseRouter\x7dfrom'next/router'\"\x7d]\x7d"
    let plain := "\x7b\"package\":\"next\",\"target_version\":\"14\"\x7d"
    let guided :=
      "\x7b\"package\":\"next\",\"target_version\":\"14\",\"rag_guidance\":[" ++
        "\x7b\"topic\":\"app_router\",\"references\":[\x7b\"url\":\"docs/new\"\x7d]\x7d]\x7d"
    let later := [.generate, .setDryRun "no", .apply, .exportTo "out.json"]
    let operations := [.loadRepository repository, .loadAnalysis plain] ++ later
    let others := [.loadRepository repository, .loadAnalysis guided] ++ later
    first.withoutGuidance = second.withoutGuidance ∧
      List.Forall₂ Operation.SameButGuidance operations others ∧
      (first.run operations).session.guidance.topics = [] ∧
      (second.run others).session.guidance.topics ≠ [] ∧
      (first.run operations).session.modified.isSome ∧
      (first.run operations).session.modified = (second.run others).session.modified ∧
      (first.run operations).disk = (second.run others).disk := by
  intro setup answer first second repository plain guided later operations others
  have same : first.withoutGuidance = second.withoutGuidance := rfl
  have readPlain : Analysis.read plain = .ok ⟨"next", "", "14", .none, []⟩ := by
    decide +kernel
  have readGuided :
      Analysis.read guided =
        .ok ⟨"next", "", "14", .none, [⟨"app_router", [⟨"docs/new", "", []⟩]⟩]⟩ := by
    decide +kernel
  have sameOperations : List.Forall₂ Operation.SameButGuidance operations others :=
    .cons (.refl _) (.cons (.loadAnalysis readPlain readGuided rfl)
      (List.forall₂_same.mpr fun operation _ => .refl operation))
  have noTopics : (first.run operations).session.guidance.topics = [] := by
    decide +kernel
  have someTopics : (second.run others).session.guidance.topics ≠ [] := by
    decide +kernel
  have applied : (first.run operations).session.modified.isSome := by
    decide +kernel
  obtain ⟨-, -, -, sameModified, -, sameDisk⟩ := guidance_never_steers same sameOperations
  exact ⟨same, sameOperations, noTopics, someTopics, applied, sameModified, sameDisk⟩

end Desk

end SourceUpgrade
