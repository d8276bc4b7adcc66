import SourceUpgrade.Proofs.Session.Provenance

namespace SourceUpgrade

/-!
# Histories

Of all that was done to a session, its previews know the last repository and the last analysis that
were loaded and the rules that were added, in their order. `Session.Recalls` is the invariant that
says so. What is left of earlier previews and applications is no input to a preview: histories with
the same last loads and the same rules have the same preview and apply it alike.

One trace of a longer history remains where there is nothing to apply: neither a preview nor a rule
takes away what was modified before.
-/

/-! ## What is recalled of a history -/

namespace Action

/-- The repository that an action loads. -/
def snapshot? : Action → Option Snapshot
  | .loadSnapshot snapshot => some snapshot
  | _ => none

/-- The analysis that an action loads. -/
def analysis? : Action → Option Analysis
  | .loadAnalysis analysis => some analysis
  | _ => none

/-- The rule that an action adds. -/
def rule? : Action → Option CustomRuleSpec
  | .addRule spec => some spec
  | _ => none

/-- The repository that was loaded last. -/
def lastSnapshot? (actions : List Action) : Option Snapshot :=
  (actions.filterMap snapshot?).getLast?

/-- The analysis that was loaded last. -/
def lastAnalysis? (actions : List Action) : Option Analysis :=
  (actions.filterMap analysis?).getLast?

/-- The rules that were added, in their order. -/
def addedRules (actions : List Action) : List CustomRuleSpec :=
  actions.filterMap rule?

section

variable (actions : List Action) (action : Action)

@[simp] theorem lastSnapshot?_concat :
    lastSnapshot? (actions ++ [action]) = action.snapshot?.or (lastSnapshot? actions) := by
  unfold lastSnapshot?
  cases loaded : action.snapshot? <;> simp [loaded]

@[simp] theorem lastAnalysis?_concat :
    lastAnalysis? (actions ++ [action]) = action.analysis?.or (lastAnalysis? actions) := by
  unfold lastAnalysis?
  cases loaded : action.analysis? <;> simp [loaded]

@[simp] theorem addedRules_concat :
    addedRules (actions ++ [action]) = addedRules actions ++ action.rule?.toList := by
  unfold addedRules
  cases added : action.rule? <;> simp [added]

end

end Action

/-- Whether two histories have the same last loads and the same rules added in the same order. -/
structure Operation.SameLoads (first second : List Operation) : Prop where
  snapshot_eq :
    Action.lastSnapshot? (first.flatMap actions) = Action.lastSnapshot? (second.flatMap actions)
  analysis_eq :
    Action.lastAnalysis? (first.flatMap actions) = Action.lastAnalysis? (second.flatMap actions)
  rules_eq :
    Action.addedRules (first.flatMap actions) = Action.addedRules (second.flatMap actions)

namespace Session

/-- A session holds what actions from a new session on have loaded last and which rules they added. -/
structure Recalls
    (session : Session)
    (setup : Setup)
    (actions : List Action) :
    Prop where
  setup_eq : session.setup = setup
  registry_eq : session.registry = .withCustoms (Action.addedRules actions)
  repository_eq : session.repository = Action.lastSnapshot? actions
  analysis_eq : session.analysis = Action.lastAnalysis? actions
  guidance_eq : session.guidance = (Action.lastAnalysis? actions).elim [] setup.guidance

namespace Recalls

variable {session : Session} {setup : Setup} {actions : List Action}

/-- An action that loads nothing and adds no rule does not count. -/
theorem concat_of_silent
    {action : Action}
    (recalls : session.Recalls setup actions)
    (noSnapshot : action.snapshot? = none)
    (noAnalysis : action.analysis? = none)
    (noRule : action.rule? = none) :
    session.Recalls setup (actions ++ [action]) where
  setup_eq := recalls.setup_eq
  registry_eq := by
    rw [Action.addedRules_concat, noRule, recalls.registry_eq, Option.toList_none, List.append_nil]
  repository_eq := by
    rw [Action.lastSnapshot?_concat, noSnapshot, Option.none_or, recalls.repository_eq]
  analysis_eq := by
    rw [Action.lastAnalysis?_concat, noAnalysis, Option.none_or, recalls.analysis_eq]
  guidance_eq := by
    rw [Action.lastAnalysis?_concat, noAnalysis, Option.none_or, recalls.guidance_eq]

/-- A loaded input takes the place of the one before, and an added rule comes after the others. -/
theorem act
    (recalls : session.Recalls setup actions)
    (action : Action) :
    (session.act action).Recalls setup (actions ++ [action]) := by
  cases action with
  | loadSnapshot snapshot =>
      simp only [Session.act, loadSnapshot, afterLoad]
      refine ⟨recalls.setup_eq, ?_, ?_, ?_, ?_⟩
      · simpa [Action.rule?] using recalls.registry_eq
      · simp [Action.snapshot?]
      · simpa [Action.analysis?] using recalls.analysis_eq
      · simpa [Action.analysis?] using recalls.guidance_eq
  | loadAnalysis analysis =>
      simp only [Session.act, loadReadAnalysis, afterLoad]
      refine ⟨recalls.setup_eq, ?_, ?_, ?_, ?_⟩
      · simpa [Action.rule?] using recalls.registry_eq
      · simpa [Action.snapshot?] using recalls.repository_eq
      · simp [Action.analysis?]
      · simp [Action.analysis?, recalls.setup_eq]
  | addRule spec =>
      simp only [Session.act, Session.addRule, Registry.register]
      refine ⟨recalls.setup_eq, ?_, ?_, ?_, ?_⟩
      · simp [Action.rule?, Registry.withCustoms, recalls.registry_eq]
      · simpa [Action.snapshot?] using recalls.repository_eq
      · simpa [Action.analysis?] using recalls.analysis_eq
      · simpa [Action.analysis?] using recalls.guidance_eq
  | setDryRun dryRun =>
      have grown : session.Recalls setup (actions ++ [.setDryRun dryRun]) :=
        recalls.concat_of_silent rfl rfl rfl
      exact ⟨grown.setup_eq, grown.registry_eq, grown.repository_eq, grown.analysis_eq,
        grown.guidance_eq⟩
  | generate =>
      have grown : session.Recalls setup (actions ++ [.generate]) :=
        recalls.concat_of_silent rfl rfl rfl
      cases done : session.generate with
      | error error =>
          rwa [act_generate_error done]
      | ok answer =>
          obtain ⟨repository, analysis, -, -, -, next, -⟩ := generate_ok_iff.mp done
          rw [act_generate_ok done, next]
          exact ⟨grown.setup_eq, grown.registry_eq, grown.repository_eq, grown.analysis_eq,
            grown.guidance_eq⟩
  | apply =>
      have grown : session.Recalls setup (actions ++ [.apply]) :=
        recalls.concat_of_silent rfl rfl rfl
      cases done : session.apply with
      | error error =>
          rwa [act_apply_error done]
      | ok answer =>
          obtain ⟨-, -, repository, analysis, -, -, -, next, -⟩ := apply_ok_iff.mp done
          rw [act_apply_ok done, next]
          exact ⟨grown.setup_eq, grown.registry_eq, grown.repository_eq, grown.analysis_eq,
            grown.guidance_eq⟩

/-- Actions in a row are recalled in a row. -/
theorem actAll
    {later : List Action}
    (recalls : session.Recalls setup actions) :
    (session.actAll later).Recalls setup (actions ++ later) := by
  induction later generalizing session actions with
  | nil =>
      rwa [List.append_nil]
  | cons action rest inductionHypothesis =>
      have recalled := inductionHypothesis (recalls.act action)
      rwa [List.append_assoc, List.singleton_append] at recalled

/-- A session recalls the actions that lead to it from a new one. -/
theorem of_actAll
    (setup : Setup)
    (actions : List Action) :
    ((ofSetup setup).actAll actions).Recalls setup actions := by
  have new : (ofSetup setup).Recalls setup [] := ⟨rfl, rfl, rfl, rfl, rfl⟩
  exact new.actAll

end Recalls

/-! ## Previews of the same inputs -/

/-- Two sessions with the same setup, rules, inputs and guidance. -/
structure SameInputs (first second : Session) : Prop where
  setup_eq : first.setup = second.setup
  registry_eq : first.registry = second.registry
  repository_eq : first.repository = second.repository
  analysis_eq : first.analysis = second.analysis
  guidance_eq : first.guidance = second.guidance

/-- Sessions that recall the same have the same inputs. -/
theorem Recalls.sameInputs
    {first second : Session}
    {setup : Setup}
    {history other : List Operation}
    (same : Operation.SameLoads history other)
    (recalls : first.Recalls setup (history.flatMap Operation.actions))
    (recallsOther : second.Recalls setup (other.flatMap Operation.actions)) :
    first.SameInputs second where
  setup_eq := recalls.setup_eq.trans recallsOther.setup_eq.symm
  registry_eq := by
    rw [recalls.registry_eq, recallsOther.registry_eq, same.rules_eq]
  repository_eq := by
    rw [recalls.repository_eq, recallsOther.repository_eq, same.snapshot_eq]
  analysis_eq := by
    rw [recalls.analysis_eq, recallsOther.analysis_eq, same.analysis_eq]
  guidance_eq := by
    rw [recalls.guidance_eq, recallsOther.guidance_eq, same.analysis_eq]

/-- A preview fails where an input is missing, for that reason. -/
theorem generate_of_inputs_error
    {session : Session}
    {error : SessionError}
    (missing : session.inputs = .error error) :
    session.generate = .error error := by
  unfold generate
  rw [missing]
  rfl

/-- Where an input is missing, no changes have been previewed. -/
theorem Coherent.diffs_of_inputs_error
    {session : Session}
    {error : SessionError}
    (coherent : session.Coherent)
    (missing : session.inputs = .error error) :
    session.diffs = [] := by
  by_contra someDiffs
  obtain ⟨repository, analysis, hasRepository, hasAnalysis⟩ := coherent.inputs_of_diffs someDiffs
  rw [inputs_ok_iff.mpr ⟨hasRepository, hasAnalysis⟩] at missing
  cases missing

/-- A preview leaves the modified repository as it is. -/
theorem modified_act_generate (session : Session) :
    (session.act .generate).modified = session.modified := by
  cases done : session.generate with
  | error error =>
      rw [act_generate_error done]
  | ok answer =>
      obtain ⟨repository, analysis, -, -, -, next, -⟩ := generate_ok_iff.mp done
      rw [act_generate_ok done, next]
      rfl

/-- Without previewed changes there is nothing to apply. -/
theorem apply_of_no_diffs
    {session : Session}
    (off : session.dryRun = false)
    (empty : session.diffs = []) :
    session.apply = .error .noDiffs := by
  simp [apply, off, empty, bind, Except.bind, throw, throwThe, MonadExceptOf.throw]

namespace SameInputs

variable {first second : Session} {repository : Snapshot} {analysis : Analysis}

theorem inputs_eq (same : first.SameInputs second) : first.inputs = second.inputs := by
  unfold inputs
  rw [same.repository_eq, same.analysis_eq]

/-- Previews of the same inputs are the same. -/
theorem batch_eq (same : first.SameInputs second) :
    first.batch repository analysis = second.batch repository analysis :=
  batch_congr same.setup_eq same.registry_eq same.guidance_eq repository analysis

/-- Applying the same changes to the same inputs has the same outcome. -/
theorem newContents_eq
    (same : first.SameInputs second)
    (sameDiffs : first.diffs = second.diffs) :
    first.newContents repository analysis = second.newContents repository analysis := by
  unfold newContents
  simp only [sameDiffs, transformed_congr same.registry_eq same.guidance_eq]

/-- Attempts to preview leave the same inputs and changes, and tell the same. -/
theorem act_generate
    (same : first.SameInputs second)
    (coherent : first.Coherent)
    (otherCoherent : second.Coherent) :
    first.generate.map Prod.snd = second.generate.map Prod.snd ∧
      (first.act .generate).SameInputs (second.act .generate) ∧
      (first.act .generate).diffs = (second.act .generate).diffs := by
  cases found : first.inputs with
  | error error =>
      have failed := generate_of_inputs_error found
      have otherFound := same.inputs_eq.symm.trans found
      have otherFailed := generate_of_inputs_error otherFound
      rw [act_generate_error failed, act_generate_error otherFailed, failed, otherFailed,
        coherent.diffs_of_inputs_error found, otherCoherent.diffs_of_inputs_error otherFound]
      exact ⟨rfl, same, rfl⟩
  | ok inputs =>
      obtain ⟨repository, analysis⟩ := inputs
      obtain ⟨hasRepository, hasAnalysis⟩ := inputs_ok_iff.mp found
      have done := coherent.generate_ok hasRepository hasAnalysis
      have otherDone :=
        otherCoherent.generate_ok (same.repository_eq ▸ hasRepository)
          (same.analysis_eq ▸ hasAnalysis)
      rw [act_generate_ok done, act_generate_ok otherDone, done, otherDone]
      refine ⟨?_, ?_, same.batch_eq⟩
      · simp only [Except.map, previewed, diffSummary, same.batch_eq, same.setup_eq]
      · exact ⟨same.setup_eq, same.registry_eq, same.repository_eq, same.analysis_eq,
          same.guidance_eq⟩

/-- With the gate off, changes that are there are applied alike. -/
theorem apply_of_diffs
    (same : first.SameInputs second)
    (sameDiffs : first.diffs = second.diffs)
    (coherent : first.Coherent)
    (otherCoherent : second.Coherent)
    (off : first.dryRun = false)
    (otherOff : second.dryRun = false)
    (someDiffs : first.diffs ≠ []) :
    ∃ next otherNext report copy,
      first.apply = .ok (next, report) ∧
        second.apply = .ok (otherNext, report) ∧
        next.modified = some copy ∧
        otherNext.modified = some copy := by
  obtain ⟨repository, analysis, hasRepository, hasAnalysis⟩ := coherent.inputs_of_diffs someDiffs
  have done := coherent.apply_ok off someDiffs hasRepository hasAnalysis
  have otherDone :=
    otherCoherent.apply_ok otherOff (sameDiffs ▸ someDiffs) (same.repository_eq ▸ hasRepository)
      (same.analysis_eq ▸ hasAnalysis)
  rw [← same.newContents_eq sameDiffs] at otherDone
  refine ⟨_, _, _, _, done, otherDone, rfl, ?_⟩
  simp only [applied, same.newContents_eq sameDiffs]

/-- With the gate off, attempts to apply tell the same. -/
theorem apply_eq
    (same : first.SameInputs second)
    (sameDiffs : first.diffs = second.diffs)
    (coherent : first.Coherent)
    (otherCoherent : second.Coherent)
    (off : first.dryRun = false)
    (otherOff : second.dryRun = false) :
    first.apply.map Prod.snd = second.apply.map Prod.snd := by
  by_cases noDiffs : first.diffs = []
  · rw [apply_of_no_diffs off noDiffs, apply_of_no_diffs otherOff (sameDiffs ▸ noDiffs)]
  · obtain ⟨_, _, _, _, done, otherDone, -, -⟩ :=
      same.apply_of_diffs sameDiffs coherent otherCoherent off otherOff noDiffs
    rw [done, otherDone]
    rfl

end SameInputs

end Session

/-- The operations that preview the changes, set the gate and apply. -/
def Operation.previewAndApply (flag : String) : List Operation :=
  [.generate, .setDryRun flag, .apply]

namespace Desk

/--
How a preview goes alike at two desks and is applied alike with the gate off. If there are changes,
applying them succeeds and leaves the same modified repository at both; if there are none, it fails
for that reason and leaves what each had modified.
-/
structure PreviewsAlike (first second : Desk) (flag : String) : Prop where
  replies_eq :
    first.replies (Operation.previewAndApply flag) =
      second.replies (Operation.previewAndApply flag)
  diffs_eq :
    (first.run [.generate]).session.diffs = (second.run [.generate]).session.diffs
  guidance_eq :
    (first.run [.generate]).session.guidance = (second.run [.generate]).session.guidance
  modified_of_diffs :
    (first.run [.generate]).session.diffs ≠ [] →
      ∃ report copy,
        (.apply, .ok (.applied report)) ∈ first.replies (Operation.previewAndApply flag) ∧
          (first.run (Operation.previewAndApply flag)).session.modified = some copy ∧
          (second.run (Operation.previewAndApply flag)).session.modified = some copy
  modified_of_no_diffs :
    (first.run [.generate]).session.diffs = [] →
      (.apply, .error .noDiffs) ∈ first.replies (Operation.previewAndApply flag) ∧
        (first.run (Operation.previewAndApply flag)).session.modified = first.session.modified ∧
        (second.run (Operation.previewAndApply flag)).session.modified = second.session.modified

/-- What a settled operation replies is what its outcome tells. -/
theorem settle_reply
    {α : Type}
    (session : Session)
    (result : α → Result)
    (outcome : Except SessionError (Session × α)) :
    (session.settle result outcome).2 = (outcome.map Prod.snd).map result := by
  cases outcome <;> rfl

section

variable (desk : Desk) (flag : String)

/-- The session after a preview. -/
theorem run_generate :
    (desk.run [.generate]).session = desk.session.act .generate :=
  desk.perform_session .generate

/-- The session after a preview, after setting the gate and after applying. -/
theorem run_previewAndApply :
    (desk.run (Operation.previewAndApply flag)).session =
      ((desk.session.act .generate).setDryRun (readFlag flag)).act .apply := by
  have acts :
      (Operation.previewAndApply flag).flatMap Operation.actions =
        [.generate, .setDryRun (readFlag flag), .apply] :=
    rfl
  rw [run_session, acts, Session.actAll_cons, Session.actAll_cons, Session.actAll_cons,
    Session.actAll_nil]
  rfl

/-- The replies to a preview, to setting the gate and to applying. -/
theorem replies_previewAndApply :
    desk.replies (Operation.previewAndApply flag) =
      [(.generate, (desk.session.generate.map Prod.snd).map fun summary => .diffs summary none),
        (.setDryRun flag, .ok (.dryRun (readFlag flag))),
        (.apply,
          (((desk.session.act .generate).setDryRun (readFlag flag)).apply.map Prod.snd).map
            .applied)] := by
  have previewed := desk.run_generate
  rw [run_cons, run_nil] at previewed
  simp only [Operation.previewAndApply, replies, ← previewed]
  simp [perform, withSession, settle_reply]

end

/-- With the same inputs, a preview goes alike and is applied alike with the gate off. -/
theorem PreviewsAlike.of_sameInputs
    {first second : Desk}
    (same : first.session.SameInputs second.session)
    (reached : first.session.Reachable)
    (otherReached : second.session.Reachable)
    {flag : String}
    (off : readFlag flag = false) :
    first.PreviewsAlike second flag := by
  obtain ⟨sameSummary, sameInputs, sameDiffs⟩ :=
    same.act_generate (.of_reachable reached) (.of_reachable otherReached)
  have coherent := Session.Coherent.of_reachable ((reached.act .generate).setDryRun false)
  have otherCoherent :=
    Session.Coherent.of_reachable ((otherReached.act .generate).setDryRun false)
  have sameGated :
      ((first.session.act .generate).setDryRun false).SameInputs
        ((second.session.act .generate).setDryRun false) :=
    ⟨sameInputs.setup_eq, sameInputs.registry_eq, sameInputs.repository_eq,
      sameInputs.analysis_eq, sameInputs.guidance_eq⟩
  refine ⟨?_, ?_, ?_, ?_, ?_⟩
  · rw [replies_previewAndApply, replies_previewAndApply, off, sameSummary,
      sameGated.apply_eq sameDiffs coherent otherCoherent rfl rfl]
  · rw [run_generate, run_generate]
    exact sameDiffs
  · rw [run_generate, run_generate]
    exact sameInputs.guidance_eq
  · intro someDiffs
    rw [run_generate] at someDiffs
    obtain ⟨next, otherNext, report, copy, done, otherDone, modified, otherModified⟩ :=
      sameGated.apply_of_diffs sameDiffs coherent otherCoherent rfl rfl someDiffs
    rw [replies_previewAndApply, run_previewAndApply, run_previewAndApply, off, done,
      Session.act_apply_ok done, Session.act_apply_ok otherDone]
    exact ⟨report, copy, .tail _ (.tail _ (.head _)), modified, otherModified⟩
  · intro noDiffs
    rw [run_generate] at noDiffs
    have failed : ((first.session.act .generate).setDryRun false).apply = .error .noDiffs :=
      Session.apply_of_no_diffs rfl noDiffs
    have otherFailed :
        ((second.session.act .generate).setDryRun false).apply = .error .noDiffs :=
      Session.apply_of_no_diffs rfl (sameDiffs ▸ noDiffs)
    rw [replies_previewAndApply, run_previewAndApply, run_previewAndApply, off, failed,
      Session.act_apply_error failed, Session.act_apply_error otherFailed]
    exact
      ⟨.tail _ (.tail _ (.head _)), first.session.modified_act_generate,
        second.session.modified_act_generate⟩

/--
Sessions with one setup, with the same repository and the same analysis loaded last and the same
rules added in the same order, have the same preview, whatever else was done and failed before, and
with the gate off they apply it alike.
-/
theorem preview_forgets_history
    (setup : Setup)
    (disk otherDisk : Disk)
    {history other : List Operation}
    (same : Operation.SameLoads history other)
    {flag : String}
    (off : readFlag flag = false) :
    ((Desk.mk (.ofSetup setup) disk).run history).PreviewsAlike
      ((Desk.mk (.ofSetup setup) otherDisk).run other) flag := by
  have recalls (disk : Disk) (operations : List Operation) :
      ((Desk.mk (.ofSetup setup) disk).run operations).session.Recalls setup
        (operations.flatMap Operation.actions) := by
    rw [run_session]
    exact .of_actAll setup _
  exact
    .of_sameInputs ((recalls disk history).sameInputs same (recalls otherDisk other))
      (run_reachable (.start setup) history) (run_reachable (.start setup) other) off

/-- A file is changed alike, whether or not it has been changed before. -/
theorem preview_forgets_history_there :
    let setup := Setup.ofSettings .standard .failing Session.standard_selector_isOk
    let load := .loadRepository "\x7b\"files\":[\x7b\"path\":\"a.ts\",\"content\":\"a\"\x7d]\x7d"
    let rule :=
      .addRule "\x7b\"name\":\"there\",\"pattern\":\"a\",\"replacement\":\"b\"\x7d"
    let history :=
      [load, .loadAnalysis "\x7b\x7d", rule, .generate, .setDryRun "no", .apply, .suggest]
    let other := [.loadAnalysis "[]", rule, .loadAnalysis "\x7b\x7d", load]
    let first := (Desk.mk (.ofSetup setup) .empty).run history
    let second := (Desk.mk (.ofSetup setup) .empty).run other
    Operation.SameLoads history other ∧
      readFlag "false" = false ∧
      (first.run [.generate]).session.diffs ≠ [] ∧
      first.PreviewsAlike second "false" := by
  intro setup load rule history other first second
  have same : Operation.SameLoads history other :=
    ⟨by decide +kernel, by decide +kernel, by decide +kernel⟩
  have off : readFlag "false" = false := by
    decide +kernel
  have someDiffs : (first.run [.generate]).session.diffs ≠ [] := by
    apply List.isEmpty_eq_false_iff.mp
    decide +kernel
  exact ⟨same, off, someDiffs, preview_forgets_history setup .empty .empty same off⟩

/--
Not all is forgotten where the rules leave nothing to apply: once a file has been changed, a rule
that undoes the change empties the preview, but not the modified repository.
-/
theorem modified_outlives_preview :
    let setup := Setup.ofSettings .standard .failing Session.standard_selector_isOk
    let load := .loadRepository "\x7b\"files\":[\x7b\"path\":\"a.ts\",\"content\":\"a\"\x7d]\x7d"
    let rule :=
      .addRule "\x7b\"name\":\"there\",\"pattern\":\"a\",\"replacement\":\"b\"\x7d"
    let undo :=
      .addRule "\x7b\"name\":\"back\",\"pattern\":\"b\",\"replacement\":\"a\"\x7d"
    let history :=
      [load, .loadAnalysis "\x7b\x7d", rule, .generate, .setDryRun "false", .apply, undo]
    let other := [load, .loadAnalysis "\x7b\x7d", rule, undo]
    let first := (Desk.mk (.ofSetup setup) .empty).run history
    let second := (Desk.mk (.ofSetup setup) .empty).run other
    let steps := Operation.previewAndApply "false"
    Operation.SameLoads history other ∧
      (first.run steps).session.modified.map (fun copy => copy.get? "a.ts") = some (some "b") ∧
      (second.run steps).session.modified = none := by
  intro setup load rule undo history other first second steps
  have same : Operation.SameLoads history other :=
    ⟨by decide +kernel, by decide +kernel, by decide +kernel⟩
  refine ⟨same, ?_, ?_⟩
  · decide +kernel
  · decide +kernel

end Desk

end SourceUpgrade
