import SourceUpgrade.Proofs.Json.Fields
import SourceUpgrade.Proofs.Session.History
import SourceUpgrade.Session.Reply

namespace SourceUpgrade

/-!
# The composite operation on input that is accepted

Once both inputs can be read, no step of the composite operation fails but the last, and that one
only for want of changes. Loading has forgotten whatever the session held: the reply is the one that
a preview gets in a new session with the same setup and the same custom rules, and an attempt to
apply what was previewed stands beside it exactly if the gate is off. `Desk.full_of_accepted` says
so of the results and of the objects that are sent.
-/

/-! ## The object that is sent -/

section

variable (summary : DiffSummary) (attempt : Option ApplyReply)

/-- The field in which an attempt to apply is sent, if there was one. -/
def attemptField : Json.Fields :=
  (attempt.map fun reply => ("apply", reply.toJson)).toList

/-- The fields of a preview are those of its summary and that of the attempt to apply. -/
theorem Result.toFields_diffs :
    (Result.diffs summary attempt).toFields = summary.toFields ++ attemptField attempt := by
  cases attempt with
  | none =>
      exact (List.append_nil _).symm
  | some reply =>
      rfl

/-- No field of a preview takes the place of another one. -/
theorem keys_preview_nodup :
    (Json.Fields.keys
      (("status", .string "ok") :: (summary.toFields ++ attemptField attempt))).Nodup := by
  cases attempt with
  | none =>
      simp [Json.Fields.keys, DiffSummary.toFields, attemptField]
  | some reply =>
      simp [Json.Fields.keys, DiffSummary.toFields, attemptField]

/-- How the object that is sent for a preview relates to the one that is sent without an attempt. -/
structure SentBeside (fields payload : Json.Fields) : Prop where
  status : fields.get? "status" = some (.string "ok")
  attempt : fields.get? "apply" = attempt.map ApplyReply.toJson
  payload : fields.erase "apply" = payload

/-- A preview is sent as a success, with the attempt to apply in a field beside its summary. -/
theorem exists_sentBeside :
    ∃ fields payload,
      Reply.toJson (.ok (.diffs summary attempt)) = .object fields ∧
        Reply.toJson (.ok (.diffs summary none)) = .object payload ∧
        SentBeside attempt fields payload := by
  have different := keys_preview_nodup summary attempt
  refine ⟨_, _, rfl, rfl, ?_, ?_, ?_⟩
  · rw [Result.toFields_diffs, Json.Fields.get?_sorted different, Json.Fields.get?_cons]
    rfl
  · rw [Result.toFields_diffs, Json.Fields.get?_sorted different]
    cases attempt with
    | none =>
        rfl
    | some reply =>
        rfl
  · rw [Result.toFields_diffs, Json.Fields.erase_sorted different]
    cases attempt with
    | none =>
        rfl
    | some reply =>
        rfl

end

/-! ## The session that is left -/

namespace Session

/-- A new session with the setup and the custom rules of another one. -/
def renewed (session : Session) : Session :=
  session.customRules.foldl addRule (ofSetup session.setup)

/-- A new session with the rules of a reachable one has the same inputs once they are loaded. -/
theorem sameInputs_renewed
    {session : Session}
    (reached : session.Reachable)
    (snapshot : Snapshot)
    (analysis : Analysis)
    (dryRun : Bool) :
    ((session.renewed.loadSnapshot snapshot).1.loadReadAnalysis analysis).1.SameInputs
      (session.reloaded snapshot analysis dryRun) := by
  have rules : Registry.withCustoms session.customRules = session.registry :=
    (Consistent.of_reachable reached).registry_eq.symm
  unfold renewed
  rw [foldl_addRule]
  exact ⟨rfl, rules, rfl, rfl, rfl⟩

section

variable {session : Session} {snapshot : Snapshot} {analysis : Analysis}

/-- With the gate off and nothing to apply, the attempt tells that and leaves the session alone. -/
theorem applyUnlessDry_of_no_diffs
    (off : session.dryRun = false)
    (noDiffs : session.diffs = []) :
    session.applyUnlessDry = (session, some (.error .noDiffs)) := by
  simp [applyUnlessDry, off, apply_of_no_diffs off noDiffs]

/-- With the gate off, up to date changes of a coherent session are applied, all of them. -/
theorem UpToDate.applyUnlessDry
    (upToDate : session.UpToDate snapshot analysis)
    (coherent : session.Coherent)
    (off : session.dryRun = false)
    (someDiffs : session.diffs ≠ []) :
    session.applyUnlessDry =
      (session.applied snapshot analysis, some (.ok ⟨session.diffs.map ChangeRecord.file⟩)) := by
  have done :=
    coherent.apply_ok off someDiffs upToDate.repository_eq upToDate.analysis_eq
  rw [upToDate.newContents_files] at done
  simp [Session.applyUnlessDry, off, done]

/-- What has just been previewed is up to date. -/
theorem UpToDate.previewed
    (hasRepository : session.repository = some snapshot)
    (hasAnalysis : session.analysis = some analysis) :
    (session.previewed snapshot analysis).UpToDate snapshot analysis where
  repository_eq := hasRepository
  analysis_eq := hasAnalysis
  diffs_eq := batch_congr rfl rfl rfl snapshot analysis

end

/-- How an attempt to apply ends that follows a preview, and what it leaves. -/
structure AttemptsAsPreviewed
    (dryRun : Bool)
    (summary : DiffSummary)
    (attempt : Option ApplyReply)
    (left : Session) :
    Prop where
  attempted_iff : attempt.isSome ↔ dryRun = false
  of_no_changes :
    dryRun = false →
      summary.count = 0 → attempt = some (.error .noDiffs) ∧ left.modified = none
  of_changes :
    dryRun = false →
      summary.count ≠ 0 →
        ∃ report,
          attempt = some (.ok report) ∧
            report.files = summary.files ∧ report.count = summary.count

/-- Up to date changes are attempted as previewed, if nothing has been modified before. -/
theorem UpToDate.attemptsAsPreviewed
    {session : Session}
    {snapshot : Snapshot}
    {analysis : Analysis}
    (upToDate : session.UpToDate snapshot analysis)
    (coherent : session.Coherent)
    (unmodified : session.modified = none) :
    AttemptsAsPreviewed session.dryRun session.diffSummary session.applyUnlessDry.2
      session.applyUnlessDry.1 := by
  have count : session.diffSummary.count = session.diffs.length := List.length_map ..
  refine ⟨?_, ?_, ?_⟩
  · cases gate : session.dryRun with
    | true =>
        simp [Session.applyUnlessDry, gate]
    | false =>
        by_cases noDiffs : session.diffs = []
        · simp [applyUnlessDry_of_no_diffs gate noDiffs]
        · simp [upToDate.applyUnlessDry coherent gate noDiffs]
  · intro off none
    have noDiffs : session.diffs = [] := List.eq_nil_of_length_eq_zero (count ▸ none)
    rw [applyUnlessDry_of_no_diffs off noDiffs]
    exact ⟨rfl, unmodified⟩
  · intro off some
    have someDiffs : session.diffs ≠ [] := by
      intro noDiffs
      rw [count, noDiffs] at some
      exact some rfl
    rw [upToDate.applyUnlessDry coherent off someDiffs]
    exact ⟨_, rfl, rfl, rfl⟩

/-! ### An upgrade of one page, as it is sent -/

/-- The text of the repository with one page. -/
def routerText : String :=
  "\x7b\"label\":\"router\",\"files\":[\x7b\"path\":\"app/page.tsx\",\"content\":" ++
    "\"import \x7b useRouter \x7d from 'next/router';\\n\"\x7d]\x7d"

/-- The text of the upgrade that concerns this page. -/
def upgradeText : String :=
  "\x7b\"package\":\"next\",\"current_version\":\"13.4.0\",\"target_version\":\"14.0.0\"\x7d"

theorem read_routerText : Snapshot.read routerText = .ok routerRepository := by
  decide +kernel

theorem read_upgradeText : Analysis.read upgradeText = .ok routerUpgrade := by
  decide +kernel

end Session

namespace Desk

/-- A new desk with the setup and the custom rules of another, where two payloads were loaded. -/
def loadedAnew (desk : Desk) (repository analysis : String) : Desk :=
  (Desk.mk desk.session.renewed desk.disk).run
    [.loadRepository repository, .loadAnalysis analysis]

/-- A preview at a new desk with the same rules finds what the composite operation finds. -/
theorem generate_loadedAnew
    {desk : Desk}
    {repository analysis : String}
    {snapshot : Snapshot}
    {read : Analysis}
    (reached : desk.session.Reachable)
    (goodRepository : Snapshot.read repository = .ok snapshot)
    (goodAnalysis : Analysis.read analysis = .ok read)
    (dryRun : Bool) :
    ((desk.loadedAnew repository analysis).perform .generate).2 =
      .ok
        (.diffs ((desk.session.reloaded snapshot read dryRun).previewed snapshot read).diffSummary
          none) := by
  have loaded :
      (desk.loadedAnew repository analysis).session =
        ((desk.session.renewed.loadSnapshot snapshot).1.loadReadAnalysis read).1 := by
    rw [loadedAnew, run_session]
    simp [Operation.actions, goodRepository, goodAnalysis, Session.act]
  have same := Session.sameInputs_renewed reached snapshot read dryRun
  have reloaded := ((reached.loadSnapshot snapshot).loadAnalysis read).setDryRun dryRun
  have previewed := same.act_generate (.afterLoad _) (.of_reachable reloaded)
  change ((desk.loadedAnew repository analysis).session.settle _ _).2 = _
  rw [settle_reply, loaded, previewed.1, Session.generate_reloaded]
  rfl

/--
A composite operation on two payloads that can be read succeeds in every reachable session. Its
reply is that of a preview at a new desk with the same setup and custom rules where these payloads
were loaded, in the object that is sent too, but for an attempt to apply. The attempt is made
exactly if the flag leaves the gate off; it fails for want of changes if none were found, and else
it applies the previewed files, all of them.
-/
theorem full_of_accepted
    {desk : Desk}
    (reached : desk.session.Reachable)
    {repository analysis : String}
    {snapshot : Snapshot}
    {read : Analysis}
    (goodRepository : Snapshot.read repository = .ok snapshot)
    (goodAnalysis : Analysis.read analysis = .ok read)
    (flag : String) :
    let performed := desk.perform (.full repository analysis flag)
    let anew := (desk.loadedAnew repository analysis).perform .generate
    ∃ summary attempt fields payload,
      performed.2 = .ok (.diffs summary attempt) ∧
        anew.2 = .ok (.diffs summary none) ∧
        Reply.toJson performed.2 = .object fields ∧
        Reply.toJson anew.2 = .object payload ∧
        SentBeside attempt fields payload ∧
        Session.AttemptsAsPreviewed (readFlag flag) summary attempt performed.1.session := by
  intro performed anew
  have done : performed = _ :=
    congrArg desk.withSession
      (Session.full_of_read goodRepository goodAnalysis)
  have found : anew.2 = _ := generate_loadedAnew reached goodRepository goodAnalysis (readFlag flag)
  clear_value performed anew
  subst done
  rw [found]
  generalize readFlag flag = dryRun
  obtain ⟨fields, payload, sent, sentAnew, beside⟩ := exists_sentBeside _ _
  have upToDate :
      ((desk.session.reloaded snapshot read dryRun).previewed snapshot read).UpToDate snapshot
        read :=
    .previewed rfl rfl
  have attempted := upToDate.attemptsAsPreviewed (.previewed rfl rfl) rfl
  exact ⟨_, _, fields, payload, rfl, rfl, sent, sentAnew, beside, attempted⟩

/--
A page whose change was applied before, and a rule that came after it, leave no trace but the rule
in a composite operation on the same page.
-/
theorem full_of_accepted_router :
    let desk :=
      Desk.mk
        (Session.routerSession.actAll
          [.generate, .setDryRun false, .apply, .addRule ⟨"double quotes", "'", "\""⟩]) .empty
    let performed := desk.perform (.full Session.routerText Session.upgradeText "off")
    let anew := (desk.loadedAnew Session.routerText Session.upgradeText).perform .generate
    desk.session.Reachable ∧
      desk.session.modified ≠ none ∧
      Snapshot.read Session.routerText = .ok Session.routerRepository ∧
      Analysis.read Session.upgradeText = .ok Session.routerUpgrade ∧
      ∃ summary attempt fields payload,
        performed.2 = .ok (.diffs summary attempt) ∧
          anew.2 = .ok (.diffs summary none) ∧
          Reply.toJson performed.2 = .object fields ∧
          Reply.toJson anew.2 = .object payload ∧
          SentBeside attempt fields payload ∧
          Session.AttemptsAsPreviewed (readFlag "off") summary attempt performed.1.session := by
  intro desk performed anew
  have reached : desk.session.Reachable := Session.routerSession_reachable.actAll _
  have someCopy : desk.session.modified ≠ none := by
    apply Option.isSome_iff_ne_none.mp
    decide +kernel
  exact
    ⟨reached, someCopy, Session.read_routerText, Session.read_upgradeText,
      full_of_accepted reached Session.read_routerText Session.read_upgradeText "off"⟩

end Desk

end SourceUpgrade
