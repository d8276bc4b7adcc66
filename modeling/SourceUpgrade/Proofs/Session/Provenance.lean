import SourceUpgrade.Proofs.Session.Agreement

namespace SourceUpgrade

/-!
# Where previewed changes and modified repositories come from

Inputs, rules, previews and applications come in any order, and a modified repository outlives later
previews. All the same, nothing that a session holds is derived from an input it has no longer:
`Session.Provenance` says which rules, out of those registered so far, gave the previewed changes
and the modified repository. It holds of every reachable session.
-/

/-- The registry of all built-in rules and given custom ones. -/
def Registry.withCustoms (rules : List CustomRuleSpec) : Registry :=
  ⟨BuiltInRule.all, rules.map CustomRule.ofSpec⟩

namespace Setup

/-- A new session with both inputs loaded and custom rules added. -/
def sessionWith
    (setup : Setup)
    (repository : Snapshot)
    (analysis : Analysis)
    (rules : List CustomRuleSpec) :
    Session :=
  rules.foldl Session.addRule
    (((Session.ofSetup setup).loadSnapshot repository).1.loadReadAnalysis analysis).1

/-- The records that a preview in such a session gives. -/
def previewOf
    (setup : Setup)
    (repository : Snapshot)
    (analysis : Analysis)
    (rules : List CustomRuleSpec) :
    Except SessionError (List ChangeRecord) :=
  (setup.sessionWith repository analysis rules).generate.map fun answer => answer.1.diffs

/-- What the rules of such a session make of a file. -/
def outcomeOf
    (setup : Setup)
    (analysis : Analysis)
    (rules : List CustomRuleSpec)
    (path content : String) :
    FileTransform :=
  (Registry.withCustoms rules).run (.ofAnalysis analysis (setup.guidance analysis)) path content

end Setup

namespace Session

/-- The custom rules of a session as they were given. -/
def customRules (session : Session) : List CustomRuleSpec :=
  session.registry.customs.map CustomRule.spec

/-- The previewed changes and the modified repository come from the inputs that are loaded. -/
structure Provenance (session : Session) : Prop where
  diffs :
    session.diffs = [] ∨
      ∃ repository analysis,
        session.repository = some repository ∧
          session.analysis = some analysis ∧
          ∃ k ≤ session.registry.customs.length,
            session.setup.previewOf repository analysis (session.customRules.take k) =
              .ok session.diffs
  modified :
    ∀ copy,
      session.modified = some copy →
        ∃ repository analysis,
          session.repository = some repository ∧
            session.analysis = some analysis ∧
            ∃ m ≤ session.registry.customs.length,
              ∃ j ≤ m,
                ∃ records,
                  session.setup.previewOf repository analysis (session.customRules.take j) =
                      .ok records ∧
                    copy =
                      repository.mapContents fun path content =>
                        if path ∈ records.map ChangeRecord.file then
                          (session.setup.outcomeOf analysis (session.customRules.take m)
                            path content).content
                        else content
  known :
    ∀ record ∈ session.diffs,
      ∃ repository content,
        session.repository = some repository ∧
          repository.get? record.file = some content

/-! ## The invariant -/

/-- The rules of a session and its guidance are what was registered and what was loaded. -/
structure Consistent (session : Session) : Prop where
  registry_eq : session.registry = .withCustoms session.customRules
  guidance_eq :
    ∀ analysis, session.analysis = some analysis →
      session.guidance = session.setup.guidance analysis

/-- One more rule comes after those that were given before. -/
theorem customRules_addRule
    (session : Session)
    (spec : CustomRuleSpec) :
    (session.addRule spec).customRules = session.customRules ++ [spec] := by
  simp [customRules, addRule, Registry.register, CustomRule.ofSpec]

namespace Consistent

/-- Every reachable session is consistent. -/
theorem of_reachable
    {session : Session}
    (reached : session.Reachable) :
    session.Consistent := by
  induction reached with
  | start setup =>
      exact ⟨rfl, by simp [ofSetup]⟩
  | loadSnapshot reached snapshot inductionHypothesis =>
      exact ⟨inductionHypothesis.registry_eq, inductionHypothesis.guidance_eq⟩
  | loadAnalysis reached analysis inductionHypothesis =>
      refine ⟨inductionHypothesis.registry_eq, ?_⟩
      intro other same
      obtain rfl : analysis = other := Option.some.inj same
      rfl
  | @addRule session reached spec inductionHypothesis =>
      refine ⟨?_, inductionHypothesis.guidance_eq⟩
      rw [customRules_addRule]
      change session.registry.register spec = _
      rw [inductionHypothesis.registry_eq]
      simp [Registry.register, Registry.withCustoms]
  | setDryRun reached dryRun inductionHypothesis =>
      exact ⟨inductionHypothesis.registry_eq, inductionHypothesis.guidance_eq⟩
  | generate reached done inductionHypothesis =>
      obtain ⟨repository, analysis, -, -, -, rfl, -⟩ := generate_ok_iff.mp done
      exact ⟨inductionHypothesis.registry_eq, inductionHypothesis.guidance_eq⟩
  | apply reached done inductionHypothesis =>
      obtain ⟨-, -, repository, analysis, -, -, -, rfl, -⟩ := apply_ok_iff.mp done
      exact ⟨inductionHypothesis.registry_eq, inductionHypothesis.guidance_eq⟩

end Consistent

/-- Adding rules to a session with both inputs leaves all but the registry as it is. -/
theorem foldl_addRule
    (session : Session)
    (rules : List CustomRuleSpec) :
    rules.foldl addRule session =
      { session with
        registry :=
          { session.registry with
            customs := session.registry.customs ++ rules.map CustomRule.ofSpec } } := by
  induction rules generalizing session with
  | nil =>
      simp
  | cons spec rest inductionHypothesis =>
      rw [List.foldl_cons, inductionHypothesis]
      simp [addRule, Registry.register]

/-- A preview gives what it would give in a new session with the same inputs and rules. -/
theorem previewOf_eq
    {session : Session}
    {analysis : Analysis}
    (repository : Snapshot)
    (consistent : session.Consistent)
    (hasAnalysis : session.analysis = some analysis) :
    session.setup.previewOf repository analysis session.customRules =
      .ok (session.batch repository analysis) := by
  have same :
      (session.setup.sessionWith repository analysis session.customRules).batch
          repository analysis =
        session.batch repository analysis := by
    unfold Setup.sessionWith
    rw [foldl_addRule]
    apply batch_congr
    · rfl
    · exact consistent.registry_eq.symm
    · exact (consistent.guidance_eq analysis hasAnalysis).symm
  have done :
      (session.setup.sessionWith repository analysis session.customRules).generate =
        .ok
          ((session.setup.sessionWith repository analysis session.customRules).previewed
              repository analysis,
            ((session.setup.sessionWith repository analysis session.customRules).previewed
              repository analysis).diffSummary) := by
    unfold Setup.sessionWith
    rw [foldl_addRule]
    refine generate_ok_iff.mpr ⟨repository, analysis, rfl, rfl, ?_, rfl, rfl⟩
    change State.previewed ∈ State.allowed .loaded
    decide
  rw [Setup.previewOf, done, ← same]
  rfl

/-- The rules make of a file what those of a new session with the same rules would make of it. -/
theorem transformed_eq_outcomeOf
    {session : Session}
    {analysis : Analysis}
    (consistent : session.Consistent)
    (hasAnalysis : session.analysis = some analysis)
    (path content : String) :
    session.transformed analysis path content =
      session.setup.outcomeOf analysis session.customRules path content := by
  unfold transformed Setup.outcomeOf
  rw [← consistent.registry_eq, consistent.guidance_eq analysis hasAnalysis]

/-- All custom rules that were given are the first so many of them. -/
theorem take_customRules (session : Session) :
    session.customRules.take session.registry.customs.length = session.customRules := by
  apply List.take_of_length_le
  simp [customRules]

namespace Provenance

/-- After loading an input, nothing is there that could come from elsewhere. -/
theorem afterLoad (session : Session) : session.afterLoad.Provenance where
  diffs := .inl rfl
  modified := by
    simp [Session.afterLoad]
  known := by
    simp [Session.afterLoad]

/-- Adding a rule keeps the provenance: the first rules stay the first. -/
theorem addRule
    {session : Session}
    (provenance : session.Provenance)
    (spec : CustomRuleSpec) :
    (session.addRule spec).Provenance := by
  have count :
      (session.addRule spec).registry.customs.length = session.registry.customs.length + 1 := by
    simp [Session.addRule, Registry.register]
  have first {k : Nat} (few : k ≤ session.registry.customs.length) :
      (session.addRule spec).customRules.take k = session.customRules.take k := by
    rw [customRules_addRule, List.take_append_of_le_length]
    simpa [customRules] using few
  refine ⟨?_, ?_, provenance.known⟩
  · rcases provenance.diffs with none | ⟨repository, analysis, hasR, hasA, k, few, same⟩
    · exact .inl none
    · refine .inr ⟨repository, analysis, hasR, hasA, k, by omega, ?_⟩
      rw [first few]
      exact same
  · intro copy held
    obtain ⟨repository, analysis, hasR, hasA, m, few, j, fewer, records, same, rfl⟩ :=
      provenance.modified copy held
    refine ⟨repository, analysis, hasR, hasA, m, by omega, j, fewer, records, ?_, ?_⟩
    · rw [first (Nat.le_trans fewer few)]
      exact same
    · rw [first few]
      rfl

/-- A preview comes from all the rules that are there, and the modified repository stays. -/
theorem previewed
    {session : Session}
    {repository : Snapshot}
    {analysis : Analysis}
    (provenance : session.Provenance)
    (consistent : session.Consistent)
    (hasRepository : session.repository = some repository)
    (hasAnalysis : session.analysis = some analysis) :
    (session.previewed repository analysis).Provenance where
  diffs := by
    refine .inr ⟨repository, analysis, hasRepository, hasAnalysis, _, Nat.le_refl _, ?_⟩
    rw [take_customRules]
    have same := previewOf_eq repository consistent hasAnalysis
    exact same
  modified := provenance.modified
  known := by
    intro record member
    obtain ⟨before, found, -⟩ := exists_of_mem_batch member
    exact ⟨repository, before, hasRepository, found⟩

/-- The modified repository comes from the preview and from all the rules that are there. -/
theorem applied
    {session : Session}
    {repository : Snapshot}
    {analysis : Analysis}
    (provenance : session.Provenance)
    (consistent : session.Consistent)
    (someDiffs : session.diffs ≠ [])
    (hasRepository : session.repository = some repository)
    (hasAnalysis : session.analysis = some analysis) :
    (session.applied repository analysis).Provenance where
  diffs := provenance.diffs
  modified := by
    intro copy held
    obtain rfl := Option.some.inj held
    rcases provenance.diffs with none | ⟨other, known, hasOther, hasKnown, j, few, same⟩
    · exact absurd none someDiffs
    · obtain rfl : repository = other := Option.some.inj (hasRepository.symm.trans hasOther)
      obtain rfl : analysis = known := Option.some.inj (hasAnalysis.symm.trans hasKnown)
      refine ⟨repository, analysis, hasRepository, hasAnalysis, _, Nat.le_refl _, j, few, _, same,
        ?_⟩
      rw [withContents_newContents, take_customRules]
      simp only [transformed_eq_outcomeOf consistent hasAnalysis]
      rfl
  known := provenance.known

end Provenance

/--
What a reachable session holds comes from the inputs that are loaded now: the previewed changes are
those of a new session with these inputs and the first so many of its rules, the modified repository
is the loaded one with the rules' output in the files of such a preview, and every previewed file is
a file of the loaded repository.
-/
theorem provenance_of_reachable
    {session : Session}
    (reached : session.Reachable) :
    session.Provenance := by
  induction reached with
  | start setup =>
      exact ⟨.inl rfl, by simp [ofSetup], by simp [ofSetup]⟩
  | loadSnapshot reached snapshot inductionHypothesis =>
      exact .afterLoad _
  | loadAnalysis reached analysis inductionHypothesis =>
      exact .afterLoad _
  | addRule reached spec inductionHypothesis =>
      exact inductionHypothesis.addRule spec
  | setDryRun reached dryRun inductionHypothesis =>
      exact ⟨inductionHypothesis.diffs, inductionHypothesis.modified, inductionHypothesis.known⟩
  | generate reached done inductionHypothesis =>
      obtain ⟨repository, analysis, hasRepository, hasAnalysis, -, rfl, -⟩ :=
        generate_ok_iff.mp done
      exact inductionHypothesis.previewed (.of_reachable reached) hasRepository hasAnalysis
  | apply reached done inductionHypothesis =>
      obtain ⟨-, someDiffs, repository, analysis, hasRepository, hasAnalysis, -, rfl, -⟩ :=
        apply_ok_iff.mp done
      exact inductionHypothesis.applied (.of_reachable reached) someDiffs hasRepository hasAnalysis

/-- The provenance of what a session holds that has applied changes and then got another rule. -/
theorem provenance_of_reachable_router :
    let session :=
      routerSession.actAll
        [.generate, .setDryRun false, .apply, .addRule ⟨"double quotes", "'", "\""⟩]
    session.Reachable ∧
      session.diffs ≠ [] ∧
      session.modified ≠ none ∧
      session.Provenance := by
  intro session
  have reached : session.Reachable := routerSession_reachable.actAll _
  have someDiffs : session.diffs ≠ [] := by
    apply List.isEmpty_eq_false_iff.mp
    decide +kernel
  have someCopy : session.modified ≠ none := by
    apply Option.isSome_iff_ne_none.mp
    decide +kernel
  exact ⟨reached, someDiffs, someCopy, provenance_of_reachable reached⟩

end Session

end SourceUpgrade
