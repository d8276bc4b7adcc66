import SourceUpgrade.Proofs.Guidance.Compaction
import SourceUpgrade.Proofs.Session.Agreement

namespace SourceUpgrade

/-!
# Harvested guidance

The guidance of a session comes from the analysis that was loaded last and from what the source
answered then. Both are kept by topic, and the answers are set on the supplemental topic: what an
analysis has on a topic of that name is given up for them. `Session.loadAnalysis_harvests` says what
is held on each topic and of which references it tells; `Session.loadAnalysis_loses` shows one of
which it does not.
-/

/-! ## Answers on the supplemental topic -/

/-- What is held on the topic of answers: their addresses and the keywords that go with them. -/
def GuidanceTopic.supplement (urls : List String) : GuidanceTopic :=
  ⟨distinctUrls urls, ["api", "migration", "rename"]⟩

namespace Guidance

theorem addSupplemental_eq
    (guidance : Guidance)
    (urls : List String) :
    guidance.addSupplemental urls =
      guidance.update supplementalTopic fun _ => .supplement urls := by
  rw [addSupplemental, GuidanceTopic.foldl_addUrl]
  rfl

/--
Whether guidance tells of a reference on a topic: of its address, unless that is empty, and of all
keywords that its snippet mentions.
-/
def Tells
    (guidance : Guidance)
    (vocabulary : Vocabulary)
    (topic : String)
    (reference : Reference) :
    Prop :=
  ∃ held,
    guidance.get? topic = some held ∧
      (reference.url ≠ "" → reference.url ∈ held.urls) ∧
        ∀ hint ∈ vocabulary.hintsIn reference.snippet, hint ∈ held.hints

end Guidance

/-! ## What is harvested -/

namespace Setup

variable {setup : Setup} {analysis : Analysis}

theorem guidance_of_no_answers
    (unanswered : setup.answers analysis = []) :
    setup.guidance analysis = setup.settings.vocabulary.compact analysis.guidance := by
  simp only [guidance, unanswered, List.isEmpty_nil, if_true]

theorem guidance_of_answers
    (answered : setup.answers analysis ≠ []) :
    setup.guidance analysis =
      (setup.settings.vocabulary.compact analysis.guidance).update supplementalTopic fun _ =>
        .supplement ((setup.answers analysis).map GuidanceMatch.url) := by
  rw [← Guidance.addSupplemental_eq]
  simp only [guidance, List.isEmpty_iff, answered, if_false]

/-- What is set on the supplemental topic is seen on no other. -/
theorem get?_guidance
    {topic : String}
    (untouched : setup.answers analysis = [] ∨ topic ≠ supplementalTopic) :
    (setup.guidance analysis).get? topic =
      (setup.settings.vocabulary.compact analysis.guidance).get? topic := by
  by_cases unanswered : setup.answers analysis = []
  · rw [guidance_of_no_answers unanswered]
  · rw [guidance_of_answers unanswered, Guidance.get?_update,
      if_neg (untouched.resolve_left unanswered)]

theorem get?_guidance_supplemental
    (answered : setup.answers analysis ≠ []) :
    (setup.guidance analysis).get? supplementalTopic =
      some (.supplement ((setup.answers analysis).map GuidanceMatch.url)) := by
  rw [guidance_of_answers answered, Guidance.get?_update, if_pos rfl]

/--
What guidance has to do with an analysis and the answers to its question: the topics are those of
the analysis, with the supplemental one after them if there are answers and it is not among them.
On each other topic the guidance holds what the references of the analysis come to. On the
supplemental one it does so only if there are no answers, and otherwise it holds just the answers.
It tells of all references, then, but for those on the supplemental topic that say more than the
answers.
-/
structure Harvests
    (setup : Setup)
    (analysis : Analysis)
    (guidance : Guidance) :
    Prop where
  topics_eq :
    guidance.topics =
      (analysis.guidance.map GuidanceEntry.topic ++
        if setup.answers analysis = [] then [] else [supplementalTopic]).eraseDups
  sumsUp :
    ∀ topic ∈ analysis.guidance.map GuidanceEntry.topic,
      setup.answers analysis = [] ∨ topic ≠ supplementalTopic →
        ∃ held,
          guidance.get? topic = some held ∧
            setup.settings.vocabulary.SumsUp (referencesOn analysis.guidance topic) held
  supplemental_eq :
    setup.answers analysis ≠ [] →
      guidance.get? supplementalTopic =
        some (.supplement ((setup.answers analysis).map GuidanceMatch.url))
  tells_iff :
    ∀ entry ∈ analysis.guidance, ∀ reference ∈ entry.references,
      guidance.Tells setup.settings.vocabulary entry.topic reference ↔
        setup.answers analysis = [] ∨ entry.topic ≠ supplementalTopic ∨
          (reference.url ≠ "" →
              reference.url ∈ (setup.answers analysis).map GuidanceMatch.url) ∧
            ∀ hint ∈ setup.settings.vocabulary.hintsIn reference.snippet,
              hint ∈ supplementalHints

theorem topics_guidance
    (setup : Setup)
    (analysis : Analysis) :
    (setup.guidance analysis).topics =
      (analysis.guidance.map GuidanceEntry.topic ++
        if setup.answers analysis = [] then [] else [supplementalTopic]).eraseDups := by
  by_cases unanswered : setup.answers analysis = []
  · rw [guidance_of_no_answers unanswered, Vocabulary.topics_compact, if_pos unanswered,
      List.append_nil]
  · rw [guidance_of_answers unanswered, Guidance.topics_update, Vocabulary.topics_compact,
      if_neg unanswered, eraseDups_concat]
    exact if_congr List.mem_eraseDups rfl rfl

/-- A topic that no answers are set on holds what its references come to. -/
theorem sumsUp_guidance
    {topic : String}
    (known : topic ∈ analysis.guidance.map GuidanceEntry.topic)
    (untouched : setup.answers analysis = [] ∨ topic ≠ supplementalTopic) :
    ∃ held,
      (setup.guidance analysis).get? topic = some held ∧
        setup.settings.vocabulary.SumsUp (referencesOn analysis.guidance topic) held := by
  have member : topic ∈ (setup.settings.vocabulary.compact analysis.guidance).topics := by
    rw [Vocabulary.topics_compact, List.mem_eraseDups]
    exact known
  refine ⟨_, (get?_guidance untouched).trans (Guidance.get?_of_mem_topics member), ?_⟩
  rw [Vocabulary.getD_compact]
  exact Vocabulary.sumsUp_summary _ _

/-- A reference on a topic that no answers are set on is told of. -/
theorem tells_guidance
    {entry : GuidanceEntry}
    {reference : Reference}
    (known : entry ∈ analysis.guidance)
    (listed : reference ∈ entry.references)
    (untouched : setup.answers analysis = [] ∨ entry.topic ≠ supplementalTopic) :
    (setup.guidance analysis).Tells setup.settings.vocabulary entry.topic reference := by
  obtain ⟨held, found, sums⟩ := sumsUp_guidance (List.mem_map_of_mem known) untouched
  have onTopic : reference ∈ referencesOn analysis.guidance entry.topic := by
    refine List.mem_flatMap.mpr ⟨entry, List.mem_filter.mpr ⟨known, ?_⟩, listed⟩
    exact decide_eq_true rfl
  refine ⟨held, found, fun named => ?_, fun hint mentioned => ?_⟩
  · rw [sums.urls_eq, List.mem_eraseDups, List.mem_filter]
    exact ⟨List.mem_map_of_mem onTopic, decide_eq_true named⟩
  · exact (sums.mem_hints_iff hint).mpr ⟨reference, onTopic, mentioned⟩

/-- A reference on the topic of answers is told of if it says no more than the answers. -/
theorem tells_guidance_supplemental_iff
    (answered : setup.answers analysis ≠ [])
    (vocabulary : Vocabulary)
    (reference : Reference) :
    (setup.guidance analysis).Tells vocabulary supplementalTopic reference ↔
      (reference.url ≠ "" → reference.url ∈ (setup.answers analysis).map GuidanceMatch.url) ∧
        ∀ hint ∈ vocabulary.hintsIn reference.snippet, hint ∈ supplementalHints := by
  have sameHints (hint : String) :
      hint ∈ ["api", "migration", "rename"] ↔ hint ∈ supplementalHints := by
    simp [supplementalHints, or_left_comm]
  rw [Guidance.Tells, get?_guidance_supplemental answered]
  constructor
  · rintro ⟨held, same, named, mentioned⟩
    obtain rfl := Option.some.inj same
    refine ⟨fun nonempty => ?_, fun hint inText => (sameHints hint).mp (mentioned hint inText)⟩
    exact (GuidanceTopic.mem_distinctUrls.mp (named nonempty)).1
  · rintro ⟨named, mentioned⟩
    refine ⟨_, rfl, fun nonempty => ?_, fun hint inText => ?_⟩
    · exact GuidanceTopic.mem_distinctUrls.mpr ⟨named nonempty, nonempty⟩
    · exact (sameHints hint).mpr (mentioned hint inText)

theorem harvests_guidance
    (setup : Setup)
    (analysis : Analysis) :
    setup.Harvests analysis (setup.guidance analysis) where
  topics_eq := setup.topics_guidance analysis
  sumsUp _ known untouched := sumsUp_guidance known untouched
  supplemental_eq := get?_guidance_supplemental
  tells_iff entry known reference listed := by
    by_cases untouched : setup.answers analysis = [] ∨ entry.topic ≠ supplementalTopic
    · exact iff_of_true (tells_guidance known listed untouched) (or_assoc.mp (Or.inl untouched))
    · obtain ⟨answered, isSupplemental⟩ := not_or.mp untouched
      rw [or_iff_right answered, or_iff_right isSupplemental, not_not.mp isSupplemental]
      exact tells_guidance_supplemental_iff answered _ reference

end Setup

namespace Session

/--
Whatever a session has loaded before, and whatever its source answers, an analysis that is loaded is
harvested: its guidance is kept on every topic but the supplemental one, and there as long as the
source has no answers.
-/
theorem loadAnalysis_harvests
    {session loaded : Session}
    {payload : String}
    {summary : AnalysisSummary}
    (accepted : session.loadAnalysis payload = .ok (loaded, summary)) :
    ∃ analysis,
      Analysis.read payload = .ok analysis ∧
        loaded.analysis = some analysis ∧
          session.setup.Harvests analysis loaded.guidance := by
  cases read : Analysis.read payload with
  | error error =>
      rw [loadAnalysis, read] at accepted
      cases accepted
  | ok analysis =>
      rw [loadAnalysis, read] at accepted
      obtain ⟨rfl, -⟩ := Prod.mk.inj (Except.ok.inj accepted)
      exact ⟨analysis, rfl, rfl, session.setup.harvests_guidance analysis⟩

/-- A session whose source knows one page about an upgrade. -/
def answeredSession : Session :=
  let answer := { GuidanceMatch.blank with url := "live", framework := "nextjs" }
  let setup := Setup.ofSettings .standard .failing standard_selector_isOk
  ofSetup { setup with source := .ofMatches [answer] }

/-- An upgrade with guidance on routers and on a topic that is named as that of answers. -/
def supplementedUpgrade : Analysis where
  package := "next"
  currentVersion := ""
  targetVersion := "14"
  prioritized := .none
  guidance :=
    [⟨"app_router", [⟨"docs", "", []⟩]⟩, ⟨"supplemental", [⟨"kept", "router", []⟩]⟩]

/-- The upgrade as it is handed over. -/
def supplementedPayload : String :=
  "\x7b\"package\":\"next\",\"target_version\":\"14\",\"rag_guidance\":[" ++
    "\x7b\"topic\":\"app_router\",\"references\":[\x7b\"url\":\"docs\"\x7d]\x7d," ++
    "\x7b\"topic\":\"supplemental\",\"references\":[" ++
      "\x7b\"url\":\"kept\",\"snippet\":\"router\"\x7d]\x7d]\x7d"

theorem loadAnalysis_supplementedPayload (session : Session) :
    session.loadAnalysis supplementedPayload =
      .ok (session.loadReadAnalysis supplementedUpgrade) := by
  have read : Analysis.read supplementedPayload = .ok supplementedUpgrade := by
    decide +kernel
  rw [loadAnalysis, read]

/-- The guidance on routers is harvested together with the page that the source knows. -/
theorem loadAnalysis_harvests_answeredSession :
    ∃ loaded summary,
      answeredSession.loadAnalysis supplementedPayload = .ok (loaded, summary) ∧
        loaded.guidance.topics = ["app_router", "supplemental"] ∧
          ∃ analysis,
            loaded.analysis = some analysis ∧
              answeredSession.setup.Harvests analysis loaded.guidance := by
  have accepted := answeredSession.loadAnalysis_supplementedPayload
  obtain ⟨analysis, -, isLoaded, harvests⟩ := loadAnalysis_harvests accepted
  refine ⟨_, _, accepted, ?_, analysis, isLoaded, harvests⟩
  decide +kernel

/-- What the upgrade has on the topic of answers is lost for the page that the source knows. -/
theorem loadAnalysis_loses :
    ∃ loaded summary,
      answeredSession.loadAnalysis supplementedPayload = .ok (loaded, summary) ∧
        ∃ entry ∈ supplementedUpgrade.guidance, ∃ reference ∈ entry.references,
          loaded.analysis = some supplementedUpgrade ∧
            entry.topic = "supplemental" ∧ reference.url = "kept" ∧
              "router" ∈ loaded.setup.settings.vocabulary.hintsIn reference.snippet ∧
                ∃ held,
                  loaded.guidance.get? entry.topic = some held ∧
                    "kept" ∉ held.urls ∧ "router" ∉ held.hints := by
  refine ⟨_, _, answeredSession.loadAnalysis_supplementedPayload,
    ⟨"supplemental", [⟨"kept", "router", []⟩]⟩, .tail _ (.head _), ⟨"kept", "router", []⟩,
    .head _, rfl, rfl, rfl, ?_, ⟨["live"], ["api", "migration", "rename"]⟩, ?_, ?_, ?_⟩
  · decide +kernel
  · decide +kernel
  · decide
  · decide

end Session

end SourceUpgrade
