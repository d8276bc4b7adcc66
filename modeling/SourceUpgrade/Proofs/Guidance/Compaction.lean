import Mathlib.Data.List.Basic
import SourceUpgrade.Guidance.Topic
import SourceUpgrade.Proofs.FirstSeen

namespace SourceUpgrade

/-!
# Compacted guidance

Compacting goes through entries one by one and through the references of each. What comes out does
not show how the references were parted into entries: it is told by the topics in first-seen order
and, for each topic, by the references on it in order. `Vocabulary.compact_eq` is that closed form.
From it follow which changes to a list of entries make no difference, and how the guidance on two
lists of entries is merged.
-/

namespace GuidanceTopic

/-! ## Keywords -/

/-- Keywords that ascend, each once. -/
def Ascending (hints : List String) : Prop :=
  hints.Pairwise (· < ·)

/-- Ascending keywords are told by which they are. -/
theorem Ascending.eq_of_mem_iff
    {hints hints' : List String}
    (ascending : Ascending hints)
    (ascending' : Ascending hints')
    (same : ∀ hint, hint ∈ hints ↔ hint ∈ hints') :
    hints = hints' := by
  have nodup {held : List String} (sorted : Ascending held) : held.Nodup := by
    refine List.Pairwise.imp (fun less equal => ?_) sorted
    exact String.lt_irrefl _ (equal ▸ less)
  refine List.Perm.eq_of_pairwise ?_ ascending ascending'
    ((List.perm_ext_iff_of_nodup (nodup ascending) (nodup ascending')).mpr same)
  intro hint other _ _ less greater
  exact absurd greater (String.lt_asymm less)

theorem mem_insertHint
    {hint other : String}
    {hints : List String} :
    other ∈ insertHint hint hints ↔ other = hint ∨ other ∈ hints := by
  induction hints with
  | nil =>
      exact List.mem_singleton.trans (or_iff_left List.not_mem_nil).symm
  | cons head rest inductionHypothesis =>
      rw [insertHint]
      split
      · rename_i same
        simp [same]
      · split
        · exact List.mem_cons
        · rw [List.mem_cons, inductionHypothesis, List.mem_cons, or_left_comm]

theorem ascending_insertHint
    {hints : List String}
    (ascending : Ascending hints)
    (hint : String) :
    Ascending (insertHint hint hints) := by
  induction hints with
  | nil =>
      exact List.pairwise_singleton _ _
  | cons head rest inductionHypothesis =>
      obtain ⟨headLess, restAscending⟩ := List.pairwise_cons.mp ascending
      rw [insertHint]
      split
      · exact ascending
      · rename_i differs
        split
        · rename_i less
          refine List.pairwise_cons.mpr ⟨fun other member => ?_, ascending⟩
          rcases List.mem_cons.mp member with rfl | inRest
          · exact less
          · exact String.lt_trans less (headLess other inRest)
        · rename_i notLess
          have greater : head < hint :=
            Std.lt_of_le_of_ne (String.not_lt.mp notLess) fun same => differs same.symm
          refine List.pairwise_cons.mpr ⟨fun other member => ?_, inductionHypothesis restAscending⟩
          rcases mem_insertHint.mp member with rfl | inRest
          · exact greater
          · exact headLess other inRest

theorem mem_addHints
    {topic : GuidanceTopic}
    {hints : List String}
    {hint : String} :
    hint ∈ (topic.addHints hints).hints ↔ hint ∈ topic.hints ∨ hint ∈ hints := by
  unfold addHints
  induction hints generalizing topic with
  | nil =>
      exact (or_iff_left List.not_mem_nil).symm
  | cons head rest inductionHypothesis =>
      rw [List.foldl_cons]
      refine (@inductionHypothesis ⟨topic.urls, insertHint head topic.hints⟩).trans ?_
      rw [mem_insertHint, List.mem_cons, or_comm (a := hint = head), or_assoc]

theorem ascending_addHints
    {topic : GuidanceTopic}
    (ascending : Ascending topic.hints)
    (hints : List String) :
    Ascending (topic.addHints hints).hints := by
  unfold addHints
  induction hints generalizing topic with
  | nil =>
      exact ascending
  | cons head rest inductionHypothesis =>
      rw [List.foldl_cons]
      exact @inductionHypothesis ⟨topic.urls, insertHint head topic.hints⟩
        (ascending_insertHint ascending head)

/-! ## Addresses -/

/-- The addresses of a list that are not empty, each where it stands first. -/
def distinctUrls (urls : List String) : List String :=
  (urls.filter fun url => decide (url ≠ "")).eraseDups

theorem mem_distinctUrls
    {url : String}
    {urls : List String} :
    url ∈ distinctUrls urls ↔ url ∈ urls ∧ url ≠ "" := by
  rw [distinctUrls, List.mem_eraseDups, List.mem_filter, decide_eq_true_iff]

theorem distinctUrls_concat
    (urls : List String)
    (url : String) :
    distinctUrls (urls ++ [url]) =
      if url = "" ∨ url ∈ distinctUrls urls then distinctUrls urls
      else distinctUrls urls ++ [url] := by
  rw [distinctUrls, List.filter_append]
  by_cases blank : url = ""
  · rw [if_pos (Or.inl blank), List.filter_cons_of_neg (by simpa using blank), List.filter_nil,
      List.append_nil, distinctUrls]
  · rw [List.filter_cons_of_pos (by simpa using blank), List.filter_nil, eraseDups_concat,
      ← distinctUrls]
    refine if_congr ?_ rfl rfl
    rw [or_iff_right blank, distinctUrls, List.mem_eraseDups]

/-- One more address keeps a topic at the different addresses that it was given. -/
theorem urls_addUrl
    {topic : GuidanceTopic}
    {urls : List String}
    (held : topic.urls = distinctUrls urls)
    (url : String) :
    (topic.addUrl url).urls = distinctUrls (urls ++ [url]) := by
  rw [distinctUrls_concat, addUrl, ← held]
  by_cases passed : url = "" ∨ url ∈ topic.urls
  · rw [if_pos passed, if_pos (by simpa using passed)]
  · rw [if_neg passed, if_neg (by simpa using passed)]

theorem hints_addUrl
    (topic : GuidanceTopic)
    (url : String) :
    (topic.addUrl url).hints = topic.hints := by
  unfold addUrl
  split
  · rfl
  · rfl

/-- Addresses alone. -/
theorem foldl_addUrl (urls : List String) :
    urls.foldl addUrl .empty = ⟨distinctUrls urls, []⟩ := by
  induction urls using List.reverseRecOn with
  | nil =>
      rfl
  | append_singleton before url inductionHypothesis =>
      rw [List.foldl_append, inductionHypothesis, List.foldl_cons, List.foldl_nil]
      have urlsEq := @urls_addUrl ⟨distinctUrls before, []⟩ before rfl url
      have hintsEq := hints_addUrl ⟨distinctUrls before, []⟩ url
      exact congr (congrArg GuidanceTopic.mk urlsEq) hintsEq

/-! ## Two topics in one -/

/-- What is held on a topic with what else is held on it, the first of them first. -/
def merge (first second : GuidanceTopic) : GuidanceTopic :=
  GuidanceTopic.addHints
    { first with
      urls := first.urls ++ second.urls.filter fun url => decide (url ∉ first.urls) }
    second.hints

end GuidanceTopic

/-- The guidance of two parts, topic by topic; the topics of the first part come first. -/
def Guidance.merge (first second : Guidance) : Guidance :=
  (first.map fun part => (part.1, part.2.merge ((second.get? part.1).getD .empty))) ++
    second.filter fun part => decide (part.1 ∉ first.topics)

/-! ## What is held on a topic -/

/-- The references of all entries on a topic, in order. -/
def referencesOn (entries : List GuidanceEntry) (topic : String) : List Reference :=
  (entries.filter fun entry => decide (entry.topic = topic)).flatMap GuidanceEntry.references

theorem referencesOn_append
    (before after : List GuidanceEntry)
    (topic : String) :
    referencesOn (before ++ after) topic =
      referencesOn before topic ++ referencesOn after topic := by
  rw [referencesOn, List.filter_append, List.flatMap_append]
  rfl

theorem referencesOn_cons
    (entry : GuidanceEntry)
    (later : List GuidanceEntry)
    (topic : String) :
    referencesOn (entry :: later) topic =
      (if entry.topic = topic then entry.references else []) ++ referencesOn later topic := by
  rw [referencesOn, List.filter_cons]
  by_cases same : entry.topic = topic
  · simp [same, referencesOn]
  · simp [same, referencesOn]

theorem referencesOn_singleton
    (entry : GuidanceEntry)
    (topic : String) :
    referencesOn [entry] topic = if entry.topic = topic then entry.references else [] := by
  rw [referencesOn_cons]
  exact List.append_nil _

theorem referencesOn_eq_nil
    {entries : List GuidanceEntry}
    {topic : String}
    (unknown : topic ∉ entries.map GuidanceEntry.topic) :
    referencesOn entries topic = [] := by
  have none : (entries.filter fun entry => decide (entry.topic = topic)) = [] := by
    refine List.filter_eq_nil_iff.mpr fun entry member same => unknown ?_
    exact List.mem_map.mpr ⟨entry, member, of_decide_eq_true same⟩
  rw [referencesOn, none, List.flatMap_nil]

namespace Vocabulary

variable {vocabulary : Vocabulary}

/--
Whether a topic holds what its references say: their addresses that are not empty, each where it
comes first, and the keywords that their snippets mention, ascending.
-/
structure SumsUp
    (vocabulary : Vocabulary)
    (references : List Reference)
    (held : GuidanceTopic) :
    Prop where
  urls_eq :
    held.urls =
      ((references.map Reference.url).filter fun url => decide (url ≠ "")).eraseDups
  hints_ascending : GuidanceTopic.Ascending held.hints
  mem_hints_iff :
    ∀ hint,
      hint ∈ held.hints ↔
        ∃ reference ∈ references, hint ∈ vocabulary.hintsIn reference.snippet

namespace SumsUp

variable {references first second : List Reference} {held held' : GuidanceTopic}

/-- References leave no choice of what is held. -/
theorem unique
    (sums : SumsUp vocabulary references held)
    (sums' : SumsUp vocabulary references held') :
    held = held' := by
  have sameHints : held.hints = held'.hints := by
    refine sums.hints_ascending.eq_of_mem_iff sums'.hints_ascending fun hint => ?_
    rw [sums.mem_hints_iff, sums'.mem_hints_iff]
  cases held
  cases held'
  exact (GuidanceTopic.mk.injEq ..).mpr ⟨sums.urls_eq.trans sums'.urls_eq.symm, sameHints⟩

theorem empty : SumsUp vocabulary [] .empty where
  urls_eq := rfl
  hints_ascending := List.Pairwise.nil
  mem_hints_iff hint := by
    refine ⟨fun member => absurd member List.not_mem_nil, ?_⟩
    rintro ⟨reference, member, -⟩
    exact absurd member List.not_mem_nil

/-- One more reference. -/
theorem addReference
    (sums : SumsUp vocabulary references held)
    (reference : Reference) :
    SumsUp vocabulary (references ++ [reference]) (vocabulary.addReference held reference) where
  urls_eq := by
    rw [List.map_append]
    exact GuidanceTopic.urls_addUrl sums.urls_eq reference.url
  hints_ascending := by
    refine GuidanceTopic.ascending_addHints ?_ _
    rw [GuidanceTopic.hints_addUrl]
    exact sums.hints_ascending
  mem_hints_iff hint := by
    rw [Vocabulary.addReference, GuidanceTopic.mem_addHints, GuidanceTopic.hints_addUrl,
      sums.mem_hints_iff]
    simp [or_and_right, exists_or]

/-- What two parts hold, merged, is what their references come to. -/
theorem merge
    (sums : SumsUp vocabulary first held)
    (sums' : SumsUp vocabulary second held') :
    SumsUp vocabulary (first ++ second) (held.merge held') where
  urls_eq := by
    rw [List.map_append, List.filter_append, eraseDups_append_eq, ← sums.urls_eq, ← sums'.urls_eq]
    rfl
  hints_ascending := GuidanceTopic.ascending_addHints sums.hints_ascending _
  mem_hints_iff hint := by
    rw [GuidanceTopic.merge, GuidanceTopic.mem_addHints, sums'.mem_hints_iff]
    refine (or_congr_left (sums.mem_hints_iff hint)).trans ?_
    simp [or_and_right, exists_or]

end SumsUp

/-- What references come to, one by one. -/
def summary (vocabulary : Vocabulary) (references : List Reference) : GuidanceTopic :=
  references.foldl vocabulary.addReference .empty

theorem sumsUp_summary
    (vocabulary : Vocabulary)
    (references : List Reference) :
    SumsUp vocabulary references (vocabulary.summary references) := by
  induction references using List.reverseRecOn with
  | nil =>
      exact .empty
  | append_singleton before reference inductionHypothesis =>
      rw [summary, List.foldl_append]
      exact inductionHypothesis.addReference reference

theorem summary_append
    (vocabulary : Vocabulary)
    (first second : List Reference) :
    vocabulary.summary (first ++ second) =
      (vocabulary.summary first).merge (vocabulary.summary second) :=
  (vocabulary.sumsUp_summary _).unique
    ((vocabulary.sumsUp_summary first).merge (vocabulary.sumsUp_summary second))

end Vocabulary

/-! ## Entry by entry -/

namespace Guidance

variable {guidance : Guidance}

theorem get?_cons
    (part : String × GuidanceTopic)
    (rest : Guidance)
    (other : String) :
    get? (part :: rest) other = if other = part.1 then some part.2 else rest.get? other := by
  obtain ⟨topic, held⟩ := part
  rw [get?, List.lookup_cons]
  by_cases same : other = topic
  · rw [if_pos same, beq_iff_eq.mpr same]
  · rw [if_neg same, beq_eq_false_iff_ne.mpr same]
    rfl

/-- A change of what is held on a topic touches no other. -/
theorem get?_update
    (guidance : Guidance)
    (topic : String)
    (change : GuidanceTopic → GuidanceTopic)
    (other : String) :
    (guidance.update topic change).get? other =
      if other = topic then some (change ((guidance.get? topic).getD .empty))
      else guidance.get? other := by
  induction guidance with
  | nil =>
      exact get?_cons (topic, change .empty) [] other
  | cons part rest inductionHypothesis =>
      rw [update, get?_cons part rest topic, get?_cons part rest other]
      by_cases here : part.1 = topic
      · rw [if_pos here, get?_cons, here, if_pos rfl, Option.getD_some]
        split
        · rfl
        · rfl
      · rw [if_neg here, get?_cons, inductionHypothesis, if_neg (Ne.symm here)]
        by_cases found : other = part.1
        · rw [if_pos found, if_pos found, if_neg (found ▸ here)]
        · rw [if_neg found, if_neg found]

/-- A change keeps the order of the topics; a new one comes last. -/
theorem topics_update
    (guidance : Guidance)
    (topic : String)
    (change : GuidanceTopic → GuidanceTopic) :
    (guidance.update topic change).topics =
      if topic ∈ guidance.topics then guidance.topics else guidance.topics ++ [topic] := by
  induction guidance with
  | nil =>
      rfl
  | cons part rest inductionHypothesis =>
      rw [update]
      by_cases here : part.1 = topic
      · rw [if_pos here, if_pos (here ▸ List.mem_cons_self)]
        rfl
      · have sameQuestion : topic ∈ topics (part :: rest) ↔ topic ∈ topics rest :=
          List.mem_cons.trans (or_iff_right (Ne.symm here))
        rw [if_neg here, if_congr sameQuestion rfl rfl]
        refine (congrArg (part.1 :: ·) inductionHypothesis).trans ?_
        split
        · rfl
        · rfl

/-- Guidance is told by its topics, if they differ, and by what it holds on each. -/
theorem eq_map_topics
    (nodup : guidance.topics.Nodup) :
    guidance = guidance.topics.map fun topic => (topic, (guidance.get? topic).getD .empty) := by
  induction guidance with
  | nil =>
      rfl
  | cons part rest inductionHypothesis =>
      obtain ⟨notLater, restNodup⟩ := List.nodup_cons.mp nodup
      have later {topic : String} (member : topic ∈ topics rest) :
          get? (part :: rest) topic = get? rest topic := by
        have differs : topic ≠ part.1 := fun same => notLater (same ▸ member)
        rw [get?_cons, if_neg differs]
      rw [topics, List.map_cons, List.map_cons, get?, List.lookup_cons_self, Option.getD_some]
      refine congrArg _ ((inductionHypothesis restNodup).trans ?_)
      exact List.map_congr_left fun topic member => by rw [later member]

/-- Something is held on every topic. -/
theorem get?_of_mem_topics
    {topic : String}
    (member : topic ∈ guidance.topics) :
    guidance.get? topic = some ((guidance.get? topic).getD .empty) := by
  cases held : guidance.get? topic with
  | some value =>
      rfl
  | none =>
      obtain ⟨part, inGuidance, rfl⟩ := List.mem_map.mp member
      exact absurd rfl (bne_iff_ne.mp (List.lookup_eq_none_iff.mp held part inGuidance))

end Guidance

namespace Vocabulary

theorem topics_compact
    (vocabulary : Vocabulary)
    (entries : List GuidanceEntry) :
    (vocabulary.compact entries).topics = (entries.map GuidanceEntry.topic).eraseDups := by
  induction entries using List.reverseRecOn with
  | nil =>
      rfl
  | append_singleton before entry inductionHypothesis =>
      rw [compact, List.foldl_append, List.foldl_cons, List.foldl_nil, ← compact, addEntry,
        Guidance.topics_update, inductionHypothesis, List.map_append, List.map_singleton,
        eraseDups_concat]
      exact if_congr List.mem_eraseDups rfl rfl

/-- On each topic there is what its references come to, which is nothing without an entry on it. -/
theorem getD_compact
    (vocabulary : Vocabulary)
    (entries : List GuidanceEntry)
    (topic : String) :
    ((vocabulary.compact entries).get? topic).getD .empty =
      vocabulary.summary (referencesOn entries topic) := by
  induction entries using List.reverseRecOn with
  | nil =>
      rfl
  | append_singleton before entry inductionHypothesis =>
      rw [compact, List.foldl_append, List.foldl_cons, List.foldl_nil, ← compact, addEntry,
        Guidance.get?_update, referencesOn_append, referencesOn_singleton, summary,
        List.foldl_append, ← summary]
      by_cases same : topic = entry.topic
      · rw [if_pos same, if_pos same.symm, Option.getD_some, ← same, inductionHypothesis]
      · rw [if_neg same, if_neg (Ne.symm same), inductionHypothesis, List.foldl_nil]

/-- Compacted guidance in one piece: the topics in first-seen order, each with its references. -/
theorem compact_eq
    (vocabulary : Vocabulary)
    (entries : List GuidanceEntry) :
    vocabulary.compact entries =
      (entries.map GuidanceEntry.topic).eraseDups.map fun topic =>
        (topic, vocabulary.summary (referencesOn entries topic)) := by
  have nodup : (vocabulary.compact entries).topics.Nodup :=
    vocabulary.topics_compact entries ▸ nodup_eraseDups _
  rw [Guidance.eq_map_topics nodup, topics_compact]
  exact List.map_congr_left fun topic _ => by rw [getD_compact]

/-- Entries with the same topics in first-seen order and the same references on each. -/
theorem compact_congr
    (vocabulary : Vocabulary)
    {entries entries' : List GuidanceEntry}
    (sameTopics :
      (entries.map GuidanceEntry.topic).eraseDups = (entries'.map GuidanceEntry.topic).eraseDups)
    (sameReferences : ∀ topic, referencesOn entries topic = referencesOn entries' topic) :
    vocabulary.compact entries = vocabulary.compact entries' := by
  rw [compact_eq, compact_eq, sameTopics]
  exact List.map_congr_left fun topic _ => by rw [sameReferences]

theorem compact_append
    (vocabulary : Vocabulary)
    (first second : List GuidanceEntry) :
    vocabulary.compact (first ++ second) =
      (vocabulary.compact first).merge (vocabulary.compact second) := by
  rw [compact_eq, List.map_append, eraseDups_append_eq, List.map_append, Guidance.merge]
  refine congr (congrArg _ ?_) ?_
  · rw [compact_eq vocabulary first, List.map_map]
    refine List.map_congr_left fun topic _ => ?_
    rw [referencesOn_append, summary_append, ← getD_compact vocabulary second]
    rfl
  · rw [topics_compact, compact_eq vocabulary second, List.filter_map]
    refine List.map_congr_left fun topic member => ?_
    have notFirst : topic ∉ first.map GuidanceEntry.topic := by
      simpa using (List.mem_filter.mp member).2
    rw [referencesOn_append, referencesOn_eq_nil notFirst, List.nil_append]

/-! ## Other entries with the same guidance -/

/-- Entries between others can be changed as long as they have the same topics and references. -/
theorem compact_congr_between
    (vocabulary : Vocabulary)
    (before after : List GuidanceEntry)
    {between between' : List GuidanceEntry}
    (sameTopics :
      (between.map GuidanceEntry.topic).eraseDups = (between'.map GuidanceEntry.topic).eraseDups)
    (sameReferences : ∀ topic, referencesOn between topic = referencesOn between' topic) :
    vocabulary.compact (before ++ between ++ after) =
      vocabulary.compact (before ++ between' ++ after) := by
  refine vocabulary.compact_congr ?_ fun topic => ?_
  · simp only [List.map_append]
    exact eraseDups_append_congr (eraseDups_append_congr rfl sameTopics) rfl
  · simp only [referencesOn_append, sameReferences]

theorem referencesOn_parts
    (topic other : String)
    (parts : List (List Reference)) :
    referencesOn (parts.map (GuidanceEntry.mk topic)) other =
      if topic = other then parts.flatten else [] := by
  induction parts with
  | nil =>
      exact (ite_self _).symm
  | cons first rest inductionHypothesis =>
      rw [List.map_cons, referencesOn_cons, inductionHypothesis]
      by_cases same : topic = other
      · simp only [if_pos same, List.flatten_cons]
      · simp only [if_neg same, List.append_nil]

theorem referencesOn_others
    (entries : List GuidanceEntry)
    (topic other : String) :
    referencesOn (entries.filter fun entry => decide (entry.topic ≠ topic)) other =
      if topic = other then [] else referencesOn entries other := by
  rw [referencesOn, List.filter_filter]
  by_cases same : topic = other
  · have none : (entries.filter fun entry =>
        decide (entry.topic = other) && decide (entry.topic ≠ topic)) = [] := by
      refine List.filter_eq_nil_iff.mpr fun entry _ => ?_
      simp [same]
    rw [none, if_pos same, List.flatMap_nil]
  · rw [if_neg same, referencesOn]
    refine congrArg _ (List.filter_congr fun entry _ => ?_)
    by_cases onOther : entry.topic = other
    · simp [onOther, Ne.symm same]
    · simp [onOther]

/-- An entry can be split into entries on its topic. -/
theorem compact_split
    (vocabulary : Vocabulary)
    (before after : List GuidanceEntry)
    (topic : String)
    {parts : List (List Reference)}
    (nonempty : parts ≠ []) :
    vocabulary.compact (before ++ parts.map (GuidanceEntry.mk topic) ++ after) =
      vocabulary.compact (before ++ [⟨topic, parts.flatten⟩] ++ after) := by
  refine vocabulary.compact_congr_between before after ?_ fun other => ?_
  · obtain ⟨first, rest, rfl⟩ := List.exists_cons_of_ne_nil nonempty
    have noOther :
        ((rest.map (GuidanceEntry.mk topic)).map GuidanceEntry.topic).filter
            (fun other => decide (other ≠ topic)) = [] := by
      simp
    rw [List.map_cons, List.map_cons, ← eraseDups_cons_filter, noOther]
    rfl
  · rw [referencesOn_parts, referencesOn_singleton]

/-- Entries can be merged into the first of their topic. -/
theorem compact_gather
    (vocabulary : Vocabulary)
    (before later after : List GuidanceEntry)
    (topic : String)
    (references : List Reference) :
    vocabulary.compact (before ++ ⟨topic, references⟩ :: later ++ after) =
      vocabulary.compact
        (before ++ ⟨topic, references ++ referencesOn later topic⟩ ::
          (later.filter fun entry => decide (entry.topic ≠ topic)) ++ after) := by
  refine vocabulary.compact_congr_between before after ?_ fun other => ?_
  · have others :
        (later.filter fun entry => decide (entry.topic ≠ topic)).map GuidanceEntry.topic =
          (later.map GuidanceEntry.topic).filter fun other => decide (other ≠ topic) := by
      rw [List.filter_map]
      rfl
    rw [List.map_cons, List.map_cons, others]
    exact (eraseDups_cons_filter topic _).symm
  · rw [referencesOn_cons, referencesOn_cons, referencesOn_others]
    by_cases same : topic = other
    · subst same
      simp only [if_true, List.append_nil]
    · simp only [if_neg same]

/-- An entry can be moved past entries on other topics. -/
theorem compact_move
    (vocabulary : Vocabulary)
    (before after : List GuidanceEntry)
    {entry : GuidanceEntry}
    {passed : List GuidanceEntry}
    (others : entry.topic ∉ passed.map GuidanceEntry.topic)
    (sameTopics :
      ((before ++ entry :: passed ++ after).map GuidanceEntry.topic).eraseDups =
        ((before ++ (passed ++ [entry]) ++ after).map GuidanceEntry.topic).eraseDups) :
    vocabulary.compact (before ++ entry :: passed ++ after) =
      vocabulary.compact (before ++ (passed ++ [entry]) ++ after) := by
  refine vocabulary.compact_congr sameTopics fun topic => ?_
  rw [referencesOn_append, referencesOn_append, referencesOn_append, referencesOn_append,
    referencesOn_append, referencesOn_cons, referencesOn_singleton]
  by_cases same : entry.topic = topic
  · have noneHere : referencesOn passed topic = [] := referencesOn_eq_nil (same ▸ others)
    rw [noneHere, List.append_nil, List.nil_append]
  · rw [if_neg same, List.append_nil, List.nil_append]

/--
Compacted guidance has the topics of the entries in first-seen order and holds on each what the
references of all entries on it come to. So it makes no difference whether an entry is split into
entries on its topic, whether such entries are merged into the first of them, and whether an entry
comes before or after entries on other topics, as long as the topics keep their order. The guidance
on entries in two parts is that of the parts, merged topic by topic.
-/
theorem compact_merges (vocabulary : Vocabulary) :
    (∀ entries,
        (vocabulary.compact entries).topics = (entries.map GuidanceEntry.topic).eraseDups ∧
          ∀ topic held,
            (topic, held) ∈ vocabulary.compact entries →
              SumsUp vocabulary (referencesOn entries topic) held) ∧
      (∀ before after topic (parts : List (List Reference)),
        parts ≠ [] →
          vocabulary.compact (before ++ parts.map (GuidanceEntry.mk topic) ++ after) =
            vocabulary.compact (before ++ [⟨topic, parts.flatten⟩] ++ after)) ∧
      (∀ before later after topic references,
        vocabulary.compact (before ++ ⟨topic, references⟩ :: later ++ after) =
          vocabulary.compact
            (before ++ ⟨topic, references ++ referencesOn later topic⟩ ::
              (later.filter fun entry => decide (entry.topic ≠ topic)) ++ after)) ∧
      (∀ before after entry passed,
        entry.topic ∉ passed.map GuidanceEntry.topic →
          ((before ++ entry :: passed ++ after).map GuidanceEntry.topic).eraseDups =
              ((before ++ (passed ++ [entry]) ++ after).map GuidanceEntry.topic).eraseDups →
            vocabulary.compact (before ++ entry :: passed ++ after) =
              vocabulary.compact (before ++ (passed ++ [entry]) ++ after)) ∧
      ∀ first second,
        vocabulary.compact (first ++ second) =
          (vocabulary.compact first).merge (vocabulary.compact second) := by
  refine ⟨fun entries => ⟨vocabulary.topics_compact entries, fun topic held member => ?_⟩,
    fun before after topic _ nonempty => vocabulary.compact_split before after topic nonempty,
    vocabulary.compact_gather,
    fun before after _ _ others sameTopics =>
      vocabulary.compact_move before after others sameTopics,
    vocabulary.compact_append⟩
  rw [compact_eq] at member
  obtain ⟨other, -, same⟩ := List.mem_map.mp member
  obtain ⟨rfl, rfl⟩ := Prod.mk.inj same
  exact vocabulary.sumsUp_summary _

end Vocabulary

end SourceUpgrade
