import SourceUpgrade.Proofs.Rule.Settled

namespace SourceUpgrade

/-!
# Comments in front of a content

Three of the built-in rules put a comment in front of a content. A comment is a run of complete lines
that begin with two slashes; a line ends at a line feed, a carriage return or both, or at one of the
two separators that Unicode has for it. The comment on experimental settings names a version that an
analysis may give as it likes. `Registry.fronts_comment` says that everything put in front is a
comment exactly if the version does not leave the comment that it is put into;
`Registry.configComment_left` is a version that does.
-/

namespace Comment

/-! ## Lines -/

/-- Whether a character ends a line. -/
def endsLine (c : Char) : Bool :=
  c == '\n' || c == '\r' || c == '\u2028' || c == '\u2029'

/-- The texts that end a line. -/
def lineEnds : List (List Char) :=
  [['\n'], ['\r'], ['\r', '\n'], ['\u2028'], ['\u2029']]

/-- Whether a text is the rest of a line behind its slashes, with its end. -/
def IsRest (text : List Char) : Prop :=
  ∃ body, ∃ stop ∈ lineEnds, (∀ c ∈ body, endsLine c = false) ∧ text = body ++ stop

/-- Whether a text is one complete line that begins with two slashes. -/
def IsLine (text : List Char) : Prop :=
  ∃ rest, IsRest rest ∧ text = '/' :: '/' :: rest

/-- Whether a text consists of complete lines that begin with two slashes. -/
def IsLines (text : List Char) : Prop :=
  ∃ lines : List (List Char), (∀ line ∈ lines, IsLine line) ∧ text = lines.flatten

theorem isLines_nil : IsLines [] :=
  ⟨[], List.forall_mem_nil _, rfl⟩

theorem IsLine.isLines {line : List Char} (isLine : IsLine line) : IsLines line :=
  ⟨[line], List.forall_mem_singleton.mpr isLine, List.flatten_singleton.symm⟩

theorem IsLines.append
    {first second : List Char}
    (areLines : IsLines first)
    (areLinesToo : IsLines second) :
    IsLines (first ++ second) := by
  obtain ⟨lines, isLine, rfl⟩ := areLines
  obtain ⟨others, isLineToo, rfl⟩ := areLinesToo
  refine ⟨lines ++ others, ?_, List.flatten_append.symm⟩
  exact List.forall_mem_append.mpr ⟨isLine, isLineToo⟩

/-! ## Reading -/

/-- Where a reader of such lines stands. -/
inductive Place where
  /-- At the begin of a line. -/
  | start
  /-- At the begin of a line, unless a line feed comes that still belongs to the end before. -/
  | afterReturn
  | afterSlash
  | inComment
  | outside
deriving DecidableEq

namespace Place

/-- Where a reader stands after one more character. -/
def next (place : Place) (c : Char) : Place :=
  match place with
  | .start => if c = '/' then .afterSlash else .outside
  | .afterReturn => if c = '/' then .afterSlash else if c = '\n' then .start else .outside
  | .afterSlash => if c = '/' then .inComment else .outside
  | .inComment => if c = '\r' then .afterReturn else if endsLine c then .start else .inComment
  | .outside => .outside

/-- Where a reader stands after a text. -/
def after (place : Place) (text : List Char) : Place :=
  text.foldl next place

/-- Whether a text may end at a place. -/
def isStart (place : Place) : Bool :=
  place == .start || place == .afterReturn

theorem after_append (place : Place) (first second : List Char) :
    place.after (first ++ second) = (place.after first).after second :=
  List.foldl_append

theorem after_outside (text : List Char) : outside.after text = .outside := by
  induction text with
  | nil =>
      rfl
  | cons c text inductionHypothesis =>
      exact inductionHypothesis

/-- Text without the end of a line does not leave a comment. -/
theorem after_inComment
    {body : List Char}
    (goesOn : ∀ c ∈ body, endsLine c = false) :
    inComment.after body = .inComment := by
  induction body with
  | nil =>
      rfl
  | cons c body inductionHypothesis =>
      obtain ⟨ofFirst, ofRest⟩ := List.forall_mem_cons.mp goesOn
      have notReturn : c ≠ '\r' := by
        rintro rfl
        cases ofFirst
      have stays : inComment.next c = .inComment := by
        simp [next, notReturn, ofFirst]
      rw [after, List.foldl_cons, stays]
      exact inductionHypothesis ofRest

/-- A line leads from the begin of a line to the begin of a line. -/
theorem isStart_after_line
    {place : Place}
    {line : List Char}
    (isStart : place.isStart = true)
    (isLine : IsLine line) :
    (place.after line).isStart = true := by
  obtain ⟨_, ⟨body, stop, ends, goesOn, rfl⟩, rfl⟩ := isLine
  have opened : place.after ['/', '/'] = .inComment := by
    revert isStart
    cases place <;> decide
  have ended : ∀ stop ∈ lineEnds, (inComment.after stop).isStart = true := by
    decide
  change (place.after (['/', '/'] ++ (body ++ stop))).isStart = true
  rw [after_append, opened, after_append, after_inComment goesOn]
  exact ended stop ends

/-- Lines lead from the begin of a line to the begin of a line. -/
theorem isStart_after_lines
    {place : Place}
    {lines : List (List Char)}
    (isStart : place.isStart = true)
    (areLines : ∀ line ∈ lines, IsLine line) :
    (place.after lines.flatten).isStart = true := by
  induction lines generalizing place with
  | nil =>
      exact isStart
  | cons line lines inductionHypothesis =>
      obtain ⟨isLine, areLines⟩ := List.forall_mem_cons.mp areLines
      rw [List.flatten_cons, after_append]
      exact inductionHypothesis (isStart_after_line isStart isLine) areLines

/-- What has to come from a place on, so that there are complete lines with slashes only. -/
def Awaits : Place → List Char → Prop
  | .start, text => IsLines text
  | .afterReturn, text => IsLines text ∨ ∃ rest, text = '\n' :: rest ∧ IsLines rest
  | .afterSlash, text => ∃ rest others, text = '/' :: rest ++ others ∧ IsRest rest ∧ IsLines others
  | .inComment, text => ∃ rest others, text = rest ++ others ∧ IsRest rest ∧ IsLines others
  | .outside, _ => False

/-- The end of a line and the lines behind it are what a comment may go on with. -/
theorem awaits_lineEnd
    {stop others : List Char}
    (ends : stop ∈ lineEnds)
    (isLines : IsLines others) :
    inComment.Awaits (stop ++ others) :=
  ⟨stop, others, rfl, ⟨[], stop, ends, List.forall_mem_nil _, rfl⟩, isLines⟩

/-- One character more comes as the place before it awaits. -/
theorem awaits_cons
    {place : Place}
    {c : Char}
    {text : List Char}
    (awaited : (place.next c).Awaits text) :
    place.Awaits (c :: text) := by
  cases place with
  | start =>
      by_cases slash : c = '/'
      · rw [next, if_pos slash] at awaited
        obtain ⟨rest, others, rfl, isRest, isLines⟩ := awaited
        subst slash
        exact (IsLine.isLines ⟨rest, isRest, rfl⟩).append isLines
      · rw [next, if_neg slash] at awaited
        exact awaited.elim
  | afterReturn =>
      by_cases slash : c = '/'
      · rw [next, if_pos slash] at awaited
        obtain ⟨rest, others, rfl, isRest, isLines⟩ := awaited
        subst slash
        exact .inl ((IsLine.isLines ⟨rest, isRest, rfl⟩).append isLines)
      · rw [next, if_neg slash] at awaited
        by_cases feed : c = '\n'
        · rw [if_pos feed] at awaited
          exact .inr ⟨text, by rw [feed], awaited⟩
        · rw [if_neg feed] at awaited
          exact awaited.elim
  | afterSlash =>
      by_cases slash : c = '/'
      · rw [next, if_pos slash] at awaited
        obtain ⟨rest, others, rfl, isRest, isLines⟩ := awaited
        exact ⟨rest, others, by rw [slash, List.cons_append], isRest, isLines⟩
      · rw [next, if_neg slash] at awaited
        exact awaited.elim
  | inComment =>
      by_cases isReturn : c = '\r'
      · rw [next, if_pos isReturn] at awaited
        subst isReturn
        -- A line feed behind the return belongs to the same end, so it is no line of its own.
        have alone : ['\r'] ∈ lineEnds := by
          decide
        have withFeed : ['\r', '\n'] ∈ lineEnds := by
          decide
        rcases awaited with isLines | ⟨others, rfl, isLines⟩
        · exact awaits_lineEnd alone isLines
        · exact awaits_lineEnd withFeed isLines
      · rw [next, if_neg isReturn] at awaited
        by_cases ends : endsLine c = true
        · rw [if_pos ends] at awaited
          have among : [c] ∈ lineEnds := by
            simpa [endsLine, isReturn, lineEnds, or_assoc] using ends
          exact awaits_lineEnd among awaited
        · rw [if_neg ends] at awaited
          obtain ⟨_, others, rfl, ⟨body, stop, stops, goesOn, rfl⟩, isLines⟩ := awaited
          have goesOnToo : ∀ d ∈ c :: body, endsLine d = false :=
            List.forall_mem_cons.mpr ⟨Bool.eq_false_iff.mpr ends, goesOn⟩
          exact ⟨c :: body ++ stop, others, rfl, ⟨c :: body, stop, stops, goesOnToo, rfl⟩, isLines⟩
  | outside =>
      exact awaited

/-- A text that leads to the begin of a line is what was awaited. -/
theorem awaits_of_isStart
    {place : Place}
    {text : List Char}
    (ended : (place.after text).isStart = true) :
    place.Awaits text := by
  induction text generalizing place with
  | nil =>
      revert ended
      cases place with
      | start =>
          exact fun _ => isLines_nil
      | afterReturn =>
          exact fun _ => .inl isLines_nil
      | afterSlash =>
          exact nofun
      | inComment =>
          exact nofun
      | outside =>
          exact nofun
  | cons c text inductionHypothesis =>
      exact awaits_cons (inductionHypothesis ended)

end Place

/-- A text consists of lines with slashes exactly if a reader gets to the begin of another line. -/
theorem isLines_iff (text : List Char) :
    IsLines text ↔ (Place.start.after text).isStart = true := by
  constructor
  · rintro ⟨lines, areLines, rfl⟩
    exact Place.isStart_after_lines rfl areLines
  · exact Place.awaits_of_isStart

instance (text : List Char) : Decidable (IsLines text) :=
  decidable_of_iff _ (isLines_iff text).symm

/-- Whether a text does not leave a comment: behind every end of a line in it come two slashes. -/
def keeps (text : String) : Bool :=
  Place.inComment.after text.toList == .inComment

/-- A text without the end of a line does not leave a comment. -/
theorem keeps_of_forall
    {text : String}
    (goesOn : ∀ c ∈ text.toList, endsLine c = false) :
    keeps text = true :=
  beq_iff_eq.mpr (Place.after_inComment goesOn)

end Comment

/-! ## Comments on versions -/

namespace BuiltInRule

open Comment

/-- Behind the comment on experimental settings a line begins, if the version keeps the comment. -/
theorem after_configComment (version : String) :
    Place.start.after (configComment version).toList =
      if keeps version then .start else .outside := by
  have opened : Place.start.after configCommentStart.toList = .inComment := by
    decide +kernel
  have closed (place : Place) :
      place.after configCommentEnd.toList = if place == .inComment then .start else .outside := by
    cases place <;> decide +kernel
  rw [configComment_eq, String.toList_append, String.toList_append, Place.after_append,
    Place.after_append, opened, closed]
  rfl

/-- The comment on experimental settings is one exactly if the version does not leave it. -/
theorem isLines_configComment_iff (version : String) :
    IsLines (configComment version).toList ↔ keeps version = true := by
  rw [isLines_iff, after_configComment]
  by_cases kept : keeps version = true
  · simp [kept, Place.isStart]
  · simp [kept, Place.isStart]

theorem isLines_routerComment : IsLines routerComment.toList := by
  decide +kernel

theorem isLines_renderComment : IsLines renderComment.toList := by
  decide +kernel

/-- The rules that put a comment in front. -/
def advisories : List BuiltInRule :=
  [.routerDefaultImport, .configExperimental, .createRoot]

/-- The comment that a rule puts in front, if it puts one there. -/
def comment (rule : BuiltInRule) (context : RuleContext) : String :=
  match rule.edit context with
  | .replace _ _ => ""
  | .prepend comment => comment

/-- What a rule puts in front is a comment, but for a version that leaves it. -/
theorem isLines_comment_iff
    (rule : BuiltInRule)
    (context : RuleContext) :
    IsLines (rule.comment context).toList ↔
      (rule = .configExperimental → keeps context.targetVersion = true) := by
  cases rule with
  | routerNamedImport =>
      exact iff_of_true isLines_nil nofun
  | routerDefaultImport =>
      exact iff_of_true isLines_routerComment nofun
  | legacyImage =>
      exact iff_of_true isLines_nil nofun
  | configExperimental =>
      exact (isLines_configComment_iff _).trans ⟨fun kept _ => kept, fun kept => kept rfl⟩
  | createRoot =>
      exact iff_of_true isLines_renderComment nofun

/-- A rule that puts a comment in front puts it there as it is, or nothing. -/
theorem transform_advisory
    {rule : BuiltInRule}
    (advises : rule ∈ advisories)
    (context : RuleContext)
    (content : String) :
    ∃ front,
      (front = "" ∨ front = rule.comment context) ∧
        (rule.transform context content).content = front ++ content := by
  have either (marker comment note : String) :
      ∃ front,
        (front = "" ∨ front = comment) ∧
          (annotate marker comment note content).content = front ++ content := by
    unfold annotate
    split
    · exact ⟨"", .inl rfl, String.empty_append.symm⟩
    · exact ⟨comment, .inr rfl, rfl⟩
  revert advises
  simp only [advisories, List.mem_cons]
  rintro (rfl | rfl | rfl | none)
  · exact either ..
  · rw [transform]
    split
    · exact either ..
    · exact ⟨"", .inl rfl, String.empty_append.symm⟩
  · exact either ..
  · cases none

/-- The block of a rule is its comment if it fires, and nothing otherwise. -/
theorem isLines_block_iff
    {rule : BuiltInRule}
    {context : RuleContext}
    {path content : String} :
    IsLines (rule.block context path content (rule.comment context)).toList ↔
      (rule.fires context path content = true →
        rule = .configExperimental → keeps context.targetVersion = true) := by
  unfold block
  split
  · rename_i firing
    rw [isLines_comment_iff, forall_prop_of_true firing]
  · rename_i idle
    exact iff_of_true isLines_nil fun firing => absurd firing idle

/-- Comments that name no version are comments. -/
theorem isLines_block
    {rule : BuiltInRule}
    (namesNone : rule ≠ .configExperimental)
    (context : RuleContext)
    (path content : String) :
    IsLines (rule.block context path content (rule.comment context)).toList :=
  isLines_block_iff.mpr fun _ same => absurd same namesNone

end BuiltInRule

namespace Registry

open BuiltInRule Comment

/-- What the built-in rules put in front of a content. -/
def front (context : RuleContext) (path content : String) : String :=
  if context.concerns "next" then
    configExperimental.block context path content (configExperimental.comment context) ++
      routerDefaultImport.block context path content (routerDefaultImport.comment context)
  else if context.concerns "react" then
    createRoot.block context path content (createRoot.comment context)
  else
    ""

/-- A run puts its front in front and renews imports, if the package is of their family. -/
theorem run_standard_front
    (context : RuleContext)
    (path content : String) :
    (standard.run context path content).content =
      front context path content ++
        if context.concerns "next" then renewed content else content := by
  rw [run_standard_content, closedForm, front]
  split
  · rw [String.append_assoc]
    rfl
  · split
    · rfl
    · exact String.empty_append.symm

/-- What a run puts in front is a comment, but for a version that leaves it. -/
theorem isLines_front_iff
    {context : RuleContext}
    {path content : String} :
    IsLines (front context path content).toList ↔
      (configExperimental.fires context path content = true →
        keeps context.targetVersion = true) := by
  rw [front]
  split
  · rw [String.toList_append]
    have namesNone : routerDefaultImport ≠ .configExperimental := by
      decide
    have router := isLines_block namesNone context path content
    by_cases kept : configExperimental.fires context path content = true →
        keeps context.targetVersion = true
    · exact iff_of_true ((isLines_block_iff.mpr fun firing _ => kept firing).append router) kept
    · obtain ⟨firing, leaves⟩ := Classical.not_imp.mp kept
      refine iff_of_false ?_ kept
      rw [isLines_iff, Place.after_append, block, if_pos firing]
      change ¬ ((Place.start.after (configComment context.targetVersion).toList).after _).isStart = _
      rw [after_configComment, if_neg leaves, Place.after_outside]
      decide
  · rename_i otherFamily
    have idle : configExperimental.fires context path content = false :=
      not_fires_of_not_concerns (Bool.eq_false_iff.mpr otherFamily) path content
    refine iff_of_true ?_ (by simp [idle])
    split
    · exact isLines_block (by decide) context path content
    · exact isLines_nil

/--
What the rules with comments put in front of a content is a comment, unless it is the one that names
the version and the version leaves it. So a run of the built-in rules leaves a comment, possibly an
empty one, and the content with its imports renewed, unless it puts the version there and the version
leaves the comment. A version without the end of a line does not.
-/
theorem fronts_comment (context : RuleContext) :
    (∀ rule ∈ advisories, ∀ content,
        ∃ front,
          (rule.transform context content).content = front ++ content ∧
            (IsLines front.toList ↔
              (rule = .configExperimental → front ≠ "" → keeps context.targetVersion = true))) ∧
      (∀ path content,
        ∃ front,
          (standard.run context path content).content =
              front ++ (if context.concerns "next" then renewed content else content) ∧
            (IsLines front.toList ↔
              (configExperimental.fires context path content = true →
                keeps context.targetVersion = true))) ∧
      ((∀ c ∈ context.targetVersion.toList, endsLine c = false) →
        keeps context.targetVersion = true) := by
  refine ⟨?alone, ?together, keeps_of_forall⟩
  case alone =>
    intro rule advises content
    obtain ⟨front, either, written⟩ := transform_advisory advises context content
    refine ⟨front, written, ?_⟩
    by_cases empty : front = ""
    · subst empty
      exact iff_of_true isLines_nil fun _ notEmpty => absurd rfl notEmpty
    · rw [either.resolve_left empty, isLines_comment_iff]
      have notEmpty : rule.comment context ≠ "" := either.resolve_left empty ▸ empty
      exact ⟨fun kept isConfig _ => kept isConfig, fun kept isConfig => kept isConfig notEmpty⟩
  case together =>
    intro path content
    exact ⟨front context path content, run_standard_front context path content, isLines_front_iff⟩

/-- A version with the end of a line leaves the comment, and what is behind it comes as code. -/
theorem configComment_left :
    let context : RuleContext := ⟨"next", "13", "14\nalert(1)", []⟩
    let content := "experimental"
    let written := (configExperimental.transform context content).content
    let run := (standard.run context "next.config.js" content).content
    written =
        "// TODO(next-config): Check experimental flags against target version 14\n" ++
          "alert(1). Confirm replacements/renames in docs.\n" ++ content ∧
      run = written ∧
      ¬ ∃ front, written = front ++ content ∧ IsLines front.toList := by
  intro context content written run
  have shown :
      written =
        "// TODO(next-config): Check experimental flags against target version 14\n" ++
          "alert(1). Confirm replacements/renames in docs.\n" ++ content := by
    decide +kernel
  have same : run = written := by
    decide +kernel
  refine ⟨shown, same, ?_⟩
  rintro ⟨front, parts, isLines⟩
  have asShown := (String.append_left_inj content).mp (parts.symm.trans shown)
  rw [asShown] at isLines
  revert isLines
  decide +kernel

end Registry

end SourceUpgrade
