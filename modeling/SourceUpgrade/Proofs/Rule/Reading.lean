import Mathlib.Algebra.Group.Nat.Defs
import SourceUpgrade.Proofs.Pattern.Expansion
import SourceUpgrade.Rule.Custom

namespace SourceUpgrade

/-!
# Readings of replacement texts

The language of replacement texts, told by rules for the text from its begin on. A rule's template
stands for the one reading that its replacement text has, whatever dollar signs, braces and digits
stand next to each other in it.
-/

open Pattern

namespace Replacement

/-- What is inserted for an escape right after its backslash, and the text behind the escape. -/
inductive Escape (groups : Groups) : List Char → List Char → List Char → Prop where
  | oneDigit
      {digit : Char}
      {rest : List Char}
      (isDigit : isGroupDigit digit = true)
      (last : ∀ next later, rest = next :: later → next.isDigit = false) :
      Escape groups (digit :: rest) (groups.byIndex (decimalValue [digit])) rest
  | twoDigits
      {first second : Char}
      {rest : List Char}
      (isDigit : isGroupDigit first = true)
      (further : second.isDigit = true) :
      Escape groups (first :: second :: rest) (groups.byIndex (decimalValue [first, second])) rest
  | numbered
      {name rest : List Char}
      (nonempty : name ≠ [])
      (digits : ∀ c ∈ name, c.isDigit = true)
      (fits : decimalValue name < 2 ^ 64) :
      Escape groups ('g' :: '<' :: (name ++ '>' :: rest)) (groups.byIndex (decimalValue name)) rest
  | named
      {name rest : List Char}
      (nonempty : name ≠ [])
      (nameChars : ∀ c ∈ name, isNameChar c = true)
      (noNumber : ¬ ((∀ c ∈ name, c.isDigit = true) ∧ decimalValue name < 2 ^ 64)) :
      Escape groups ('g' :: '<' :: (name ++ '>' :: rest)) (groups.byName name) rest
  | newline {rest : List Char} : Escape groups ('n' :: rest) ['\n'] rest
  | tabulator {rest : List Char} : Escape groups ('t' :: rest) ['\t'] rest
  | carriageReturn {rest : List Char} : Escape groups ('r' :: rest) ['\r'] rest
  | backslash {rest : List Char} : Escape groups ('\\' :: rest) ['\\'] rest

/-- What a replacement text stands for, given the groups of a match. -/
inductive Reading (groups : Groups) : List Char → List Char → Prop where
  | nil : Reading groups [] []
  | escape
      {text inserted rest read : List Char}
      (escaped : Escape groups text inserted rest)
      (later : Reading groups rest read) :
      Reading groups ('\\' :: text) (inserted ++ read)
  | lone
      {text read : List Char}
      (noEscape : ∀ inserted rest, ¬ Escape groups text inserted rest)
      (later : Reading groups text read) :
      Reading groups ('\\' :: text) ('\\' :: read)
  | plain
      {c : Char}
      {text read : List Char}
      (noBackslash : c ≠ '\\')
      (later : Reading groups text read) :
      Reading groups (c :: text) (c :: read)

variable {groups : Groups}

/-! ## References -/

theorem isDigit_of_isGroupDigit
    {c : Char}
    (isGroupDigit : isGroupDigit c = true) :
    c.isDigit = true := by
  obtain ⟨lower, upper⟩ : '1'.val ≤ c.val ∧ c.val ≤ '9'.val := by
    simpa [Replacement.isGroupDigit, Char.le_def] using isGroupDigit
  have notLess : '0'.val ≤ c.val := Nat.le_trans (by decide) lower
  simpa [Char.isDigit] using And.intro notLess upper

theorem digit_lt_ten
    {c : Char}
    (isDigit : c.isDigit = true) :
    c.toNat - '0'.toNat < 10 := by
  obtain ⟨_, upper⟩ : '0'.val ≤ c.val ∧ c.val ≤ '9'.val := by
    simpa [Char.isDigit] using isDigit
  have bound : c.toNat ≤ '9'.toNat := upper
  have nine : '9'.toNat = 57 := rfl
  have zero : '0'.toNat = 48 := rfl
  omega

theorem lookup_of_digits
    {name : List Char}
    (nonempty : name ≠ [])
    (digits : ∀ c ∈ name, c.isDigit = true)
    (fits : decimalValue name < 2 ^ 64) :
    groups.lookup name = groups.byIndex (decimalValue name) := by
  have isNumber :
      (!name.isEmpty && name.all Char.isDigit && decimalValue name < 0x10000000000000000) =
        true := by
    simpa [nonempty] using And.intro digits fits
  rw [Groups.lookup, if_pos isNumber]

theorem lookup_of_not_digits
    {name : List Char}
    (noNumber : ¬ ((∀ c ∈ name, c.isDigit = true) ∧ decimalValue name < 2 ^ 64)) :
    groups.lookup name = groups.byName name := by
  have isName :
      ¬ (!name.isEmpty && name.all Char.isDigit && decimalValue name < 0x10000000000000000) =
        true := by
    intro isNumber
    simp only [Bool.and_eq_true, List.all_eq_true, decide_eq_true_eq] at isNumber
    exact noNumber ⟨isNumber.1.2, isNumber.2⟩
  rw [Groups.lookup, if_neg isName]

theorem expand_referenceTemplate
    {name : List Char}
    (nameChars : ∀ c ∈ name, isNameChar c = true)
    (rest : List Char) :
    expand groups (referenceTemplate name ++ rest) = groups.lookup name ++ expand groups rest := by
  have noBrace : '\x7d' ∉ name := by
    intro member
    exact absurd (nameChars _ member) (by decide)
  have shape :
      referenceTemplate name ++ rest = '$' :: '\x7b' :: (name ++ '\x7d' :: rest) := by
    simp [referenceTemplate]
  rw [shape, expand_braces noBrace]

theorem isNameChar_of_isDigit
    {c : Char}
    (isDigit : c.isDigit = true) :
    isNameChar c = true := by
  simp [isNameChar, Char.isAlphanum, isDigit]

/-- A bracketed name is found where it stands, and nowhere else. -/
theorem bracketedName?_eq_some_iff
    {text name rest : List Char} :
    bracketedName? text = some (name, rest) ↔
      text = '<' :: (name ++ '>' :: rest) ∧ name ≠ [] ∧ ∀ c ∈ name, isNameChar c = true := by
  constructor
  · intro found
    unfold bracketedName? at found
    split at found
    · rename_i body
      dsimp only at found
      split at found
      · cases found
      · rename_i close later dropped
        split at found
        · rename_i good
          obtain ⟨rfl, rfl⟩ : body.takeWhile (· != '>') = name ∧ later = rest := by
            simpa using found
          obtain rfl : close = '>' := by
            have notPassed := List.head?_dropWhile_not (· != '>') body
            rw [dropped] at notPassed
            simpa using notPassed
          refine ⟨?_, by simpa using good⟩
          rw [← dropped, List.takeWhile_append_dropWhile]
        · cases found
    · cases found
  · rintro ⟨rfl, nonempty, nameChars⟩
    have inName : ∀ c ∈ name, (c != '>') = true := by
      intro c member
      have differs : c ≠ '>' := by
        rintro rfl
        exact absurd (nameChars _ member) (by decide)
      simpa using differs
    have taken : (name ++ '>' :: rest).takeWhile (· != '>') = name := by
      rw [List.takeWhile_append_of_pos inName, List.takeWhile_cons_of_neg (by decide),
        List.append_nil]
    have dropped : (name ++ '>' :: rest).dropWhile (· != '>') = '>' :: rest := by
      rw [List.dropWhile_append_of_pos inName, List.dropWhile_cons_of_neg (by decide)]
    have good : (!name.isEmpty && name.all isNameChar) = true := by
      simpa [nonempty] using nameChars
    rw [bracketedName?]
    simp only [taken, dropped, good, ↓reduceIte]

/-! ## Templates -/

/-- The template of what follows a backslash and the letter for names. -/
theorem template_name
    (text : List Char) :
    template ('\\' :: 'g' :: text) =
      match bracketedName? text with
      | some (name, rest) => referenceTemplate name ++ template rest
      | none => '\\' :: template ('g' :: text) := by
  have notDigit : isGroupDigit 'g' = false := by decide
  cases text with
  | nil =>
      rw [template.eq_3, notDigit]
      rfl
  | cons c rest =>
      rw [template.eq_4, notDigit, if_neg Bool.false_ne_true, if_pos rfl]
      split
      · rename_i found
        rw [found]
      · rename_i notFound
        rw [notFound]

/-- The template of a name in brackets looks the name up. -/
theorem expand_template_name
    {name rest : List Char}
    (nonempty : name ≠ [])
    (nameChars : ∀ c ∈ name, isNameChar c = true) :
    expand groups (template ('\\' :: 'g' :: '<' :: (name ++ '>' :: rest))) =
      groups.lookup name ++ expand groups (template rest) := by
  rw [template_name, bracketedName?_eq_some_iff.mpr ⟨rfl, nonempty, nameChars⟩]
  exact expand_referenceTemplate nameChars _

/-- Digits in the template insert the group of that number, if it fits into 64 bits. -/
theorem expand_referenceTemplate_digits
    {digits rest : List Char}
    (nonempty : digits ≠ [])
    (areDigits : ∀ c ∈ digits, c.isDigit = true)
    (fits : decimalValue digits < 2 ^ 64) :
    expand groups (referenceTemplate digits ++ template rest) =
      groups.byIndex (decimalValue digits) ++ expand groups (template rest) := by
  rw [expand_referenceTemplate fun c member => isNameChar_of_isDigit (areDigits c member),
    lookup_of_digits nonempty areDigits fits]

/-- A letter after a backslash inserts the character that its template has. -/
theorem expand_template_letter
    {letter c : Char}
    {rest : List Char}
    (shape : template ('\\' :: letter :: rest) = c :: template rest)
    (noDollar : c ≠ '$') :
    expand groups (template ('\\' :: letter :: rest)) = [c] ++ expand groups (template rest) := by
  rw [shape, expand_cons noDollar]
  rfl

/-- The template of an escape inserts what the escape is for. -/
theorem expand_template_escape
    {text inserted rest : List Char}
    (escaped : Escape groups text inserted rest) :
    expand groups (template ('\\' :: text)) = inserted ++ expand groups (template rest) := by
  -- Of a named group only the look-up differs, and a digit is such a name without brackets.
  cases escaped with
  | @oneDigit digit _ isDigit last =>
      have areDigits : ∀ c ∈ [digit], c.isDigit = true :=
        List.forall_mem_singleton.mpr (isDigit_of_isGroupDigit isDigit)
      have small := digit_lt_ten (isDigit_of_isGroupDigit isDigit)
      have fits : decimalValue [digit] < 2 ^ 64 := by
        simp only [decimalValue, List.foldl_cons, List.foldl_nil]
        omega
      refine Eq.trans ?_ (expand_referenceTemplate_digits (List.cons_ne_nil _ _) areDigits fits)
      cases rest with
      | nil =>
          rw [template.eq_3, if_pos isDigit, template, List.append_nil]
      | cons next later =>
          rw [template.eq_4, if_pos isDigit, if_neg (by simp [last next later rfl])]
  | @twoDigits first second _ isDigit further =>
      have areDigits : ∀ c ∈ [first, second], c.isDigit = true := by
        simpa using And.intro (isDigit_of_isGroupDigit isDigit) further
      have small := digit_lt_ten (isDigit_of_isGroupDigit isDigit)
      have smallToo := digit_lt_ten further
      have fits : decimalValue [first, second] < 2 ^ 64 := by
        simp only [decimalValue, List.foldl_cons, List.foldl_nil]
        omega
      refine Eq.trans ?_ (expand_referenceTemplate_digits (List.cons_ne_nil _ _) areDigits fits)
      rw [template.eq_4, if_pos isDigit, if_pos further]
  | numbered nonempty digits fits =>
      rw [expand_template_name nonempty fun c member => isNameChar_of_isDigit (digits c member),
        lookup_of_digits nonempty digits fits]
  | named nonempty nameChars noNumber =>
      rw [expand_template_name nonempty nameChars, lookup_of_not_digits noNumber]
  | newline | tabulator | carriageReturn | backslash =>
      refine expand_template_letter ?_ (by decide)
      cases rest <;> simp [template, isGroupDigit]

/-- A backslash that begins no escape stands for itself in the template. -/
theorem template_of_no_escape
    {text : List Char}
    (noEscape : ∀ inserted rest, ¬ Escape groups text inserted rest) :
    template ('\\' :: text) = '\\' :: template text := by
  cases text with
  | nil =>
      simp [template]
  | cons c rest =>
      have notDigit : isGroupDigit c = false := by
        refine Bool.eq_false_iff.mpr ?_
        intro isDigit
        cases rest with
        | nil =>
            exact noEscape _ _ (.oneDigit isDigit (by simp))
        | cons next later =>
            by_cases further : next.isDigit = true
            · exact noEscape _ _ (.twoDigits isDigit further)
            · refine noEscape _ _ (.oneDigit isDigit ?_)
              rintro _ _ ⟨rfl, rfl⟩
              exact Bool.eq_false_iff.mpr further
      have notNewline : c ≠ 'n' := by
        rintro rfl
        exact noEscape _ _ .newline
      have notTabulator : c ≠ 't' := by
        rintro rfl
        exact noEscape _ _ .tabulator
      have notReturn : c ≠ 'r' := by
        rintro rfl
        exact noEscape _ _ .carriageReturn
      have notBackslash : c ≠ '\\' := by
        rintro rfl
        exact noEscape _ _ .backslash
      have noName : c = 'g' → bracketedName? rest = none := by
        rintro rfl
        cases found : bracketedName? rest with
        | none =>
            rfl
        | some pair =>
            obtain ⟨rfl, nonempty, nameChars⟩ := bracketedName?_eq_some_iff.mp found
            by_cases isNumber : (∀ c ∈ pair.1, c.isDigit = true) ∧ decimalValue pair.1 < 2 ^ 64
            · exact (noEscape _ _ (.numbered nonempty isNumber.1 isNumber.2)).elim
            · exact (noEscape _ _ (.named nonempty nameChars isNumber)).elim
      by_cases isG : c = 'g'
      · subst isG
        rw [template_name, noName rfl]
      · cases rest <;>
          simp [template, notDigit, isG, notNewline, notTabulator, notReturn, notBackslash]

theorem expand_template_plain
    {c : Char}
    (noBackslash : c ≠ '\\')
    (rest : List Char) :
    expand groups (template (c :: rest)) = c :: expand groups (template rest) := by
  by_cases isDollar : c = '$'
  · rw [isDollar, template, expand_dollar_dollar]
  · have shape : template (c :: rest) = c :: template rest := by
      refine template.eq_5 c rest isDollar ?_
      intro _ _ isBackslash _
      exact noBackslash isBackslash
    rw [shape, expand_cons isDollar]

/-! ## Readings -/

/-- A template expands to whatever its replacement text is read as. -/
theorem expand_template_of_reading
    {text read : List Char}
    (reading : Reading groups text read) :
    expand groups (template text) = read := by
  induction reading with
  | nil =>
      rw [template, expand_nil]
  | escape escaped _ inductionHypothesis =>
      rw [expand_template_escape escaped, inductionHypothesis]
  | lone noEscape _ inductionHypothesis =>
      rw [template_of_no_escape noEscape, expand_cons (by decide), inductionHypothesis]
  | plain noBackslash _ inductionHypothesis =>
      rw [expand_template_plain noBackslash, inductionHypothesis]

theorem Escape.length_lt
    {text inserted rest : List Char}
    (escaped : Escape groups text inserted rest) :
    rest.length < text.length := by
  cases escaped <;> simp only [List.length_cons, List.length_append] <;> omega

/-- Every replacement text can be read. -/
theorem exists_reading
    (groups : Groups)
    (text : List Char) :
    ∃ read, Reading groups text read := by
  match text with
  | [] =>
      exact ⟨[], .nil⟩
  | c :: rest =>
      by_cases isBackslash : c = '\\'
      · subst isBackslash
        by_cases escapes : ∃ inserted later, Escape groups rest inserted later
        · obtain ⟨inserted, later, escaped⟩ := escapes
          have _shorter := escaped.length_lt
          obtain ⟨read, reading⟩ := exists_reading groups later
          exact ⟨inserted ++ read, .escape escaped reading⟩
        · obtain ⟨read, reading⟩ := exists_reading groups rest
          refine ⟨'\\' :: read, .lone ?_ reading⟩
          intro inserted later escaped
          exact escapes ⟨inserted, later, escaped⟩
      · obtain ⟨read, reading⟩ := exists_reading groups rest
        exact ⟨c :: read, .plain isBackslash reading⟩
termination_by text.length

theorem reading_iff
    {text read : List Char} :
    Reading groups text read ↔ expand groups (template text) = read := by
  constructor
  · exact expand_template_of_reading
  · rintro rfl
    obtain ⟨other, reading⟩ := exists_reading groups text
    rw [expand_template_of_reading reading]
    exact reading

end Replacement

namespace CustomRule

/-- A group that does not exist inserts nothing, nor does one that took no part in the match. -/
theorem groups_of_absent
    (program : Program)
    (text : Array Char)
    (found : Match) :
    (∀ index, found.group? index = none → (program.groups text found).byIndex index = []) ∧
      (∀ name,
        (∀ index, program.names.lookup (String.ofList name) = some index →
            found.group? index = none) →
          (program.groups text found).byName name = []) := by
  have byIndex : ∀ index, found.group? index = none → found.groupText text index = [] := by
    intro index absent
    rw [Match.groupText, absent]
  refine ⟨byIndex, ?_⟩
  intro name absent
  rw [Program.groups]
  dsimp only
  split
  · rfl
  · rename_i index known
    exact byIndex index (absent index known)

/-- Applying a rule whose pattern compiles puts what its template expands to in place of matches. -/
theorem transform_content
    {rule : CustomRule}
    {program : Program}
    (compiled : rule.compiled = .ok program)
    (content : String) :
    (rule.transform content).content =
      String.ofList (program.replaceAll rule.template content.toList) := by
  rw [transform, compiled]
  dsimp only
  split
  · rename_i same
    rw [same]
    rfl
  · rfl

/-- A rule puts in the place of every match the one text that its replacement is read as. -/
structure PutsReadings
    (rule : CustomRule)
    (program : Program)
    (content : String)
    (inserted : Match → List Char) : Prop where
  reading_iff (found : Match) (read : List Char) :
    Replacement.Reading (program.groups content.toList.toArray found)
        rule.spec.replacement.toList read ↔
      inserted found = read
  content_eq :
    (rule.transform content).content =
      String.ofList
        (spliceFrom content.toList.toArray 0
          ((program.findAll content.toList).map fun found => (found, inserted found)))
  absent_index (found : Match) (index : Nat) :
    found.group? index = none →
      (program.groups content.toList.toArray found).byIndex index = []
  absent_name (found : Match) (name : List Char) :
    (∀ index, program.names.lookup (String.ofList name) = some index →
        found.group? index = none) →
      (program.groups content.toList.toArray found).byName name = []

/-- A rule whose pattern compiles puts readings of its replacement in the place of matches. -/
theorem putsReadings_of_compiled
    {rule : CustomRule}
    {program : Program}
    (compiled : rule.compiled = .ok program)
    (content : String) :
    ∃ inserted, rule.PutsReadings program content inserted := by
  refine
    ⟨fun found => expand (program.groups content.toList.toArray found) rule.template, ?_⟩
  have absent := groups_of_absent program content.toList.toArray
  refine
    { reading_iff := ?_
      content_eq := transform_content compiled content
      absent_index := fun found => (absent found).1
      absent_name := fun found => (absent found).2 }
  intro found read
  rw [rule.template_eq]
  exact Replacement.reading_iff

/-- A dollar sign before a group, a brace behind it and a backslash at the end stay as they are. -/
theorem putsReadings_of_compiled_dollar_group :
    ∃ program inserted,
      (ofSpec ⟨"letter", "(a)b", "$\\1\x7d\\2\\g<1>\\"⟩).compiled = .ok program ∧
        (ofSpec ⟨"letter", "(a)b", "$\\1\x7d\\2\\g<1>\\"⟩).PutsReadings program "xab" inserted ∧
        ((ofSpec ⟨"letter", "(a)b", "$\\1\x7d\\2\\g<1>\\"⟩).transform "xab").content =
          "x$a\x7da\\" := by
  have compiles : (Program.ofText true "(a)b").toOption.isSome = true := by
    decide +kernel
  cases compiled : Program.ofText true "(a)b" with
  | error fault =>
      rw [compiled] at compiles
      cases compiles
  | ok program =>
      have ruleCompiled :
          (ofSpec ⟨"letter", "(a)b", "$\\1\x7d\\2\\g<1>\\"⟩).compiled = .ok program :=
        compiled
      obtain ⟨inserted, puts⟩ := putsReadings_of_compiled ruleCompiled "xab"
      exact ⟨program, inserted, ruleCompiled, puts, by decide +kernel⟩

end CustomRule

end SourceUpgrade
