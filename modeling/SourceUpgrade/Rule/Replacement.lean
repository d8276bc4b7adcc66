import SourceUpgrade.Pattern.Template

namespace SourceUpgrade.Replacement

/-!
# Replacement texts

The replacement of a user's rule refers to groups with a backslash: a digit from one to nine with at
most one further digit, or `g` and a name in angle brackets. A backslash also introduces a line end,
a tabulator, a carriage return or a backslash; before anything else it stands for itself. Such a
text is turned into a template, in which only dollar signs have a meaning.
-/

/-- Whether a character may occur in the name of a group that is referred to. -/
def isNameChar (c : Char) : Bool :=
  c.isAlphanum || c == '_'

/-- The name in angle brackets at the front, and the text after it. -/
def bracketedName? (text : List Char) : Option (List Char × List Char) :=
  match text with
  | '<' :: body =>
      let name := body.takeWhile (· != '>')
      match body.dropWhile (· != '>') with
      | [] => none
      | _ :: rest => if !name.isEmpty && name.all isNameChar then some (name, rest) else none
  | _ => none

/-- What is left after a bracketed name is shorter than the text before it. -/
theorem bracketedName?_length
    {text name rest : List Char}
    (found : bracketedName? text = some (name, rest)) :
    rest.length < text.length := by
  unfold bracketedName? at found
  split at found
  · rename_i body
    dsimp only at found
    split at found
    · simp at found
    · rename_i dropped
      split at found
      · simp only [Option.some.injEq, Prod.mk.injEq] at found
        have suffix := (List.dropWhile_suffix (l := body) (fun c => c != '>')).length_le
        rw [dropped] at suffix
        simp only [List.length_cons] at suffix ⊢
        rw [← found.2]
        omega
      · simp at found
  · simp at found

/-- The template form of a reference to a group. -/
def referenceTemplate (group : List Char) : List Char :=
  '$' :: '\x7b' :: group ++ ['\x7d']

/-- Whether a character is a digit from one to nine. -/
def isGroupDigit (c : Char) : Bool :=
  '1' ≤ c && c ≤ '9'

/-- The template that a replacement text stands for. -/
def template : List Char → List Char
  | [] => []
  | '$' :: rest => '$' :: '$' :: template rest
  | '\\' :: c :: rest =>
      if isGroupDigit c then
        match rest with
        | [] => referenceTemplate [c]
        | d :: later =>
            if d.isDigit then referenceTemplate [c, d] ++ template later
            else referenceTemplate [c] ++ template (d :: later)
      else if c = 'g' then
        match _found : bracketedName? rest with
        | some (name, later) => referenceTemplate name ++ template later
        | none => '\\' :: template (c :: rest)
      else if c = 'n' then '\n' :: template rest
      else if c = 't' then '\t' :: template rest
      else if c = 'r' then '\r' :: template rest
      else if c = '\\' then '\\' :: template rest
      else '\\' :: template (c :: rest)
  | c :: rest => c :: template rest
termination_by text => text.length
decreasing_by
  all_goals
    first
      | (simp only [List.length_cons]
         omega)
      | (have shorter := bracketedName?_length _found
         simp only [List.length_cons]
         omega)

end SourceUpgrade.Replacement
