import SourceUpgrade.Pattern.Search

namespace SourceUpgrade.Pattern

/-!
# Templates

The text that takes the place of a match. In a template a dollar sign introduces a group, by number
or by name, with or without braces, and two dollar signs stand for one; everything else stands for
itself. A group that does not exist or took no part in the match stands for nothing.
-/

/-- The text of each group of one match. -/
structure Groups where
  byIndex : Nat → List Char
  byName : List Char → List Char

/-- The text that a reference stands for: a number up to 64 bits is an index, all else a name. -/
def Groups.lookup (groups : Groups) (reference : List Char) : List Char :=
  if !reference.isEmpty && reference.all Char.isDigit && decimalValue reference < 0x10000000000000000 then
    groups.byIndex (decimalValue reference)
  else
    groups.byName reference

/-- Whether a character may follow a dollar sign as part of an unbraced reference. -/
def isReferenceChar (c : Char) : Bool :=
  c.isAlphanum || c == '_'

/--
Carry out a template for one match; fuel bounds the steps.

A dollar sign that introduces no reference stands for itself.
-/
def expandTemplate (groups : Groups) : Nat → List Char → List Char
  | 0, _ => []
  | _ + 1, [] => []
  | fuel + 1, c :: rest =>
      if c == '$' then
        match rest with
        | '$' :: rest => '$' :: expandTemplate groups fuel rest
        | '\x7b' :: inner =>
            match inner.dropWhile (· != '\x7d') with
            | _ :: rest =>
                groups.lookup (inner.takeWhile (· != '\x7d')) ++ expandTemplate groups fuel rest
            | [] => '$' :: expandTemplate groups fuel rest
        | _ =>
            let reference := rest.takeWhile isReferenceChar
            if reference.isEmpty then '$' :: expandTemplate groups fuel rest
            else groups.lookup reference ++ expandTemplate groups fuel (rest.dropWhile isReferenceChar)
      else
        c :: expandTemplate groups fuel rest

/-- The text that a template stands for in one match. -/
def expand (groups : Groups) (template : List Char) : List Char :=
  expandTemplate groups (template.length + 1) template

/-- The text that a group took in a match. -/
def Match.groupText (found : Match) (text : Array Char) (index : Nat) : List Char :=
  match found.group? index with
  | none => []
  | some (start, stop) => (text.extract start stop).toList

/-- The groups of a match in a text. -/
def Program.groups
    (program : Program)
    (text : Array Char)
    (found : Match) :
    Groups where
  byIndex := found.groupText text
  byName name :=
    match program.names.lookup (String.ofList name) with
    | none => []
    | some index => found.groupText text index

/-- A text from a position on, with what takes the place of each match. -/
def spliceFrom
    (text : Array Char) :
    Nat → List (Match × List Char) → List Char
  | position, [] => (text.extract position text.size).toList
  | position, (found, replacement) :: rest =>
      (text.extract position found.start).toList ++ replacement ++ spliceFrom text found.stop rest

/-- Put what a template stands for in the place of every match of a text. -/
def Program.replaceAll
    (program : Program)
    (template : List Char)
    (text : List Char) :
    List Char :=
  let chars := text.toArray
  spliceFrom chars 0
    ((program.findAll text).map fun found =>
      (found, expand (program.groups chars found) template))

end SourceUpgrade.Pattern
