import SourceUpgrade.Text.Blank

namespace SourceUpgrade

/-!
# Phrases

A phrase is a sequence of parts that must follow each other in a text: words, stretches of blanks,
quotes and marks that may be missing. No part can stop early and let the next one match instead, so
there is at most one way to read a phrase at a place, and reading it needs no search.
-/

/-- A part of a phrase. -/
inductive PhrasePart where
  /-- Exactly these characters. -/
  | word (text : String)
  /-- Any number of blanks. -/
  | blanks
  /-- At least one blank. -/
  | someBlanks
  /-- A single or a double quotation mark. -/
  | quote
  /-- This character, if it is there. -/
  | optional (mark : Char)
deriving Repr, DecidableEq

/-- A sequence of parts. -/
abbrev Phrase : Type := List PhrasePart

namespace PhrasePart

/-- Whether a character is a quotation mark. -/
def isQuote (c : Char) : Bool :=
  c == '\'' || c == '"'

/-- The text after a part at its begin. -/
def drop? (part : PhrasePart) (text : List Char) : Option (List Char) :=
  match part with
  | .word expected =>
      if expected.toList.isPrefixOf text then some (text.drop expected.toList.length) else none
  | .blanks => some (text.dropWhile Text.isBlank)
  | .someBlanks =>
      match text with
      | [] => none
      | c :: rest => if Text.isBlank c then some (rest.dropWhile Text.isBlank) else none
  | .quote =>
      match text with
      | [] => none
      | c :: rest => if isQuote c then some rest else none
  | .optional mark =>
      match text with
      | [] => some []
      | c :: rest => if c = mark then some rest else some (c :: rest)

end PhrasePart

namespace Phrase

/-- The text after a phrase at its begin. -/
def drop? : Phrase → List Char → Option (List Char)
  | [], text => some text
  | part :: parts, text => (part.drop? text).bind (drop? parts)

/-- Whether a phrase occurs in a text. -/
def occursIn (phrase : Phrase) : List Char → Bool
  | [] => (phrase.drop? []).isSome
  | c :: rest => (phrase.drop? (c :: rest)).isSome || phrase.occursIn rest

/-- Put a replacement in the place of every occurrence of a phrase, from left to right. -/
def replaceAll (phrase : Phrase) (replacement : List Char) : List Char → List Char
  | [] => []
  | c :: rest =>
      match phrase.drop? (c :: rest) with
      | none => c :: replaceAll phrase replacement rest
      | some after =>
          if _shorter : after.length ≤ rest.length then
            replacement ++ replaceAll phrase replacement after
          else
            c :: replaceAll phrase replacement rest
termination_by text => text.length

end Phrase

end SourceUpgrade
