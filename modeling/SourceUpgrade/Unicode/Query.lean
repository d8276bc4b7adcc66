import SourceUpgrade.Unicode.Age
import SourceUpgrade.Unicode.Category
import SourceUpgrade.Unicode.Property
import SourceUpgrade.Unicode.Script
import SourceUpgrade.Unicode.Segmentation

namespace SourceUpgrade.Unicode

/-!
# Looking up a class of characters by name

Names are compared loosely: case, blanks, hyphens, underscores and a leading `is` do not count. A
name alone may be a binary property, a general category or a script; a name with a value asks a
property for the characters that have this value.
-/

/-- What a class of characters is asked for by. -/
inductive Query where
  | named (name : String)
  | valued (name value : String)
deriving Repr, DecidableEq

namespace Query

/-- The lower-case form of an ASCII character; nothing for separators and for other characters. -/
def looseChar? (c : Char) : Option Char :=
  if c == ' ' || c == '_' || c == '-' || 0x7F < c.toNat then none
  else some c.toLower

/-- The form in which names are compared. -/
def normalize (name : String) : String :=
  match name.toList with
  | first :: second :: rest =>
      if first.toLower == 'i' && second.toLower == 's' then
        let short := rest.filterMap looseChar?
        String.ofList (if short == ['c'] then ['i', 's', 'c'] else short)
      else
        String.ofList ((first :: second :: rest).filterMap looseChar?)
  | short => String.ofList (short.filterMap looseChar?)

/-- Abbreviations that name a general category although a property shares them. -/
def categoryFirst (name : String) : Bool :=
  name == "cf" || name == "sc" || name == "lc"

/-- The class that a normalized name alone stands for. -/
def findNamed? (name : String) : Option CharSet :=
  let property :=
    if categoryFirst name then none
    else (Property.find? name).map Property.set
  property <|> Category.find? name <|> (Script.find? name).map Script.set

/-- The class of characters for which a property, by normalized name, has a normalized value. -/
def findValued? (name value : String) : Option CharSet :=
  match name with
  | "gc" | "generalcategory" => Category.find? value
  | "sc" | "script" => (Script.find? value).map Script.set
  | "scx" | "scriptextensions" => (Script.find? value).map Script.extendedSet
  | "age" => Age.find? value
  | "gcb" | "graphemeclusterbreak" => Segmentation.find? Segmentation.graphemeClasses value
  | "wb" | "wordbreak" => Segmentation.find? Segmentation.wordClasses value
  | "sb" | "sentencebreak" => Segmentation.find? Segmentation.sentenceClasses value
  | _ => none

/-- The class of characters that a query asks for, if it is known. -/
def find? : Query → Option CharSet
  | .named name => findNamed? (normalize name)
  | .valued name value => findValued? (normalize name) (normalize value)

end Query

/-- The decimal digits of all scripts. -/
def digitSet : CharSet :=
  Category.set .decimalNumber

/-- The characters of words: letters, marks, digits, connectors and join controls. -/
def wordSet : CharSet :=
  CharSet.unions
    [Property.named "alphabetic", Category.setOf Category.marks, digitSet,
      Category.set .connectorPunctuation, Property.named "joincontrol"]

end SourceUpgrade.Unicode
