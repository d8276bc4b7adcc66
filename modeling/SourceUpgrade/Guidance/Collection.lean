import SourceUpgrade.Guidance.Match
import SourceUpgrade.Json.Skip

namespace SourceUpgrade

/-!
# Collections of guidance as JSON

A collection is an array of answers. An answer is an object whose fields may be missing and stand in
any order, each at most once, with other fields passed over; or an array of the fields' values in
order, from which values at the end may be missing.
-/

/-- What keeps a text from being a collection of guidance. -/
structure GuidancePayloadError where
deriving Repr, DecidableEq

/-- The wording of the error. -/
def GuidancePayloadError.message (_ : GuidancePayloadError) : String :=
  "invalid guidance payload: " ++ causeMark

namespace GuidanceMatch

open Json (Fault)

/-- A field of an answer. -/
inductive Field where
  | score
  | title
  | url
  | framework
  | chunkIndex
  | snippet
deriving Repr, DecidableEq

/-- The fields in order. -/
def Field.all : List Field :=
  [.score, .title, .url, .framework, .chunkIndex, .snippet]

/-- The name of a field. -/
def Field.name : Field → String
  | .score => "score"
  | .title => "title"
  | .url => "url"
  | .framework => "framework"
  | .chunkIndex => "chunk_index"
  | .snippet => "snippet"

/-- The score that a number stands for. -/
def scoreOf : Json.Number → Score
  | .integer value => .ofInt value
  | .float value => ⟨value.toSingleBits⟩

/-- Read a text with blanks before it. -/
def readText (text : List Char) : Except Fault (String × List Char) :=
  match Json.skipBlanks text with
  | '"' :: rest => do
      let (cs, rest) ← Json.readString (rest.length + 1) rest
      return (String.ofList cs, rest)
  | _ => .error .unexpected

/-- Read an integer of 64 bits with blanks before it. -/
def readIndex (text : List Char) : Except Fault (Int × List Char) := do
  let (number, rest) ← Json.readNumber (Json.skipBlanks text)
  match number with
  | .integer value => if value < 0x8000000000000000 then return (value, rest) else throw .tooLarge
  | .float _ => throw .badNumber

/-- Read the value of a field into an answer. -/
def readField
    (found : GuidanceMatch)
    (field : Field)
    (text : List Char) :
    Except Fault (GuidanceMatch × List Char) := do
  match field with
  | .score =>
      let (number, rest) ← Json.readNumber (Json.skipBlanks text)
      return ({ found with score := scoreOf number }, rest)
  | .title =>
      let (value, rest) ← readText text
      return ({ found with title := value }, rest)
  | .url =>
      let (value, rest) ← readText text
      return ({ found with url := value }, rest)
  | .framework =>
      let (value, rest) ← readText text
      return ({ found with framework := value }, rest)
  | .chunkIndex =>
      let (value, rest) ← readIndex text
      return ({ found with chunkIndex := value }, rest)
  | .snippet =>
      let (value, rest) ← readText text
      return ({ found with snippet := value }, rest)

/-- Read the fields of an object up to its closing brace; fuel bounds the fields. -/
def readObject :
    Nat → List Field → GuidanceMatch → List Char → Except Fault (GuidanceMatch × List Char)
  | 0, _, _, _ => .error .unexpected
  | fuel + 1, seen, found, text => do
      let (key, rest) ← Json.readKey (Json.skipBlanks text)
      let (seen, found, rest) ←
        match Field.all.find? fun field => field.name == key with
        | none =>
            let rest ← Json.skipValue (2 * rest.length + 2) rest
            pure (seen, found, rest)
        | some field =>
            if seen.contains field then
              throw .unexpected
            else
              let (found, rest) ← readField found field rest
              pure (field :: seen, found, rest)
      match Json.skipBlanks rest with
      | '\x7d' :: rest => return (found, rest)
      | ',' :: rest => readObject fuel seen found rest
      | _ => throw .unexpected

/-- Read the values of an array up to its closing bracket, one for each of the fields to come. -/
def readArray : List Field → GuidanceMatch → List Char → Except Fault (GuidanceMatch × List Char)
  | [], _, _ => .error .unexpected
  | field :: fields, found, text => do
      let (found, rest) ← readField found field text
      match Json.skipBlanks rest with
      | ']' :: rest => return (found, rest)
      | ',' :: rest => readArray fields found rest
      | _ => throw .unexpected

/-- Read an answer with blanks before it. -/
def readOne (text : List Char) : Except Fault (GuidanceMatch × List Char) :=
  match Json.skipBlanks text with
  | '\x7b' :: rest =>
      match Json.skipBlanks rest with
      | '\x7d' :: rest => .ok (blank, rest)
      | rest => readObject (rest.length + 1) [] blank rest
  | '[' :: rest =>
      match Json.skipBlanks rest with
      | ']' :: rest => .ok (blank, rest)
      | rest => readArray Field.all blank rest
  | _ => .error .unexpected

/-- Read answers up to the closing bracket of their array; fuel bounds the answers. -/
def readMany : Nat → List Char → Except Fault (List GuidanceMatch × List Char)
  | 0, _ => .error .unexpected
  | fuel + 1, text => do
      let (found, rest) ← readOne text
      match Json.skipBlanks rest with
      | ']' :: rest => return ([found], rest)
      | ',' :: rest =>
          let (others, rest) ← readMany fuel rest
          return (found :: others, rest)
      | _ => throw .unexpected

/-- Read a collection with nothing but blanks around it. -/
def readAll (text : List Char) : Except Fault (List GuidanceMatch) := do
  let (found, rest) ←
    match Json.skipBlanks text with
    | '[' :: rest =>
        match Json.skipBlanks rest with
        | ']' :: rest => pure ([], rest)
        | rest => readMany (rest.length + 1) rest
    | _ => throw .unexpected
  if (Json.skipBlanks rest).isEmpty then
    return found
  else
    throw .trailing

end GuidanceMatch

/-- Read a collection of guidance. -/
def readGuidance (payload : String) : Except GuidancePayloadError (List GuidanceMatch) :=
  match GuidanceMatch.readAll payload.toList with
  | .error _ => .error ⟨⟩
  | .ok found => .ok found

end SourceUpgrade
