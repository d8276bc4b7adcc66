import SourceUpgrade.Json.Reader

namespace SourceUpgrade.Json

/-!
# Passing over JSON values

A field whose value is not asked for is passed over. Its form is checked, but not its meaning:
numbers may have any size, halves of surrogate pairs may stand alone and containers may nest to any
depth.
-/

/-- Pass over a string up to its closing quote, its opening one read; fuel bounds the characters. -/
def skipString : Nat → List Char → Except Fault (List Char)
  | 0, _ => .error .badString
  | fuel + 1, text =>
      match text with
      | [] => .error .badString
      | '"' :: rest => .ok rest
      | '\\' :: 'u' :: rest =>
          match hexUnit? rest with
          | none => .error .badString
          | some (_, rest) => skipString fuel rest
      | '\\' :: c :: rest => if (letterEscape? c).isSome then skipString fuel rest else .error .badString
      | c :: rest => if c.toNat < 0x20 then .error .badString else skipString fuel rest

/-- Pass over a number. -/
def skipNumber (text : List Char) : Except Fault (List Char) := do
  let (_, rest) ←
    match text with
    | '-' :: rest => readNumeral true rest
    | _ => readNumeral false text
  return rest

/-- Pass over a value that is no container and no string. -/
def skipScalar (text : List Char) : Except Fault (List Char) :=
  match dropWord? "null".toList text <|> dropWord? "true".toList text <|>
      dropWord? "false".toList text with
  | some rest => .ok rest
  | none => skipNumber text

/-- Pass over a key and the colon after it, blanks at the front passed over. -/
def skipKey (text : List Char) : Except Fault (List Char) :=
  match text with
  | '"' :: rest => do readColon (← skipString (rest.length + 1) rest)
  | _ => .error .unexpected

mutual

/-- Pass over a value with blanks before it; fuel bounds the steps. -/
def skipValue : Nat → List Char → Except Fault (List Char)
  | 0, _ => .error .unexpected
  | fuel + 1, text =>
      match skipBlanks text with
      | '"' :: rest => skipString (rest.length + 1) rest
      | '[' :: rest =>
          match skipBlanks rest with
          | ']' :: rest => .ok rest
          | rest => skipItems fuel rest
      | '\x7b' :: rest =>
          match skipBlanks rest with
          | '\x7d' :: rest => .ok rest
          | rest => skipFields fuel rest
      | rest => skipScalar rest

/-- Pass over the items of an array up to its closing bracket. -/
def skipItems : Nat → List Char → Except Fault (List Char)
  | 0, _ => .error .unexpected
  | fuel + 1, text => do
      let rest ← skipValue fuel text
      match skipBlanks rest with
      | ']' :: rest => return rest
      | ',' :: rest => skipItems fuel rest
      | _ => throw .unexpected

/-- Pass over the fields of an object up to its closing brace. -/
def skipFields : Nat → List Char → Except Fault (List Char)
  | 0, _ => .error .unexpected
  | fuel + 1, text => do
      let rest ← skipKey (skipBlanks text)
      let rest ← skipValue fuel rest
      match skipBlanks rest with
      | '\x7d' :: rest => return rest
      | ',' :: rest => skipFields fuel rest
      | _ => throw .unexpected

end

end SourceUpgrade.Json
