import SourceUpgrade.Pattern.Bracket
import SourceUpgrade.Unicode.NextVersion

namespace SourceUpgrade.Pattern

/-!
# Reading a pattern text

A pattern text is read from left to right with a stack of the groups that are still open. Each open
group keeps the alternatives that are finished, the items of the one being read and the modes to
return to. The depth of nesting is measured on the way, because deeper texts than `nestingLimit`
are refused.
-/

/-- The deepest nesting that is read. -/
def nestingLimit : Nat := 250

/-- A part of a sequence: what it means, how deep it is nested, and whether it can be repeated. -/
structure Item where
  expr : Expr
  depth : Nat
  repeatable : Bool
deriving Repr, DecidableEq

/-- What an open group does with its body. -/
inductive GroupKind where
  | capturing (index : Nat)
  | plain
deriving Repr, DecidableEq

/-- A group that is still open, innermost part last read first. -/
structure OpenGroup where
  kind : GroupKind
  outer : Flags
  alternatives : List Item
  items : List Item
deriving Repr, DecidableEq

/-- The reader's state: modes, open groups, captures so far and their names. -/
structure Reader where
  flags : Flags
  current : OpenGroup
  enclosing : List OpenGroup
  captures : Nat
  names : List (String × Nat)
deriving Repr, DecidableEq

/-- One item from the items of a sequence, last read first. -/
def joinItems (items : List Item) : Item :=
  match items with
  | [] => ⟨.empty, 0, true⟩
  | [only] => ⟨only.expr, only.depth, true⟩
  | items =>
      ⟨Expr.seqAll (items.reverse.map Item.expr),
        1 + (items.map Item.depth).foldl max 0, true⟩

/-- One item from the alternatives of a group, last read first. -/
def joinAlternatives (alternatives : List Item) : Item :=
  match alternatives with
  | [] => ⟨.empty, 0, true⟩
  | [only] => only
  | alternatives =>
      ⟨Expr.altAll (alternatives.reverse.map Item.expr),
        1 + (alternatives.map Item.depth).foldl max 0, true⟩

namespace OpenGroup

/-- A group that has just been opened. -/
def start (kind : GroupKind) (outer : Flags) : OpenGroup :=
  ⟨kind, outer, [], []⟩

/-- Add an item to the sequence being read. -/
def add (opened : OpenGroup) (item : Item) : OpenGroup :=
  { opened with items := item :: opened.items }

/-- Finish the sequence being read and begin the next alternative. -/
def next (opened : OpenGroup) : OpenGroup :=
  { opened with alternatives := joinItems opened.items :: opened.alternatives, items := [] }

/-- The body of the group once it is closed. -/
def body (opened : OpenGroup) : Item :=
  joinAlternatives opened.next.alternatives

end OpenGroup

namespace Reader

/-- The state before anything has been read. -/
def start (multiLine : Bool) : Reader where
  flags := .start multiLine
  current := .start .plain (.start multiLine)
  enclosing := []
  captures := 0
  names := []

/-- Add an item to the sequence being read. -/
def add (reader : Reader) (item : Item) : Reader :=
  { reader with current := reader.current.add item }

/-- Open a group under the given modes. -/
def openGroup (reader : Reader) (kind : GroupKind) (flags : Flags) : Reader :=
  { reader with
    flags := flags
    current := .start kind reader.flags
    enclosing := reader.current :: reader.enclosing }

/-- Close the innermost group, unless none is open. -/
def closeGroup (reader : Reader) : Except Fault Reader :=
  match reader.enclosing with
  | [] => .error .unopenedGroup
  | parent :: enclosing =>
      let body := reader.current.body
      let expr :=
        match reader.current.kind with
        | .capturing index => .group (some index) body.expr
        | .plain => .group none body.expr
      .ok
        { reader with
          flags := reader.current.outer
          current := parent.add ⟨expr, 1 + body.depth, true⟩
          enclosing := enclosing }

end Reader

/-- Whether a character may occur in the name of a group, `first` telling whether it begins it. -/
def isNameChar (first : Bool) (c : Char) : Bool :=
  c == '_' ||
    if first then Unicode.NextVersion.alphabeticSet.contains c
    else c == '.' || c == '[' || c == ']' || Unicode.NextVersion.alphanumericSet.contains c

/-- Read the name of a group up to its closing angle bracket. -/
def readName
    (text : List Char) :
    Except Fault (String × List Char) :=
  let name := text.takeWhile (· != '>')
  match text.dropWhile (· != '>') with
  | [] => .error .badName
  | _ :: rest =>
      match name with
      | [] => .error .badName
      | first :: others =>
          if isNameChar true first && others.all (isNameChar false) then
            .ok (String.ofList name, rest)
          else
            .error .badName

/-- The modes that a list of letters sets, and how the list ended. -/
structure ReadFlags where
  flags : Flags
  seen : List Char
  negated : Bool
  dangling : Bool
deriving Repr, DecidableEq

/-- Read mode letters up to a closing parenthesis or a colon, which is left unread. -/
def readFlags : ReadFlags → List Char → Except Fault (ReadFlags × List Char)
  | _, [] => .error .badFlags
  | read, c :: rest =>
      if c == ':' || c == ')' then
        if read.dangling then .error .badFlags else .ok (read, c :: rest)
      else if read.seen.contains c then
        .error .badFlags
      else if c == '-' then
        readFlags { read with seen := c :: read.seen, negated := true, dangling := true } rest
      else
        match read.flags.set? c (!read.negated) with
        | none => .error .badFlags
        | some flags =>
            readFlags { read with flags := flags, seen := c :: read.seen, dangling := false } rest

/-- Whether a text starts like a condition on what surrounds a match. -/
def isLookAround (text : List Char) : Bool :=
  ["?=", "?!", "?<=", "?<!"].any fun start => start.toList.isPrefixOf text

/-- Open a capturing group with the next index. -/
def openCapture
    (reader : Reader)
    (name : Option String) :
    Except Fault Reader :=
  let index := reader.captures + 1
  let named :=
    match name with
    | none => reader.names
    | some name => reader.names ++ [(name, index)]
  if name.any fun name => reader.names.any fun known => known.1 == name then
    .error .badName
  else
    .ok { reader.openGroup (.capturing index) reader.flags with captures := index, names := named }

/-- Read what follows an opening parenthesis. -/
def readGroup
    (reader : Reader)
    (text : List Char) :
    Except Fault (Reader × List Char) := do
  let text := skipLayout reader.flags.extended text
  if isLookAround text then
    throw .lookAround
  match text with
  | '?' :: 'P' :: '<' :: rest | '?' :: '<' :: rest =>
      let (name, rest) ← readName rest
      return (← openCapture reader (some name), rest)
  | '?' :: rest =>
      let (read, rest) ← readFlags ⟨reader.flags, [], false, false⟩ rest
      match rest with
      | ')' :: rest =>
          if read.seen.isEmpty then
            throw .nothingToRepeat
          return ({ reader.add ⟨.empty, 0, false⟩ with flags := read.flags }, rest)
      | _ => return (reader.openGroup .plain read.flags, rest.drop 1)
  | _ => return (← openCapture reader none, text)

/-- Take the item that a repetition applies to off the sequence being read. -/
def takeOperand
    (reader : Reader) :
    Except Fault (Item × Reader) :=
  match reader.current.items with
  | [] => .error .nothingToRepeat
  | item :: items =>
      if item.repeatable then
        .ok (item, { reader with current := { reader.current with items := items } })
      else
        .error .nothingToRepeat

/-- Put a repetition of an item into the sequence being read. -/
def addRepetition
    (reader : Reader)
    (item : Item)
    (atLeast : Nat)
    (atMost : Option Nat)
    (lazily : Bool) :
    Reader :=
  reader.add
    ⟨item.expr.repeated atLeast atMost (lazily == reader.flags.swapGreed), 1 + item.depth, true⟩

/-- Read the mark of a repetition without counts. -/
def readUncounted
    (reader : Reader)
    (atLeast : Nat)
    (atMost : Option Nat)
    (rest : List Char) :
    Except Fault (Reader × List Char) := do
  let (item, reader) ← takeOperand reader
  match rest with
  | '?' :: rest => return (addRepetition reader item atLeast atMost true, rest)
  | _ => return (addRepetition reader item atLeast atMost false, rest)

/-- Read decimal digits, layout left out; fuel bounds the steps. -/
def readDigits
    (extended : Bool) :
    Nat → List Char → List Char → List Char × List Char
  | 0, digits, text => (digits.reverse, text)
  | fuel + 1, digits, text =>
      match text with
      | [] => (digits.reverse, [])
      | c :: rest =>
          if c.isDigit then
            readDigits extended fuel (c :: digits) (skipLayout extended rest)
          else
            (digits.reverse, text)

/-- The number that decimal digits stand for. -/
def decimalValue (digits : List Char) : Nat :=
  digits.foldl (fun value digit => 10 * value + (digit.toNat - '0'.toNat)) 0

/-- Read a count with blanks around it. -/
def readCount
    (extended : Bool)
    (text : List Char) :
    Except Fault (Nat × List Char) :=
  let (digits, rest) := readDigits extended text.length [] (text.dropWhile Text.isBlank)
  let rest := skipLayout extended (rest.dropWhile Text.isBlank)
  if digits.isEmpty || 0x100000000 ≤ decimalValue digits then
    .error .badCount
  else
    .ok (decimalValue digits, rest)

/-- Read the counts of a repetition from its opening brace. -/
def readCounted
    (reader : Reader)
    (text : List Char) :
    Except Fault (Reader × List Char) := do
  let extended := reader.flags.extended
  let (item, reader) ← takeOperand reader
  let (_, inner) ← advance extended .badCount text
  let (least, rest) ← readCount extended inner
  let (most, rest) ←
    match rest with
    | ',' :: _ =>
        let (first, inner) ← advance extended .badCount rest
        if first == '\x7d' then
          pure (none, inner)
        else
          let (most, rest) ← readCount extended inner
          pure (some most, rest)
    | _ => pure (some least, rest)
  match rest with
  | '\x7d' :: rest =>
      if most.any fun most => most < least then
        throw .badCount
      match skipLayout extended rest with
      | '?' :: rest => return (addRepetition reader item least most true, rest)
      | rest => return (addRepetition reader item least most false, rest)
  | _ => throw .badCount

/-- The set of characters that a dot takes. -/
def dotSet (flags : Flags) : CharSet :=
  if flags.dotTakesNewline then CharSet.all
  else if flags.anyBreak then (CharSet.ofList ['\n', '\r']).complement
  else (CharSet.singleton '\n').complement

/-- The position that a caret or a dollar sign demands. -/
def edgeLook (flags : Flags) (atStart : Bool) : Look :=
  if flags.multiLine then
    if flags.anyBreak then
      if atStart then .anyBreakStart else .anyBreakEnd
    else
      if atStart then .lineStart else .lineEnd
  else
    if atStart then .textStart else .textEnd

/-- The meaning of one atom under the modes in force. -/
def atomExpr
    (flags : Flags) :
    Atom → Except Fault Expr
  | .literal c asByte =>
      if asByte && !flags.unicode && 0x80 ≤ c.toNat then .error .notText
      else if flags.unicode || c.toNat < 0x80 then
        .ok (.set (foldSet flags (CharSet.singleton c)))
      else
        .ok (.set (CharSet.singleton c))
  | .set chars => .ok (.set chars)
  | .look condition => .ok (.look condition)

/-- Read one more part of a pattern text that is not at its end. -/
def readPart
    (reader : Reader)
    (c : Char)
    (rest : List Char) :
    Except Fault (Reader × List Char) := do
  let flags := reader.flags
  match c with
  | '(' => readGroup reader rest
  | ')' => return (← reader.closeGroup, rest)
  | '|' => return ({ reader with current := reader.current.next }, rest)
  | '[' =>
      let (read, rest) ← readBracket flags (rest.length + 2) (c :: rest)
      return (reader.add ⟨.set read.set, read.depth, true⟩, rest)
  | '?' => readUncounted reader 0 (some 1) rest
  | '*' => readUncounted reader 0 none rest
  | '+' => readUncounted reader 1 none rest
  | '\x7b' => readCounted reader (c :: rest)
  | '.' =>
      if flags.unicode then
        return (reader.add ⟨.set (dotSet flags), 0, true⟩, rest)
      else
        throw .notText
  | '^' => return (reader.add ⟨.look (edgeLook flags true), 0, true⟩, rest)
  | '$' => return (reader.add ⟨.look (edgeLook flags false), 0, true⟩, rest)
  | '\\' =>
      let (atom, rest) ← readEscape flags rest
      return (reader.add ⟨← atomExpr flags atom, 0, true⟩, rest)
  | _ => return (reader.add ⟨← atomExpr flags (.literal c false), 0, true⟩, rest)

/-- Read the parts of a pattern text to its end; fuel bounds the steps. -/
def readParts : Nat → Reader → List Char → Except Fault Reader
  | 0, reader, _ => .ok reader
  | fuel + 1, reader, text =>
      match skipLayout reader.flags.extended text with
      | [] => .ok reader
      | c :: rest => do
          let (reader, rest) ← readPart reader c rest
          readParts fuel reader rest

/-- A pattern that has been read: its meaning, its count of groups and their names. -/
structure ReadPattern where
  expr : Expr
  captures : Nat
  names : List (String × Nat)
deriving Repr, DecidableEq

/-- Read a whole pattern text, lines having ends of their own or not. -/
def read
    (multiLine : Bool)
    (text : String) :
    Except Fault ReadPattern := do
  let cs := text.toList
  let reader ← readParts (cs.length + 1) (.start multiLine) cs
  if !reader.enclosing.isEmpty then
    throw .unclosedGroup
  let body := reader.current.body
  if nestingLimit < body.depth then
    throw .tooDeep
  return ⟨body.expr, reader.captures, reader.names⟩

end SourceUpgrade.Pattern
