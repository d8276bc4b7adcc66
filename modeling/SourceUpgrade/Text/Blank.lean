namespace SourceUpgrade

/-!
# White space

The characters that count as blank: those with the Unicode property White_Space. Trimming and
blank lines use this one class.
-/

namespace Text

/-- The characters with the property White_Space. -/
def isBlank (c : Char) : Bool :=
  let code := c.toNat
  (9 ≤ code && code ≤ 13) || code == 0x20 || code == 0x85 || code == 0xA0 || code == 0x1680 ||
    (0x2000 ≤ code && code ≤ 0x200A) || code == 0x2028 || code == 0x2029 || code == 0x202F ||
    code == 0x205F || code == 0x3000

/-- The inclusive ranges of code points that `isBlank` accepts. -/
def blankRanges : List (Nat × Nat) :=
  [(9, 13), (0x20, 0x20), (0x85, 0x85), (0xA0, 0xA0), (0x1680, 0x1680), (0x2000, 0x200A),
    (0x2028, 0x2029), (0x202F, 0x202F), (0x205F, 0x205F), (0x3000, 0x3000)]

/-- Drop the blanks at the front. -/
def trimFront (text : List Char) : List Char :=
  text.dropWhile isBlank

/-- Drop the blanks at the end. -/
def trimBack (text : List Char) : List Char :=
  (text.reverse.dropWhile isBlank).reverse

/-- Drop the blanks at both ends. -/
def trim (text : List Char) : List Char :=
  trimBack (trimFront text)

/-- Drop the blanks at both ends of a string. -/
def trimString (text : String) : String :=
  String.ofList (trim text.toList)

/-- Whether one list of characters occurs in another as consecutive characters. -/
def occursIn (part : List Char) : List Char → Bool
  | [] => part.isEmpty
  | c :: rest => part.isPrefixOf (c :: rest) || occursIn part rest

/-- Whether a list of characters begins another. -/
def beginsWith (text start : String) : Bool :=
  start.toList.isPrefixOf text.toList

/-- Whether a string occurs in another. -/
def contains (text part : String) : Bool :=
  occursIn part.toList text.toList

/-- Cut a text at every occurrence of a character, which belongs to no piece. -/
def splitAt (separator : Char) : List Char → List (List Char)
  | [] => [[]]
  | c :: rest =>
      match splitAt separator rest with
      | [] => if c == separator then [[], []] else [[c]]
      | piece :: pieces =>
          if c == separator then [] :: piece :: pieces else (c :: piece) :: pieces

end Text

end SourceUpgrade
