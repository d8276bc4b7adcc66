import SourceUpgrade.Unicode.Property

namespace SourceUpgrade.Unicode

/-!
# Characters of the next version

Classes of characters in patterns are those of version 16.0 of the standard. The lower-case form of
a text and the spelling of a group's name go by version 17.0, which added the characters listed
here and took one letter out of the cased ones.
-/

namespace NextVersion

/-- The characters that version 17.0 added to the alphabetic ones. -/
def addedAlphabetic : CharSet :=
  CharSet.ofTable "88F C5C CDC A7CE-A7CF A7D2 A7D4 A7F1 10940-10959 10EC5-10EC7 10EFA-10EFB 11B60-11B67
11DB0-11DDB 16EA0-16EB8 16EBB-16ED3 16FF2-16FF6 187F8-187FF 18D09-18D1E 18D80-18DF2
1E6C0-1E6DE 1E6E0-1E6F5 1E6FE-1E6FF 2B73A-2B73F 2CEA2-2CEAD 323B0-33479"

/-- The characters that version 17.0 added to the numbers. -/
def addedNumbers : CharSet :=
  CharSet.ofTable "11DE0-11DE9 16FF4-16FF6"

/-- The characters that version 17.0 added to those that have case. -/
def addedCased : CharSet :=
  CharSet.ofTable "A7CE-A7CF A7D2 A7D4 A7F1 16EA0-16EB8 16EBB-16ED3"

/-- The characters that no longer have case in version 17.0. -/
def removedCased : CharSet :=
  CharSet.ofTable "295"

/-- The characters that version 17.0 added to those passed over when case is asked. -/
def addedCaseIgnorable : CharSet :=
  CharSet.ofTable "1ACF-1ADD 1AE0-1AEB A7F1 10EC5 10EFA-10EFB 11B60 11B62-11B64 11B66 11DD9 16FF2-16FF3 1E6E3
1E6E6 1E6EE-1E6EF 1E6F5 1E6FF"

/-- The alphabetic characters. -/
def alphabeticSet : CharSet :=
  (Property.named "alphabetic").union addedAlphabetic

/-- The alphabetic characters and the numbers. -/
def alphanumericSet : CharSet :=
  CharSet.unions [alphabeticSet, Category.setOf Category.numbers, addedNumbers]

/-- The characters that have case. -/
def casedSet : CharSet :=
  ((Property.named "cased").union addedCased).diff removedCased

/-- The characters that are passed over when the case of their neighbours is asked. -/
def caseIgnorableSet : CharSet :=
  (Property.named "caseignorable").union addedCaseIgnorable

end NextVersion

end SourceUpgrade.Unicode
