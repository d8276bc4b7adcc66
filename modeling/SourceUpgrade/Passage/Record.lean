import SourceUpgrade.Digest.Fingerprint
import SourceUpgrade.Passage.Normal
import SourceUpgrade.Passage.Window
import SourceUpgrade.Text.Digit

namespace SourceUpgrade.Passage

/-!
# Passages of documentation

A page of documentation is kept as passages: the windows of its normalized text. Each passage has an
identifier that depends on the page's address and content and on the passage's position only.
-/

/-- A page of documentation. -/
structure Page where
  url : String
  framework : String
  title : String
  content : String
  contentHash : String
deriving Repr, DecidableEq

/-- How many digits of a page's hash are kept. -/
def pageHashLength : Nat := 16

/-- How many digits of a passage's identifier are kept. -/
def identifierLength : Nat := 32

/-- The hash that identifies the content of a page. -/
def pageHash (content : String) : String :=
  Digest.fingerprint pageHashLength content

/-- A page with the hash of its content. -/
def Page.ofContent (url framework title content : String) : Page where
  url := url
  framework := framework
  title := title
  content := content
  contentHash := pageHash content

/-- The text whose hash identifies a passage. -/
def identifierText (url contentHash : String) (index : Nat) : String :=
  url ++ "|" ++ contentHash ++ "|" ++ Text.decimal index

/-- The identifier of a passage. -/
def identifier (url contentHash : String) (index : Nat) : String :=
  Digest.fingerprint identifierLength (identifierText url contentHash index)

/-- A passage with what is known of its page. -/
structure Record where
  id : String
  text : String
  framework : String
  url : String
  title : String
  contentHash : String
  index : Nat
  createdAt : Nat
deriving Repr, DecidableEq

/-- The passage of a page at a position. -/
def Page.record (page : Page) (createdAt index : Nat) (text : String) : Record where
  id := identifier page.url page.contentHash index
  text := text
  framework := page.framework
  url := page.url
  title := page.title
  contentHash := page.contentHash
  index := index
  createdAt := createdAt

/-- The passages of a page; a page without text has none. -/
def Page.records (page : Page) (size : WindowSize) (createdAt : Nat) : List Record :=
  let text := normalizeString page.content
  if text.isEmpty then []
  else
    (windowStrings size text).zipIdx.map fun (window, index) => page.record createdAt index window

/-- The passages of all pages in order. -/
def records (pages : List Page) (size : WindowSize) (createdAt : Nat) : List Record :=
  pages.flatMap fun page => page.records size createdAt

end SourceUpgrade.Passage
