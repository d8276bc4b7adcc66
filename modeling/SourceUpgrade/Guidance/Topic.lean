import SourceUpgrade.Analysis.Basic
import SourceUpgrade.Text.Blank
import SourceUpgrade.Unicode.Lowercase

namespace SourceUpgrade

/-!
# Compacted guidance

Guidance is compacted to what a reader wants to see per topic: where to look, each address once and
in the order in which it came, and which keywords of a vocabulary its texts mention. Topics keep the
order in which they first came up.
-/

/-- The guidance on one topic: addresses in order, and keywords ascending, each once. -/
structure GuidanceTopic where
  urls : List String
  hints : List String
deriving Repr, DecidableEq

namespace GuidanceTopic

/-- A topic on which there is nothing yet. -/
def empty : GuidanceTopic := ⟨[], []⟩

/-- Add an entry to an ascending list unless it is there. -/
def insertHint (hint : String) : List String → List String
  | [] => [hint]
  | other :: rest =>
      if hint = other then other :: rest
      else if hint < other then hint :: other :: rest
      else other :: insertHint hint rest

/-- Add an address at the end, unless it is empty or already there. -/
def addUrl (topic : GuidanceTopic) (url : String) : GuidanceTopic :=
  if url.isEmpty || topic.urls.contains url then topic
  else { topic with urls := topic.urls ++ [url] }

/-- Add keywords. -/
def addHints (topic : GuidanceTopic) (hints : List String) : GuidanceTopic :=
  { topic with hints := hints.foldl (fun held hint => insertHint hint held) topic.hints }

end GuidanceTopic

/-- Topics with their guidance, in the order in which they first came up. -/
abbrev Guidance : Type := List (String × GuidanceTopic)

namespace Guidance

/-- Change what is held on a topic; a new topic comes last and starts empty. -/
def update
    (topic : String)
    (change : GuidanceTopic → GuidanceTopic) :
    Guidance → Guidance
  | [] => [(topic, change .empty)]
  | (other, held) :: rest =>
      if other = topic then (other, change held) :: rest
      else (other, held) :: update topic change rest

/-- Set what is held on a topic; a known topic keeps its place and a new one comes last. -/
def insert (topic : String) (value : GuidanceTopic) (guidance : Guidance) : Guidance :=
  guidance.update topic fun _ => value

/-- The topics in order. -/
def topics (guidance : Guidance) : List String :=
  guidance.map Prod.fst

/-- What is held on a topic. -/
def get? (guidance : Guidance) (topic : String) : Option GuidanceTopic :=
  guidance.lookup topic

end Guidance

/-- The keywords that guidance is searched for. -/
abbrev Vocabulary : Type := List String

namespace Vocabulary

/-- The keywords that are searched for unless others are configured. -/
def standard : Vocabulary :=
  ["deprecated", "migration", "replace", "rename", "router", "app router", "config", "env",
    "server actions", "useRouter"]

/-- The keywords that a text mentions, whatever the case of either, in the vocabulary's order. -/
def hintsIn (vocabulary : Vocabulary) (text : String) : List String :=
  let lowered := Unicode.lower text.toList
  vocabulary.filter fun keyword => Text.occursIn (Unicode.lower keyword.toList) lowered

/-- Add a reference to what is held on its topic. -/
def addReference
    (vocabulary : Vocabulary)
    (topic : GuidanceTopic)
    (reference : Reference) :
    GuidanceTopic :=
  (topic.addUrl reference.url).addHints (vocabulary.hintsIn reference.snippet)

/-- Add an entry with all its references to guidance. -/
def addEntry
    (vocabulary : Vocabulary)
    (guidance : Guidance)
    (entry : GuidanceEntry) :
    Guidance :=
  guidance.update entry.topic fun topic =>
    entry.references.foldl vocabulary.addReference topic

/-- Compact guidance entries; entries on one topic are merged. -/
def compact (vocabulary : Vocabulary) (entries : List GuidanceEntry) : Guidance :=
  entries.foldl vocabulary.addEntry []

end Vocabulary

/-- The topic under which the answers of a guidance source are kept. -/
def supplementalTopic : String := "supplemental"

/-- The keywords that go with the answers of a guidance source. -/
def supplementalHints : List String := ["migration", "api", "rename"]

/-- Keep the addresses that a guidance source has answered with. -/
def Guidance.addSupplemental (guidance : Guidance) (urls : List String) : Guidance :=
  guidance.insert supplementalTopic
    ((urls.foldl GuidanceTopic.addUrl .empty).addHints supplementalHints)

end SourceUpgrade
