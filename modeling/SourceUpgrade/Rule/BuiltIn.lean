import SourceUpgrade.Rule.Basic
import SourceUpgrade.Rule.Phrase

namespace SourceUpgrade

/-!
# Built-in rules

Five rules in a fixed order. Two put the current form of an import in the place of an outdated one.
Three put a comment in front of a file that needs attention, unless the comment's marker already
occurs in it. All of them look at the plain text only.
-/

/-- A rule that is always there. -/
inductive BuiltInRule where
  | routerNamedImport
  | routerDefaultImport
  | legacyImage
  | configExperimental
  | createRoot
deriving Repr, DecidableEq

namespace BuiltInRule

/-- The built-in rules in the order in which they are applied. -/
def all : List BuiltInRule :=
  [.routerNamedImport, .routerDefaultImport, .legacyImage, .configExperimental, .createRoot]

/-- The name of a rule. -/
def name : BuiltInRule → String
  | .routerNamedImport => "next-router-named-import"
  | .routerDefaultImport => "next-router-default-import-warning"
  | .legacyImage => "next-legacy-image"
  | .configExperimental => "next-config-experimental-note"
  | .createRoot => "react-create-root-note"

/-- What a rule is for. -/
def description : BuiltInRule → String
  | .routerNamedImport =>
      "Replace `import \x7b useRouter \x7d from 'next/router'` with next/navigation."
  | .routerDefaultImport =>
      "Flag default Router import and add TODO with suggested migration."
  | .legacyImage => "Replace next/legacy/image with next/image."
  | .configExperimental =>
      "Add TODO note on experimental flags that commonly shift across versions."
  | .createRoot => "Advise migration to createRoot if applicable (comment)."

/-- An import of `useRouter` by name from its outdated place. -/
def routerNamedPhrase : Phrase :=
  [.word "import", .blanks, .word "\x7b", .blanks, .word "useRouter", .blanks, .word "\x7d", .blanks,
    .word "from", .blanks, .quote, .word "next/router", .quote, .optional ';']

/-- The import of `useRouter` from its current place. -/
def routerNamedReplacement : String :=
  "import \x7b useRouter \x7d from 'next/navigation';"

/-- An import of the router as a default export. -/
def routerDefaultPhrase : Phrase :=
  [.word "import", .someBlanks, .word "Router", .someBlanks, .word "from", .someBlanks, .quote,
    .word "next/router", .quote, .optional ';']

/-- The end of an import from the outdated place of the image component. -/
def legacyImagePhrase : Phrase :=
  [.word "from", .someBlanks, .quote, .word "next/legacy/image", .quote]

/-- The end of an import from the current place of the image component. -/
def legacyImageReplacement : String :=
  "from 'next/image'"

/-- A call that renders an application in the outdated way. -/
def renderPhrase : Phrase :=
  [.word "ReactDOM.render("]

/-- Whether a path names a configuration file of the framework. -/
def isConfigPath (path : String) : Bool :=
  "next.config.js".toList.isSuffixOf path.toList ||
    "next.config.mjs".toList.isSuffixOf path.toList

/-- The text that shows that a comment is already there. -/
def routerMarker : String := "// TODO(next-migrate)"

/-- The text that shows that the comment on a configuration file is already there. -/
def configMarker : String := "// TODO(next-config)"

/-- The text that shows that the comment on rendering is already there. -/
def renderMarker : String := "// TODO(react-migrate)"

/-- The comment on a default import of the router. -/
def routerComment : String :=
  routerMarker ++ ": `import Router from 'next/router'` is legacy (Pages Router).\n" ++
    "// Consider refactoring to App Router APIs from 'next/navigation' " ++
    "(e.g., `useRouter`, `redirect`).\n"

/-- The comment on experimental settings, which names the version that is upgraded to. -/
def configComment (targetVersion : String) : String :=
  configMarker ++ ": Check experimental flags against target version " ++ targetVersion ++
    ". Confirm replacements/renames in docs.\n"

/-- The comment on rendering in the outdated way. -/
def renderComment : String :=
  renderMarker ++
    ": ReactDOM.render is legacy. Consider migrate to React 18 `createRoot` API.\n"

/-- Put a replacement in the place of a phrase, which counts as one change. -/
def substitute (phrase : Phrase) (replacement note content : String) : RuleOutcome :=
  let replaced := String.ofList (phrase.replaceAll replacement.toList content.toList)
  if replaced = content then .unchanged content else .changed replaced note

/-- Put a comment in front of a content, unless its marker occurs there. -/
def annotate (marker comment note content : String) : RuleOutcome :=
  if Text.contains content marker then .unchanged content
  else .changed (comment ++ content) note

/-- Whether a rule is to be applied to a file. -/
def applicable (rule : BuiltInRule) (context : RuleContext) (path content : String) : Bool :=
  match rule with
  | .routerNamedImport => context.concerns "next" && routerNamedPhrase.occursIn content.toList
  | .routerDefaultImport => context.concerns "next" && routerDefaultPhrase.occursIn content.toList
  | .legacyImage => context.concerns "next" && legacyImagePhrase.occursIn content.toList
  | .configExperimental => context.concerns "next" && isConfigPath path
  | .createRoot => context.concerns "react" && renderPhrase.occursIn content.toList

/-- Apply a rule to the content of a file. -/
def transform (rule : BuiltInRule) (context : RuleContext) (content : String) : RuleOutcome :=
  match rule with
  | .routerNamedImport =>
      substitute routerNamedPhrase routerNamedReplacement
        "Switched useRouter import to next/navigation (App Router)." content
  | .routerDefaultImport =>
      annotate routerMarker routerComment
        "Annotated legacy default Router import; manual refactor recommended." content
  | .legacyImage =>
      substitute legacyImagePhrase legacyImageReplacement
        "Replaced next/legacy/image with next/image." content
  | .configExperimental =>
      if Text.contains content "experimental" then
        annotate configMarker (configComment context.targetVersion)
          ("Annotated experimental flags for Next " ++ context.targetVersion ++ ".") content
      else
        .unchanged content
  | .createRoot =>
      annotate renderMarker renderComment
        "Annotated ReactDOM.render usage with createRoot guidance." content

end BuiltInRule

end SourceUpgrade
