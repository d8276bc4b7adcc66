namespace SourceUpgrade

/-!
# States of a session

A session has its inputs or lacks one, has previewed the changes, or has applied them. Loading is
possible in every state; applying needs a preview.
-/

/-- How far a session has come. -/
inductive State where
  | empty
  | loaded
  | previewed
  | applied
deriving Repr, DecidableEq

namespace State

/-- The states that can come next. -/
def allowed : State → List State
  | .empty => [.empty, .loaded]
  | .loaded => [.loaded, .previewed]
  | .previewed => [.loaded, .previewed, .applied]
  | .applied => [.loaded, .previewed, .applied]

/-- Whether both inputs are there. -/
def isLoaded (state : State) : Bool :=
  state != .empty

/-- The title of a state in messages. -/
def title : State → String
  | .empty => "Empty"
  | .loaded => "Loaded"
  | .previewed => "Previewed"
  | .applied => "Applied"

end State

end SourceUpgrade
