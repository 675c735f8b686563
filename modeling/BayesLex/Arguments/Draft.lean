import BayesLex.Arguments.Basic

/-!
# Arguments being read

The value of an option and the files of a subcommand are pending until a
known flag, another option or the end asks for them to be settled.  Only then
is it noticed that a value is missing or empty, or an option given twice.
-/

namespace BayesLex

/-- What has been given but not settled. -/
inductive Pending where
  | nothing
  /-- The option for the configuration, perhaps still without its value. -/
  | config (value : Option String)
  | files (paths : List String)
  deriving DecidableEq

/-- The arguments of one command as far as they are settled. -/
structure Draft where
  config : Option String := none
  noTrivia : Bool := false
  files : List String := []
  pending : Pending := .nothing
  deriving DecidableEq

namespace Draft

/-- Set the path of the configuration, once, to a path that is not empty. -/
def setConfig (draft : Draft) (path : String) : Except UsageError Draft :=
  if draft.config.isSome then
    .error .repeatedOption
  else if path.isEmpty then
    .error .invalidValue
  else
    .ok { draft with config := some path }

/-- Settle what is pending. -/
def settle (draft : Draft) : Except UsageError Draft :=
  let settled := { draft with pending := .nothing }
  match draft.pending with
  | .nothing => .ok settled
  | .config none => .error .invalidValue
  | .config (some path) => settled.setConfig path
  | .files paths =>
      if paths.any String.isEmpty then
        .error .invalidValue
      else
        .ok { settled with files := draft.files ++ paths }

/-- Set the flag against trivia, once. -/
def setNoTrivia (draft : Draft) : Except UsageError Draft :=
  if draft.noTrivia then
    .error .repeatedOption
  else
    .ok { draft with noTrivia := true }

/-- Whether an option waits for its value. -/
def awaitsValue (draft : Draft) : Bool :=
  draft.pending = .config none

/-- Add a file. -/
def addFile (draft : Draft) (path : String) : Except UsageError Draft :=
  match draft.pending with
  | .files paths => .ok { draft with pending := .files (paths ++ [path]) }
  | _ => do
      let draft ← draft.settle
      return { draft with pending := .files [path] }

end Draft

end BayesLex
