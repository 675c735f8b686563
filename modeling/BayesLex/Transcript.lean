import BayesLex.Configuration
import BayesLex.Event
import BayesLex.Input
import BayesLex.LexicalError

/-!
# Runs of the program

What a run finds around it, and what it writes, reports and ends with.
-/

namespace BayesLex

/-- What a run finds around it. -/
structure Environment where
  /-- The text of the file at a path. -/
  read : String → Except ReadFailure Text
  /-- The standard input. -/
  input : Input
  /-- Whether the terminal shows colors. -/
  colors : Bool

/-- Whether there is a file or a directory at a path. -/
def Environment.contains (environment : Environment) (path : String) : Bool :=
  match environment.read path with
  | .error .notFound => false
  | _ => true

/-- Why a run fails. -/
inductive Failure where
  /-- The standard input cannot be read. -/
  | input (cause : ReadFailure)
  | configuration
  | unreadable (path : String) (cause : ReadFailure)
  /-- There are lexical errors in a number of files. -/
  | lexical (count files : Nat)
  deriving DecidableEq

/-- What is said about a failure. -/
def Failure.message : Failure → Text
  | input cause => "IO error: ".toList ++ cause.message
  | configuration => "configuration error".toList
  | unreadable path cause =>
      "cannot read `".toList ++ path.toList ++ "`: ".toList ++ cause.message
  | lexical count files =>
      LexicalError.summary count ++ " in ".toList ++ Text.ofNat files ++
        " file(s)".toList

/-- What is reported during a run. -/
inductive Report where
  | noConfiguration
  | loading (path : String)
  | checked (path : String) (tokens errors : Nat)
  | scan (event : Event)
  deriving DecidableEq

namespace Report

/-- The importance of a report. -/
def level : Report → Level
  | noConfiguration => .debug
  | loading _ | checked _ _ _ => .info
  | scan event => event.level

/-- The wording of a report. -/
def message : Report → Text
  | noConfiguration =>
      "no `".toList ++ Configuration.fileName.toList ++
        "` found; using the default configuration".toList
  | loading path =>
      "loading configuration from `".toList ++ path.toList ++ "`".toList
  | checked path tokens errors =>
      path.toList ++ ": ".toList ++ Text.ofNat tokens ++ " tokens, ".toList ++
        Text.ofNat errors ++ " errors".toList
  | scan event => event.message

end Report

/-- What a run writes, reports and ends with. -/
structure Transcript where
  result : Except Failure Unit := .ok ()
  output : Text := []
  diagnostics : Text := []
  reports : List Report := []

namespace Transcript

/-- A run that fails. -/
def fail (failure : Failure) : Transcript where
  result := .error failure

/-- One run and then, if it does not fail, another one. -/
def andThen (first second : Transcript) : Transcript :=
  match first.result with
  | .error _ => first
  | .ok _ =>
      { result := second.result
        output := first.output ++ second.output
        diagnostics := first.diagnostics ++ second.diagnostics
        reports := first.reports ++ second.reports }

end Transcript

end BayesLex
