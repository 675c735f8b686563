/-!
# The arguments of the program

What the program can be asked to do, and why arguments may ask for nothing
that can be run.
-/

namespace BayesLex

/-- What the program is asked to do. -/
inductive Action where
  /-- List the tokens of files. -/
  | lex (files : List String) (noTrivia : Bool)
  /-- Report the lexical errors of files. -/
  | check (files : List String)
  /-- List the tokens of lines as they are entered. -/
  | repl
  deriving DecidableEq

/-- The arguments of the program. -/
structure Arguments where
  config : Option String
  action : Action
  deriving DecidableEq

/-- Why the arguments ask for nothing that can be run. -/
inductive UsageError where
  | helpRequested
  | versionRequested
  | noArguments
  | missingSubcommand
  | unknownSubcommand
  | unknownArgument
  | missingFile
  /-- An option without its value, or an empty path. -/
  | invalidValue
  /-- A flag with a value. -/
  | unexpectedValue
  /-- An option given twice. -/
  | repeatedOption
  deriving DecidableEq

/-- The exit code of the program: asking for help is no failure. -/
def UsageError.exitCode : UsageError → UInt32
  | helpRequested | versionRequested => 0
  | _ => 2

/-- The subcommands. -/
inductive Subcommand where
  | lex
  | check
  | repl
  | help
  deriving DecidableEq

/-- The subcommand of a given name. -/
def Subcommand.ofName? : String → Option Subcommand
  | "lex" => some lex
  | "check" => some check
  | "repl" => some repl
  | "help" => some help
  | _ => none

end BayesLex
