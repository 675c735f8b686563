import BayesLex.Arguments.Draft

/-!
# Reading the arguments

The program has three subcommands and one for help.  The option `--config`
may stand before or after the subcommand, and the later one counts.  The
arguments are read from left to right; one that is unknown is refused without
settling what is pending before it.
-/

namespace BayesLex

/-- The forms that an argument can have. -/
inductive Argument where
  /-- Two hyphens, behind which nothing is an option. -/
  | separator
  | long (name : String) (value : Option String)
  /-- A hyphen and letters, of which the first counts. -/
  | short (letter : Char)
  | plain (value : String)
  deriving DecidableEq

/-- The form of an argument. -/
def Argument.ofString (argument : String) : Argument :=
  match argument.toList with
  | ['-', '-'] => separator
  | '-' :: '-' :: rest =>
      let name := String.ofList (rest.takeWhile (· ≠ '='))
      match rest.dropWhile (· ≠ '=') with
      | [] => long name none
      | _ :: value => long name (some (String.ofList value))
  | '-' :: letter :: _ => short letter
  | _ => plain argument

/-- The command whose arguments are read. -/
inductive Scope where
  | program
  | lex
  | check
  | repl
  deriving DecidableEq

namespace Scope

/-- Whether a command takes files. -/
def takesFiles : Scope → Bool
  | lex | check => true
  | program | repl => false

/-- Read an option or a flag by its long name. -/
def long (scope : Scope) (name : String) (value : Option String)
    (draft : Draft) : Except UsageError Draft :=
  let flag (react : Draft → Except UsageError Draft) :=
    if value.isSome then
      .error .unexpectedValue
    else
      draft.settle.bind react
  match scope, name with
  | _, "config" => do
      let draft ← draft.settle
      match value with
      | some path => draft.setConfig path
      | none => return { draft with pending := .config none }
  | _, "help" => flag fun _ => .error .helpRequested
  | program, "version" => flag fun _ => .error .versionRequested
  | lex, "no-trivia" => flag Draft.setNoTrivia
  | _, _ => .error .unknownArgument

/-- Read a flag by its letter. -/
def short (scope : Scope) (letter : Char) (draft : Draft) :
    Except UsageError Draft :=
  match scope, letter with
  | _, 'h' => draft.settle.bind fun _ => .error .helpRequested
  | program, 'V' => draft.settle.bind fun _ => .error .versionRequested
  | _, _ => .error .unknownArgument

/-- Refuse an argument that is neither an option nor a file. -/
def refuse (scope : Scope) (separated : Bool) (value : String) : UsageError :=
  match scope with
  | program =>
      if separated && (Subcommand.ofName? value).isSome then
        .unknownArgument
      else
        .unknownSubcommand
  | _ => .unknownArgument

/-- Read an argument that is no option. -/
def plain (scope : Scope) (separated : Bool) (value : String) (draft : Draft) :
    Except UsageError Draft :=
  if !separated && draft.awaitsValue then
    .ok { draft with pending := .config (some value) }
  else if scope.takesFiles then
    draft.addFile value
  else
    .error (scope.refuse separated value)

/-- Read the arguments of a subcommand, behind a separator or not. -/
def read (scope : Scope) (separated : Bool) :
    List String → Draft → Except UsageError Draft
  | [], draft => draft.settle
  | argument :: rest, draft =>
      if separated then
        (scope.plain true argument draft).bind (scope.read true rest)
      else
        match Argument.ofString argument with
        | .separator => scope.read true rest draft
        | .long name value =>
            (scope.long name value draft).bind (scope.read false rest)
        | .short letter =>
            (scope.short letter draft).bind (scope.read false rest)
        | .plain value =>
            (scope.plain false value draft).bind (scope.read false rest)

end Scope

namespace Arguments

/-- The files of a subcommand, of which there must be one. -/
def files (draft : Draft) : Except UsageError (List String) :=
  if draft.files.isEmpty then .error .missingFile else .ok draft.files

/-- Help about one subcommand at most. -/
def help : List String → UsageError
  | [] => .helpRequested
  | [name] =>
      if (Subcommand.ofName? name).isSome then
        .helpRequested
      else
        .unknownSubcommand
  | _ => .unknownSubcommand

/-- The arguments of a subcommand, and its own path of the configuration. -/
def readSubcommand (rest : List String) :
    Subcommand → Except UsageError (Option String × Action)
  | .lex => do
      let draft ← Scope.lex.read false rest {}
      return (draft.config, .lex (← files draft) draft.noTrivia)
  | .check => do
      let draft ← Scope.check.read false rest {}
      return (draft.config, .check (← files draft))
  | .repl => do
      let draft ← Scope.repl.read false rest {}
      return (draft.config, .repl)
  | .help => .error (help rest)

/-- Read the arguments up to the subcommand, and then its own. -/
def readFrom (separated : Bool) :
    List String → Draft → Except UsageError Arguments
  | [], draft => do
      let draft ← draft.settle
      .error (if draft.config.isSome then .missingSubcommand else .noArguments)
  | argument :: rest, draft =>
      if separated then
        .error (Scope.program.refuse true argument)
      else
        match Argument.ofString argument with
        | .separator => readFrom true rest draft
        | .long name value =>
            (Scope.program.long name value draft).bind (readFrom false rest)
        | .short letter =>
            (Scope.program.short letter draft).bind (readFrom false rest)
        | .plain value =>
            match Subcommand.ofName? value, draft.awaitsValue with
            | some subcommand, false => do
                let (config, action) ← readSubcommand rest subcommand
                let draft ← draft.settle
                return { config := config <|> draft.config, action }
            | _, _ =>
                (Scope.program.plain false value draft).bind
                  (readFrom false rest)

/-- Read the arguments of the program. -/
def parse (arguments : List String) : Except UsageError Arguments :=
  readFrom false arguments {}

end Arguments

end BayesLex
