import BayesLex.Arguments.Basic
import BayesLex.FileTree
import BayesLex.Listing
import BayesLex.Transcript

/-!
# The program

What the program writes and how it ends, as a function of its arguments and
of its environment.  A file that cannot be read ends the run; what was
written before stays written.  The standard input can be read once, and is
empty afterwards.
-/

namespace BayesLex

/-- A configuration and whether colors are on. -/
structure Settings where
  configuration : Configuration
  colors : Bool
  deriving DecidableEq

namespace Program

/-- The name and the version of the program. -/
def banner : Text :=
  "BLOG lexer v0.1.0\n".toList

/-- The prompt for a line. -/
def prompt : Text :=
  "> ".toList

/-- Read the configuration at a path. -/
def readConfiguration (environment : Environment) (path : String) :
    Except Failure Configuration :=
  match environment.read path with
  | .error cause => .error (.unreadable path cause)
  | .ok text =>
      match Configuration.parse? text with
      | some configuration => .ok configuration
      | none => .error .configuration

/--
The configuration at a given path; without one that of the working directory
if there is any, and the default otherwise.
-/
def configure (environment : Environment) (path : Option String) :
    List Report × Except Failure Configuration :=
  match path with
  | some path => ([.loading path], readConfiguration environment path)
  | none =>
      if environment.contains Configuration.fileName then
        ([.loading Configuration.fileName],
          readConfiguration environment Configuration.fileName)
      else
        ([.noConfiguration], .ok {})

/-- The text at a path, and what remains of the standard input. -/
def readSource (environment : Environment) (input : Input)
    (path : String) : Except Failure (Text × Input) :=
  if Path.isStandardInput path then
    match input.all with
    | .ok text => .ok (text, {})
    | .error cause => .error (.input cause)
  else
    match environment.read path with
    | .ok text => .ok (text, input)
    | .error cause => .error (.unreadable path cause)

/-- A source of the language with its tokens, and what happened in its scan. -/
def scan (text : Text) : TokenStream × List Report :=
  let harvest := (Lexer.new RuleTable.standard text).drain false
  ({ source := text, tokens := harvest.tokens },
    harvest.events.map Report.scan)

/-- The line that stands above the listing of a file. -/
def header (path : String) : Text :=
  "==> ".toList ++ path.toList ++ " <==\n".toList

/-- List the tokens of one source. -/
def listSource (colors showTrivia : Bool) (path : Option String)
    (text : Text) : Transcript :=
  let (stream, reports) := scan text
  { output :=
      Listing.render colors showTrivia (SourceFile.of text path) stream
    reports }

/-- List the tokens of files, each under a header if `headed`. -/
def listFiles (environment : Environment) (colors showTrivia headed : Bool) :
    Input → List String → Transcript
  | _, [] => {}
  | input, path :: paths =>
      match readSource environment input path with
      | .error failure => Transcript.fail failure
      | .ok (text, input) =>
          let title : Transcript :=
            { output := if headed then header path else [] }
          (title.andThen (listSource colors showTrivia (some path) text)).andThen
            (listFiles environment colors showTrivia headed input paths)

/-- The number of errors found, and the number of files that have some. -/
structure Tally where
  count : Nat := 0
  files : Nat := 0
  deriving DecidableEq

/-- Count the errors of one more file. -/
def Tally.add (tally : Tally) (errors : Nat) : Tally :=
  if errors = 0 then
    tally
  else
    { count := tally.count + errors, files := tally.files + 1 }

/-- How a check ends. -/
def Tally.result (tally : Tally) : Except Failure Unit :=
  if tally.count = 0 then
    .ok ()
  else
    .error (.lexical tally.count tally.files)

/-- The diagnostics of a source, one on each line. -/
def writeDiagnostics (colors : Bool) (messages : List Text) : Text :=
  messages.flatMap (fun message => Color.red.paint colors message ++ ['\n'])

/-- Report the errors of files. -/
def checkFiles (environment : Environment) (colors : Bool) :
    Tally → Input → List String → Transcript
  | tally, _, [] => { result := tally.result }
  | tally, input, path :: paths =>
      match readSource environment input path with
      | .error failure => Transcript.fail failure
      | .ok (text, input) =>
          let (stream, reports) := scan text
          let messages :=
            Listing.diagnostics (SourceFile.of text (some path)) stream
          let checked : Report :=
            .checked path stream.tokens.length messages.length
          let one : Transcript :=
            { diagnostics := writeDiagnostics colors messages
              reports := reports ++ [checked] }
          one.andThen
            (checkFiles environment colors (tally.add messages.length)
              input paths)

/-- Cut a text into lines, which keep their line feeds, behind `read`. -/
def linesFrom (read : Text) : Text → List Text
  | [] => if read.isEmpty then [] else [read.reverse]
  | character :: rest =>
      if character = '\n' then
        (character :: read).reverse :: linesFrom [] rest
      else
        linesFrom (character :: read) rest

/-- The lines of a text, which keep their line feeds. -/
def lines (text : Text) : List Text :=
  linesFrom [] text

/-- Answer a line with a listing, behind a prompt. -/
def answerLine (colors showTrivia : Bool) (line : Text) : Transcript :=
  let prompted : Transcript := { output := prompt }
  prompted.andThen (listSource colors showTrivia none line)

/-- Answer lines one after the other. -/
def answerLines (colors showTrivia : Bool) : List Text → Transcript
  | [] => {}
  | line :: rest =>
      (answerLine colors showTrivia line).andThen
        (answerLines colors showTrivia rest)

/-- How a conversation ends: behind a last prompt. -/
def endConversation (input : Input) : Transcript where
  result :=
    match input.all with
    | .ok _ => .ok ()
    | .error cause => .error (.input cause)
  output := prompt

/-- Greet, answer the lines of an input, and end. -/
def converse (colors showTrivia : Bool) (input : Input) : Transcript :=
  let greeting : Transcript := { output := banner }
  (greeting.andThen (answerLines colors showTrivia (lines input.text))).andThen
    (endConversation input)

/-- Do what is asked with a configuration. -/
def perform (environment : Environment) (settings : Settings) :
    Action → Transcript
  | .lex files noTrivia =>
      listFiles environment settings.colors
        (settings.configuration.showTrivia && !noTrivia) (files.length > 1)
        environment.input files
  | .check files =>
      checkFiles environment settings.colors {} environment.input files
  | .repl =>
      converse settings.colors settings.configuration.showTrivia
        environment.input

/-- Run the program.  A configuration can turn colors off but not on. -/
def run (environment : Environment) (arguments : Arguments) : Transcript :=
  match configure environment arguments.config with
  | (reports, .error failure) => { Transcript.fail failure with reports }
  | (reports, .ok configuration) =>
      let settings : Settings :=
        { configuration
          colors := environment.colors && configuration.color }
      let loaded : Transcript := { reports }
      loaded.andThen (perform environment settings arguments.action)

end Program

end BayesLex
