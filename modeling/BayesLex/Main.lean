import BayesLex.Arguments.Reader
import BayesLex.Program

/-!
# The command line

The outer layer of the program: it reads the files that the arguments name,
lets the program run on them and writes what it says.  At a prompt the lines
are answered one by one.
-/

namespace BayesLex.Main

/-- What is shown to those who ask for help or give wrong arguments. -/
def usage : String :=
  "Usage: blog [--config <FILE>] <COMMAND>\n\n" ++
  "Commands:\n" ++
  "  lex [--no-trivia] <FILE>...  Print the tokens of files\n" ++
  "  check <FILE>...              Report unrecognized characters in files\n" ++
  "  repl                         Lex lines typed at a prompt\n" ++
  "  help                         Print this message\n"

/-- What is said about arguments that cannot be run. -/
def complaint : UsageError → String
  | .helpRequested | .versionRequested | .noArguments => ""
  | .missingSubcommand => "error: a subcommand is required\n\n"
  | .unknownSubcommand => "error: unrecognized subcommand\n\n"
  | .unknownArgument => "error: unexpected argument\n\n"
  | .missingFile => "error: a file is required\n\n"
  | .invalidValue => "error: a value is required\n\n"
  | .unexpectedValue => "error: unexpected value\n\n"
  | .repeatedOption => "error: an option is given twice\n\n"

/-- The reason why the system could not read a file. -/
def reason : IO.Error → ReadFailure
  | .noFileOrDirectory _ _ _ => .notFound
  | .inappropriateType _ code _ =>
      if code = 21 then .isDirectory else .notDirectory
  | .invalidArgument _ 36 _ => .tooLong
  | error => .other (toString error)

/-- Read a file. -/
def load (path : String) : IO (Except ReadFailure Text) := do
  try
    return Text.decode (← IO.FS.readBinFile path)
  catch error =>
    return .error (reason error)

/-- Read a stream to its end. -/
partial def readAll (stream : IO.FS.Stream) (read : ByteArray) :
    IO ByteArray := do
  let more ← stream.read 65536
  if more.isEmpty then return read else readAll stream (read ++ more)

/-- The files that an action is about. -/
def files : Action → List String
  | .lex files _ => files
  | .check files => files
  | .repl => []

/-- Read what the arguments name. -/
def environment (arguments : Arguments) : IO Environment := do
  let (standard, files) := (files arguments.action).partition Path.isStandardInput
  let config := arguments.config.getD Configuration.fileName
  let contents ← (config :: files).mapM fun path => do
    return (path, ← load path)
  let input ←
    if standard.isEmpty then
      pure ByteArray.empty
    else
      readAll (← IO.getStdin) ByteArray.empty
  return {
    read := fun path => (contents.lookup path).getD (.error .notFound)
    input := Input.ofBytes input
    colors := ← (← IO.getStdout).isTty }

/-- Write what a run said, and give its exit code. -/
def write (transcript : Transcript) : IO UInt32 := do
  IO.print (String.ofList transcript.output)
  IO.eprint (String.ofList transcript.diagnostics)
  match transcript.result with
  | .ok _ => return 0
  | .error failure =>
      IO.eprintln (String.ofList failure.message)
      return 1

/-- Answer the lines that are entered. -/
partial def converse (settings : Settings) : IO UInt32 := do
  IO.print (String.ofList Program.prompt)
  (← IO.getStdout).flush
  let line ← (← IO.getStdin).getLine
  if line.isEmpty then
    return 0
  else
    discard <| write <|
      Program.listSource settings.colors settings.configuration.showTrivia none
        line.toList
    converse settings

/-- Do what the arguments ask for. -/
def perform (arguments : Arguments) : IO UInt32 := do
  let environment ← environment arguments
  match arguments.action, Program.configure environment arguments.config with
  | .repl, (_, .ok configuration) =>
      IO.print (String.ofList Program.banner)
      converse
        { configuration, colors := environment.colors && configuration.color }
  | _, _ => write (Program.run environment arguments)

end BayesLex.Main

/-- The program. -/
def main (arguments : List String) : IO UInt32 := do
  match BayesLex.Arguments.parse arguments with
  | .ok arguments => BayesLex.Main.perform arguments
  | .error .versionRequested =>
      IO.print (String.ofList BayesLex.Program.banner)
      return 0
  | .error .helpRequested =>
      IO.print BayesLex.Main.usage
      return 0
  | .error error =>
      IO.eprint (BayesLex.Main.complaint error ++ BayesLex.Main.usage)
      return error.exitCode
