import BayesLex.Text.Basic

/-!
# Reading text

A file or the standard input holds bytes, which may or may not encode a text.
Standard input is read line by line, so that lines can be answered before one
that is no text.
-/

namespace BayesLex

/-- Why a file cannot be read. -/
inductive ReadFailure where
  | notFound
  | notDirectory
  | isDirectory
  /-- The path, or a name in it, is longer than the system allows. -/
  | tooLong
  /-- The path has a character that the system takes for its end. -/
  | nul
  | invalidEncoding
  /-- Any other reason that the system gives. -/
  | other (reason : String)
  deriving DecidableEq

/-- What the system says about a file that cannot be read. -/
def ReadFailure.message : ReadFailure → Text
  | notFound => "No such file or directory (os error 2)".toList
  | notDirectory => "Not a directory (os error 20)".toList
  | isDirectory => "Is a directory (os error 21)".toList
  | tooLong => "File name too long (os error 36)".toList
  | nul => "file name contained an unexpected NUL byte".toList
  | invalidEncoding => "stream did not contain valid UTF-8".toList
  | other reason => reason.toList

/-- The text that bytes encode. -/
def Text.decode (bytes : ByteArray) : Except ReadFailure Text :=
  match String.fromUTF8? bytes with
  | some text => .ok text.toList
  | none => .error .invalidEncoding

/--
What can be read from the standard input: lines of text, and whether a line
that is no text follows them.
-/
structure Input where
  text : Text := []
  broken : Bool := false
  deriving DecidableEq

namespace Input

/-- Cut bytes into lines, which keep their line feeds, behind `read`. -/
def splitFrom (read : List UInt8) : List UInt8 → List ByteArray
  | [] => if read.isEmpty then [] else [⟨read.reverse.toArray⟩]
  | byte :: rest =>
      if byte = 10 then
        ⟨(byte :: read).reverse.toArray⟩ :: splitFrom [] rest
      else
        splitFrom (byte :: read) rest

/-- Decode lines up to the first that is no text. -/
def decodeLines : List ByteArray → Input
  | [] => {}
  | line :: rest =>
      match Text.decode line with
      | .error _ => { broken := true }
      | .ok text =>
          let input := decodeLines rest
          { input with text := text ++ input.text }

/-- What can be read from bytes. -/
def ofBytes (bytes : ByteArray) : Input :=
  match Text.decode bytes with
  | .ok text => { text }
  | .error _ => decodeLines (splitFrom [] bytes.toList)

/-- The whole text, unless something follows that is none. -/
def all (input : Input) : Except ReadFailure Text :=
  if input.broken then .error .invalidEncoding else .ok input.text

end Input

end BayesLex
