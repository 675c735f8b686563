import BayesLex.Toml.Strings
import BayesLex.Toml.Value

/-!
# Reading TOML documents

A document consists of lines: headers that open tables, and keys with their
values.  A value may be an array or a table between braces, which may extend
over several lines.  Arrays, tables and the keys of a path nest up to a limit.
-/

namespace BayesLex.Toml

/--
The greatest number of arrays and tables inside each other in a value, and of
keys in a path.
-/
def nestingLimit : Nat := 80

/-- Whether a character may stand in a key without quotation marks. -/
def isBare (character : Char) : Bool :=
  character.isAlphanum || character = '_' || character = '-'

/-- One key. -/
def key? (text : Text) : Reading Text :=
  match text with
  | '"' :: rest => string? '"' rest
  | '\'' :: rest => string? '\'' rest
  | _ =>
      let key := text.takeWhile isBare
      if key.isEmpty then none else some (key, text.drop key.length)

/-- At most so many keys with points between them and blanks around each. -/
def keysFrom : Nat → Text → Reading (List Text)
  | 0, _ => none
  | count + 1, text =>
      (key? (skipBlanks text)).bind fun (key, rest) =>
        match skipBlanks rest with
        | '.' :: rest =>
            (keysFrom count rest).map fun (keys, rest) => (key :: keys, rest)
        | rest => some ([key], rest)

/-- A path of keys. -/
def keys? (text : Text) : Reading (List Text) :=
  keysFrom nestingLimit text

/-- Whether a character may stand in a word without quotation marks. -/
def isWordPart (character : Char) : Bool :=
  character.isAlphanum || character = '_' || character = '+' ||
    character = '-' || character = '.' || character = ':'

/-- A truth value, a number or a date; a space may divide date and time. -/
def word? (text : Text) : Reading Value :=
  let first := text.takeWhile isWordPart
  let rest := text.drop first.length
  let (word, rest) :=
    match rest with
    | ' ' :: next =>
        if Scalar.isDate first && next.head?.any Char.isDigit then
          let second := next.takeWhile isWordPart
          (first ++ [' '] ++ second, next.drop second.length)
        else
          (first, rest)
    | _ => (first, rest)
  if word = "true".toList then
    some (.boolean true, rest)
  else if word = "false".toList then
    some (.boolean false, rest)
  else if Scalar.isInteger word || Scalar.isFloat word ||
      Scalar.isMoment word then
    some (.closed, rest)
  else
    none

mutual

/-- A value, inside of which `depth` more levels may open. -/
def value? (depth : Nat) : Nat → Text → Reading Value
  | 0, _ => none
  | fuel + 1, text =>
      match text with
      | '"' :: '"' :: '"' :: rest =>
          (longString? '"' rest).map fun (_, rest) => (.closed, rest)
      | '\'' :: '\'' :: '\'' :: rest =>
          (longString? '\'' rest).map fun (_, rest) => (.closed, rest)
      | '"' :: rest =>
          (string? '"' rest).map fun (_, rest) => (.closed, rest)
      | '\'' :: rest =>
          (string? '\'' rest).map fun (_, rest) => (.closed, rest)
      | '[' :: rest =>
          if depth = 0 then none else items? (depth - 1) fuel rest
      | '{' :: rest =>
          if depth = 0 then none else fields? (depth - 1) fuel [] rest
      | _ => word? text

/-- The rest of an array. -/
def items? (depth : Nat) : Nat → Text → Reading Value
  | 0, _ => none
  | fuel + 1, text =>
      (gap? false text).bind fun
        | ']' :: rest => some (.closed, rest)
        | text =>
            (value? depth fuel text).bind fun (_, rest) =>
              (gap? false rest).bind fun
                | ',' :: rest => items? depth fuel rest
                | ']' :: rest => some (.closed, rest)
                | _ => none

/-- The rest of a table between braces, behind the entries read. -/
def fields? (depth : Nat) : Nat → Entries → Text → Reading Value
  | 0, _, _ => none
  | fuel + 1, entries, text =>
      (gap? false text).bind fun
        | '}' :: rest => some (.closed, rest)
        | text =>
            (keys? text).bind fun
              | (keys, '=' :: rest) =>
                  (value? depth fuel (skipBlanks rest)).bind
                    fun (value, rest) =>
                      (Entries.insert value true keys entries).bind
                        fun entries =>
                          (gap? false rest).bind fun
                            | ',' :: rest => fields? depth fuel entries rest
                            | '}' :: rest => some (.closed, rest)
                            | _ => none
              | _ => none

end

/-- A document as far as it has been read. -/
structure Document where
  entries : Entries := []
  /-- The path of the last header. -/
  current : List Text := []

namespace Document

/-- Read the header of a table, or of another table under the same name. -/
def header? (document : Document) (item : Bool) (text : Text) :
    Reading Document :=
  (keys? text).bind fun (path, rest) =>
    path.getLast?.bind fun key =>
      let change :=
        if item then Entries.openItem key else Entries.openTable key
      (document.entries.modify change path.dropLast).map fun entries =>
        ({ entries, current := path }, rest)

/-- Read a key and its value. -/
def entry? (document : Document) (text : Text) : Reading Document :=
  (keys? text).bind fun
    | (keys, '=' :: rest) =>
        (value? nestingLimit (rest.length + 1) (skipBlanks rest)).bind
          fun (value, rest) =>
            (document.entries.modify (Entries.insert value true keys)
                document.current).map
              fun entries => ({ document with entries }, rest)
    | _ => none

/-- Read one line, up to what may follow a header or an entry. -/
def line? (document : Document) (text : Text) : Reading Document :=
  match text with
  | [] | '\n' :: _ | '\r' :: '\n' :: _ | '#' :: _ => some (document, text)
  | '[' :: '[' :: rest =>
      (document.header? true rest).bind fun
        | (document, ']' :: ']' :: rest) => some (document, rest)
        | _ => none
  | '[' :: rest =>
      (document.header? false rest).bind fun
        | (document, ']' :: rest) => some (document, rest)
        | _ => none
  | _ => document.entry? text

/-- Read the remaining lines. -/
def lines? : Nat → Document → Text → Option Document
  | 0, _, _ => none
  | _ + 1, document, [] => some document
  | fuel + 1, document, text =>
      (document.line? (skipBlanks text)).bind fun (document, rest) =>
        (lineEnd? rest).bind fun rest => lines? fuel document rest

end Document

/-- The entries of a document, which may begin with a byte order mark. -/
def parse? (text : Text) : Option Entries :=
  let text :=
    match text with
    | '\ufeff' :: rest => rest
    | _ => text
  (Document.lines? (text.length + 1) {} text).map fun document =>
    document.entries

end BayesLex.Toml
