import BayesLex.Toml.Scalar

/-!
# Blanks, comments and strings of a TOML document

The readers take a text and give the rest behind what they read.  Those that
repeat count down from the length of the text, which they cannot exceed
because every repetition reads a character.
-/

namespace BayesLex.Toml

/-- What a reader found, and the text behind it. -/
abbrev Reading (α : Type) := Option (α × Text)

/-- Whether a character may not stand in a comment or a string. -/
def isControl (character : Char) : Bool :=
  (character.toNat < 0x20 && character ≠ '\t') || character.toNat = 0x7F

/-- Whether a character separates words on a line. -/
def isSeparator (character : Char) : Bool :=
  character = ' ' || character = '\t'

/-- The text behind blanks on the same line. -/
def skipBlanks (text : Text) : Text :=
  text.dropWhile isSeparator

/-- The text behind the end of a line. -/
def newline? : Text → Option Text
  | '\n' :: rest => some rest
  | '\r' :: '\n' :: rest => some rest
  | _ => none

/-- The text behind blanks, a comment and the end of the line. -/
def lineEnd? (text : Text) : Option Text :=
  let text := skipBlanks text
  let text :=
    if text.head? = some '#' then
      text.dropWhile (fun character => !isControl character)
    else
      text
  if text.isEmpty then some [] else newline? text

/-- The text behind any blanks, line ends and comments. -/
def gap? (comment : Bool) : Text → Option Text
  | [] => some []
  | '\n' :: rest => gap? false rest
  | '\r' :: '\n' :: rest => gap? false rest
  | character :: rest =>
      if comment then
        if isControl character then none else gap? true rest
      else if isSeparator character then
        gap? false rest
      else if character = '#' then
        gap? true rest
      else
        some (character :: rest)

/-- The character with a number of `count` hexadecimal digits. -/
def codePoint? (count : Nat) (text : Text) : Reading Char :=
  let digits := text.take count
  if digits.length = count && digits.all (· ≠ '_') then
    (Scalar.digits? 16 digits).bind fun code =>
      if code.isValidChar then
        some (Char.ofNat code, text.drop count)
      else
        none
  else
    none

/-- The character that stands behind a backslash. -/
def escape? : Text → Reading Char
  | 'b' :: rest => some ('\x08', rest)
  | 't' :: rest => some ('\t', rest)
  | 'n' :: rest => some ('\n', rest)
  | 'f' :: rest => some ('\x0c', rest)
  | 'r' :: rest => some ('\r', rest)
  | 'e' :: rest => some ('\x1b', rest)
  | '"' :: rest => some ('"', rest)
  | '\\' :: rest => some ('\\', rest)
  | 'x' :: rest => codePoint? 2 rest
  | 'u' :: rest => codePoint? 4 rest
  | 'U' :: rest => codePoint? 8 rest
  | _ => none

/-- The rest of a string on one line, behind the characters read, last first. -/
def stringFrom (mark : Char) : Nat → Text → Text → Reading Text
  | 0, _, _ => none
  | _ + 1, _, [] => none
  | fuel + 1, read, character :: rest =>
      if character = mark then
        some (read.reverse, rest)
      else if character = '\\' && mark = '"' then
        (escape? rest).bind fun (character, rest) =>
          stringFrom mark fuel (character :: read) rest
      else if isControl character then
        none
      else
        stringFrom mark fuel (character :: read) rest

/-- The text behind blanks and the ends of lines. -/
def skipLines : Text → Text
  | [] => []
  | '\n' :: rest => skipLines rest
  | '\r' :: '\n' :: rest => skipLines rest
  | character :: rest =>
      if isSeparator character then skipLines rest else character :: rest

/--
The text behind a backslash at the end of a line, if there is one.  All blanks
and line ends that follow belong to it.
-/
def continuation? (text : Text) : Option Text :=
  (newline? (skipBlanks text)).map skipLines

/-- The rest of a string of several lines, behind the characters read. -/
def longStringFrom (mark : Char) : Nat → Text → Text → Reading Text
  | 0, _, _ => none
  | _ + 1, _, [] => none
  | fuel + 1, read, character :: rest =>
      if character = mark then
        let marks := (character :: rest).takeWhile (· = mark)
        if marks.length < 3 then
          longStringFrom mark fuel (marks ++ read)
            ((character :: rest).drop marks.length)
        else
          let inside := min (marks.length - 3) 2
          some ((List.replicate inside mark ++ read).reverse,
            (character :: rest).drop (inside + 3))
      else if character = '\\' && mark = '"' then
        match continuation? rest with
        | some rest => longStringFrom mark fuel read rest
        | none =>
            (escape? rest).bind fun (character, rest) =>
              longStringFrom mark fuel (character :: read) rest
      else
        match newline? (character :: rest) with
        | some rest => longStringFrom mark fuel ('\n' :: read) rest
        | none =>
            if isControl character then
              none
            else
              longStringFrom mark fuel (character :: read) rest

/-- A string behind its first quotation mark. -/
def string? (mark : Char) (text : Text) : Reading Text :=
  stringFrom mark (text.length + 1) [] text

/-- A string of several lines behind its three quotation marks. -/
def longString? (mark : Char) (text : Text) : Reading Text :=
  let text := (newline? text).getD text
  longStringFrom mark (text.length + 1) [] text

end BayesLex.Toml
