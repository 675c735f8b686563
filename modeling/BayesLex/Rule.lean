import BayesLex.Regex.Engine
import BayesLex.Scanner
import BayesLex.Token
import BayesLex.WordMemo

/-!
# Lexical rules

A rule recognises text at the cursor in one of three ways: by a regular
expression, by a scanner, or as a word directly followed by an opening
character.  It turns what it recognised into lexemes that cover it without a
gap.  A rule never matches the empty text, and it does not apply where the
text starts with one of its exclusions.

An expression is anchored at the cursor by putting it into a group behind the
assertion that the text starts.  A rule keeps the text of the expression and an
engine that searches for it, whichever way the one has been made of the other.
-/

namespace BayesLex

/-- The kinds a pattern rule gives to its match. -/
inductive Emission where
  /-- The whole match is one token. -/
  | one (kind : Kind)
  /-- Each capture group ends a token, in the order of the groups. -/
  | groups (kinds : List Kind)
  deriving DecidableEq

/-- How a rule recognises text. -/
inductive Matcher where
  | pattern (expression : Text) (engine : Engine) (emission : Emission)
  | scanner (scanner : Scanner) (kind : Kind)
  /-- A word and directly behind it the character `opener`. -/
  | head (opener : Char) (nameKind openerKind : Kind)

/-- A lexical rule. -/
structure Rule where
  name : String
  matcher : Matcher
  exclusions : List Text := []

/-- Why a rule cannot be made. -/
inductive RuleError where
  | invalidPattern (name : String)
  | groupCount (name : String) (found expected : Nat)
  deriving DecidableEq

/-- What is said about a rule that cannot be made. -/
def RuleError.message : RuleError → Text
  | invalidPattern name =>
      "rule `".toList ++ name.toList ++ "` has an invalid pattern".toList
  | groupCount name found expected =>
      "rule `".toList ++ name.toList ++ "` has ".toList ++ Text.ofNat found ++
        " capture groups but emits ".toList ++ Text.ofNat expected ++
        " kinds".toList

/-- The lexemes of a match: one, and any number of others behind it. -/
structure Match where
  first : Lexeme
  others : List Lexeme
  deriving DecidableEq

namespace Match

/-- The lexemes in their order. -/
def lexemes (found : Match) : List Lexeme :=
  found.first :: found.others

/-- The text that is matched. -/
def text (found : Match) : Text :=
  Lexeme.texts found.lexemes

/-- A match of some lexemes, if there are any. -/
def ofLexemes? : List Lexeme → Option Match
  | [] => none
  | first :: others => some { first, others }

/-- A match of one lexeme, unless its text is empty. -/
def single? (kind : Kind) : Text → Option Match
  | [] => none
  | character :: rest =>
      some { first := { kind, text := character :: rest }, others := [] }

end Match

namespace Emission

/--
Cut the text `rest` at the ends of capture groups.  The groups are numbered
from `index`, and `place` characters of the match are covered already.  A
group that ends no farther is passed over, and what the groups leave of the
match gets the kind `filler`.
-/
def pieces (run : Run) (filler : Kind) :
    List Kind → Nat → Nat → Text → List Lexeme
  | [], _, place, rest =>
      if place < run.taken then
        [{ kind := filler, text := rest.take (run.taken - place) }]
      else
        []
  | kind :: kinds, index, place, rest =>
      match run.group? index with
      | none => pieces run filler kinds (index + 1) place rest
      | some capture =>
          if place < capture.stop then
            { kind, text := rest.take (capture.stop - place) } ::
              pieces run filler kinds (index + 1) capture.stop
                (rest.drop (capture.stop - place))
          else
            pieces run filler kinds (index + 1) place rest

/-- The lexemes of a match at the beginning of a text. -/
def cut (emission : Emission) (text : Text) (run : Run) : Option Match :=
  match emission with
  | one kind => Match.single? kind (text.take run.taken)
  | groups kinds =>
      Match.ofLexemes?
        (pieces run (kinds.getLast?.getD .error) kinds 1 0 text)

end Emission

namespace Rule

/-- An expression in a group behind the assertion that the text starts. -/
def anchor (expression : Text) : Text :=
  "^(?:".toList ++ expression ++ ")".toList

/-- A rule that matches a regular expression, with the engine compiled for it. -/
def patternBy (compile? : Text → Option Engine) (name : String)
    (expression : Text) (emission : Emission) : Except RuleError Rule :=
  match compile? (anchor expression) with
  | none => .error (.invalidPattern name)
  | some engine =>
      let rule : Rule :=
        { name
          matcher := .pattern (anchor expression) engine emission }
      match emission with
      | .one _ => .ok rule
      | .groups kinds =>
          if engine.groupCount = kinds.length then
            .ok rule
          else
            .error (.groupCount name engine.groupCount kinds.length)

/-- A rule that matches a regular expression by its automaton. -/
def pattern (name : String) (expression : Text) (emission : Emission) :
    Except RuleError Rule :=
  patternBy Regex.compile? name expression emission

/-- A rule that applies a scanner. -/
def scanner (name : String) (scanner : Scanner) (kind : Kind) : Rule where
  name
  matcher := .scanner scanner kind

/-- A rule for a word directly followed by `opener`. -/
def head (name : String) (opener : Char) : List Kind → Except RuleError Rule
  | [nameKind, openerKind] =>
      .ok { name, matcher := .head opener nameKind openerKind }
  | kinds => .error (.groupCount name 2 kinds.length)

/-- The same rule, except where the text starts with one of the exclusions. -/
def excluding (rule : Rule) (exclusions : List Text) : Rule :=
  { rule with exclusions }

/-- The kinds a rule gives to its match. -/
def emission (rule : Rule) : Emission :=
  match rule.matcher with
  | .pattern _ _ emission => emission
  | .scanner _ kind => .one kind
  | .head _ nameKind openerKind => .groups [nameKind, openerKind]

/-- Whether a rule does not apply to a text. -/
def excludes (rule : Rule) (rest : Text) : Bool :=
  rule.exclusions.any (fun exclusion => Text.startsWith exclusion rest)

/-- Try a rule at an offset with the text that follows it. -/
def match? (rule : Rule) (offset : Nat) (rest : Text) (memo : WordMemo) :
    Option Match × WordMemo :=
  if rule.excludes rest then
    (none, memo)
  else
    match rule.matcher with
    | .pattern _ engine emission =>
        ((engine.find? rest).bind (emission.cut rest), memo)
    | .scanner scanner kind =>
        (Match.single? kind (scanner.scan rest), memo)
    | .head opener nameKind openerKind =>
        match memo.lookup offset rest with
        | (none, memo) => (none, memo)
        | (some word, memo) =>
            if word.next = some opener then
              let name := (Text.split (word.stop - offset) rest).1
              (some
                { first := { kind := nameKind, text := name }
                  others := [{ kind := openerKind, text := [opener] }] },
                memo)
            else
              (none, memo)

/--
Try a rule at a byte offset of a source.  There is no answer when the offset
is not a place of the source.
-/
def matchAt? (rule : Rule) (source : Text) (offset : Nat) (memo : WordMemo) :
    Option (Option Match × WordMemo) :=
  (Text.drop? offset source).map (fun rest => rule.match? offset rest memo)

end Rule

end BayesLex
