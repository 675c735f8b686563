import BayesLex.LexicalError
import BayesLex.Lexer

/-!
# Token streams

A token stream holds the tokens of a scan together with its source.
-/

namespace BayesLex

/-- The tokens of a scan in the order of the source. -/
structure TokenStream where
  source : Text
  tokens : List Token
  deriving DecidableEq

namespace TokenStream

/-- The kinds of the tokens. -/
def kinds (stream : TokenStream) : List Kind :=
  stream.tokens.map (fun token => token.kind)

/-- The tokens other than white space and comments. -/
def significant (stream : TokenStream) : List Token :=
  stream.tokens.filter (fun token => !token.kind.isTrivia)

/-- The texts of the tokens, one behind the other. -/
def reconstruct (stream : TokenStream) : Text :=
  stream.tokens.flatMap (fun token => token.text)

/-- The error that a token of kind `error` stands for. -/
def errorOf? (token : Token) : Option LexicalError :=
  if token.kind = .error then
    token.text.head?.map (fun character => { character, span := token.span })
  else
    none

/-- The characters that no rule accepts. -/
def errors (stream : TokenStream) : List LexicalError :=
  stream.tokens.filterMap errorOf?

/-- The errors, if there are any, refuse the stream. -/
def check (stream : TokenStream) : Except (List LexicalError) Unit :=
  match stream.errors with
  | [] => .ok ()
  | errors => .error errors

end TokenStream

/-- All tokens of a source by a table of rules. -/
def scanAll (table : RuleTable) (source : Text) : TokenStream where
  source
  tokens := ((Lexer.new table source).drain false).tokens

/-- All tokens of a source of the language. -/
def tokenize (source : Text) : TokenStream :=
  scanAll RuleTable.standard source

end BayesLex
