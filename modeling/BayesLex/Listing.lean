import BayesLex.Color
import BayesLex.Text.Field
import BayesLex.TokenStream

/-!
# Listings

A listing has one line for each token: its position, its kind and its quoted
text.  Position and kind stand in fields of a fixed width, which are filled
before the color is added, so that colors do not disturb the columns.
-/

namespace BayesLex.Listing

/-- The width of the field for the position. -/
def positionWidth : Nat := 8

/-- The width of the field for the kind. -/
def kindWidth : Nat := 16

/-- The line for one token. -/
def line (colors : Bool) (file : SourceFile) (token : Token) : Text :=
  Text.pad positionWidth .left (file.position token.start).label ++
    token.kind.color.paint colors
      (Text.pad kindWidth .left token.kind.label) ++
    Quoted.text token.text ++ ['\n']

/-- The tokens that a listing shows. -/
def shown (showTrivia : Bool) (stream : TokenStream) : List Token :=
  stream.tokens.filter (fun token => showTrivia || !token.kind.isTrivia)

/-- The lines for the tokens of a stream. -/
def render (colors showTrivia : Bool) (file : SourceFile)
    (stream : TokenStream) : Text :=
  (shown showTrivia stream).flatMap (line colors file)

/-- One message for each error of a stream. -/
def diagnostics (file : SourceFile) (stream : TokenStream) : List Text :=
  stream.errors.map (fun error => error.located file)

end BayesLex.Listing
