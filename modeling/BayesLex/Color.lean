import BayesLex.Kind

/-!
# Colors

A colored text stands between two escape sequences for the terminal: one that
sets the color and one that resets it.  Where the text itself holds a reset,
the color is set again behind it.
-/

namespace BayesLex

/-- A color of the terminal. -/
inductive Color where
  | red
  | green
  | yellow
  | blue
  | magenta
  | cyan
  | white
  | brightBlack
  deriving DecidableEq

namespace Color

/-- The name of a color. -/
def name : Color → String
  | red => "Red"
  | green => "Green"
  | yellow => "Yellow"
  | blue => "Blue"
  | magenta => "Magenta"
  | cyan => "Cyan"
  | white => "White"
  | brightBlack => "BrightBlack"

/-- The number that a terminal knows a color by. -/
def code : Color → Nat
  | red => 31
  | green => 32
  | yellow => 33
  | blue => 34
  | magenta => 35
  | cyan => 36
  | white => 37
  | brightBlack => 90

/-- The escape sequence that sets a color. -/
def sequence (color : Color) : Text :=
  ['\x1b', '['] ++ Text.ofNat color.code ++ ['m']

/-- The escape sequence that resets the color. -/
def reset : Text :=
  ['\x1b', '[', '0', 'm']

/-- Set the color again behind every reset inside a text. -/
def restore (color : Color) : Text → Text
  | [] => []
  | '\x1b' :: '[' :: '0' :: 'm' :: rest =>
      reset ++ color.sequence ++ restore color rest
  | character :: rest => character :: restore color rest

/-- A text in a color, if colors are on. -/
def paint (enabled : Bool) (color : Color) (text : Text) : Text :=
  if enabled then
    color.sequence ++ color.restore text ++ reset
  else
    text

end Color

/-- The color for tokens of a kind. -/
def Kind.color : Kind → Color
  | identifier => .white
  | functionName => .cyan
  | typeName => .green
  | keyword | keywordConstant => .magenta
  | operator | punctuation => .yellow
  | stringLiteral | integerLiteral | floatLiteral => .blue
  | lineComment | blockComment | whitespace => .brightBlack
  | error => .red

end BayesLex
