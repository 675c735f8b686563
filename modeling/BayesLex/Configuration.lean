import BayesLex.Toml.Reader

/-!
# Configuration

The configuration is a TOML document with two truth values.  A key that is
missing has its default, and other keys are ignored.
-/

namespace BayesLex

/-- What can be configured. -/
structure Configuration where
  /-- Show white space and comments in listings. -/
  showTrivia : Bool := true
  /-- Color listings and diagnostics. -/
  color : Bool := true
  deriving DecidableEq

namespace Configuration

/-- The name of the file that holds the configuration. -/
def fileName : String := "blog.toml"

/-- The truth value under a key, or its default. -/
def truth? (entries : Toml.Entries) (key : String) (default : Bool) :
    Option Bool :=
  match entries.lookup key.toList with
  | none => some default
  | some (.boolean value) => some value
  | some _ => none

/-- Read a configuration. -/
def parse? (text : Text) : Option Configuration := do
  let entries ← Toml.parse? text
  let defaults : Configuration := {}
  let showTrivia ← truth? entries "show_trivia" defaults.showTrivia
  let color ← truth? entries "color" defaults.color
  return { showTrivia, color }

/-- The fields of a configuration. -/
def describe (configuration : Configuration) : Text :=
  "\x7b show_trivia: ".toList ++
    (toString configuration.showTrivia).toList ++ ", color: ".toList ++
    (toString configuration.color).toList ++ " \x7d".toList

end Configuration

end BayesLex
