import BayesLex.Rule

/-!
# Descriptions of rules

A rule written out field by field, for people who put tables together.
-/

namespace BayesLex

/-- Texts between brackets, with a comma and a space between them. -/
def Text.list (texts : List Text) : Text :=
  "[".toList ++ List.intercalate ", ".toList texts ++ "]".toList

/-- The kinds a rule gives to its match. -/
def Emission.describe : Emission → Text
  | one kind => "One(".toList ++ kind.label ++ ")".toList
  | groups kinds =>
      "Groups(".toList ++ Text.list (kinds.map Kind.label) ++ ")".toList

/-- How a rule recognises text. -/
def Matcher.describe : Matcher → Text
  | pattern expression _ _ =>
      "Pattern(".toList ++ Quoted.text expression ++ ")".toList
  | scanner _ _ => "Scan".toList
  | head opener _ _ =>
      "Head(".toList ++ Quoted.character opener ++ ")".toList

/-- The fields of a rule. -/
def Rule.describe (rule : Rule) : Text :=
  "\x7b name: ".toList ++ Quoted.text rule.name.toList ++
    ", matcher: ".toList ++ rule.matcher.describe ++
    ", emit: ".toList ++ rule.emission.describe ++
    ", unless: ".toList ++ Text.list (rule.exclusions.map Quoted.text) ++
    " \x7d".toList

end BayesLex
