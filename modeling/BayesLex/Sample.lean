/-!
# Sample models

Short pieces of the language and one longer model, for trying the lexer.
-/

namespace BayesLex.Sample

/-- A model of burglaries, earthquakes and alarms. -/
def burglary : String :=
  "/* The burglary network. */\n" ++
  "type House;\n" ++
  "distinct House Maryland, Ohio;\n" ++
  "\n" ++
  "random Boolean Burglary(House h) ~ BooleanDistrib(0.003);\n" ++
  "random Boolean Earthquake ~ BooleanDistrib(0.002);\n" ++
  "random Boolean Alarm(House h) ~\n" ++
  "  if Burglary(h) then\n" ++
  "    if Earthquake then BooleanDistrib(0.95) else BooleanDistrib(0.94)\n" ++
  "  else\n" ++
  "    if Earthquake then BooleanDistrib(0.29) else BooleanDistrib(0.001);\n" ++
  "\n" ++
  "// evidence\n" ++
  "obs Alarm(Maryland) = true;\n" ++
  "query Burglary(Maryland);\n" ++
  "query exists House h Burglary(h) != null;\n" ++
  "fixed String label = \"house \\\"A\\\"\";\n"

/-- All samples. -/
def all : List String :=
  ["type Person;",
    "distinct Person Alice, Bob, P[100];",
    "random Real x ~ Gaussian(0, 1);\nrandom Real y ~ Gaussian(x, 1);",
    "random type0 funcname(type1 x) =expression;\nrandom type0 funcname(type1 x) dependency-expression;",
    "random NaturalNum x ~ Poisson(a);",
    "param Real a: 0 < a & a < 10 ;",
    "random Real funcname(type1 x);",
    "1.0 + 2.0 * 3.0 - 4.0",
    "Twice( 10.0 ) * 5.5",
    "fixed NaturalNum[] c = [1, 2, 3, 4, 5, 6, 7, 8, 9, 10];",
    "fixed NaturalNum[][] table = [1, 2, 3; 4, 5, 6];",
    "fixed List<NaturalNum> a = List(1, 2, 3, 4, 5, 6);",
    "fixed Map<Boolean, Real> map1 = \x7btrue -> 0.3, false -> 0.7\x7d;",
    "Categorical<Boolean> cpd1 =Categorical(\x7btrue -> 0.3, false -> 0.7\x7d);",
    "List",
    burglary]

end BayesLex.Sample
