import MetricsAgent.Pattern.CharSet

/-!
# Names of properties

Categories, scripts and other properties of characters go by several names, which are compared
without case, blanks, hyphens and underscores, and with or without a leading `is`.
-/

namespace MetricsAgent.Pattern

open Unicode

/-- The name without what does not count when names are compared. -/
def looseName (name : String) : String :=
  let strip (cs : List Char) : List Char :=
    (cs.filter fun c => c.toNat < 128 && c != ' ' && c != '_' && c != '-').map Char.toLower
  match name.toList with
  | i :: s :: rest =>
    if i.toLower = 'i' ∧ s.toLower = 's' ∧ strip rest ≠ ['c'] then String.ofList (strip rest)
    else String.ofList (strip (i :: s :: rest))
  | cs => String.ofList (strip cs)

def letterCategories : List Category := [.lu, .ll, .lt, .lm, .lo]

def categoriesNamed : List (List String × List Category) := [
  (["lu", "uppercaseletter"], [.lu]), (["ll", "lowercaseletter"], [.ll]),
  (["lt", "titlecaseletter"], [.lt]), (["lc", "casedletter"], [.lu, .ll, .lt]),
  (["lm", "modifierletter"], [.lm]), (["lo", "otherletter"], [.lo]),
  (["l", "letter"], letterCategories),
  (["mn", "nonspacingmark"], [.mn]), (["mc", "spacingmark"], [.mc]), (["me", "enclosingmark"], [.me]),
  (["m", "mark", "combiningmark"], [.mn, .mc, .me]),
  (["nd", "decimalnumber", "digit"], [.nd]), (["nl", "letternumber"], [.nl]),
  (["no", "othernumber"], [.no]), (["n", "number"], [.nd, .nl, .no]),
  (["pc", "connectorpunctuation"], [.pc]), (["pd", "dashpunctuation"], [.pd]),
  (["ps", "openpunctuation"], [.ps]), (["pe", "closepunctuation"], [.pe]),
  (["pi", "initialpunctuation"], [.pi]), (["pf", "finalpunctuation"], [.pf]),
  (["po", "otherpunctuation"], [.po]),
  (["p", "punctuation", "punct"], [.pc, .pd, .ps, .pe, .pi, .pf, .po]),
  (["sm", "mathsymbol"], [.sm]), (["sc", "currencysymbol"], [.sc]), (["sk", "modifiersymbol"], [.sk]),
  (["so", "othersymbol"], [.so]), (["s", "symbol"], [.sm, .sc, .sk, .so]),
  (["zs", "spaceseparator"], [.zs]), (["zl", "lineseparator"], [.zl]),
  (["zp", "paragraphseparator"], [.zp]), (["z", "separator"], [.zs, .zl, .zp]),
  (["cc", "control", "cntrl"], [.cc]), (["cf", "format"], [.cf]), (["co", "privateuse"], [.co])]

/-- The set of a general category, or of a group of them. -/
def categoryNamed? (name : String) : Option CharSet :=
  if name = "any" then some (.property .any)
  else if name = "ascii" then some (.property .ascii)
  else if name = "assigned" then some (.property .assigned)
  else if name = "cn" ∨ name = "unassigned" then some (.compl (.property .assigned))
  else if name = "c" ∨ name = "other" then
    some (.union (.ofList [.category .cc, .category .cf, .category .co])
      (.compl (.property .assigned)))
  else (categoriesNamed.find? (·.1.contains name)).map fun row => .ofList (row.2.map .category)

def scriptNamed? (name : String) : Option CharSet :=
  (scripts.findIdx? (·.names.contains name)).map .script

def propertiesNamed : List (List String × Property) := [
  (["alphabetic", "alpha"], .alphabetic), (["lowercase", "lower"], .lowercase),
  (["uppercase", "upper"], .uppercase), (["cased"], .cased), (["caseignorable", "ci"], .caseIgnorable),
  (["whitespace", "wspace", "space"], .whiteSpace), (["dash"], .dash), (["hexdigit", "hex"], .hexDigit),
  (["asciihexdigit", "ahex"], .asciiHexDigit), (["math"], .math), (["emoji"], .emoji),
  (["ideographic", "ideo"], .ideographic), (["joincontrol", "joinc"], .joinControl),
  (["idstart", "ids", "xidstart", "xids"], .identifierStart),
  (["idcontinue", "idc", "xidcontinue", "xidc"], .identifierContinue)]

/-- The set that a name alone stands for. -/
def propertyNamed? (name : String) : Option CharSet :=
  let name := looseName name
  let named := if name = "cf" ∨ name = "sc" ∨ name = "lc" then none
    else (propertiesNamed.find? (·.1.contains name)).map fun row => .property row.2
  named <|> categoryNamed? name <|> scriptNamed? name

/-- The set of a value of a property that has values. -/
def propertyValue? (property value : String) : Option CharSet :=
  let property := looseName property
  let value := looseName value
  if property = "generalcategory" ∨ property = "gc" then categoryNamed? value
  else if property = "script" ∨ property = "sc" ∨ property = "scriptextensions" ∨ property = "scx" then
    scriptNamed? value
  else none

end MetricsAgent.Pattern
