/-
General categories of characters and the names they go by.

A name stands for one category, as `Lu`, or for a group of them, as `L`.
-/
import DeviceLint.Text.Run
import DeviceLint.Text.Category.Table

namespace DeviceLint.Text.Category

def runs : Array Run := Run.decode 2 table

/-- The two-letter category of a character. -/
def of (c : Char) : String := Run.codeOf runs c.toNat

def letters : List String := ["Lu", "Ll", "Lt", "Lm", "Lo"]

def marks : List String := ["Mn", "Mc", "Me"]

def numbers : List String := ["Nd", "Nl", "No"]

def punctuation : List String := ["Pc", "Pd", "Ps", "Pe", "Pi", "Pf", "Po"]

def symbols : List String := ["Sm", "Sc", "Sk", "So"]

def separators : List String := ["Zs", "Zl", "Zp"]

def others : List String := ["Cc", "Cf", "Cs", "Co", "Cn"]

/-- The categories a name stands for; names are in lower case without separators.  Surrogates are
no characters, and nothing stands for their category alone. -/
def named : List (List String × List String) := [
  (["l", "letter"], letters),
  (["lc", "casedletter"], ["Lu", "Ll", "Lt"]),
  (["lu", "uppercaseletter"], ["Lu"]),
  (["ll", "lowercaseletter"], ["Ll"]),
  (["lt", "titlecaseletter"], ["Lt"]),
  (["lm", "modifierletter"], ["Lm"]),
  (["lo", "otherletter"], ["Lo"]),
  (["m", "mark", "combiningmark"], marks),
  (["mn", "nonspacingmark"], ["Mn"]),
  (["mc", "spacingmark"], ["Mc"]),
  (["me", "enclosingmark"], ["Me"]),
  (["n", "number"], numbers),
  (["nd", "decimalnumber", "digit"], ["Nd"]),
  (["nl", "letternumber"], ["Nl"]),
  (["no", "othernumber"], ["No"]),
  (["p", "punctuation", "punct"], punctuation),
  (["pc", "connectorpunctuation"], ["Pc"]),
  (["pd", "dashpunctuation"], ["Pd"]),
  (["ps", "openpunctuation"], ["Ps"]),
  (["pe", "closepunctuation"], ["Pe"]),
  (["pi", "initialpunctuation"], ["Pi"]),
  (["pf", "finalpunctuation"], ["Pf"]),
  (["po", "otherpunctuation"], ["Po"]),
  (["s", "symbol"], symbols),
  (["sm", "mathsymbol"], ["Sm"]),
  (["sc", "currencysymbol"], ["Sc"]),
  (["sk", "modifiersymbol"], ["Sk"]),
  (["so", "othersymbol"], ["So"]),
  (["z", "separator"], separators),
  (["zs", "spaceseparator"], ["Zs"]),
  (["zl", "lineseparator"], ["Zl"]),
  (["zp", "paragraphseparator"], ["Zp"]),
  (["c", "other"], others),
  (["cc", "control", "cntrl"], ["Cc"]),
  (["cf", "format"], ["Cf"]),
  (["co", "privateuse"], ["Co"]),
  (["cn", "unassigned"], ["Cn"])]

def ofName? (name : String) : Option (List String) :=
  (named.find? (·.1.contains name)).map (·.2)

end DeviceLint.Text.Category
