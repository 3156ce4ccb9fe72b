/-
Comparison that ignores the case of the letters A to Z.

Only the twenty-six ASCII letters are folded: `É` and `é` stay different, as do `K`
and the Kelvin sign.
-/

namespace DeviceLint.Text

/-- Equal up to the case of ASCII letters. -/
def eqIgnoreAsciiCase (s t : List Char) : Bool := s.map Char.toLower == t.map Char.toLower

end DeviceLint.Text

namespace DeviceLint

/-- Equal up to the case of ASCII letters. -/
def sameWord (s t : String) : Bool := Text.eqIgnoreAsciiCase s.toList t.toList

end DeviceLint
