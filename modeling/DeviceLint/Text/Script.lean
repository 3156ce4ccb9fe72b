/-
Scripts of characters and the names they go by.
-/
import DeviceLint.Text.Property
import DeviceLint.Text.Script.Table

namespace DeviceLint.Text.Script

def runs : Array Run := Run.decode 4 table

/-- The four-letter code of the script a character belongs to. -/
def of (c : Char) : String := Run.codeOf runs c.toNat

/-- The codes of all scripts under their names, in lower case without separators. -/
def named : List (String × String) :=
  (splitOn ' ' names.toList).filterMap fun entry =>
    (splitAt? ['='] entry).map fun (name, code) => (String.ofList name, String.ofList code)

def ofName? (name : String) : Option String := named.lookup name

/-- The ranges that a table has for each script. -/
def decode (table : List (String × String)) : List (String × List (Nat × Nat)) :=
  table.map fun (code, text) => (code, Property.decode text)

def borrowedRanges : List (String × List (Nat × Nat)) := decode borrowed

def lentRanges : List (String × List (Nat × Nat)) := decode lent

/-- What is used with a script without belonging to it. -/
def borrowedBy (code : String) : List (Nat × Nat) := (borrowedRanges.lookup code).getD []

/-- What belongs to a script and is used with others instead. -/
def lentBy (code : String) : List (Nat × Nat) := (lentRanges.lookup code).getD []

/-- Whether a character is used with a script. -/
def isUsedWith (code : String) (c : Char) : Bool :=
  inRanges c.toNat (borrowedBy code) || (of c == code && !inRanges c.toNat (lentBy code))

end DeviceLint.Text.Script
