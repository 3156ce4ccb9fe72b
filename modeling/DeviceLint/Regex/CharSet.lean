/-
Sets of characters.

A set is an expression; nothing is tabulated.  A set closed under case holds a character
as soon as it holds any other that is the same letter in another case, so that closing
a set twice changes nothing while closing and negating do not commute.
-/
import DeviceLint.Text.Blank
import DeviceLint.Text.Category
import DeviceLint.Text.Property
import DeviceLint.Text.Script

namespace DeviceLint

inductive CharSet where
  | nothing
  | anything
  /-- All characters from one to another. -/
  | range (first last : Char)
  /-- Decimal digits of all scripts. -/
  | digits
  /-- What separates words. -/
  | blanks
  /-- What words are made of. -/
  | wordChars
  /-- Characters of some general categories. -/
  | category (codes : List String)
  /-- Characters with a property. -/
  | property (name : String)
  /-- Characters of a script. -/
  | script (code : String)
  /-- Characters that are used with a script. -/
  | usedWith (code : String)
  /-- Characters for which a property about breaks has a value. -/
  | breaking (property value : String)
  /-- Characters that came with one of the first so many versions. -/
  | versions (count : Nat)
  | union (a b : CharSet)
  | intersection (a b : CharSet)
  | difference (a b : CharSet)
  | symmetricDifference (a b : CharSet)
  | complement (a : CharSet)
  /-- Closed under case. -/
  | caseless (a : CharSet)
  /-- Closed under the case of the letters A to Z only. -/
  | asciiCaseless (a : CharSet)
  deriving DecidableEq, Repr

namespace CharSet

def single (c : Char) : CharSet := .range c c

def unionAll (sets : List CharSet) : CharSet := sets.foldl .union .nothing

def contains : CharSet → Char → Bool
  | nothing, _ => false
  | anything, _ => true
  | range a b, c => a ≤ c && c ≤ b
  | digits, c => Text.isDecimalDigit c
  | blanks, c => Text.isBlank c
  | wordChars, c => Text.isWordChar c
  | category codes, c => codes.contains (Text.Category.of c)
  | property name, c => Text.Property.has name c
  | script code, c => Text.Script.of c == code
  | usedWith code, c => Text.Script.isUsedWith code c
  | breaking name value, c =>
    Text.inRanges c.toNat ((Text.Property.breakOfNames? name value).getD [])
  | versions count, c => Text.Property.isInVersions count c
  | union a b, c => a.contains c || b.contains c
  | intersection a b, c => a.contains c && b.contains c
  | difference a b, c => a.contains c && !b.contains c
  | symmetricDifference a b, c => a.contains c != b.contains c
  | complement a, c => !a.contains c
  | caseless a, c => (Text.caseVariants c).any a.contains
  | asciiCaseless a, c => a.contains c.toLower || a.contains c.toUpper || a.contains c

/-! ### Sets with names -/

def asciiDigits : CharSet := .range '0' '9'

def asciiUpper : CharSet := .range 'A' 'Z'

def asciiLower : CharSet := .range 'a' 'z'

def asciiLetters : CharSet := .union asciiUpper asciiLower

def asciiWordChars : CharSet := unionAll [asciiDigits, asciiLetters, single '_']

def asciiBlanks : CharSet := .union (.range '\t' '\r') (single ' ')

/-- The sets that a bracket may hold by name, as in `[[:alpha:]]`. -/
def ofAsciiName? (name : String) : Option CharSet :=
  [("alnum", .union asciiDigits asciiLetters), ("alpha", asciiLetters),
    ("ascii", .range '\x00' '\x7f'), ("blank", .union (single '\t') (single ' ')),
    ("cntrl", .union (.range '\x00' '\x1f') (single '\x7f')), ("digit", asciiDigits),
    ("graph", .range '!' '~'), ("lower", asciiLower), ("print", .range ' ' '~'),
    ("punct", unionAll [.range '!' '/', .range ':' '@', .range '[' (Char.ofNat 0x60),
      .range (Char.ofNat 0x7B) '~']),
    ("space", asciiBlanks), ("upper", asciiUpper), ("word", asciiWordChars),
    ("xdigit", unionAll [asciiDigits, .range 'A' 'F', .range 'a' 'f'])].lookup name

/-- A name without separators, capitals and a leading `is`. -/
def normalName (name : List Char) : String :=
  let keeps := fun c => c.toNat < 0x80 && c != ' ' && c != '_' && c != '-'
  let bare := fun s => (s.filter keeps).map Char.toLower
  match name with
  | i :: s :: rest =>
    if i.toLower == 'i' && s.toLower == 's' then
      let rest := bare rest
      String.ofList (if rest == ['c'] then ['i', 's', 'c'] else rest)
    else String.ofList (bare name)
  | _ => String.ofList (bare name)

/-- The characters of a general category, or of one of the wider classes that go with them. -/
def ofCategoryName? (name : String) : Option CharSet :=
  if name == "any" then some .anything
  else if name == "assigned" then some (.complement (.category ["Cn"]))
  else if name == "ascii" then some (.range '\x00' '\x7f')
  else (Text.Category.ofName? name).map .category

def ofScriptName? (name : String) : Option CharSet := (Text.Script.ofName? name).map .script

/-- Names that mean a category although they abbreviate a property as well. -/
def isCategoryFirst (name : String) : Bool := ["cf", "sc", "lc"].contains name

/-- The characters of a property, a category or a script. -/
def ofName? (name : List Char) : Option CharSet :=
  let name := normalName name
  if !isCategoryFirst name && (Text.Property.ofName? name).isSome then some (.property name)
  else (ofCategoryName? name).or (ofScriptName? name)

/-- The characters for which a property has a value. -/
def ofProperty? (property value : List Char) : Option CharSet :=
  let property := normalName property
  let value := normalName value
  if ["gc", "generalcategory"].contains property then ofCategoryName? value
  else if ["sc", "script"].contains property then ofScriptName? value
  else if ["scx", "scriptextensions"].contains property then
    (Text.Script.ofName? value).map .usedWith
  else if property == "age" then (Text.Property.ageOfName? value).map .versions
  else (Text.Property.breakOfNames? property value).map fun _ => .breaking property value

end CharSet

end DeviceLint
