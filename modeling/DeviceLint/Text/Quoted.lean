/-
A text between quotes, as messages show it.

A quote and a backslash are escaped by a backslash, a few control characters have
letters of their own, and every other character that would not be seen on its own,
such as a control, a space other than the plain one, or a mark that joins the
character before it, is shown by its code point.
-/
import DeviceLint.Text.Category
import DeviceLint.Text.Property

namespace DeviceLint.Text

/-- Whether a character would be lost on a reader. -/
def isHidden (c : Char) : Bool :=
  let category := Category.of c
  (Category.others.contains category || Category.separators.contains category ||
    Property.has "graphemeextend" c) && c != ' '

def hexDigits (n : Nat) : List Char := Nat.toDigits 16 n

def quotedChar (c : Char) : List Char :=
  if c == '"' then ['\\', '"']
  else if c == '\\' then ['\\', '\\']
  else if c == '\t' then ['\\', 't']
  else if c == '\n' then ['\\', 'n']
  else if c == '\r' then ['\\', 'r']
  else if c.toNat == 0 then ['\\', '0']
  else if isHidden c then ['\\', 'u', '\x7b'] ++ hexDigits c.toNat ++ ['\x7d']
  else [c]

end DeviceLint.Text

namespace DeviceLint

/-- A text as messages show it. -/
def quoted (s : String) : String :=
  String.ofList ('"' :: s.toList.flatMap Text.quotedChar ++ ['"'])

end DeviceLint
