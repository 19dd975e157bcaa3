import Enrolment.Text.Hex
import Enrolment.Text.Unprintable

/-!
# Texts shown in messages

A message that quotes a text shows it between double quotes, with escapes for
the double quote, the backslash, the usual controls and every unprintable
character.  Everything else stands as it is.

## Main definitions

* `showChar` — a character as it is shown.
* `shown` — a text as it is shown.
-/

namespace Enrolment.Text

/-- A character as a message shows it. -/
def showChar (c : Char) : List Char :=
  if c = '"' then ['\\', '"']
  else if c = '\\' then ['\\', '\\']
  else if c = '\t' then ['\\', 't']
  else if c = '\n' then ['\\', 'n']
  else if c = '\r' then ['\\', 'r']
  else if c.toNat = 0 then ['\\', '0']
  else if isUnprintable c then ['\\', 'u', '{'] ++ (hexNumber c.toNat).toList ++ ['}']
  else [c]

/-- A text as a message shows it. -/
def shown (s : String) : String :=
  String.ofList ('"' :: (s.toList.flatMap showChar ++ ['"']))

end Enrolment.Text
