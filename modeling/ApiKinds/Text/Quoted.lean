/-
  Text quoted in a message.

  * `quoted s` puts `s` between double quotes: a quote and a backslash are
    preceded by a backslash, tab, line feed, carriage return and the null
    character have letters of their own, and any other character that is not
    shown as it is becomes `\u` and its number in braces.
-/
import ApiKinds.Text.Basic
import ApiKinds.Text.HiddenTable
import ApiKinds.Text.CaseTable

namespace ApiKinds.Text

/-- Whether a character is written as it is inside quoted text. -/
def isShown (c : Char) : Bool :=
  if c.toNat < 0x80 then decide (0x20 ≤ c.toNat ∧ c.toNat ≤ 0x7E)
  else !inRanges hiddenRanges c.toNat

/-- The character's number between braces, behind `\u`. -/
def numbered (c : Char) : List Char :=
  ['\\', 'u', Char.ofNat 0x7B] ++ hexText c.toNat ++ [Char.ofNat 0x7D]

/-- A character as quoted text writes it. -/
def quotedChar (c : Char) : List Char :=
  if c = '"' ∨ c = '\\' then ['\\', c]
  else if c = '\t' then ['\\', 't']
  else if c = '\n' then ['\\', 'n']
  else if c = '\r' then ['\\', 'r']
  else if c.toNat = 0 then ['\\', '0']
  else if isShown c then [c]
  else numbered c

/-- The text between double quotes. -/
def quoted (s : String) : String :=
  .ofList (['"'] ++ s.toList.flatMap quotedChar ++ ['"'])

end ApiKinds.Text
