import AdmissionRules.Text.Unprinted

set_option autoImplicit false

/-! # Quoted text

A quoted text stands between double quotes. Quotes and backslashes inside are escaped, a few
controls have letters, and every other character without a visible form is written by its code
in braces. A list of texts is written in brackets. -/

namespace AdmissionRules.Text

/-- The code of a character in lower-case hexadecimal. -/
def hexCode (c : Char) : List Char := Nat.toDigits 16 c.toNat

/-- One character as it stands inside quotes. -/
def quotedChar (c : Char) : List Char :=
  if c = '"' then ['\\', '"']
  else if c = '\\' then ['\\', '\\']
  else if c = '\x00' then ['\\', '0']
  else if c = '\t' then ['\\', 't']
  else if c = '\r' then ['\\', 'r']
  else if c = '\n' then ['\\', 'n']
  else if isUnprinted c then ['\\', 'u', '\x7b'] ++ hexCode c ++ ['\x7d']
  else [c]

/-- The characters of a quoted text, the quotes included. -/
def quotedChars (s : List Char) : List Char := '"' :: s.flatMap quotedChar ++ ['"']

/-- A text in quotes. -/
def quoted (s : String) : String := String.ofList (quotedChars s.toList)

/-- A list of texts, each in quotes. -/
def quotedList (xs : List String) : String := "[" ++ ", ".intercalate (xs.map quoted) ++ "]"

end AdmissionRules.Text
