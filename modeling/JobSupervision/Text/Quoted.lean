/-
# Quoted text

The form in which a text is shown inside a message or an inspection text: between double
quotes, with a backslash escape for the quote, the backslash, the four controls that have
a letter, and every character that is not shown as it is.
-/
import JobSupervision.Text.Printable

namespace JobSupervision.Text

/-- The hexadecimal digits of a number, in lower case. -/
def hex (n : Nat) : List Char := Nat.toDigits 16 n

/-- A character as it stands inside a quoted text. -/
def escapeChar (c : Char) : List Char :=
  if c = '\x00' then ['\\', '0']
  else if c = '\t' then ['\\', 't']
  else if c = '\r' then ['\\', 'r']
  else if c = '\n' then ['\\', 'n']
  else if c = '\\' then ['\\', '\\']
  else if c = '"' then ['\\', '"']
  else if isShown c then [c]
  else ['\\', 'u', '\x7b'] ++ hex c.toNat ++ ['\x7d']

/-- A text between double quotes. -/
def quote (text : String) : String :=
  String.ofList ('"' :: text.toList.flatMap escapeChar ++ ['"'])

end JobSupervision.Text
