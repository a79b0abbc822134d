import Testbench.Text.Shown
/-!
# Quoted text

A quoted text stands between double quotes; inside, a quote and a backslash follow a backslash, four
controls have a letter or a zero, and every other character that does not show is written by its code
point in braces. What is written holds no blank but U+0020 and no quote that ends it early.
-/
namespace Testbench.Text

/-- Lower-case hexadecimal digits, without leading zeros. -/
def hex (n : Nat) : List Char := Nat.toDigits 16 n

/-- How one character is written inside quotes. -/
def escaped (c : Char) : List Char :=
  if c = '\x00' then ['\\', '0']
  else if c = '\t' then ['\\', 't']
  else if c = '\r' then ['\\', 'r']
  else if c = '\n' then ['\\', 'n']
  else if c = '"' then ['\\', '"']
  else if c = '\\' then ['\\', '\\']
  else if shows c then [c]
  else '\\' :: 'u' :: '\x7b' :: hex c.toNat ++ ['\x7d']

/-- A text between quotes. -/
def quoted (s : String) : String :=
  String.ofList ('"' :: s.toList.flatMap escaped ++ ['"'])

end Testbench.Text
