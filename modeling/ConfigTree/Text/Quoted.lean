import ConfigTree.Text.Visible

/-!
# Quoted text

Texts and characters as messages quote them: between quotes, with a backslash
before the quote itself, short escapes for five characters and the code point in
hexadecimal for every character that would not be seen.

## Main definitions

* `quote` — a text in double quotes; `quoteChar` — a character in single quotes.
-/

namespace ConfigTree.Text

/-- The hexadecimal digits of `n` in lower case, at least one. -/
def hex (n : Nat) : List Char := Nat.toDigits 16 n

/-- One character as it is written between two marks `mark`. -/
def escapeChar (mark c : Char) : List Char :=
  if c == '\x00' then ['\\', '0']
  else if c == '\t' then ['\\', 't']
  else if c == '\n' then ['\\', 'n']
  else if c == '\r' then ['\\', 'r']
  else if c == '\\' || c == mark then ['\\', c]
  else if isVisible c then [c]
  else ['\\', 'u', '\x7b'] ++ hex c.toNat ++ ['\x7d']

/-- A text in double quotes. -/
def quote (s : String) : String :=
  String.ofList (['"'] ++ s.toList.flatMap (escapeChar '"') ++ ['"'])

/-- A character in single quotes. -/
def quoteChar (c : Char) : String := String.ofList (['\''] ++ escapeChar '\'' c ++ ['\''])

end ConfigTree.Text
