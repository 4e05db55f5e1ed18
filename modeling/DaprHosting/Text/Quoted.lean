import DaprHosting.Text.Ascii
import DaprHosting.Text.Unseen

/-!
# Quoted texts

A path in a message, like any text that is shown, stands in double quotes, on one line, with every
character visible: the quote and the backslash take a backslash, line ends, tab and NUL have escapes
of one letter, and a character without a shape of its own is written by its code point.
-/

namespace DaprHosting.Text

/-- A character between quotes. -/
def showChar (c : Char) : List Char :=
  if c = '"' then ['\\', '"']
  else if c = '\\' then ['\\', '\\']
  else if c = '\n' then ['\\', 'n']
  else if c = '\r' then ['\\', 'r']
  else if c = '\t' then ['\\', 't']
  else if c = '\x00' then ['\\', '0']
  else if isUnseen c then '\\' :: 'u' :: '\x7b' :: hex c.toNat ++ ['\x7d']
  else [c]

/-- A text in double quotes. -/
def quoted (s : String) : String := String.ofList ('"' :: s.toList.flatMap showChar ++ ['"'])

example : quoted "a\"\n" = "\"a\\\"\\n\"" := by decide +kernel

end DaprHosting.Text
