import DaprHosting.Toml.Basic

/-!
# The words of other readers

A text that is no document, and a value that cannot be taken, are told in the words of the reader
that came upon them. These words are not chosen here: a message that holds them is a function of
them, and what is said of such messages is said for all words.
-/

namespace DaprHosting

/-- What other readers say of what they cannot read. -/
structure Wording where
  /-- Of a text that is no TOML. -/
  noToml : String → String
  /-- Of a value that the option of a key does not take. -/
  mismatch : String → Toml → String
  /-- Of a number that cannot be read. -/
  number : String → String
  /-- Of a text that is no extension. -/
  noExtension : String → String

/-- Plain words, the same for all that is wrong in one way. -/
def Wording.plain : Wording where
  noToml _ := "the text is no TOML"
  mismatch key _ := "the value of '" ++ key ++ "' is of another kind"
  number digits := "the number " ++ digits ++ " cannot be read"
  noExtension _ := "the text is no extension"

end DaprHosting
