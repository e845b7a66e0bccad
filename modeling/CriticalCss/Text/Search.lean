/-!
# Searching text

Whether a phrase occurs in a text.
-/

namespace CriticalCss.Text

/-- Whether a phrase occurs somewhere in a text. -/
def occursIn (phrase : List Char) : List Char → Bool
  | [] => phrase.isEmpty
  | char :: rest => phrase.isPrefixOf (char :: rest) || occursIn phrase rest

/-- Whether a text holds a phrase of small letters, in letters of either case. -/
def holds (text phrase : String) : Bool :=
  occursIn phrase.toList (text.toList.map Char.toLower)

end CriticalCss.Text
