/-!
# Lines

Line ends in files are line feeds, carriage returns or both together.  A message may be broken into
lines by more characters than that.
-/

namespace CriticalCss.Text

/-- Text with every line end turned into a line feed. -/
def unifyLineEnds : List Char → List Char
  | '\r' :: '\n' :: rest => '\n' :: unifyLineEnds rest
  | '\r' :: rest => '\n' :: unifyLineEnds rest
  | char :: rest => char :: unifyLineEnds rest
  | [] => []

/-- Whether a character ends a line of a message. -/
def endsLine (char : Char) : Bool :=
  ['\n', '\r', '\x0b', '\x0c', '\x1c', '\x1d', '\x1e', '\u0085', '\u2028', '\u2029'].contains char

/-- The first line of a message, without its end; an empty message has no line. -/
def firstLine? (text : String) : Option String :=
  match text.toList with
  | [] => none
  | chars => some (String.ofList (chars.takeWhile fun char => !endsLine char))

end CriticalCss.Text
