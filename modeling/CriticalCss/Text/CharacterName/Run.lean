/-!
# Runs of character names

Characters that follow one another often have names that begin alike.  A run holds the names of such
characters: what they begin with, and how each of them goes on.
-/

namespace CriticalCss.Text

/-- The names of consecutive characters, the first of them at a code point.  The endings stand in
rows, with commas between them; where one is missing, the code point has no name in the run. -/
structure NameRun where
  first : Nat
  beginning : String
  rows : List String
  deriving DecidableEq

namespace NameRun

/-- How the names of a run go on behind what they begin with. -/
def endings (run : NameRun) : List String := run.rows.flatMap (·.splitOn ",")

/-- The code point of a name in a run. -/
def codeOf? (run : NameRun) (name : List Char) : Option Nat :=
  let beginning := run.beginning.toList
  if beginning.isPrefixOf name && decide (beginning.length < name.length) then
    let ending := String.ofList (name.drop beginning.length)
    (run.endings.idxOf? ending).map (run.first + ·)
  else none

end NameRun

end CriticalCss.Text
