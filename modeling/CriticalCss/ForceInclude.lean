import CriticalCss.Pattern.Matcher

/-!
# Selectors that are always kept

An entry names one selector, or describes many by a pattern.
-/

namespace CriticalCss

/-- A pattern together with the text it was read from. -/
structure Regex where
  source : String
  compiled : Pattern.Compiled
  parsed : Pattern.parse source = .ok compiled

/-- A selector, or a pattern of selectors, that always counts as critical. -/
inductive ForceInclude where
  | literal (selector : String)
  | pattern (regex : Regex)

namespace ForceInclude

/-- The entry for the universal selector. -/
def universal : ForceInclude := literal "*"

/-- An entry for the selectors that a pattern matches somewhere. -/
def ofPattern (source : String) : Except Pattern.Error ForceInclude :=
  match parsed : Pattern.parse source with
  | .ok compiled => .ok (pattern ⟨source, compiled, parsed⟩)
  | .error error => .error error

/-- Whether an entry covers a selector. -/
def covers (selector : String) : ForceInclude → Bool
  | literal wanted => wanted == selector
  | pattern regex => regex.compiled.matchesIn selector

/-- Whether an entry is a selector by name, and not a pattern. -/
def isLiteral : ForceInclude → Bool
  | literal _ => true
  | pattern _ => false

/-- The selector or the text of the pattern. -/
def value : ForceInclude → String
  | literal selector => selector
  | pattern regex => regex.source

/-- Whether an entry names the universal selector. -/
def isUniversal : ForceInclude → Bool
  | literal selector => selector == "*"
  | pattern _ => false

end ForceInclude

end CriticalCss
