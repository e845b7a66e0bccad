import CriticalCss.Document

/-!
# Snapshots

The content of a page at one moment, given by a table: which elements a selector selects, and what
measuring each of them gives.
-/

namespace CriticalCss

/-- What measuring an element gives. -/
structure Box where
  top : Except Fault Value
  position : Except Fault Value

/-- An element, named by the selector that selected it and its place among the selected. -/
structure Located where
  selector : String
  index : Nat
  box : Box

/-- The name of an element. -/
def Located.name (element : Located) : String := s!"{element.selector}#{element.index}"

/-- The content of a page. -/
structure Snapshot where
  /-- The elements that selectors select; other selectors select none. -/
  selected : List (String × List Box)
  /-- Selectors that the page refuses as malformed. -/
  invalid : List String
  /-- Selectors whose look-up fails for another reason. -/
  failing : List (String × Fault)

namespace Snapshot

/-- Elements with their names. -/
def locate (selector : String) (boxes : List Box) : List Located :=
  boxes.mapIdx fun index box => ⟨selector, index, box⟩

/-- Looks up the elements of a selector. -/
def query (snapshot : Snapshot) (selector : String) : Except Fault (List Located) :=
  if snapshot.invalid.contains selector then .error (.invalidSelector selector)
  else match snapshot.failing.lookup selector with
    | some fault => .error fault
    | none => .ok (locate selector ((snapshot.selected.lookup selector).getD []))

/-- A snapshot as a document. -/
def document (snapshot : Snapshot) : Document Located where
  query := snapshot.query
  top _ element := element.box.top
  position element := element.box.position

/-- Replaces the elements of a selector. -/
def insert (snapshot : Snapshot) (selector : String) (boxes : List Box) : Snapshot :=
  { snapshot with
    selected := (selector, boxes) :: snapshot.selected.filter fun entry => entry.1 != selector }

/-- Takes away the elements of a selector. -/
def remove (snapshot : Snapshot) (selector : String) : Snapshot :=
  { snapshot with selected := snapshot.selected.filter fun entry => entry.1 != selector }

end Snapshot

end CriticalCss
