import CriticalCss.Pattern.CharacterSet
import CriticalCss.Pattern.Parser

/-!
# Matching

A part of a pattern is matched by trying its possibilities in order; what follows the part is given
as a continuation, so that a possibility that lets the rest fail is given up for the next one.
-/

namespace CriticalCss.Pattern

/-- Where a match stands: a position, and the places where groups last began and ended. -/
structure Progress where
  position : Nat
  starts : List (Nat × Nat)
  ends : List (Nat × Nat)

/-- What follows a part of a pattern. -/
abbrev Continuation := Progress → Option Progress

/-- A part of a pattern as a way to carry a continuation over it. -/
abbrev Step := Continuation → Continuation

namespace Progress

/-- The span last matched by a group. -/
def span? (progress : Progress) (group : Nat) : Option (Nat × Nat) :=
  match progress.starts.lookup group, progress.ends.lookup group with
  | some first, some last => if first ≤ last then some (first, last) else none
  | _, _ => none

end Progress

/-- Whether the character at a position is a line feed. -/
def isLineFeed (text : Array Char) (position : Nat) : Bool := text[position]? == some '\n'

/-- Whether the character at a position belongs to a word. -/
def isWordAt (flags : Flags) (text : Array Char) (position : Nat) : Bool :=
  match text[position]? with
  | some char => Category.word.contains flags.ascii char.toNat
  | none => false

/-- Whether a word begins or ends at a position. -/
def isWordEdge (flags : Flags) (text : Array Char) (position : Nat) : Bool :=
  (decide (0 < position) && isWordAt flags text (position - 1)) != isWordAt flags text position

/-- Whether an anchor holds at a position.  An empty text has neither an edge nor an inside of a
word. -/
def Anchor.holds (flags : Flags) (text : Array Char) (position : Nat) : Anchor → Bool
  | lineStart => position == 0 || flags.multiline && isLineFeed text (position - 1)
  | lineEnd =>
    position == text.size || isLineFeed text position &&
      (flags.multiline || position + 1 == text.size)
  | textStart => position == 0
  | textEnd => position == text.size
  | wordEdge => !text.isEmpty && isWordEdge flags text position
  | wordInside => !text.isEmpty && !isWordEdge flags text position

/-- Matches one character of a class. -/
def matchChar (text : Array Char) (accepted : Nat → Bool) : Step := fun rest progress =>
  match text[progress.position]? with
  | some char =>
    if accepted char.toNat then rest { progress with position := progress.position + 1 } else none
  | none => none

/-- Matches the text of an earlier span again. -/
def matchSpan (flags : Flags) (text : Array Char) (first last : Nat) : Step :=
  fun rest progress =>
    let length := last - first
    let same := (List.range length).all fun index =>
      match text[first + index]?, text[progress.position + index]? with
      | some wanted, some found =>
        if flags.ignoreCase then flags.lower wanted.toNat == flags.lower found.toNat
        else wanted == found
      | _, _ => false
    if same then rest { progress with position := progress.position + length } else none

/-- A step so many times. -/
def Step.times (step : Step) : Nat → Step
  | 0 => id
  | count + 1 => fun rest => step fun progress => step.times count rest progress

/-- A step at most so many times, as often as possible first.  A repetition that took up no
character is not followed by another. -/
def Step.greedily (step : Step) : Nat → Option Nat → Step
  | 0, _ => id
  | count + 1, last => fun rest progress =>
    if last = some progress.position then rest progress
    else match step (step.greedily count (some progress.position) rest) progress with
      | some found => some found
      | none => rest progress

/-- A step at most so many times, as rarely as possible first. -/
def Step.lazily (step : Step) : Nat → Option Nat → Step
  | 0, _ => id
  | count + 1, last => fun rest progress =>
    match rest progress with
    | some found => some found
    | none =>
      if last = some progress.position then none
      else step (step.lazily count (some progress.position) rest) progress

/-- A step at most so many times, as often as it goes, whatever follows. -/
def Step.possessively (step : Step) : Nat → Progress → Progress
  | 0, progress => progress
  | count + 1, progress =>
    match step some progress with
    | some further =>
      if further.position = progress.position then further
      else step.possessively count further
    | none => progress

/-- A step exactly so many times, each time without coming back to it. -/
def Step.firmly (step : Step) : Nat → Progress → Option Progress
  | 0, progress => some progress
  | count + 1, progress => (step some progress).bind (step.firmly count)

/-- A step repeated.  Repetitions beyond the least number each take up a character, but for the
last, so the length of the text bounds them. -/
def Step.repeated (step : Step) (size : Nat) (appetite : Appetite) (least : Nat)
    (most : Option Nat) : Step :=
  let extra := match most with
    | some most => min (most - least) (size + 2)
    | none => size + 2
  match appetite with
  | .greedy => step.times least ∘ step.greedily extra none
  | .lazy => step.times least ∘ step.lazily extra none
  | .possessive => fun rest progress =>
    (step.firmly least progress).bind fun further => rest (step.possessively extra further)

/-- A part of a pattern as a step. -/
def Tree.step (text : Array Char) (flags : Flags) : Tree → Step
  | .empty => id
  | .char code => matchChar text (flags.sameChar code)
  | .notChar code => matchChar text fun char => !flags.sameChar code char
  | .any => matchChar text fun char => flags.dotAll || char != 10
  | .set negated items => matchChar text (setContains flags negated items)
  | .anchor place => fun rest progress =>
    if place.holds flags text progress.position then rest progress else none
  | .reference group _ => fun rest progress =>
    match progress.span? group with
    | some (first, last) => matchSpan flags text first last rest progress
    | none => none
  | .seq first second => first.step text flags ∘ second.step text flags
  | .alt first second => fun rest progress =>
    match first.step text flags rest progress with
    | some found => some found
    | none => second.step text flags rest progress
  | .capture group body => fun rest progress =>
    body.step text flags
      (fun inside => rest { inside with ends := (group, inside.position) :: inside.ends })
      { progress with starts := (group, progress.position) :: progress.starts }
  | .flagged added removed body => body.step text (flags.within added removed)
  | .atomic body => fun rest progress => (body.step text flags some progress).bind rest
  | .look behind negated body => fun rest progress =>
    let back := if behind then body.width.least else 0
    let found :=
      if progress.position < back then none
      else body.step text flags some { progress with position := progress.position - back }
    match negated, found with
    | false, some inside => rest { inside with position := progress.position }
    | true, none => rest progress
    | _, _ => none
  | .conditional group present absent => fun rest progress =>
    if (progress.span? group).isSome then present.step text flags rest progress
    else absent.step text flags rest progress
  | .repeated appetite least most body =>
    (Step.repeated (body.step text flags) text.size appetite least most)

/-- Whether a pattern matches a text at a position. -/
def Compiled.matchesAt (pattern : Compiled) (text : Array Char) (position : Nat) : Bool :=
  (pattern.tree.step text pattern.flags some ⟨position, [], []⟩).isSome

/-- The set with which a part begins, unless the case of its members is left open. -/
def Tree.leadingSet? (flags : Flags) : Tree → Option (Bool × List SetItem)
  | .set negated items =>
    if flags.ignoreCase && items.any (SetItem.changesCase flags) then none
    else some (negated, items)
  | .seq first _ => first.leadingSet? flags
  | .capture _ body => body.leadingSet? flags
  | .flagged added removed body => body.leadingSet? (flags.within added removed)
  | _ => none

/-- Whether a match can begin at a position.  The set with which a pattern begins must cover the
character there in the alphabet of the whole pattern as well as in its own. -/
def Compiled.canBegin (pattern : Compiled) (text : Array Char) (position : Nat) : Bool :=
  match pattern.tree.leadingSet? pattern.flags with
  | none => true
  | some (negated, items) => text[position]?.any fun char =>
    setContains { pattern.flags with ignoreCase := false } negated items char.toNat

/-- Whether a pattern matches some part of a text. -/
def Compiled.matchesIn (pattern : Compiled) (text : String) : Bool :=
  let chars := text.toList.toArray
  (List.range (chars.size + 1)).any fun position =>
    pattern.canBegin chars position && pattern.matchesAt chars position

end CriticalCss.Pattern
