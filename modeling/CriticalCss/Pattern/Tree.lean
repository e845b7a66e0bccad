/-!
# Patterns

The tree of a regular expression, and the flags under which its parts are matched.
-/

namespace CriticalCss.Pattern

/-- Classes of characters that an escape stands for. -/
inductive Category where
  | digit
  | space
  | word
  deriving DecidableEq

/-- A member of a bracketed set. -/
inductive SetItem where
  | code (code : Nat)
  | range (low high : Nat)
  | category (category : Category) (outside : Bool)
  deriving DecidableEq

/-- Places in a text that take up no character. -/
inductive Anchor where
  | lineStart
  | lineEnd
  | textStart
  | textEnd
  | wordEdge
  | wordInside
  deriving DecidableEq

/-- Which of the possible numbers of repetitions is tried first; a possessive repetition never gives
back what it took. -/
inductive Appetite where
  | greedy
  | lazy
  | possessive
  deriving DecidableEq

/-- Switches that a pattern can set for itself. -/
structure Flags where
  ignoreCase : Bool := false
  multiline : Bool := false
  dotAll : Bool := false
  verbose : Bool := false
  ascii : Bool := false
  unicode : Bool := false
  template : Bool := false
  deriving DecidableEq

namespace Flags

/-- The switches set in either. -/
def union (left right : Flags) : Flags where
  ignoreCase := left.ignoreCase || right.ignoreCase
  multiline := left.multiline || right.multiline
  dotAll := left.dotAll || right.dotAll
  verbose := left.verbose || right.verbose
  ascii := left.ascii || right.ascii
  unicode := left.unicode || right.unicode
  template := left.template || right.template

/-- The switches set in the first and not in the second. -/
def without (left right : Flags) : Flags where
  ignoreCase := left.ignoreCase && !right.ignoreCase
  multiline := left.multiline && !right.multiline
  dotAll := left.dotAll && !right.dotAll
  verbose := left.verbose && !right.verbose
  ascii := left.ascii && !right.ascii
  unicode := left.unicode && !right.unicode
  template := left.template && !right.template

/-- Whether the flags choose the alphabet that character classes range over. -/
def choosesAlphabet (flags : Flags) : Bool := flags.ascii || flags.unicode

/-- The flags inside a group that adds some and removes some; a chosen alphabet replaces the one in
force. -/
def within (flags added removed : Flags) : Flags :=
  let kept := if added.choosesAlphabet then { flags with ascii := false, unicode := false } else flags
  (kept.union added).without removed

end Flags

/-- How many characters a part of a pattern matches; without a greatest number there is no bound. -/
structure Width where
  least : Nat
  greatest : Option Nat
  deriving DecidableEq

/-- A pattern or a part of one.  A character is given by its code point, which an escape can place
outside the range of characters. -/
inductive Tree where
  | empty
  | char (code : Nat)
  | notChar (code : Nat)
  | any
  | set (negated : Bool) (items : List SetItem)
  | anchor (anchor : Anchor)
  | reference (group : Nat) (width : Width)
  | seq (first second : Tree)
  | alt (first second : Tree)
  | capture (group : Nat) (body : Tree)
  | flagged (added removed : Flags) (body : Tree)
  | atomic (body : Tree)
  | look (behind negated : Bool) (body : Tree)
  | conditional (group : Nat) (present absent : Tree)
  | repeated (appetite : Appetite) (least : Nat) (most : Option Nat) (body : Tree)
  deriving DecidableEq

namespace Width

/-- Exactly so many characters. -/
def exactly (count : Nat) : Width := ⟨count, some count⟩

/-- One part after another. -/
def append (first second : Width) : Width where
  least := first.least + second.least
  greatest := match first.greatest, second.greatest with
    | some first, some second => some (first + second)
    | _, _ => none

/-- One part or another. -/
def union (first second : Width) : Width where
  least := min first.least second.least
  greatest := match first.greatest, second.greatest with
    | some first, some second => some (max first second)
    | _, _ => none

/-- Widths from this bound on are not told apart.  It depends on the version of the engine. -/
def bound : Nat := 4294967295

/-- Whether a part always matches the same number of characters, and that number is within reach. -/
def isFixed (width : Width) : Bool := width.greatest == some width.least && width.least < bound

/-- A part repeated. -/
def times (width : Width) (least : Nat) (most : Option Nat) : Width where
  least := width.least * least
  greatest := match width.greatest, most with
    | some 0, _ => some 0
    | _, some 0 => some 0
    | some greatest, some most => some (greatest * most)
    | _, _ => none

end Width

namespace Tree

/-- How many characters a part matches. -/
def width : Tree → Width
  | empty | anchor _ | look _ _ _ => .exactly 0
  | char _ | notChar _ | any | set _ _ => .exactly 1
  | reference _ width => width
  | seq first second => first.width.append second.width
  | alt first second => first.width.union second.width
  | capture _ body | flagged _ _ body | atomic body => body.width
  | conditional _ present absent => present.width.union absent.width
  | repeated _ least most body => body.width.times least most

/-- Parts one after another. -/
def ofList : List Tree → Tree
  | [] => empty
  | [tree] => tree
  | tree :: rest => seq tree (ofList rest)

/-- The parts of a sequence. -/
def parts : Tree → List Tree
  | empty => []
  | seq first second => first :: second.parts
  | tree => [tree]

/-- The parts that a part adds to a sequence: a group that only bundles its parts adds these. -/
def spliced : Tree → List Tree
  | flagged added removed body =>
    if added = {} ∧ removed = {} then body.parts else [flagged added removed body]
  | tree => [tree]

/-- Whether a part has no pattern inside it. -/
def isSimple : Tree → Bool
  | char _ | notChar _ | any | set _ _ | anchor _ | reference _ _ => true
  | _ => false

/-- The simple parts with which a sequence and all of some others begin. -/
def sharedStart : List Tree → List (List Tree) → List Tree
  | [], _ => []
  | head :: tail, others =>
    if head.isSimple && others.all (·.head? == some head) then
      head :: sharedStart tail (others.map List.tail)
    else []

/-- The members of the set that a sequence amounts to, if it is a single character or set. -/
def setMembers? : List Tree → Option (List SetItem)
  | [char code] => some [.code code]
  | [set false items] => some items
  | _ => none

/-- A choice between parts, tried in order. -/
def firstOf : List Tree → Tree
  | [] => empty
  | [tree] => tree
  | tree :: rest => alt tree (firstOf rest)

/-- Alternatives.  What all of them begin with is matched once, before the choice; a choice that is
then between single characters and sets is itself a set. -/
def ofAlternatives : List Tree → Tree
  | [] => empty
  | [tree] => tree
  | first :: others =>
    let sequences := (first :: others).map parts
    let shared := sharedStart first.parts (others.map parts)
    let choices := sequences.map (·.drop shared.length)
    let choice := match choices.mapM setMembers? with
      | some members => set false members.flatten.eraseDups
      | none => firstOf (choices.map ofList)
    ofList (shared ++ [choice])

/-- Whether a part may be repeated: anchors may not. -/
def isAnchor : Tree → Bool
  | anchor _ => true
  | _ => false

/-- Whether a part is itself a repetition. -/
def isRepeated : Tree → Bool
  | repeated _ _ _ _ => true
  | _ => false

end Tree

end CriticalCss.Pattern
