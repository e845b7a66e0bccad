import CriticalCss.Pattern.Error
import CriticalCss.Pattern.Tree
import CriticalCss.Text.CharacterName
import CriticalCss.Text.Identifier
import CriticalCss.Number.Integer

/-!
# Reading a pattern token by token

A token is a character, or a backslash with the character behind it.  The cursor stands before the
next token and keeps what has been learnt about groups and flags.  A backslash at the very end is
reported as soon as the cursor comes to stand before it.
-/

namespace CriticalCss.Pattern

/-- A unit of a pattern. -/
inductive Token where
  | plain (char : Char)
  | escaped (char : Char)
  deriving DecidableEq

/-- The text of a token. -/
def Token.chars : Token → List Char
  | plain char => [char]
  | escaped char => ['\\', char]

/-- The text of a token. -/
def Token.text (token : Token) : String := String.ofList token.chars

/-- The number of characters of a token. -/
def Token.length (token : Token) : Nat := token.chars.length

/-- The place reached in a pattern, and what is known about the part before it. -/
structure Cursor where
  rest : List Char
  offset : Nat
  /-- Flags that hold for the whole pattern. -/
  flags : Flags
  /-- The groups opened so far, with the width of those that are closed. -/
  groups : List (Option Width)
  /-- The names of groups, with their numbers. -/
  names : List (String × Nat)
  /-- Inside a look-behind, the number of the first group that it defines. -/
  lookbehindLimit : Option Nat
  /-- Groups that conditions ask about, with the place of the first such condition. -/
  conditions : List (Nat × Nat)

/-- A step in reading a pattern. -/
abbrev Reader := StateT Cursor (Except Error)

namespace Reader

/-- Reports a problem so many characters before the cursor. -/
def fail {α : Type} (problem : Problem) (back : Nat) : Reader α := do
  let cursor ← get
  throw ⟨problem, some (cursor.offset - back)⟩

/-- Reports a problem at a position. -/
def failAt {α : Type} (problem : Problem) (position : Nat) : Reader α :=
  throw ⟨problem, some position⟩

/-- The token after the cursor. -/
def nextOf : List Char → Option Token
  | [] => none
  | ['\\'] => none
  | '\\' :: char :: _ => some (.escaped char)
  | char :: _ => some (.plain char)

/-- The token after the cursor. -/
def peek : Reader (Option Token) := do return nextOf (← get).rest

/-- The place of the cursor. -/
def tell : Reader Nat := do return (← get).offset

/-- Fails if nothing but a lone backslash is left. -/
def checkEnd (rest : List Char) (offset : Nat) : Except Error Unit :=
  if rest = ['\\'] then .error ⟨.escapeAtEnd, some offset⟩ else .ok ()

/-- Moves the cursor over the next token and gives the token. -/
def next : Reader (Option Token) := do
  let cursor ← get
  match nextOf cursor.rest with
  | none => return none
  | some token =>
    let rest := cursor.rest.drop token.length
    let offset := cursor.offset + token.length
    checkEnd rest offset
    set { cursor with rest, offset }
    return some token

/-- Moves over the next token if it is the given character. -/
def skip (char : Char) : Reader Bool := do
  if (← peek) = some (.plain char) then
    let _ ← next
    return true
  else return false

/-- Reads at most so many characters of a class. -/
def takeWhile (accepted : Char → Bool) : Nat → Reader (List Char)
  | 0 => return []
  | count + 1 => do
    match ← peek with
    | some (.plain char) =>
      if accepted char then
        let _ ← next
        return char :: (← takeWhile accepted count)
      else return []
    | _ => return []

/-- The number of characters left, which bounds every loop over tokens. -/
def remaining : Reader Nat := do return (← get).rest.length

/-- Reads a name up to a terminator; `seen` holds its tokens so far, last one first. -/
def nameLoop (terminator : Char) (what : String) (seen : List Char) : Nat → Reader String
  | 0 => fail (.missingName what) 0
  | fuel + 1 => do
    match ← next with
    | none =>
      if seen.isEmpty then fail (.missingName what) 0
      else fail (.unterminatedName terminator) seen.length
    | some (.plain char) =>
      if char = terminator then
        if seen.isEmpty then fail (.missingName what) 1 else return String.ofList seen.reverse
      else nameLoop terminator what (char :: seen) fuel
    | some (.escaped char) => nameLoop terminator what (char :: '\\' :: seen) fuel

/-- Reads a name that may not be empty, up to a terminator. -/
def name (terminator : Char) (what : String) : Reader String := do
  nameLoop terminator what [] ((← remaining) + 1)

/-- Fails unless a group name, just read with its terminator, is an identifier. -/
def checkName (groupName : String) : Reader Unit :=
  if Text.isIdentifier groupName then return ()
  else fail (.badNameCharacter groupName) (groupName.length + 1)

/-- Whether a group exists and is closed. -/
def isClosed (cursor : Cursor) (group : Nat) : Bool :=
  0 < group && (cursor.groups[group - 1]?.getD none).isSome

/-- The width of a closed group. -/
def widthOf (cursor : Cursor) (group : Nat) : Width :=
  (cursor.groups[group - 1]?.getD none).getD (.exactly 0)

/-- Fails if a look-behind refers to a group that it defines itself or that is still open. -/
def checkLookbehind (group : Nat) : Reader Unit := do
  let cursor ← get
  match cursor.lookbehindLimit with
  | none => return ()
  | some limit =>
    if !isClosed cursor group then fail .openGroupReference 0
    else if limit ≤ group then fail .lookbehindReference 0
    else return ()

/-- Opens a group, named or not, and gives its number. -/
def openGroup (groupName : Option String) : Reader Nat := do
  let cursor ← get
  let group := cursor.groups.length + 1
  let opened := { cursor with groups := cursor.groups ++ [none] }
  match groupName with
  | none =>
    set opened
    return group
  | some groupName =>
    match cursor.names.lookup groupName with
    | some earlier => fail (.redefinedName groupName group earlier) (groupName.length + 1)
    | none =>
      set { opened with names := cursor.names ++ [(groupName, group)] }
      return group

/-- Closes a group, now that its width is known. -/
def closeGroup (group : Nat) (width : Width) : Reader Unit :=
  modify fun cursor => { cursor with groups := cursor.groups.set (group - 1) (some width) }

end Reader

end CriticalCss.Pattern
