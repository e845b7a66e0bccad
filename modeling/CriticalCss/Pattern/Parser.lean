import CriticalCss.Pattern.Escape

/-!
# Reading patterns

A pattern is alternatives of sequences of parts; a part may be followed by a repetition.  Everything
is read in one pass, and the first problem met is the one reported.  `parse` then checks what can
only be known of the whole pattern: that conditions ask about groups that exist and that look-behinds
have a fixed width, which is not too large.

Versions of the pattern engine differ in how far a look-behind may reach.  `Width.bound`,
`reachLimit` and the problem `tooFarBehind` are those of the version that cuts widths off at its
greatest count and refuses a width of 2³¹ or more as invalid code.  Later versions let
`(?<=a{2147483648})` pass, and call a width beyond their own bound a fault of the pattern.
-/

namespace CriticalCss.Pattern

/-- Numbers of repetitions stay below this bound. -/
def countLimit : Nat := 4294967295

/-- Numbers of groups in conditions stay below this bound. -/
def groupLimit : Nat := 1073741823

/-- The flag that a letter stands for. -/
def flagOf? : Char → Option Flags
  | 'i' => some { ignoreCase := true }
  | 'L' => some {}
  | 'm' => some { multiline := true }
  | 's' => some { dotAll := true }
  | 'x' => some { verbose := true }
  | 'a' => some { ascii := true }
  | 't' => some { template := true }
  | 'u' => some { unicode := true }
  | _ => none

/-- Whether a letter chooses the alphabet of character classes. -/
def isAlphabetFlag (letter : Char) : Bool := letter = 'a' || letter = 'u' || letter = 'L'

/-- Whether a token is a letter of some script. -/
def Token.isLetter : Token → Bool
  | .plain char => Text.isLetter char
  | .escaped _ => false

namespace Reader

/-! ## Bracketed sets -/

/-- One end of a range, or a single member of a set. -/
def setMember : Token → Reader SetItem
  | .plain char => return .code char.toNat
  | .escaped char => setEscape char

/-- Reads the members of a set up to its closing bracket; `start` is the place of the opening one. -/
def setLoop (start : Nat) (items : List SetItem) : Nat → Reader (List SetItem)
  | 0 => failAt .unterminatedSet start
  | fuel + 1 => do
    match ← next with
    | none => failAt .unterminatedSet start
    | some low =>
      if low = .plain ']' ∧ items ≠ [] then return items.reverse
      let first ← setMember low
      if ← skip '-' then
        match ← next with
        | none => failAt .unterminatedSet start
        | some high =>
          if high = .plain ']' then return (.code 45 :: first :: items).reverse
          let second ← setMember high
          let reversed := fail (.badRange low.text high.text) (low.length + 1 + high.length)
          match first, second with
          | .code low, .code high =>
            if high < low then reversed else setLoop start (.range low high :: items) fuel
          | _, _ => reversed
      else setLoop start (first :: items) fuel

/-- A set after its opening bracket.  A single member needs no set. -/
def bracketSet : Reader Tree := do
  let start := (← tell) - 1
  let negated ← skip '^'
  let items ← setLoop start [] ((← remaining) + 1)
  match items.eraseDups with
  | [.code code] => return if negated then .notChar code else .char code
  | items => return .set negated items

/-! ## Repetitions -/

/-- The number that the digits of a repetition stand for, unless there are none. -/
def repetitionCount (digits : List Char) : Reader (Option Nat) := do
  if Integer.digitLimit < digits.length then throw ⟨.countTooLong digits.length, none⟩
  let count := valueInBase 10 digits
  if countLimit ≤ count then throw ⟨.countTooLarge, none⟩
  return if digits.isEmpty then none else some count

/-- The numbers of a repetition in braces, unless what follows is no repetition.  The cursor stands
after the opening brace. -/
def braceCounts : Reader (Option (Nat × Option Nat)) := do
  let before ← get
  if (← peek) = some (.plain '\x7d') then return none
  let low ← takeWhile Char.isDigit (← remaining)
  let comma ← skip ','
  let high ← if comma then takeWhile Char.isDigit (← remaining) else pure low
  if ← skip '\x7d' then
    let least := (← repetitionCount low).getD 0
    let most ← repetitionCount high
    if most.any (· < least) then failAt .countsReversed before.offset
    return some (least, most)
  else
    set before
    return none

/-- How the repetition just read is tried. -/
def appetite : Reader Appetite := do
  if ← skip '?' then return .lazy
  else if ← skip '+' then return .possessive
  else return .greedy

/-- Repeats the last of the parts read so far; `start` is the place of the repetition. -/
def repeatLast (start : Nat) (least : Nat) (most : Option Nat) (items : List Tree) :
    Reader (List Tree) := do
  match items with
  | [] => failAt .nothingToRepeat start
  | last :: earlier =>
    if last.isAnchor then failAt .nothingToRepeat start
    else if last.isRepeated then failAt .multipleRepeat start
    else return .repeated (← appetite) least most last :: earlier

/-! ## Flags -/

/-- Reads letters of flags to turn on, up to the character that ends them. -/
def addedFlags (flags : Flags) (letter : Char) : Nat → Reader (Flags × Char)
  | 0 => fail .missingFlagsEnd 0
  | fuel + 1 => do
    if letter = 'L' then fail .localeFlag 0
    let flags := flags.union ((flagOf? letter).getD {})
    if isAlphabetFlag letter && flags.ascii && flags.unicode then fail .incompatibleFlags 0
    match ← next with
    | none => fail .missingFlagsEnd 0
    | some (.plain char) =>
      if char = ')' ∨ char = '-' ∨ char = ':' then return (flags, char)
      else if (flagOf? char).isSome then addedFlags flags char fuel
      else fail (if Text.isLetter char then .unknownFlag else .missingFlagsEnd) 1
    | some (.escaped _) => fail .missingFlagsEnd 2

/-- Reads letters of flags to turn off, up to a colon. -/
def removedFlags (flags : Flags) (letter : Char) : Nat → Reader Flags
  | 0 => fail .missingColon 0
  | fuel + 1 => do
    if isAlphabetFlag letter then fail .alphabetTurnedOff 0
    let flags := flags.union ((flagOf? letter).getD {})
    match ← next with
    | none => fail .missingColon 0
    | some (.plain char) =>
      if char = ':' then return flags
      else if (flagOf? char).isSome then removedFlags flags char fuel
      else fail (if Text.isLetter char then .unknownFlag else .missingColon) 1
    | some (.escaped _) => fail .missingColon 2

/-- The flags of a group after their minus sign. -/
def turnedOff : Reader Flags := do
  match ← next with
  | none => fail .missingFlag 0
  | some (.escaped _) => fail .missingFlag 2
  | some (.plain char) =>
    if (flagOf? char).isSome then removedFlags {} char ((← remaining) + 1)
    else fail (if Text.isLetter char then .unknownFlag else .missingFlag) 1

/-- Reads flags from their first character.  Flags of the whole pattern are recorded and give
nothing; flags of a group are given as those added and those removed. -/
def flagChange (first : Char) : Reader (Option (Flags × Flags)) := do
  let (added, ending) ←
    if first = '-' then pure ({}, '-') else addedFlags {} first ((← remaining) + 1)
  if ending = ')' then
    modify fun cursor => { cursor with flags := cursor.flags.union added }
    return none
  if added.template then fail .globalTurnedOn 1
  let removed ← if ending = '-' then turnedOff else pure {}
  if removed.template then fail .globalTurnedOff 1
  if added.without removed ≠ added then fail .turnedOnAndOff 1
  return some (added, removed)

/-! ## Groups -/

/-- The group that a condition asks about. -/
def conditionGroup : Reader Nat := do
  let condition ← name ')' "group name"
  let back := condition.length + 1
  let cursor ← get
  let group ←
    if Text.isIdentifier condition then
      match cursor.names.lookup condition with
      | some group => pure group
      | none => fail (.unknownName condition) back
    else
      match Integer.read condition.toList with
      | .error _ => fail (.badNameCharacter condition) back
      | .ok number =>
        if number < 0 then fail (.badNameCharacter condition) back
        else if number = 0 then fail .badGroupNumber back
        else if groupLimit ≤ number.toNat then fail (.invalidReference number.toNat) back
        else
          if (cursor.conditions.lookup number.toNat).isNone then
            set { cursor with conditions :=
              cursor.conditions ++ [(number.toNat, cursor.offset - back)] }
          pure number.toNat
  checkLookbehind group
  return group

/-- A reference to a group by name. -/
def namedReference : Reader Tree := do
  let groupName ← name ')' "group name"
  checkName groupName
  let cursor ← get
  match cursor.names.lookup groupName with
  | none => fail (.unknownName groupName) (groupName.length + 1)
  | some group =>
    if isClosed cursor group then
      checkLookbehind group
      return .reference group (widthOf cursor group)
    else fail .openGroupReference (groupName.length + 1)

/-- Moves over a comment, which ends at the first closing parenthesis. -/
def comment (start : Nat) : Nat → Reader Unit
  | 0 => failAt .unterminatedComment start
  | fuel + 1 => do
    match ← next with
    | none => failAt .unterminatedComment start
    | some token => if token = .plain ')' then return () else comment start fuel

/-- Moves to the end of a line. -/
def lineEnd : Nat → Reader Unit
  | 0 => return ()
  | fuel + 1 => do
    match ← next with
    | none => return ()
    | some token => if token = .plain '\n' then return () else lineEnd fuel

/-- Moves over the parenthesis that closes a group. -/
def close (start : Nat) : Reader Unit := do
  if ← skip ')' then return () else failAt .unterminatedGroup start

/-- Whether a character is skipped in a verbose pattern. -/
def isSpacing (char : Char) : Bool :=
  [' ', '\t', '\n', '\r', '\x0b', '\x0c'].contains char

mutual

/-- Reads alternatives.  At the top of a pattern, flags of the whole pattern take effect from one
alternative to the next; `first` says that none has been read yet. -/
def alternatives (verbose top first : Bool) : Nat → Reader (List Tree)
  | 0 => return []
  | fuel + 1 => do
    let head ← sequence verbose (top && first) [] fuel
    if ← skip '|' then
      let cursor ← get
      let verbose := if top then cursor.flags.verbose else verbose
      return head :: (← alternatives verbose top false fuel)
    else return [head]
termination_by structural fuel => fuel

/-- Reads parts up to a bar, a closing parenthesis or the end; `items` are the parts so far, last
one first. -/
def sequence (verbose flagsAllowed : Bool) (items : List Tree) : Nat → Reader Tree
  | 0 => return .ofList (items.reverse.flatMap Tree.spliced)
  | fuel + 1 => do
    match ← peek with
    | none | some (.plain '|') | some (.plain ')') =>
      return .ofList (items.reverse.flatMap Tree.spliced)
    | some (.escaped char) =>
      let _ ← next
      sequence verbose flagsAllowed ((← treeEscape char) :: items) fuel
    | some (.plain char) =>
      let start ← tell
      let _ ← next
      if verbose && isSpacing char then sequence verbose flagsAllowed items fuel
      else if verbose && char = '#' then
        lineEnd ((← remaining) + 1)
        sequence verbose flagsAllowed items fuel
      else match char with
        | '[' => sequence verbose flagsAllowed ((← bracketSet) :: items) fuel
        | '*' => sequence verbose flagsAllowed (← repeatLast start 0 none items) fuel
        | '+' => sequence verbose flagsAllowed (← repeatLast start 1 none items) fuel
        | '?' => sequence verbose flagsAllowed (← repeatLast start 0 (some 1) items) fuel
        | '\x7b' =>
          match ← braceCounts with
          | none => sequence verbose flagsAllowed (.char char.toNat :: items) fuel
          | some (least, most) =>
            sequence verbose flagsAllowed (← repeatLast start least most items) fuel
        | '.' => sequence verbose flagsAllowed (.any :: items) fuel
        | '^' => sequence verbose flagsAllowed (.anchor .lineStart :: items) fuel
        | '$' => sequence verbose flagsAllowed (.anchor .lineEnd :: items) fuel
        | '(' =>
          match ← group verbose (flagsAllowed && items.isEmpty) start fuel with
          | some tree => sequence verbose flagsAllowed (tree :: items) fuel
          | none =>
            let cursor ← get
            let verbose := if flagsAllowed && items.isEmpty then cursor.flags.verbose else verbose
            sequence verbose flagsAllowed items fuel
        | char => sequence verbose flagsAllowed (.char char.toNat :: items) fuel
termination_by structural fuel => fuel

/-- Reads a group after its opening parenthesis.  Comments and flags of the whole pattern leave no
part behind. -/
def group (verbose flagsAllowed : Bool) (start : Nat) : Nat → Reader (Option Tree)
  | 0 => return none
  | fuel + 1 => do
    if !(← skip '?') then return some (← captured verbose none start fuel)
    match ← next with
    | none => fail .unexpectedEnd 0
    | some (.escaped char) => fail (.unknownExtension (Token.escaped char).text) 3
    | some (.plain char) =>
      match char with
      | 'P' =>
        if ← skip '<' then
          let groupName ← name '>' "group name"
          checkName groupName
          return some (← captured verbose (some groupName) start fuel)
        else if ← skip '=' then return some (← namedReference)
        else match ← next with
          | none => fail .unexpectedEnd 0
          | some token => fail (.unknownExtension ("P" ++ token.text)) (token.length + 2)
      | ':' => return some (← uncaptured verbose {} {} start fuel)
      | '#' =>
        comment start ((← remaining) + 1)
        return none
      | '=' => return some (← lookaround verbose false false start fuel)
      | '!' => return some (← lookaround verbose false true start fuel)
      | '<' =>
        match ← next with
        | none => fail .unexpectedEnd 0
        | some (.plain '=') => return some (← lookaround verbose true false start fuel)
        | some (.plain '!') => return some (← lookaround verbose true true start fuel)
        | some token => fail (.unknownExtension ("<" ++ token.text)) (token.length + 2)
      | '(' => return some (← condition verbose start fuel)
      | '>' =>
        let body := Tree.ofAlternatives (← alternatives verbose false false fuel)
        close start
        return some (.atomic body)
      | char =>
        if char = '-' || (flagOf? char).isSome then
          match ← flagChange char with
          | some (added, removed) => return some (← uncaptured verbose added removed start fuel)
          | none => if flagsAllowed then return none else failAt .misplacedFlags start
        else fail (.unknownExtension (Token.plain char).text) 2
termination_by structural fuel => fuel

/-- Reads the inside of a group that is remembered. -/
def captured (verbose : Bool) (groupName : Option String) (start : Nat) : Nat → Reader Tree
  | 0 => return .empty
  | fuel + 1 => do
    let number ← openGroup groupName
    let body := Tree.ofAlternatives (← alternatives verbose false false fuel)
    close start
    closeGroup number body.width
    return .capture number body
termination_by structural fuel => fuel

/-- Reads the inside of a group that only bundles its parts or changes flags. -/
def uncaptured (verbose : Bool) (added removed : Flags) (start : Nat) : Nat → Reader Tree
  | 0 => return .empty
  | fuel + 1 => do
    let inside := (verbose || added.verbose) && !removed.verbose
    let body := Tree.ofAlternatives (← alternatives inside false false fuel)
    close start
    return .flagged added removed body
termination_by structural fuel => fuel

/-- Reads the inside of a look-ahead or look-behind. -/
def lookaround (verbose behind negated : Bool) (start : Nat) : Nat → Reader Tree
  | 0 => return .empty
  | fuel + 1 => do
    let outer ← get
    let outermost := behind && outer.lookbehindLimit.isNone
    if outermost then
      set { outer with lookbehindLimit := some (outer.groups.length + 1) }
    let body := Tree.ofAlternatives (← alternatives verbose false false fuel)
    if outermost then modify fun cursor => { cursor with lookbehindLimit := none }
    close start
    return .look behind negated body
termination_by structural fuel => fuel

/-- Reads a condition and the parts that it chooses between. -/
def condition (verbose : Bool) (start : Nat) : Nat → Reader Tree
  | 0 => return .empty
  | fuel + 1 => do
    let number ← conditionGroup
    let present ← sequence verbose false [] fuel
    let absent ←
      if ← skip '|' then
        let absent ← sequence verbose false [] fuel
        if (← peek) = some (.plain '|') then fail .tooManyBranches 0
        pure absent
      else pure .empty
    close start
    return .conditional number present absent
termination_by structural fuel => fuel

end

end Reader

/-- A pattern that can be matched. -/
structure Compiled where
  tree : Tree
  flags : Flags
  groups : Nat

/-- What keeps a part from being matched: a look-behind without a fixed width, or a repetition in a
template. -/
def Tree.obstacle? (template : Bool) : Tree → Option Problem
  | .seq first second | .alt first second | .conditional _ first second =>
    (first.obstacle? template).or (second.obstacle? template)
  | .capture _ body | .flagged _ _ body | .atomic body | .look false _ body =>
    body.obstacle? template
  | .look true _ body =>
    if body.width.isFixed then body.obstacle? template else some .variableWidthBehind
  | .repeated appetite _ _ body =>
    if template then
      some (.templateRepeat (match appetite with
        | .greedy => "MAX_REPEAT"
        | .lazy => "MIN_REPEAT"
        | .possessive => "POSSESSIVE_REPEAT"))
    else body.obstacle? template
  | _ => none

/-- Look-behinds reach back fewer characters than this bound, which depends on the version of the
engine. -/
def reachLimit : Nat := 2147483648

/-- Whether a look-behind reaches back too far. -/
def Tree.looksTooFar : Tree → Bool
  | .seq first second | .alt first second | .conditional _ first second =>
    first.looksTooFar || second.looksTooFar
  | .capture _ body | .flagged _ _ body | .atomic body | .look false _ body
  | .repeated _ _ _ body => body.looksTooFar
  | .look true _ body => decide (reachLimit ≤ body.width.least) || body.looksTooFar
  | _ => false

/-- Checks what can only be known once a whole pattern has been read. -/
def finish (tree : Tree) (cursor : Cursor) : Except Error Compiled := do
  if cursor.flags.ascii && cursor.flags.unicode then throw ⟨.conflictingAlphabets, none⟩
  if cursor.rest ≠ [] then throw ⟨.unbalancedParenthesis, some cursor.offset⟩
  match cursor.conditions.find? fun condition => cursor.groups.length < condition.1 with
  | some (group, position) => throw ⟨.invalidReference group, some position⟩
  | none => pure ()
  match tree.obstacle? cursor.flags.template with
  | some problem => throw ⟨problem, none⟩
  | none => pure ()
  if tree.looksTooFar then throw ⟨.tooFarBehind, none⟩
  return ⟨tree, cursor.flags, cursor.groups.length⟩

/-- Reads a pattern.  An opening parenthesis takes reading four steps deeper and any other character
one, so the length of the text bounds the depth. -/
def parse (source : String) : Except Error Compiled := do
  let chars := source.toList
  Reader.checkEnd chars 0
  let start : Cursor := ⟨chars, 0, {}, [], [], none, []⟩
  let (trees, cursor) ← (Reader.alternatives false true true (4 * chars.length + 2)).run start
  finish (.ofAlternatives trees) cursor

end CriticalCss.Pattern
