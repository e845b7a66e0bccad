import CriticalCss.Pattern.Parser
import CriticalCss.Proofs.Failing

/-!
# Where the problems of a pattern come from

A reader goes through the text of a pattern from left to right and leaves an end of it.  Most of its
problems are mild: the pattern is wrong.  Three are not, and each of them has its cause in the text:
a number of repetitions or the number of an escape that is too large, or a look-behind.
-/

namespace CriticalCss.Pattern

/-- What is in the text of a pattern if it has a problem: nothing special if the problem is mild. -/
def HasCause (source : List Char) : Problem → Prop
  | .countTooLarge => ∃ mark digits, (mark = '\x7b' ∨ mark = ',') ∧ mark :: digits <:+: source ∧
      (∀ digit ∈ digits, digit.isDigit = true) ∧ countLimit ≤ valueInBase 10 digits
  | .codeTooLarge => ∃ letter digits, '\\' :: letter :: digits <:+: source ∧
      (∀ digit ∈ digits, isHexDigit digit = true) ∧ Reader.codeLimit ≤ valueInBase 16 digits
  | .tooFarBehind => ['(', '?', '<'] <:+: source
  | _ => True

namespace Reader

/-- From wherever something holds of the text that is left, a reader leads to where something holds
of its result and of the text that is left then, or it fails for a cause in the source. -/
structure Leads {α : Type} (source : List Char) (before : List Char → Prop) (reader : Reader α)
    (after : α → List Char → Prop) : Prop where
  holds : ∀ cursor value reached, before cursor.rest → reader cursor = .ok (value, reached) →
    after value reached.rest
  cause : ∀ cursor error, before cursor.rest → reader cursor = .error error →
    HasCause source error.problem

namespace Leads

variable {α β : Type} {source : List Char} {before : List Char → Prop}
  {after : α → List Char → Prop}

theorem pure {value : α} (holds : ∀ rest, before rest → after value rest) :
    Leads source before (Pure.pure value) after := by
  constructor
  · rintro cursor _ _ start ⟨⟩
    exact holds cursor.rest start
  · rintro _ _ _ ⟨⟩

theorem bind {reader : Reader α} {next : α → Reader β} {middle : α → List Char → Prop}
    {after : β → List Char → Prop} (first : Leads source before reader middle)
    (onward : ∀ value, Leads source (middle value) (next value) after) :
    Leads source before (reader >>= next) after := by
  constructor
  · intro cursor result reached start ran
    obtain ⟨⟨value, passed⟩, isFirst, isRest⟩ := exists_ok_of_bind ran
    exact (onward value).holds passed result reached (first.holds _ _ _ start isFirst) isRest
  · intro cursor error start ran
    rcases error_of_bind ran with failed | ⟨⟨value, passed⟩, isFirst, failed⟩
    · exact first.cause cursor error start failed
    · exact (onward value).cause passed error (first.holds _ _ _ start isFirst) failed

theorem mono {reader : Reader α} {earlier : List Char → Prop} {later : α → List Char → Prop}
    (leads : Leads source before reader after) (strengthen : ∀ rest, earlier rest → before rest)
    (weaken : ∀ value rest, after value rest → later value rest) :
    Leads source earlier reader later := by
  constructor
  · intro cursor value reached start ran
    exact weaken _ _ (leads.holds cursor value reached (strengthen _ start) ran)
  · intro cursor error start ran
    exact leads.cause cursor error (strengthen _ start) ran

theorem startingFrom {reader : Reader α} {earlier : List Char → Prop}
    (leads : Leads source before reader after) (strengthen : ∀ rest, earlier rest → before rest) :
    Leads source earlier reader after :=
  leads.mono strengthen fun _ _ ended => ended

/-- What is known before, whatever text is left, may be used. -/
theorem assuming {reader : Reader α} {fact : Prop} (known : ∀ rest, before rest → fact)
    (leads : fact → Leads source before reader after) : Leads source before reader after := by
  constructor
  · intro cursor value reached start ran
    exact (leads (known _ start)).holds cursor value reached start ran
  · intro cursor error start ran
    exact (leads (known _ start)).cause cursor error start ran

/-- What is known of a result alone is known from there on. -/
theorem bindKnowing {reader : Reader α} {next : α → Reader β} {fact : α → Prop}
    {middle : α → List Char → Prop} {after : β → List Char → Prop}
    (first : Leads source before reader fun value rest => fact value ∧ middle value rest)
    (onward : ∀ value, fact value → Leads source (middle value) (next value) after) :
    Leads source before (reader >>= next) after :=
  first.bind fun value => assuming (fun _ passed => passed.1) fun known =>
    (onward value known).startingFrom fun _ passed => passed.2

theorem throw {error : Error} (cause : HasCause source error.problem) :
    Leads source before (MonadExcept.throw error : Reader α) after := by
  constructor
  · rintro _ _ _ _ ⟨⟩
  · rintro _ _ _ ⟨⟩
    exact cause

theorem fail {problem : Problem} (back : Nat) (cause : HasCause source problem) :
    Leads source before (Reader.fail problem back : Reader α) after := by
  constructor
  · rintro _ _ _ _ ⟨⟩
  · rintro _ _ _ ⟨⟩
    exact cause

/-- What comes after a failure is of no account. -/
theorem failBefore {problem : Problem} (back : Nat) (next : β → Reader α)
    (cause : HasCause source problem) :
    Leads source before (Reader.fail problem back >>= next) after := by
  have nowhere : Leads source before (Reader.fail problem back : Reader β) fun _ _ => False :=
    .fail back cause
  exact nowhere.bind fun _ => ⟨fun _ _ _ => False.elim, fun _ _ => False.elim⟩

theorem failIf {condition : Prop} [Decidable condition] {problem : Problem} {back : Nat}
    {next : Unit → Reader α} (cause : HasCause source problem)
    (onward : Leads source before (next ()) after) :
    Leads source before (if condition then Reader.fail problem back >>= next else next ())
      after := by
  split
  · exact .failBefore back next cause
  · exact onward

theorem lift {outcome : Except Error α}
    (cause : ∀ error, outcome = .error error → HasCause source error.problem) :
    Leads source before (liftM outcome : Reader α) fun _ rest => before rest := by
  cases outcome with
  | ok value => exact .pure fun _ start => start
  | error error =>
      constructor
      · rintro _ _ _ _ ⟨⟩
      · rintro _ _ _ ⟨⟩
        exact cause error rfl

theorem get : Leads source before (MonadState.get : Reader Cursor)
    fun cursor rest => cursor.rest = rest ∧ before rest := by
  constructor
  · rintro _ _ _ start ⟨⟩
    exact ⟨rfl, start⟩
  · rintro _ _ _ ⟨⟩

/-- Looking at the cursor changes nothing. -/
theorem getThen {next : Cursor → Reader α}
    (onward : ∀ cursor, Leads source before (next cursor) after) :
    Leads source before (MonadState.get >>= next) after :=
  get.bind fun cursor => (onward cursor).startingFrom fun _ start => start.2

/-- What is known of the text that is left is known of the cursor looked at. -/
theorem getKnowing {next : Cursor → Reader α}
    (onward : ∀ cursor, before cursor.rest →
      Leads source (· = cursor.rest) (next cursor) after) :
    Leads source before (MonadState.get >>= next) after :=
  get.bind fun cursor => assuming (fun _ start => start.1 ▸ start.2) fun known =>
    (onward cursor known).startingFrom fun _ start => start.1.symm

theorem set (cursor : Cursor) :
    Leads source before (MonadStateOf.set cursor : Reader Unit)
      fun _ rest => rest = cursor.rest := by
  constructor
  · rintro _ _ _ _ ⟨⟩
    rfl
  · rintro _ _ _ ⟨⟩

theorem modifying {change : Cursor → Cursor}
    (same : ∀ cursor, (change cursor).rest = cursor.rest) :
    Leads source before (modify change : Reader Unit) fun _ rest => before rest := by
  constructor
  · rintro cursor _ _ start ⟨⟩
    rw [same]
    exact start
  · rintro _ _ _ ⟨⟩

end Leads

/-! ## Tokens -/

section

variable {source : List Char} {before : List Char → Prop}

/-- The characters of a token, if there is one. -/
def charsOf : Option Token → List Char
  | none => []
  | some token => token.chars

theorem append_of_nextOf {rest : List Char} {token : Token} (isNext : nextOf rest = some token) :
    token.chars ++ rest.drop token.length = rest := by
  rw [nextOf.eq_def] at isNext
  split at isNext
  · cases isNext
  · cases isNext
  · cases isNext
    rfl
  · cases isNext
    rfl

theorem peek_leads :
    Leads source before peek fun found rest => nextOf rest = found ∧ before rest := by
  refine Leads.get.bind fun cursor => .pure ?_
  rintro rest ⟨rfl, start⟩
  exact ⟨rfl, start⟩

/-- Moving over a token leaves what stands behind it. -/
theorem next_leads : Leads source before next fun found rest =>
    nextOf (charsOf found ++ rest) = found ∧ before (charsOf found ++ rest) := by
  refine .getKnowing fun cursor start => ?_
  cases isNext : nextOf cursor.rest with
  | none =>
      refine .pure ?_
      rintro rest rfl
      exact ⟨isNext, start⟩
  | some token =>
      have split := append_of_nextOf isNext
      refine (Leads.lift ?_).bind fun _ => (Leads.set _).bind fun _ => .pure ?_
      · intro error failed
        rw [checkEnd] at failed
        split at failed
        · cases failed
          trivial
        · cases failed
      · rintro rest rfl
        simp only [charsOf, split]
        exact ⟨isNext, start⟩

/-- The token seen ahead is the one moved over. -/
theorem next_leads_of_peek (token : Token) :
    Leads source (fun rest => nextOf rest = some token ∧ before rest) next
      fun _ rest => before (token.chars ++ rest) := by
  refine next_leads.mono (fun _ start => start) ?_
  rintro found rest ⟨isNext, same, start⟩
  rw [isNext] at same
  rw [same] at start
  exact start

theorem skip_leads (char : Char) : Leads source before (skip char) fun found rest =>
    before (if found then char :: rest else rest) := by
  refine peek_leads.bind fun token => ?_
  split
  next isChar =>
    refine next_leads.bind fun found => .pure ?_
    rintro rest ⟨isNext, same, start⟩
    rw [isNext, isChar] at same
    rw [same] at start
    exact start
  next => exact .pure fun rest start => start.2

theorem takeWhile_leads (accepted : Char → Bool) (count : Nat) :
    Leads source before (takeWhile accepted count) fun chars rest =>
      (∀ char ∈ chars, accepted char = true) ∧ before (chars ++ rest) := by
  induction count generalizing before with
  | zero => exact .pure fun rest start => ⟨nofun, start⟩
  | succ count ih =>
      refine peek_leads.bind fun token => ?_
      split
      next char =>
        split
        next isAccepted =>
          refine next_leads.bind fun found => ih.bind fun chars => .pure ?_
          rintro rest ⟨each, isNext, same, start⟩
          rw [isNext] at same
          rw [same] at start
          exact ⟨List.forall_mem_cons.mpr ⟨isAccepted, each⟩, start⟩
        next => exact .pure fun rest start => ⟨nofun, start.2⟩
      next => exact .pure fun rest start => ⟨nofun, start.2⟩

theorem remaining_leads : Leads source before remaining fun _ rest => before rest :=
  .getThen fun _ => .pure fun _ start => start

theorem tell_leads : Leads source before tell fun _ rest => before rest :=
  .getThen fun _ => .pure fun _ start => start

end

/-! ## Names and groups -/

/-- A reader leads from one place in the source to another. -/
abbrev Passes {α : Type} (source : List Char) (reader : Reader α) : Prop :=
  Leads source (· <:+ source) reader fun _ rest => rest <:+ source

section

variable {source : List Char}

theorem suffix_of_append {front rest : List Char} (behind : front ++ rest <:+ source) :
    rest <:+ source :=
  (List.suffix_append front rest).trans behind

theorem infix_of_append {front rest : List Char} (behind : front ++ rest <:+ source) :
    front <:+: source :=
  (List.prefix_append front rest).isInfix.trans (List.IsSuffix.isInfix behind)

theorem next_passes : Passes source next :=
  next_leads.mono (fun _ start => start) fun _ _ after => suffix_of_append after.2

theorem skip_passes (char : Char) : Passes source (skip char) := by
  refine (skip_leads char).mono (fun _ start => start) ?_
  intro found rest after
  cases found with
  | true => exact (List.suffix_cons _ _).trans after
  | false => exact after

theorem takeWhile_passes (accepted : Char → Bool) (count : Nat) :
    Passes source (takeWhile accepted count) :=
  (takeWhile_leads accepted count).mono (fun _ start => start) fun _ _ after =>
    suffix_of_append after.2

theorem nameLoop_passes (terminator : Char) (what : String) (seen : List Char) (fuel : Nat) :
    Passes source (nameLoop terminator what seen fuel) := by
  induction fuel generalizing seen with
  | zero => exact .fail _ trivial
  | succ fuel ih =>
      refine next_passes.bind fun token => ?_
      split
      next =>
        split
        · exact .fail _ trivial
        · exact .fail _ trivial
      next char =>
        split
        · split
          · exact .fail _ trivial
          · exact .pure fun _ start => start
        · exact ih _
      next => exact ih _

theorem name_passes (terminator : Char) (what : String) : Passes source (name terminator what) :=
  remaining_leads.bind fun _ => nameLoop_passes terminator what [] _

theorem checkName_passes (groupName : String) : Passes source (checkName groupName) := by
  rw [checkName]
  split
  · exact .pure fun _ start => start
  · exact .fail _ trivial

theorem checkLookbehind_passes (group : Nat) : Passes source (checkLookbehind group) := by
  refine .getThen fun cursor => ?_
  split
  · exact .pure fun _ start => start
  · split
    · exact .fail _ trivial
    split
    · exact .fail _ trivial
    · exact .pure fun _ start => start

theorem openGroup_passes (groupName : Option String) : Passes source (openGroup groupName) := by
  refine .getKnowing fun cursor start => ?_
  split
  · exact (Leads.set _).bind fun _ => .pure fun _ same => same ▸ start
  · split
    · exact .fail _ trivial
    · exact (Leads.set _).bind fun _ => .pure fun _ same => same ▸ start

theorem closeGroup_passes (group : Nat) (width : Width) :
    Passes source (closeGroup group width) :=
  .modifying fun _ => rfl

/-! ## Escapes -/

/-- The digits of an escape stand behind its letter. -/
theorem hexEscape_leads (char : Char) (count : Nat) :
    Leads source (fun rest => '\\' :: char :: rest <:+ source) (hexEscape char count)
      fun _ rest => rest <:+ source := by
  refine (takeWhile_leads isHexDigit count).bind fun digits => ?_
  have behind {rest : List Char} (start : '\\' :: char :: (digits ++ rest) <:+ source) :
      ('\\' :: char :: digits) ++ rest <:+ source := start
  split
  · simp only
    split
    · exact .pure fun _ start => suffix_of_append (behind start.2)
    split
    next large =>
      refine .assuming (fun rest start => And.intro start.1 (infix_of_append (behind start.2))) ?_
      rintro ⟨each, inSource⟩
      exact .throw ⟨char, digits, inSource, each, large⟩
    next => exact .fail _ trivial
  · exact .fail _ trivial

theorem nameEscape_passes : Passes source nameEscape := by
  refine (skip_passes _).bind fun found => ?_
  split
  · refine (name_passes _ _).bind fun characterName => ?_
    split
    · exact .pure fun _ start => start
    · exact .fail _ trivial
  · exact .fail _ trivial

/-- An escape has been read up to its letter. -/
abbrev BehindEscape (source : List Char) (char : Char) (rest : List Char) : Prop :=
  '\\' :: char :: rest <:+ source

theorem passes_behindEscape {α : Type} {reader : Reader α} (passes : Passes source reader)
    (char : Char) : Leads source (BehindEscape source char) reader fun _ rest => rest <:+ source :=
  passes.mono (fun rest start => suffix_of_append (show ['\\', char] ++ rest <:+ source from start))
    fun _ _ after => after

theorem codeEscape_leads {char : Char} {read : Reader Nat} (isCode : codeEscape? char = some read) :
    Leads source (BehindEscape source char) read fun _ rest => rest <:+ source := by
  rw [codeEscape?.eq_def] at isCode
  split at isCode
  · cases isCode
    exact hexEscape_leads _ _
  · cases isCode
    exact hexEscape_leads _ _
  · cases isCode
    exact hexEscape_leads _ _
  · cases isCode
    exact passes_behindEscape nameEscape_passes _
  · cases isCode

theorem selfEscape_passes (char : Char) : Passes source (selfEscape char) := by
  rw [selfEscape]
  split
  · exact .fail _ trivial
  · exact .pure fun _ start => start

theorem octalEscape_passes (first : Char) (digits : List Char) :
    Passes source (octalEscape first digits) := by
  rw [octalEscape]
  split
  · exact .pure fun _ start => start
  · exact .fail _ trivial

theorem setEscape_leads (char : Char) :
    Leads source (BehindEscape source char) (setEscape char) fun _ rest => rest <:+ source := by
  rw [setEscape]
  split
  next => exact passes_behindEscape (.pure fun _ start => start) char
  next => exact passes_behindEscape (.pure fun _ start => start) char
  next isCode => exact (codeEscape_leads isCode).bind fun _ => .pure fun _ start => start
  next =>
    apply passes_behindEscape
    split
    · refine (takeWhile_passes _ _).bind fun digits => ?_
      exact (octalEscape_passes _ _).bind fun _ => .pure fun _ start => start
    split
    · exact .fail _ trivial
    · exact (selfEscape_passes _).bind fun _ => .pure fun _ start => start

/-! ## Sets and repetitions -/

theorem setMember_leads (token : Token) :
    Leads source (fun rest => token.chars ++ rest <:+ source) (setMember token)
      fun _ rest => rest <:+ source := by
  cases token with
  | plain char => exact .pure fun _ start => suffix_of_append start
  | escaped char => exact setEscape_leads char

theorem setLoop_passes (start : Nat) (items : List SetItem) (fuel : Nat) :
    Passes source (setLoop start items fuel) := by
  induction fuel generalizing items with
  | zero => exact .throw trivial
  | succ fuel ih =>
      refine next_leads.bind fun low => ?_
      split
      next => exact .throw trivial
      next low =>
        split
        next => exact .pure fun _ after => suffix_of_append after.2
        next =>
          refine .bind (.startingFrom (setMember_leads low) fun _ start => start.2) fun first => ?_
          refine (skip_passes _).bind fun found => ?_
          split
          next =>
            refine next_leads.bind fun high => ?_
            split
            next => exact .throw trivial
            next high =>
              split
              next => exact .pure fun _ after => suffix_of_append after.2
              next =>
                refine .bind (.startingFrom (setMember_leads high) fun _ start => start.2)
                  fun second => ?_
                split
                next =>
                  split
                  · exact .fail _ trivial
                  · exact ih _
                next => exact .fail _ trivial
          next => exact ih _

/-- Nothing in a part reaches back too far, unless there is a look-behind in the source. -/
def IsCalm (source : List Char) (tree : Tree) : Prop :=
  tree.looksTooFar = true → HasCause source .tooFarBehind

theorem isCalm_of_eq_false {tree : Tree} (near : tree.looksTooFar = false) :
    IsCalm source tree := by
  intro far
  rw [near] at far
  cases far

/-- A reader leads from one place in the source to another, and to a part that is calm. -/
abbrev Grows (source : List Char) (reader : Reader Tree) : Prop :=
  Leads source (· <:+ source) reader fun tree rest => IsCalm source tree ∧ rest <:+ source

theorem bracketSet_grows : Grows source bracketSet := by
  refine tell_leads.bind fun _ => (skip_passes _).bind fun negated => ?_
  refine remaining_leads.bind fun _ => (setLoop_passes _ _ _).bind fun items => ?_
  split
  · split <;> exact .pure fun _ start => ⟨isCalm_of_eq_false rfl, start⟩
  · exact .pure fun _ start => ⟨isCalm_of_eq_false rfl, start⟩

theorem referenceEscape_grows (digits : List Char) : Grows source (referenceEscape digits) := by
  refine .getThen fun cursor => ?_
  simp only
  split
  · split
    · exact (checkLookbehind_passes _).bind fun _ =>
        .pure fun _ start => ⟨isCalm_of_eq_false rfl, start⟩
    · exact .fail _ trivial
  · exact .fail _ trivial

theorem numberEscape_grows (first : Char) : Grows source (numberEscape first) := by
  refine (takeWhile_passes _ _).bind fun second => ?_
  split
  · exact referenceEscape_grows _
  · split
    · refine (takeWhile_passes _ _).bind fun third => ?_
      split
      · exact (octalEscape_passes _ _).bind fun _ =>
          .pure fun _ start => ⟨isCalm_of_eq_false rfl, start⟩
      · exact referenceEscape_grows _
    · exact referenceEscape_grows _

theorem treeEscape_leads (char : Char) : Leads source (BehindEscape source char) (treeEscape char)
    fun tree rest => IsCalm source tree ∧ rest <:+ source := by
  have grows (tree : Tree) (near : tree.looksTooFar = false) : Grows source (pure tree) :=
    .pure fun _ start => ⟨isCalm_of_eq_false near, start⟩
  have behind {reader : Reader Tree} (leads : Grows source reader) :
      Leads source (BehindEscape source char) reader
        fun tree rest => IsCalm source tree ∧ rest <:+ source :=
    leads.startingFrom fun rest start =>
      suffix_of_append (show ['\\', char] ++ rest <:+ source from start)
  rw [treeEscape]
  split
  next => exact behind (grows _ rfl)
  next => exact behind (grows _ rfl)
  next => exact behind (grows _ rfl)
  next isCode =>
    exact (codeEscape_leads isCode).bind fun _ =>
      .pure fun _ start => ⟨isCalm_of_eq_false rfl, start⟩
  next =>
    apply behind
    split
    · exact (takeWhile_passes _ _).bind fun _ => grows _ rfl
    split
    · exact numberEscape_grows _
    · exact (selfEscape_passes _).bind fun _ => grows _ rfl

end

end Reader

end CriticalCss.Pattern
