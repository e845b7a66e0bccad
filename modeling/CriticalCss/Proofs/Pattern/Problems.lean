import CriticalCss.Proofs.Pattern.Reading

/-!
# Patterns that are worse than wrong

What is read of a pattern, from its repetitions and flags up to its groups, keeps to the text, and
so does what is checked at the end.  So a pattern has a problem that is more than mild only if its
text has the cause.
-/

namespace CriticalCss.Pattern

namespace Reader

variable {source : List Char}

/-! ## Repetitions -/

/-- Digits whose number is too large stand in the source as those of a repetition. -/
def IsCounted (source digits : List Char) : Prop :=
  countLimit ≤ valueInBase 10 digits → HasCause source .countTooLarge

theorem isCounted_of_suffix {mark : Char} {digits rest : List Char}
    (isMark : mark = '\x7b' ∨ mark = ',') (each : ∀ digit ∈ digits, digit.isDigit = true)
    (behind : mark :: (digits ++ rest) <:+ source) : IsCounted source digits := by
  intro large
  have inSource : (mark :: digits) ++ rest <:+ source := behind
  exact ⟨mark, digits, isMark, infix_of_append inSource, each, large⟩

theorem repetitionCount_leads {before : List Char → Prop} {digits : List Char}
    (counted : IsCounted source digits) :
    Leads source before (repetitionCount digits) fun _ rest => before rest := by
  rw [repetitionCount]
  split
  · exact .throw trivial
  simp only
  split
  next large => exact .throw (counted large)
  next => exact .pure fun _ start => start

theorem braceCounts_leads : Leads source (fun rest => '\x7b' :: rest <:+ source) braceCounts
    fun _ rest => rest <:+ source := by
  refine .getKnowing fun start behindBrace => peek_leads.bind fun token => ?_
  split
  next => exact .pure fun _ same => same.2 ▸ (List.suffix_cons _ _).trans behindBrace
  next =>
  refine remaining_leads.bind fun _ => ?_
  have atStart (rest : List Char) (same : nextOf rest = token ∧ rest = start.rest) :
      '\x7b' :: rest <:+ source := same.2 ▸ behindBrace
  refine .bind (.startingFrom (takeWhile_leads _ _) atStart) fun low => ?_
  refine .assuming (fun rest start => isCounted_of_suffix (.inl rfl) start.1 start.2) ?_
  intro lowCounted
  have behindLow (rest : List Char) (start : (∀ digit ∈ low, digit.isDigit = true) ∧
      '\x7b' :: (low ++ rest) <:+ source) : rest <:+ source :=
    suffix_of_append (show ('\x7b' :: low) ++ rest <:+ source from start.2)
  refine .bind (.startingFrom (skip_leads ',') behindLow) fun comma => ?_
  extract_lets ending
  have ends (high : List Char) (highCounted : IsCounted source high) :
      Leads source (· <:+ source) (ending high) fun _ rest => rest <:+ source := by
    refine (skip_passes _).bind fun found => ?_
    split
    · refine (repetitionCount_leads lowCounted).bind fun _ => ?_
      refine (repetitionCount_leads highCounted).bind fun _ => ?_
      extract_lets done
      have reversed : Passes source (failAt .countsReversed start.offset : Reader Unit) :=
        .throw trivial
      split
      · exact reversed.bind fun _ => .pure fun _ start => start
      · exact .pure fun _ start => start
    · exact (Leads.set _).bind fun _ =>
        .pure fun _ same => same ▸ (List.suffix_cons _ _).trans behindBrace
  cases comma with
  | true =>
      refine remaining_leads.bind fun _ => (takeWhile_leads _ _).bind fun high => ?_
      refine .assuming (fun rest start => isCounted_of_suffix (.inr rfl) start.1 start.2) ?_
      exact fun highCounted => (ends high highCounted).startingFrom fun rest start =>
        suffix_of_append (show (',' :: high) ++ rest <:+ source from start.2)
  | false => exact ends low lowCounted

theorem appetite_passes : Passes source appetite := by
  refine (skip_passes _).bind fun found => ?_
  split
  · exact .pure fun _ start => start
  refine (skip_passes _).bind fun found => ?_
  split
  · exact .pure fun _ start => start
  · exact .pure fun _ start => start

theorem repeatLast_leads (start least : Nat) (most : Option Nat) {items : List Tree}
    (calm : ∀ item ∈ items, IsCalm source item) :
    Leads source (· <:+ source) (repeatLast start least most items)
      fun items rest => (∀ item ∈ items, IsCalm source item) ∧ rest <:+ source := by
  rw [repeatLast.eq_def]
  split
  next => exact .throw trivial
  next last earlier =>
    split
    · exact .throw trivial
    split
    · exact .throw trivial
    · refine appetite_passes.bind fun appetite => .pure fun _ start => ⟨?_, start⟩
      obtain ⟨last, earlier⟩ := List.forall_mem_cons.mp calm
      exact List.forall_mem_cons.mpr ⟨last, earlier⟩

/-! ## Flags -/

theorem hasCause_ite {condition : Prop} [Decidable condition] {first second : Problem}
    (one : HasCause source first) (other : HasCause source second) :
    HasCause source (if condition then first else second) := by
  split
  · exact one
  · exact other

theorem addedFlags_passes (flags : Flags) (letter : Char) (fuel : Nat) :
    Passes source (addedFlags flags letter fuel) := by
  induction fuel generalizing flags letter with
  | zero => exact .fail _ trivial
  | succ fuel ih =>
      rw [addedFlags]
      refine .failIf trivial ?_
      simp only
      refine .failIf trivial (next_passes.bind fun token => ?_)
      split
      next => exact .fail _ trivial
      next char =>
        split
        · exact .pure fun _ start => start
        split
        · exact ih _ _
        · exact .fail _ (hasCause_ite trivial trivial)
      next => exact .fail _ trivial

theorem removedFlags_passes (flags : Flags) (letter : Char) (fuel : Nat) :
    Passes source (removedFlags flags letter fuel) := by
  induction fuel generalizing flags letter with
  | zero => exact .fail _ trivial
  | succ fuel ih =>
      rw [removedFlags]
      refine .failIf trivial (next_passes.bind fun token => ?_)
      split
      next => exact .fail _ trivial
      next char =>
        split
        · exact .pure fun _ start => start
        split
        · exact ih _ _
        · exact .fail _ (hasCause_ite trivial trivial)
      next => exact .fail _ trivial

theorem turnedOff_passes : Passes source turnedOff := by
  refine next_passes.bind fun token => ?_
  split
  next => exact .fail _ trivial
  next => exact .fail _ trivial
  next char =>
    split
    · exact remaining_leads.bind fun _ => removedFlags_passes _ _ _
    · exact .fail _ (hasCause_ite trivial trivial)

theorem flagChange_passes (first : Char) : Passes source (flagChange first) := by
  have flagsRead {α : Type} {next : Flags × Char → Reader α}
      (onward : ∀ found, Passes source (next found)) : Passes source (
        if first = '-' then pure ({}, '-') >>= next
        else remaining >>= fun count => addedFlags {} first (count + 1) >>= next) := by
    split
    · exact onward _
    · exact remaining_leads.bind fun _ => (addedFlags_passes _ _ _).bind onward
  have removedRead {α : Type} {ending : Char} {next : Flags → Reader α}
      (onward : ∀ removed, Passes source (next removed)) : Passes source (
        if ending = '-' then turnedOff >>= next else pure {} >>= next) := by
    split
    · exact turnedOff_passes.bind onward
    · exact onward _
  refine flagsRead ?_
  rintro ⟨added, ending⟩
  simp only
  split
  · refine .bind (.modifying ?_) fun _ => .pure fun _ start => start
    exact fun _ => rfl
  · refine .failIf trivial (removedRead fun removed => ?_)
    exact .failIf trivial (.failIf trivial (.pure fun _ start => start))

/-! ## Groups -/

theorem conditionGroup_passes : Passes source conditionGroup := by
  refine (name_passes _ _).bind fun condition => .getKnowing fun cursor atCursor => ?_
  refine .startingFrom ?_ fun _ same => same ▸ atCursor
  extract_lets ending
  have ends (group : Nat) : Passes source (ending group) :=
    (checkLookbehind_passes _).bind fun _ => .pure fun _ start => start
  have found {group : Nat} : Passes source (pure group >>= ending) := ends group
  split
  · split
    · exact found
    · exact .failBefore _ _ trivial
  split
  · exact .failBefore _ _ trivial
  split
  · exact .failBefore _ _ trivial
  split
  · exact .failBefore _ _ trivial
  split
  · exact .failBefore _ _ trivial
  simp only
  split
  · exact (Leads.set _).bind fun _ => found.startingFrom fun _ same => same ▸ atCursor
  · exact found

theorem namedReference_grows : Grows source namedReference := by
  refine (name_passes _ _).bind fun groupName => (checkName_passes _).bind fun _ => ?_
  refine .getThen fun cursor => ?_
  split
  next => exact .fail _ trivial
  next =>
    split
    · exact (checkLookbehind_passes _).bind fun _ =>
        .pure fun _ start => ⟨isCalm_of_eq_false rfl, start⟩
    · exact .fail _ trivial

theorem comment_passes (start fuel : Nat) : Passes source (comment start fuel) := by
  induction fuel with
  | zero => exact .throw trivial
  | succ fuel ih =>
      refine next_passes.bind fun token => ?_
      split
      next => exact .throw trivial
      next =>
        split
        · exact .pure fun _ start => start
        · exact ih

theorem lineEnd_passes (fuel : Nat) : Passes source (lineEnd fuel) := by
  induction fuel with
  | zero => exact .pure fun _ start => start
  | succ fuel ih =>
      refine next_passes.bind fun token => ?_
      split
      next => exact .pure fun _ start => start
      next =>
        split
        · exact .pure fun _ start => start
        · exact ih

theorem close_passes (start : Nat) : Passes source (close start) := by
  refine (skip_passes _).bind fun found => ?_
  split
  · exact .pure fun _ start => start
  · exact .throw trivial

/-! ## Trees -/

section

variable {first second tree : Tree} {trees : List Tree}

theorem isCalm_seq_iff :
    IsCalm source (.seq first second) ↔
      IsCalm source first ∧ IsCalm source second := by
  simp only [IsCalm, Tree.looksTooFar, Bool.or_eq_true]
  exact or_imp

theorem isCalm_alt_iff :
    IsCalm source (.alt first second) ↔
      IsCalm source first ∧ IsCalm source second := isCalm_seq_iff

theorem isCalm_look {behind negated : Bool}
    (cause : behind = true → HasCause source .tooFarBehind) (calm : IsCalm source tree) :
    IsCalm source (.look behind negated tree) := by
  cases behind with
  | false => exact calm
  | true => exact fun _ => cause rfl

theorem isCalm_parts (calm : IsCalm source tree) :
    ∀ part ∈ tree.parts, IsCalm source part := by
  induction tree with
  | seq first second _ ih =>
      obtain ⟨firstCalm, secondCalm⟩ := isCalm_seq_iff.mp calm
      exact List.forall_mem_cons.mpr ⟨firstCalm, ih secondCalm⟩
  | empty => exact nofun
  | _ => simpa [Tree.parts] using calm

theorem isCalm_spliced (calm : IsCalm source tree) :
    ∀ part ∈ tree.spliced, IsCalm source part := by
  rw [Tree.spliced.eq_def]
  split
  next body =>
    split
    · have bodyCalm : IsCalm source body := calm
      exact isCalm_parts bodyCalm
    · simpa using calm
  next => simpa using calm

theorem isCalm_ofList (calm : ∀ tree ∈ trees, IsCalm source tree) :
    IsCalm source (.ofList trees) := by
  induction trees with
  | nil => exact isCalm_of_eq_false rfl
  | cons first rest ih =>
      obtain ⟨firstCalm, restCalm⟩ := List.forall_mem_cons.mp calm
      cases rest with
      | nil => exact firstCalm
      | cons second rest => exact isCalm_seq_iff.mpr ⟨firstCalm, ih restCalm⟩

/-- The parts of a sequence are joined with those that bundles leave behind. -/
theorem isCalm_joined (calm : ∀ tree ∈ trees, IsCalm source tree) :
    IsCalm source (.ofList (trees.reverse.flatMap Tree.spliced)) := by
  apply isCalm_ofList
  intro part member
  obtain ⟨tree, isTree, isPart⟩ := List.mem_flatMap.mp member
  exact isCalm_spliced (calm tree (List.mem_reverse.mp isTree)) part isPart

theorem isCalm_firstOf (calm : ∀ tree ∈ trees, IsCalm source tree) :
    IsCalm source (.firstOf trees) := by
  induction trees with
  | nil => exact isCalm_of_eq_false rfl
  | cons first rest ih =>
      obtain ⟨firstCalm, restCalm⟩ := List.forall_mem_cons.mp calm
      cases rest with
      | nil => exact firstCalm
      | cons second rest => exact isCalm_alt_iff.mpr ⟨firstCalm, ih restCalm⟩

theorem sharedStart_subset (trees : List Tree) (others : List (List Tree)) :
    ∀ tree ∈ Tree.sharedStart trees others, tree ∈ trees := by
  induction trees generalizing others with
  | nil => exact nofun
  | cons head tail ih =>
      rw [Tree.sharedStart]
      split
      · intro tree member
        rcases List.mem_cons.mp member with rfl | member
        · exact List.mem_cons_self
        · exact List.mem_cons_of_mem _ (ih _ tree member)
      · exact nofun

theorem isCalm_ofAlternatives (calm : ∀ tree ∈ trees, IsCalm source tree) :
    IsCalm source (.ofAlternatives trees) := by
  rw [Tree.ofAlternatives.eq_def]
  split
  next => exact isCalm_of_eq_false rfl
  next tree => exact calm tree List.mem_cons_self
  next first others _ =>
    simp only
    have choicesCalm (count : Nat) : ∀ choice ∈ ((first :: others).map Tree.parts).map
        (·.drop count), ∀ tree ∈ choice, IsCalm source tree := by
      intro choice isChoice tree member
      obtain ⟨sequence, isSequence, rfl⟩ := List.mem_map.mp isChoice
      obtain ⟨alternative, isAlternative, rfl⟩ := List.mem_map.mp isSequence
      exact isCalm_parts (calm alternative isAlternative) tree (List.mem_of_mem_drop member)
    apply isCalm_ofList
    intro tree member
    rcases List.mem_append.mp member with member | member
    · have inFirst := sharedStart_subset _ _ tree member
      exact isCalm_parts (calm first List.mem_cons_self) tree inFirst
    · rw [List.mem_singleton.mp member]
      split
      next => exact isCalm_of_eq_false rfl
      next =>
        apply isCalm_firstOf
        intro tree member
        obtain ⟨choice, isChoice, rfl⟩ := List.mem_map.mp member
        exact isCalm_ofList (choicesCalm _ choice isChoice)

end

/-! ## Sequences and groups -/

/-- Parts that have been read are calm, and what is left stands in the source. -/
abbrev AreCalm (source : List Char) (trees : List Tree) (rest : List Char) : Prop :=
  (∀ tree ∈ trees, IsCalm source tree) ∧ rest <:+ source

/-- A part that a group leaves behind is calm, and what is left stands in the source. -/
abbrev AreFound (source : List Char) (found : Option Tree) (rest : List Char) : Prop :=
  (∀ tree ∈ found, IsCalm source tree) ∧ rest <:+ source

theorem leavesPart {reader : Reader Tree} (grows : Grows source reader) :
    Leads source (· <:+ source) (reader >>= fun tree => pure (some tree)) (AreFound source) :=
  grows.bindKnowing fun tree calm => .pure fun _ start => ⟨by simpa using calm, start⟩

theorem leavesNothing : Leads source (· <:+ source) (pure none) (AreFound source) :=
  .pure fun _ start => ⟨nofun, start⟩

-- Each reader calls the others with less fuel, so the triples are proved by one recursion on it.  A
-- part is calm because its own parts are, but for look-behinds, which are themselves the cause.
mutual

theorem alternatives_leads (verbose top first : Bool) : (fuel : Nat) →
    Leads source (· <:+ source) (alternatives verbose top first fuel) (AreCalm source)
  | 0 => .pure fun _ start => ⟨nofun, start⟩
  | fuel + 1 => by
      rw [alternatives]
      refine (sequence_grows _ _ fuel [] nofun).bindKnowing fun head headCalm => ?_
      refine (skip_passes _).bind fun bar => ?_
      split
      · refine .getThen fun cursor => ?_
        refine (alternatives_leads _ top false fuel).bindKnowing fun others othersCalm => ?_
        exact .pure fun _ start => ⟨List.forall_mem_cons.mpr ⟨headCalm, othersCalm⟩, start⟩
      · exact .pure fun _ start => ⟨by simpa using headCalm, start⟩
termination_by structural fuel => fuel

theorem sequence_grows (verbose flagsAllowed : Bool) : (fuel : Nat) → (items : List Tree) →
    (∀ item ∈ items, IsCalm source item) →
    Grows source (sequence verbose flagsAllowed items fuel)
  | 0, items, calm => .pure fun _ start => ⟨isCalm_joined calm, start⟩
  | fuel + 1, items, calm => by
      have onward (tree : Tree) (treeCalm : IsCalm source tree) :
          Grows source (sequence verbose flagsAllowed (tree :: items) fuel) :=
        sequence_grows _ _ fuel _ (List.forall_mem_cons.mpr ⟨treeCalm, calm⟩)
      have plainly (tree : Tree) (near : tree.looksTooFar = false) :
          Grows source (sequence verbose flagsAllowed (tree :: items) fuel) :=
        onward tree (isCalm_of_eq_false near)
      have repeats (start least : Nat) (most : Option Nat) :
          Grows source (repeatLast start least most items >>= fun items =>
            sequence verbose flagsAllowed items fuel) :=
        (repeatLast_leads start least most calm).bindKnowing (sequence_grows _ _ fuel)
      rw [sequence.eq_def]
      refine peek_leads.bind fun token => ?_
      split
      next => exact .pure fun _ start => ⟨isCalm_joined calm, start.2⟩
      next => exact .pure fun _ start => ⟨isCalm_joined calm, start.2⟩
      next => exact .pure fun _ start => ⟨isCalm_joined calm, start.2⟩
      next char =>
        exact (next_leads_of_peek _).bind fun _ => (treeEscape_leads char).bindKnowing onward
      next char _ _ =>
        refine tell_leads.bind fun start => (next_leads_of_peek _).bind fun _ => ?_
        have past {reader : Reader Tree} (grows : Grows source reader) :
            Leads source (char :: · <:+ source) reader
              fun tree rest => IsCalm source tree ∧ rest <:+ source :=
          grows.startingFrom fun _ start => (List.suffix_cons _ _).trans start
        split
        · exact past (sequence_grows _ _ fuel _ calm)
        split
        · exact past (remaining_leads.bind fun _ => (lineEnd_passes _).bind fun _ =>
            sequence_grows _ _ fuel _ calm)
        split
        next => exact past (bracketSet_grows.bindKnowing onward)
        next => exact past (repeats _ _ _)
        next => exact past (repeats _ _ _)
        next => exact past (repeats _ _ _)
        next =>
          refine braceCounts_leads.bind fun counts => ?_
          split
          next => exact plainly _ rfl
          next => exact repeats _ _ _
        next => exact past (plainly _ rfl)
        next => exact past (plainly _ rfl)
        next => exact past (plainly _ rfl)
        next =>
          refine (group_leads verbose _ start fuel).bindKnowing fun found foundCalm => ?_
          split
          next tree => exact onward tree (foundCalm tree rfl)
          next => exact .getThen fun cursor => sequence_grows _ _ fuel _ calm
        next => exact past (plainly _ rfl)
termination_by structural fuel => fuel

theorem group_leads (verbose flagsAllowed : Bool) (start : Nat) : (fuel : Nat) →
    Leads source (fun rest => '(' :: rest <:+ source) (group verbose flagsAllowed start fuel)
      (AreFound source)
  | 0 => .pure fun _ start => ⟨nofun, (List.suffix_cons _ _).trans start⟩
  | fuel + 1 => by
      rw [group.eq_def]
      refine (skip_leads '?').bind fun isExtended => ?_
      cases isExtended with
      | false =>
        exact (leavesPart (captured_grows _ _ _ fuel)).startingFrom fun _ start =>
          (List.suffix_cons _ _).trans start
      | true =>
      change Leads source (fun rest => '(' :: '?' :: rest <:+ source) _ _
      refine next_leads.bind fun token => ?_
      split
      next => exact .fail _ trivial
      next => exact .fail _ trivial
      next char =>
      refine .startingFrom ?_ fun _ start => start.2
      change Leads source (fun rest => '(' :: '?' :: char :: rest <:+ source) _ _
      have past {reader : Reader (Option Tree)}
          (leads : Leads source (· <:+ source) reader (AreFound source)) :
          Leads source (fun rest => '(' :: '?' :: char :: rest <:+ source) reader
            (AreFound source) :=
        leads.startingFrom fun rest start =>
          suffix_of_append (show ['(', '?', char] ++ rest <:+ source from start)
      split
      next =>
        refine past ((skip_passes _).bind fun isNamed => ?_)
        split
        · refine (name_passes _ _).bind fun groupName => (checkName_passes _).bind fun _ => ?_
          exact leavesPart (captured_grows _ _ _ fuel)
        refine (skip_passes _).bind fun isReference => ?_
        split
        · exact leavesPart namedReference_grows
        · refine next_passes.bind fun token => ?_
          split <;> exact .fail _ trivial
      next => exact past (leavesPart (uncaptured_grows _ _ _ _ fuel))
      next =>
        refine past (remaining_leads.bind fun _ => ?_)
        exact (comment_passes _ _).bind fun _ => leavesNothing
      next => exact past (leavesPart (lookaround_grows _ false false start nofun fuel))
      next => exact past (leavesPart (lookaround_grows _ false true start nofun fuel))
      next =>
        -- Here a look-behind stands in the source, so it is calm whatever it holds.
        have inSource (rest : List Char) (start : ['(', '?', '<'] ++ rest <:+ source) :
            ['(', '?', '<'] <:+: source := infix_of_append start
        refine .assuming inSource fun marked => ?_
        refine past (next_passes.bind fun token => ?_)
        split
        next => exact .fail _ trivial
        next => exact leavesPart (lookaround_grows _ _ _ _ (fun _ => marked) fuel)
        next => exact leavesPart (lookaround_grows _ _ _ _ (fun _ => marked) fuel)
        next => exact .fail _ trivial
      next => exact past (leavesPart (condition_grows _ _ fuel))
      next =>
        refine past ((alternatives_leads _ _ _ fuel).bindKnowing fun trees calm => ?_)
        refine (close_passes start).bind fun _ => .pure fun _ start => ⟨?_, start⟩
        rintro _ ⟨⟩
        exact isCalm_ofAlternatives calm
      next =>
        apply past
        split
        · refine (flagChange_passes _).bind fun change => ?_
          split
          next => exact leavesPart (uncaptured_grows _ _ _ _ fuel)
          next =>
            split
            · exact leavesNothing
            · exact .throw trivial
        · exact .fail _ trivial
termination_by structural fuel => fuel

theorem captured_grows (verbose : Bool) (groupName : Option String) (start : Nat) :
    (fuel : Nat) → Grows source (captured verbose groupName start fuel)
  | 0 => .pure fun _ start => ⟨isCalm_of_eq_false rfl, start⟩
  | fuel + 1 => by
      rw [captured]
      refine (openGroup_passes groupName).bind fun number => ?_
      refine (alternatives_leads _ _ _ fuel).bindKnowing fun trees calm => ?_
      refine (close_passes start).bind fun _ => (closeGroup_passes _ _).bind fun _ => ?_
      exact .pure fun _ start => ⟨isCalm_ofAlternatives calm, start⟩
termination_by structural fuel => fuel

theorem uncaptured_grows (verbose : Bool) (added removed : Flags) (start : Nat) :
    (fuel : Nat) → Grows source (uncaptured verbose added removed start fuel)
  | 0 => .pure fun _ start => ⟨isCalm_of_eq_false rfl, start⟩
  | fuel + 1 => by
      rw [uncaptured]
      refine (alternatives_leads _ _ _ fuel).bindKnowing fun trees calm => ?_
      refine (close_passes start).bind fun _ => ?_
      exact .pure fun _ start => ⟨isCalm_ofAlternatives calm, start⟩
termination_by structural fuel => fuel

theorem lookaround_grows (verbose behind negated : Bool) (start : Nat)
    (cause : behind = true → HasCause source .tooFarBehind) :
    (fuel : Nat) → Grows source (lookaround verbose behind negated start fuel)
  | 0 => .pure fun _ start => ⟨isCalm_of_eq_false rfl, start⟩
  | fuel + 1 => by
      rw [lookaround]
      refine .getKnowing fun outer atOuter => ?_
      extract_lets outermost reading
      have reads : Grows source (reading ()) := by
        refine (alternatives_leads _ _ _ fuel).bindKnowing fun trees calm => ?_
        extract_lets body closing
        have closes : Grows source (closing ()) := by
          refine (close_passes start).bind fun _ => .pure fun _ start => ⟨?_, start⟩
          exact isCalm_look cause (isCalm_ofAlternatives calm)
        split
        · exact .bind (.modifying fun _ => rfl) fun _ => closes
        · exact closes
      have again : Leads source (· = outer.rest) (reading ()) fun tree rest =>
          IsCalm source tree ∧ rest <:+ source := reads.startingFrom fun _ same => same ▸ atOuter
      split
      · exact (Leads.set _).bind fun _ => again
      · exact again
termination_by structural fuel => fuel

theorem condition_grows (verbose : Bool) (start : Nat) :
    (fuel : Nat) → Grows source (condition verbose start fuel)
  | 0 => .pure fun _ start => ⟨isCalm_of_eq_false rfl, start⟩
  | fuel + 1 => by
      rw [condition]
      refine conditionGroup_passes.bind fun number => ?_
      refine (sequence_grows _ _ fuel [] nofun).bindKnowing fun present presentCalm => ?_
      refine (skip_passes _).bind fun bar => ?_
      extract_lets ending
      have ends (absent : Tree) (absentCalm : IsCalm source absent) :
          Grows source (ending absent) :=
        (close_passes start).bind fun _ => .pure fun _ start =>
          ⟨isCalm_seq_iff.mpr ⟨presentCalm, absentCalm⟩, start⟩
      split
      · refine (sequence_grows _ _ fuel [] nofun).bindKnowing fun absent absentCalm => ?_
        refine peek_leads.bind fun token => .startingFrom ?_ fun _ start => start.2
        exact .failIf trivial (ends absent absentCalm)
      · exact ends _ (isCalm_of_eq_false rfl)
termination_by structural fuel => fuel

end

end Reader

/-! ## Whole patterns -/

section

variable {source : List Char}

theorem hasCause_of_obstacle {template : Bool} {tree : Tree} {problem : Problem}
    (met : tree.obstacle? template = some problem) : HasCause source problem := by
  have either {first second : Option Problem} (met : first.or second = some problem)
      (one : first = some problem → HasCause source problem)
      (other : second = some problem → HasCause source problem) : HasCause source problem := by
    rcases Option.or_eq_some_iff.mp met with met | ⟨-, met⟩
    · exact one met
    · exact other met
  induction tree with
  | seq first second one other | alt first second one other
  | conditional group first second one other => exact either met one other
  | capture group body ih | flagged added removed body ih | atomic body ih => exact ih met
  | look behind negated body ih =>
      cases behind with
      | false => exact ih met
      | true =>
          rw [Tree.obstacle?] at met
          split at met
          · exact ih met
          · cases met
            trivial
  | repeated appetite least most body ih =>
      cases template with
      | true =>
          cases met
          trivial
      | false => exact ih met
  | empty | char | notChar | any | set | anchor | reference => cases met

theorem hasCause_of_finish {tree : Tree} {cursor : Cursor} {error : Error}
    (calm : Reader.IsCalm source tree) (failed : finish tree cursor = .error error) :
    HasCause source error.problem := by
  rw [finish] at failed
  split at failed
  · cases failed
    trivial
  simp only at failed
  split at failed
  · cases failed
    trivial
  split at failed
  · cases failed
    trivial
  split at failed
  next problem met =>
    cases failed
    exact hasCause_of_obstacle met
  split at failed
  next far =>
    cases failed
    exact calm far
  next => cases failed

end

/-- A pattern that cannot be used has a problem that is mild, or whose cause stands in its text. -/
theorem hasCause_of_parse {source : String} {error : Error}
    (failed : parse source = .error error) : HasCause source.toList error.problem := by
  rw [parse] at failed
  rcases error_of_bind failed with failed | ⟨_, _, failed⟩
  · rw [Reader.checkEnd] at failed
    split at failed
    · cases failed
      trivial
    · cases failed
  have leads : Reader.Leads source.toList (· <:+ source.toList) _ _ :=
    Reader.alternatives_leads false true true (4 * source.toList.length + 2)
  rcases error_of_bind failed with failed | ⟨⟨trees, cursor⟩, read, failed⟩
  · exact leads.cause _ _ (List.suffix_refl _) failed
  · obtain ⟨calm, -⟩ := leads.holds _ _ _ (List.suffix_refl _) read
    exact hasCause_of_finish (Reader.isCalm_ofAlternatives calm) failed

end CriticalCss.Pattern
