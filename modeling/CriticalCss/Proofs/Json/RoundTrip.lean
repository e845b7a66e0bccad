import CriticalCss.Proofs.Json.Documents
import CriticalCss.Proofs.Json.Numbers

/-!
# What is written is read back

A text that has been written for a value denotes it: whatever follows, reading the text gives the
value and leaves what follows.  Control characters come back from their escapes, numbers from their
numerals, and the parts of lists and objects from between their separators, on one line or indented.
Only the keys of an object have to be different, since of a repeated key the last value counts.
-/

namespace CriticalCss.Json

/-! ## Texts -/

variable {opening rest : List Char} {fuel : Nat}

/-- A character in front of what has been read behind it. -/
def prepend (char : Char) (found : List Char × List Char) : List Char × List Char :=
  (char :: found.1, found.2)

/-- The code unit of four digits. -/
def unitOf? : List Char → Option Nat
  | [first, second, third, fourth] => unit? first second third fourth
  | _ => none

/-- The digits of a control character denote it. -/
theorem unitOf?_hexDigits : ∀ code < 32, unitOf? (Text.hexDigits 4 code) = some code := by
  decide

/-- Behind the escape of a control character there must be some more text. -/
theorem readUnit_hexDigits {char : Char} (control : char.toNat < 32) (next : Char) :
    readUnit (Text.hexDigits 4 char.toNat ++ next :: rest) = some (char, next :: rest) := by
  have isUnit := unitOf?_hexDigits char.toNat control
  have noHalf : isHighUnit char.toNat = false ∧ isLowUnit char.toNat = false := by
    simp only [isHighUnit, isLowUnit, decide_eq_false_iff_not]
    omega
  generalize Text.hexDigits 4 char.toNat = digits at isUnit ⊢
  simp only [unitOf?] at isUnit
  split at isUnit
  · simp [readUnit, isUnit, charOfUnit, noHalf]
  · cases isUnit

/-- A written character is read, and what is behind it is read on. -/
theorem readChars_writeChar (char next : Char) :
    readChars opening (fuel + 1) (writeChar false char ++ next :: rest) =
      (readChars opening fuel (next :: rest)).map (prepend char) := by
  have onward (char : Char) :
      (readChars opening fuel (next :: rest) >>= fun found => pure (prepend char found)) =
        (readChars opening fuel (next :: rest)).map (prepend char) := by
    cases readChars opening fuel (next :: rest) <;> rfl
  rw [writeChar]
  split
  next isChar =>
    subst isChar
    exact onward '\x22'
  next notQuote =>
  split
  next isChar =>
    subst isChar
    exact onward '\\'
  next notBackslash =>
  split
  next isChar =>
    subst isChar
    exact onward '\n'
  next =>
  split
  next isChar =>
    subst isChar
    exact onward '\r'
  next =>
  split
  next isChar =>
    subst isChar
    exact onward '\t'
  next =>
  split
  next isChar =>
    subst isChar
    exact onward '\x08'
  next =>
  split
  next isChar =>
    subst isChar
    exact onward '\x0c'
  next =>
  split
  next control =>
    have code : char.toNat < 32 := by simpa using control
    have small : char.toNat < 0x10000 := by omega
    rw [codeEscape, if_pos small, unitEscape, List.cons_append, List.cons_append, readChars]
    simp only [readUnit_hexDigits code]
    exact onward char
  next plain =>
    have printable : ¬char.toNat < 32 := fun control => plain (.inl control)
    rw [List.singleton_append, readChars.eq_def]
    simp only [if_neg notQuote, if_neg notBackslash, if_neg printable]
    exact onward char

/-- The characters of a text are read up to the quote behind them. -/
theorem readChars_written {chars : List Char} (enough : chars.length < fuel) :
    readChars opening fuel (chars.flatMap (writeChar false) ++ '\x22' :: rest) =
      .ok (chars, rest) := by
  induction chars generalizing fuel with
  | nil =>
      obtain ⟨fuel, rfl⟩ := Nat.exists_eq_add_one.mpr enough
      rfl
  | cons char others ih =>
      obtain ⟨fuel, rfl⟩ := Nat.exists_eq_add_one.mpr (Nat.zero_lt_of_lt enough)
      have behind := ih (Nat.lt_of_succ_lt_succ enough)
      obtain ⟨next, others, text⟩ : ∃ next behind,
          others.flatMap (writeChar false) ++ '\x22' :: rest = next :: behind :=
        List.exists_cons_of_ne_nil (by simp)
      rw [List.flatMap_cons, List.append_assoc]
      rw [text] at behind ⊢
      rw [readChars_writeChar, behind]
      rfl

/-- No character is written as nothing. -/
theorem length_le_flatMap_writeChar (ascii : Bool) (chars : List Char) :
    chars.length ≤ (chars.flatMap (writeChar ascii)).length := by
  induction chars with
  | nil => exact Nat.le_refl 0
  | cons char others ih =>
      have written : writeChar ascii char ≠ [] := by
        simp only [writeChar, codeEscape, unitEscape]
        grind
      have some : 0 < (writeChar ascii char).length := List.length_pos_iff.mpr written
      rw [List.flatMap_cons, List.length_append, List.length_cons]
      omega

/-- A text is read behind its opening quote. -/
theorem readText_written (text : String) (rest : List Char) :
    readText (text.toList.flatMap (writeChar false) ++ '\x22' :: rest) = .ok (text, rest) := by
  have enough : text.toList.length <
      (text.toList.flatMap (writeChar false) ++ '\x22' :: rest).length + 1 := by
    have written := length_le_flatMap_writeChar false text.toList
    rw [List.length_append]
    omega
  rw [readText, readChars_written enough]
  simp [bind, Except.bind, pure, Except.pure]

/-! ## Values -/

/-- Whether the text of a value may begin with a character. -/
def startsValue (char : Char) : Bool :=
  char.isDigit || ['-', 'n', 't', 'f', '\x22', '[', '\x7b'].contains char

theorem ne_of_startsValue {char other : Char} (starts : startsValue char = true)
    (isOther : startsValue other = false) : char ≠ other := by
  rintro rfl
  rw [starts] at isOther
  cases isOther

theorem isSpace_of_startsValue {char : Char} (starts : startsValue char = true) :
    isSpace char = false := by
  have space : char ≠ ' ' := ne_of_startsValue starts rfl
  have line : char ≠ '\n' := ne_of_startsValue starts rfl
  have tab : char ≠ '\t' := ne_of_startsValue starts rfl
  have carriage : char ≠ '\r' := ne_of_startsValue starts rfl
  simp [isSpace, space, line, tab, carriage]

/-- A text that is read as a value, whatever is behind it that ends a number. -/
structure Denotes (text : List Char) (value : Value) : Prop where
  starts : ∃ first behind, text = first :: behind ∧ startsValue first = true
  reads : ∀ fuel rest, text.length ≤ fuel → EndsNumber rest →
    readValue fuel (text ++ rest) = .ok (value, rest)

/-- A text denotes what is read of it from its first character on. -/
theorem denotes_cons {first : Char} {behind : List Char} {value : Value}
    (starts : startsValue first = true)
    (reads : ∀ fuel rest, behind.length ≤ fuel → EndsNumber rest →
      readValue (fuel + 1) (first :: (behind ++ rest)) = .ok (value, rest)) :
    Denotes (first :: behind) value := by
  constructor
  · exact ⟨first, behind, rfl, starts⟩
  · intro fuel rest enough ends
    cases fuel with
    | zero => cases enough
    | succ fuel => exact reads fuel rest (Nat.le_of_succ_le_succ enough) ends

/-- A text without quote and brackets in front is a word or a number. -/
theorem readValue_atom {first : Char} (behind : List Char)
    (noQuote : first ≠ '\x22') (noBracket : first ≠ '[') (noBrace : first ≠ '\x7b') :
    readValue (fuel + 1) (first :: behind) = readAtom (first :: behind) := by
  rw [readValue.eq_def]
  simp [noQuote, noBracket, noBrace]

theorem denotes_atom {first : Char} {behind : List Char} {value : Value}
    (starts : startsValue first = true) (noQuote : first ≠ '\x22') (noBracket : first ≠ '[')
    (noBrace : first ≠ '\x7b')
    (reads : ∀ rest, EndsNumber rest → readAtom (first :: behind ++ rest) = .ok (value, rest)) :
    Denotes (first :: behind) value := by
  apply denotes_cons starts
  intro fuel rest _ ends
  rw [readValue_atom _ noQuote noBracket noBrace]
  exact reads rest ends

/-- A numeral denotes its number. -/
theorem denotes_numeral {number : Number} {text : List Char} (numeral : IsNumeral number text) :
    Denotes text (.number number) := by
  obtain ⟨negative, digit, behind, isText, isDigit, _⟩ := numeral.exists_digit
  have reads : ∀ rest, EndsNumber rest → readAtom (text ++ rest) = .ok (.number number, rest) :=
    fun rest ends => numeral.readAtom_eq ends
  rw [isText] at reads ⊢
  cases negative with
  | true => exact denotes_atom rfl (by decide) (by decide) (by decide) reads
  | false =>
      have noDigit (char : Char) (other : char.isDigit = false) : digit ≠ char := by
        rintro rfl
        rw [isDigit] at other
        cases other
      refine denotes_atom ?_ (noDigit _ rfl) (noDigit _ rfl) (noDigit _ rfl) reads
      rw [startsValue, isDigit]
      rfl

theorem denotes_number {layout : Layout} {number : Number} {text : List Char}
    (written : writeNumber layout number = .ok text) : Denotes text (.number number) := by
  cases number with
  | truth held =>
      cases held with
      | true =>
          cases written
          exact denotes_atom rfl (by decide) (by decide) (by decide) fun rest _ => rfl
      | false =>
          cases written
          exact denotes_atom rfl (by decide) (by decide) (by decide) fun rest _ => rfl
  | whole value =>
      rw [writeNumber] at written
      split at written
      · cases written
      next short =>
        cases written
        exact denotes_numeral (isNumeral_integer (Bool.eq_false_iff.mpr short))
  | real value =>
      cases value with
      | finite value =>
          cases written
          exact denotes_numeral (isNumeral_double value)
      | nan | infinite => cases written

theorem denotes_text (text : String) : Denotes (writeText false text) (.text text) := by
  apply denotes_cons rfl
  intro fuel rest _ _
  rw [List.append_eq, List.append_assoc, readValue]
  simp only [List.singleton_append, readText_written]
  rfl

/-! ## Space between the parts -/

/-- A text of nothing but space. -/
def IsBlank (gap : List Char) : Prop := ∀ char ∈ gap, isSpace char = true

theorem skipSpace_append {gap : List Char} (blank : IsBlank gap) (text : List Char) :
    skipSpace (gap ++ text) = skipSpace text :=
  List.dropWhile_append_of_pos blank

theorem skipSpace_cons {char : Char} (noSpace : isSpace char = false) (text : List Char) :
    skipSpace (char :: text) = char :: text := by
  rw [skipSpace, List.dropWhile_cons, noSpace]
  rfl

/-- No space stands before a value. -/
theorem Denotes.skipSpace_append {text : List Char} {value : Value} (denotes : Denotes text value)
    (rest : List Char) : skipSpace (text ++ rest) = text ++ rest := by
  obtain ⟨first, behind, rfl, starts⟩ := denotes.starts
  exact skipSpace_cons (isSpace_of_startsValue starts) _

/-- Every line is indented by space. -/
def Layout.IsBlank (layout : Layout) : Prop := ∀ step ∈ layout.indent, Json.IsBlank step

theorem isBlank_lineBreak {layout : Layout} (blank : layout.IsBlank) (level : Nat) :
    IsBlank (layout.lineBreak level) := by
  rw [Layout.lineBreak]
  split
  · exact fun _ member => nomatch member
  next step isStep =>
    intro char member
    rcases List.mem_cons.mp member with rfl | inSteps
    · rfl
    · obtain ⟨part, isPart, inPart⟩ := List.mem_flatten.mp inSteps
      rw [List.eq_of_mem_replicate isPart] at inPart
      exact blank step isStep char inPart

/-- A comma and some space separate two items. -/
theorem exists_separator {layout : Layout} (blank : layout.IsBlank) (level : Nat) :
    ∃ gap, layout.separator level = ',' :: gap ∧ IsBlank gap := by
  rw [Layout.separator]
  split
  · exact ⟨[' '], rfl, by simp [IsBlank, isSpace]⟩
  · exact ⟨_, rfl, isBlank_lineBreak blank level⟩

/-- The characters that stand behind a value. -/
def endsValue (char : Char) : Bool := [',', ']', '\x7d', '\n'].contains char

theorem endsNumber_cons {char : Char} (ends : endsValue char = true) (text : List Char) :
    EndsNumber (char :: text) := by
  simp only [endsValue, List.contains_cons, List.contains_nil, Bool.or_eq_true, beq_iff_eq,
    Bool.or_false] at ends
  have isOneOf : char = ',' ∨ char = ']' ∨ char = '\x7d' ∨ char = '\n' := ends
  refine ⟨?_, ?_, ?_⟩ <;> rintro _ ⟨⟩ <;> rcases isOneOf with rfl | rfl | rfl | rfl <;> decide

/-- A bracket ends a number, also on a line of its own. -/
theorem endsNumber_lineBreak {layout : Layout} (level : Nat) {bracket : Char}
    (ends : endsValue bracket = true) (rest : List Char) :
    EndsNumber (layout.lineBreak level ++ bracket :: rest) := by
  rw [Layout.lineBreak]
  split
  · exact endsNumber_cons ends rest
  · exact endsNumber_cons rfl _

/-! ## Lists and objects -/

section

variable {layout : Layout} {level outer : Nat}

/-- How the items of a list go on behind one that has been read. -/
def itemsBehind (fuel : Nat) (item : Value) : List Char → Except Error (List Value × List Char)
  | ']' :: rest => .ok ([item], rest)
  | ',' :: rest => do
    let (items, rest) ← readItems fuel (skipSpace rest)
    return (item :: items, rest)
  | rest => .error ⟨.expectingComma, rest⟩

/-- An item that has been written is read. -/
theorem readItems_item {item : Value} {text : List Char} (denotes : Denotes text item)
    (enough : text.length ≤ fuel) (ends : EndsNumber rest) :
    readItems (fuel + 1) (text ++ rest) = itemsBehind fuel item (skipSpace rest) := by
  rw [readItems, denotes.reads fuel rest enough ends]
  simp only [bind, Except.bind]
  generalize skipSpace rest = behind
  split
  · rfl
  · rfl
  next noBracket noComma => exact (itemsBehind.eq_3 _ _ _ noBracket noComma).symm

/-- The items that have been written are read up to the closing bracket. -/
theorem readItems_written (outer : Nat) (rest : List Char) (blank : layout.IsBlank)
    {first : Value} {others : List Value} {head tail : List Char} (denotes : Denotes head first)
    (each : ∀ item ∈ others, ∀ text, writeValue layout level item = .ok text → Denotes text item)
    (written : writeItems layout level others = .ok tail) (enough : (head ++ tail).length < fuel) :
    readItems fuel (head ++ (tail ++ (layout.lineBreak outer ++ ']' :: rest))) =
      .ok (first :: others, rest) := by
  induction others generalizing first head tail fuel with
  | nil =>
      cases written
      obtain ⟨fuel, rfl⟩ := Nat.exists_eq_add_one.mpr (Nat.zero_lt_of_lt enough)
      have short : head.length ≤ fuel := by
        rw [List.append_nil] at enough
        omega
      rw [List.nil_append, readItems_item denotes short (endsNumber_lineBreak outer rfl rest),
        skipSpace_append (isBlank_lineBreak blank outer), skipSpace_cons rfl]
      rfl
  | cons second others ih =>
      obtain ⟨secondText, secondIs, written⟩ := exists_ok_of_bind written
      obtain ⟨othersText, othersAre, ended⟩ := exists_ok_of_bind written
      cases ended
      obtain ⟨gap, separator, gapBlank⟩ := exists_separator blank level
      obtain ⟨fuel, rfl⟩ := Nat.exists_eq_add_one.mpr (Nat.zero_lt_of_lt enough)
      have denotesSecond := each second (by simp) secondText secondIs
      let behind := secondText ++ (othersText ++ (layout.lineBreak outer ++ ']' :: rest))
      have text : layout.separator level ++ secondText ++ othersText ++
          (layout.lineBreak outer ++ ']' :: rest) = ',' :: (gap ++ behind) := by
        simp [separator, behind]
      have length : head.length ≤ fuel ∧ (secondText ++ othersText).length < fuel := by
        simp only [separator, List.length_append, List.length_cons] at enough ⊢
        omega
      have othersRead := ih denotesSecond (fun item member => each item (by simp [member]))
        othersAre length.2
      rw [text, readItems_item denotes length.1 (endsNumber_cons rfl _), skipSpace_cons rfl,
        itemsBehind, skipSpace_append gapBlank, denotesSecond.skipSpace_append, othersRead]
      rfl

/-- How the pairs of an object go on behind one that has been read. -/
def pairsBehind (fuel : Nat) (pair : String × Value) :
    List Char → Except Error (List (String × Value) × List Char)
  | '\x7d' :: rest => .ok ([pair], rest)
  | ',' :: rest => do
    let (pairs, rest) ← readPairs fuel (skipSpace rest)
    return (pair :: pairs, rest)
  | rest => .error ⟨.expectingComma, rest⟩

/-- A field that has been written is read. -/
theorem readPairs_field {key : String} {value : Value} {text : List Char}
    (denotes : Denotes text value) (enough : text.length ≤ fuel) (ends : EndsNumber rest) :
    readPairs (fuel + 1) (writeText false key ++ ':' :: ' ' :: (text ++ rest)) =
      pairsBehind fuel (key, value) (skipSpace rest) := by
  have keyText : writeText false key ++ ':' :: ' ' :: (text ++ rest) =
      '\x22' :: (key.toList.flatMap (writeChar false) ++
        '\x22' :: ':' :: ' ' :: (text ++ rest)) := by
    simp [writeText]
  have spaced : skipSpace (' ' :: (text ++ rest)) = text ++ rest := denotes.skipSpace_append rest
  rw [keyText, readPairs, readText_written]
  simp only [bind, Except.bind, skipSpace_cons (show isSpace ':' = false from rfl), spaced,
    denotes.reads fuel rest enough ends]
  generalize skipSpace rest = behind
  split
  · rfl
  · rfl
  next noBrace noComma => exact (pairsBehind.eq_3 _ _ _ noBrace noComma).symm

/-- The fields that have been written are read up to the closing brace. -/
theorem readPairs_written (outer : Nat) (rest : List Char) (blank : layout.IsBlank)
    (plain : layout.ascii = false) (key : String) {first : Value}
    {others : List (String × Value)} {head tail : List Char}
    (denotes : Denotes head first)
    (each : ∀ field ∈ others, ∀ text,
      writeValue layout level field.2 = .ok text → Denotes text field.2)
    (written : writeFields layout level others = .ok tail)
    (enough : (head ++ tail).length < fuel) :
    readPairs fuel (writeText false key ++ ':' :: ' ' ::
        (head ++ (tail ++ (layout.lineBreak outer ++ '\x7d' :: rest)))) =
      .ok ((key, first) :: others, rest) := by
  induction others generalizing key first head tail fuel with
  | nil =>
      cases written
      obtain ⟨fuel, rfl⟩ := Nat.exists_eq_add_one.mpr (Nat.zero_lt_of_lt enough)
      have short : head.length ≤ fuel := by
        rw [List.append_nil] at enough
        omega
      rw [List.nil_append, readPairs_field denotes short (endsNumber_lineBreak outer rfl rest),
        skipSpace_append (isBlank_lineBreak blank outer), skipSpace_cons rfl]
      rfl
  | cons second others ih =>
      obtain ⟨secondKey, second⟩ := second
      obtain ⟨secondText, secondIs, written⟩ := exists_ok_of_bind written
      obtain ⟨othersText, othersAre, ended⟩ := exists_ok_of_bind written
      cases ended
      obtain ⟨gap, separator, gapBlank⟩ := exists_separator blank level
      obtain ⟨fuel, rfl⟩ := Nat.exists_eq_add_one.mpr (Nat.zero_lt_of_lt enough)
      have denotesSecond := each (secondKey, second) (by simp) secondText secondIs
      let behind := writeText false secondKey ++ ':' :: ' ' ::
        (secondText ++ (othersText ++ (layout.lineBreak outer ++ '\x7d' :: rest)))
      have text : layout.separator level ++ writeText layout.ascii secondKey ++
          ':' :: ' ' :: secondText ++ othersText ++ (layout.lineBreak outer ++ '\x7d' :: rest) =
            ',' :: (gap ++ behind) := by
        simp [separator, behind, plain]
      have length : head.length ≤ fuel ∧ (secondText ++ othersText).length < fuel := by
        simp only [separator, List.length_append, List.length_cons] at enough ⊢
        omega
      have othersRead := ih secondKey denotesSecond
        (fun field member => each field (by simp [member])) othersAre length.2
      have quoted : skipSpace behind = behind := skipSpace_cons rfl _
      rw [text, readPairs_field denotes length.1 (endsNumber_cons rfl _), skipSpace_cons rfl,
        pairsBehind, skipSpace_append gapBlank, quoted, othersRead]
      rfl

/-- A list with an item in it is read item by item. -/
theorem readValue_list {gap head behind : List Char} {first : Value} (blank : IsBlank gap)
    (denotes : Denotes head first) {items : List Value}
    (itemsRead : readItems fuel (head ++ behind) = .ok (items, rest)) :
    readValue (fuel + 1) ('[' :: (gap ++ (head ++ behind))) = .ok (.list items, rest) := by
  have inside : skipSpace (gap ++ (head ++ behind)) = head ++ behind := by
    rw [skipSpace_append blank, denotes.skipSpace_append]
  obtain ⟨char, others, rfl, starts⟩ := denotes.starts
  rw [readValue, inside]
  split
  next closed =>
    have bracket : char = ']' := (List.cons.inj closed).1
    exact absurd bracket (ne_of_startsValue starts rfl)
  next =>
    rw [itemsRead]
    rfl

/-- An object with a field in it is read field by field. -/
theorem readValue_object {gap behind : List Char} (blank : IsBlank gap)
    {pairs : List (String × Value)}
    (pairsRead : readPairs fuel ('\x22' :: behind) = .ok (pairs, rest)) :
    readValue (fuel + 1) ('\x7b' :: (gap ++ '\x22' :: behind)) =
      .ok (.object (Fields.ofPairs pairs), rest) := by
  have inside : skipSpace (gap ++ '\x22' :: behind) = '\x22' :: behind := by
    rw [skipSpace_append blank, skipSpace_cons rfl]
  rw [readValue, inside]
  split
  next closed => cases closed
  next =>
    rw [pairsRead]
    rfl

/-- What is written for a value denotes it, if no object has a key twice. -/
theorem denotes_written (plain : layout.ascii = false) (blank : layout.IsBlank) {value : Value}
    (unique : value.HasUniqueKeys) {text : List Char}
    (written : writeValue layout level value = .ok text) : Denotes text value := by
  induction unique generalizing level text with
  | null =>
      cases written
      exact denotes_atom rfl (by decide) (by decide) (by decide) fun rest _ => rfl
  | number held =>
      rw [writeValue] at written
      exact denotes_number written
  | text held =>
      cases written
      rw [plain]
      exact denotes_text held
  | @list items _ ih =>
      cases items with
      | nil =>
          cases written
          apply denotes_cons rfl
          intros
          rfl
      | cons first others =>
          rw [writeValue] at written
          obtain ⟨head, headIs, written⟩ := exists_ok_of_bind written
          obtain ⟨tail, tailIs, ended⟩ := exists_ok_of_bind written
          cases ended
          apply denotes_cons rfl
          intro fuel rest enough _
          have short : (head ++ tail).length < fuel := by
            simp only [List.append_eq, List.length_append, List.length_singleton] at enough ⊢
            omega
          have denotesFirst := ih first (by simp) headIs
          have itemsRead := readItems_written level rest blank denotesFirst
            (fun item member text isText => ih item (by simp [member]) isText) tailIs short
          have read := readValue_list (isBlank_lineBreak blank (level + 1)) denotesFirst itemsRead
          simpa using read
  | @object fields unique _ ih =>
      cases fields with
      | nil =>
          cases written
          apply denotes_cons rfl
          intros
          rfl
      | cons first others =>
          obtain ⟨key, first⟩ := first
          rw [writeValue] at written
          obtain ⟨head, headIs, written⟩ := exists_ok_of_bind written
          obtain ⟨tail, tailIs, ended⟩ := exists_ok_of_bind written
          cases ended
          apply denotes_cons rfl
          intro fuel rest enough _
          have short : (head ++ tail).length < fuel := by
            simp only [List.append_eq, List.length_append, List.length_cons] at enough ⊢
            omega
          have denotesFirst := ih (key, first) (by simp) headIs
          have pairsRead := readPairs_written level rest blank plain key denotesFirst
            (fun field member text isText => ih field (by simp [member]) isText)
            tailIs short
          have read := readValue_object (isBlank_lineBreak blank (level + 1)) pairsRead
          rw [unique.ofPairs_eq] at read
          simpa [writeText, plain] using read

/-- A value that has been written without escapes for other scripts, with space for indentation,
is read again from its text. -/
theorem read_written (plain : layout.ascii = false) (blank : layout.IsBlank) {value : Value}
    (unique : value.HasUniqueKeys) {text : String} (written : write layout value = .ok text) :
    read text = .ok value := by
  rw [write] at written
  cases wrote : writeValue layout 0 value with
  | error reason =>
      rw [wrote] at written
      cases written
  | ok chars =>
      rw [wrote] at written
      cases written
      have denotes := denotes_written plain blank unique wrote
      have whole := denotes.reads (2 * chars.length + 2) [] (by omega) endsNumber_nil
      have noSpace := denotes.skipSpace_append []
      rw [List.append_nil] at whole noSpace
      have noMark : chars.head? ≠ some '\ufeff' := by
        obtain ⟨first, behind, rfl, starts⟩ := denotes.starts
        intro isMark
        exact ne_of_startsValue starts rfl (Option.some.inj isMark)
      rw [read]
      simp only [String.toList_ofList, if_neg noMark, noSpace, whole]
      rfl

end

end CriticalCss.Json
