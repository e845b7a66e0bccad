import CriticalCss.Proofs.Selector.Pseudos

/-!
# Reducing a selector token by token

A selector that is put together from pieces of text and pseudo selectors is reduced token by
token: preserved pseudo selectors and those of vendors go, everything else stays as it is and
where it is.  That needs each name to end where its token does, so what follows it must not go
on with the name.
-/

namespace CriticalCss.Selector

/-- A part of a selector. -/
inductive Token where
  /-- A piece of text outside of pseudo selectors. -/
  | chunk (text : List Char) (nonempty : text ≠ []) (noColon : ':' ∉ text)
  | preserved (doubled : Bool) (name : List Char) (known : name ∈ preservedNames)
  /-- The name has a hyphen in front. -/
  | vendors (doubled : Bool) (name : List Char) (each : ∀ char ∈ name, isVendorChar char = true)
  | plain (doubled : Bool) (name : List Char) (nonempty : name ≠ [])
      (each : ∀ char ∈ name, isNameChar char = true) (noHyphen : name.head? ≠ some '-')
      (unknown : ∀ known ∈ preservedNames, ¬known <+: name)

namespace Token

/-- How a token is written. -/
def spelling : Token → List Char
  | chunk text _ _ => text
  | preserved doubled name _ => colons doubled ++ name
  | vendors doubled name _ => colons doubled ++ '-' :: name
  | plain doubled name _ _ _ _ => colons doubled ++ name

/-- Whether a token is a piece of text. -/
def isChunk : Token → Bool
  | chunk _ _ _ => true
  | _ => false

/-- Whether a token is a preserved pseudo selector. -/
def isPreserved : Token → Bool
  | preserved _ _ _ => true
  | _ => false

/-- Whether a token is a pseudo selector of a vendor. -/
def isVendors : Token → Bool
  | vendors _ _ _ => true
  | _ => false

/-- Whether a token is a piece of text or a plain pseudo selector. -/
def isMatchable : Token → Bool
  | chunk _ _ _ | plain _ _ _ _ _ _ => true
  | _ => false

end Token

/-- How tokens are written one after the other. -/
def spell (tokens : List Token) : List Char := tokens.flatMap Token.spelling

/-- No piece of text goes on with the name of a pseudo selector in front of it; the first token may
stand behind one. -/
def Separated : (behindPseudo : Bool) → List Token → Prop
  | _, [] => True
  | behindPseudo, .chunk text _ _ :: rest =>
    (behindPseudo = true → Stops isNameChar text) ∧ Separated false rest
  | _, _ :: rest => Separated true rest

/-! ## Tokens in a row -/

variable {tokens : List Token} {behindPseudo : Bool}

@[simp] theorem spell_cons (token : Token) (tokens : List Token) :
    spell (token :: tokens) = token.spelling ++ spell tokens := rfl

/-- A pseudo selector begins with a colon. -/
theorem Token.spelling_of_pseudo {token : Token} (pseudo : token.isChunk = false) :
    ∃ rest, token.spelling = ':' :: rest := by
  cases token with
  | chunk text nonempty noColon => cases pseudo
  | preserved doubled name known | vendors doubled name each
  | plain doubled name nonempty each noHyphen unknown => cases doubled <;> exact ⟨_, rfl⟩

theorem Token.spelling_ne_nil (token : Token) : token.spelling ≠ [] := by
  cases isChunk : token.isChunk with
  | true =>
      cases token with
      | chunk text nonempty noColon => exact nonempty
      | _ => cases isChunk
  | false =>
      obtain ⟨rest, begins⟩ := Token.spelling_of_pseudo isChunk
      simp [begins]

/-- Behind a pseudo selector the tokens are separated as such. -/
theorem Separated.behind {token : Token} (pseudo : token.isChunk = false)
    (separated : Separated behindPseudo (token :: tokens)) : Separated true tokens := by
  cases token with
  | chunk text nonempty noColon => cases pseudo
  | _ => exact separated

/-- Nothing is asked more of tokens than behind a pseudo selector. -/
theorem Separated.relax (separated : Separated true tokens) : Separated behindPseudo tokens := by
  cases tokens with
  | nil => trivial
  | cons token rest =>
      cases token with
      | chunk text nonempty noColon =>
          obtain ⟨stops, separated⟩ := separated
          exact ⟨fun _ => stops rfl, separated⟩
      | _ => exact separated

/-- Behind a pseudo selector its name does not go on. -/
theorem Separated.stops (separated : Separated true tokens) : Stops isNameChar (spell tokens) := by
  cases tokens with
  | nil =>
      rintro char ⟨⟩
  | cons token rest =>
      cases isChunk : token.isChunk with
      | true =>
          cases token with
          | chunk text nonempty noColon =>
              cases text with
              | nil => exact absurd rfl nonempty
              | cons first others => exact separated.1 rfl
          | _ => cases isChunk
      | false =>
          obtain ⟨more, begins⟩ := Token.spelling_of_pseudo isChunk
          rw [spell_cons, begins]
          rintro char ⟨⟩
          rfl

/-- Tokens stay separated when pseudo selectors are taken away. -/
theorem Separated.filter {stays : Token → Bool}
    (chunks : ∀ token, token.isChunk = true → stays token = true)
    (separated : Separated behindPseudo tokens) :
    Separated behindPseudo (tokens.filter stays) := by
  induction tokens generalizing behindPseudo with
  | nil => trivial
  | cons token rest ih =>
      cases kept : stays token with
      | true =>
          rw [List.filter_cons_of_pos kept]
          cases token with
          | chunk text nonempty noColon => exact ⟨separated.1, ih separated.2⟩
          | _ => exact ih (separated.behind rfl)
      | false =>
          have pseudo : token.isChunk = false := by
            by_contra isChunk
            rw [chunks token (by simpa using isChunk)] at kept
            cases kept
          rw [List.filter_cons_of_neg (by simp [kept])]
          exact (ih (separated.behind pseudo)).relax

/-! ## Deletion token by token -/

/-- How a kind of deletion treats tokens: some pseudo selectors go as a whole, and nothing else is
touched. -/
structure ActsOnTokens (matchLength : List Char → Nat) (stays : Token → Bool) : Prop where
  atColon : BeginsAtColon matchLength
  chunk : ∀ token, token.isChunk = true → stays token = true
  goes : ∀ token rest, stays token = false → Stops isNameChar rest →
    matchLength (token.spelling ++ rest) = token.spelling.length
  remains : ∀ token rest, stays token = true → token.isChunk = false → Stops isNameChar rest →
    delete matchLength (token.spelling ++ rest) = token.spelling ++ delete matchLength rest

/-- What is left of separated tokens is written like the tokens that stay. -/
theorem ActsOnTokens.delete_spell {matchLength : List Char → Nat} {stays : Token → Bool}
    (acts : ActsOnTokens matchLength stays) (separated : Separated behindPseudo tokens) :
    delete matchLength (spell tokens) = spell (tokens.filter stays) := by
  induction tokens generalizing behindPseudo with
  | nil => rfl
  | cons token rest ih =>
      cases isChunk : token.isChunk with
      | true =>
          rw [List.filter_cons_of_pos (acts.chunk token isChunk), spell_cons, spell_cons]
          cases token with
          | chunk text nonempty noColon =>
              rw [Token.spelling, delete_append_of_not_mem acts.atColon noColon, ih separated.2]
          | _ => cases isChunk
      | false =>
          have onward := separated.behind isChunk
          cases kept : stays token with
          | true =>
              rw [List.filter_cons_of_pos kept, spell_cons, spell_cons,
                acts.remains token _ kept isChunk onward.stops, ih onward]
          | false =>
              have goes := acts.goes token (spell rest) kept onward.stops
              rw [List.filter_cons_of_neg (by simp [kept]), spell_cons,
                delete_append token.spelling_ne_nil goes, ih onward]

/-- A preserved name that a text begins with does not reach beyond a name in front of it. -/
theorem prefix_of_prefix_append {known name rest : List Char}
    (each : ∀ char ∈ known, isNameChar char = true) (stops : Stops isNameChar rest)
    (begins : known <+: name ++ rest) : known <+: name := by
  induction known generalizing name with
  | nil => exact List.nil_prefix
  | cons first others ih =>
      cases name with
      | nil =>
          obtain ⟨behind, rfl⟩ := begins
          have isName := each first (by simp)
          rw [stops first rfl] at isName
          cases isName
      | cons char behind =>
          obtain ⟨rfl, beginsBehind⟩ := List.cons_prefix_cons.mp begins
          refine List.cons_prefix_cons.mpr ⟨rfl, ?_⟩
          exact ih (fun char member => each char (by simp [member])) beginsBehind

/-- Deleting preserved pseudo selectors takes these tokens away and no others. -/
theorem preservedLength_actsOnTokens :
    ActsOnTokens preservedLength fun token => !token.isPreserved where
  atColon := preservedLength_atColon
  chunk token isChunk := by
    cases token with
    | chunk text nonempty noColon => rfl
    | _ => cases isChunk
  goes token rest goes _ := by
    cases token with
    | preserved doubled name known => exact preservedLength_append ⟨doubled, name, known, rfl⟩ rest
    | _ => cases goes
  remains token rest stays notChunk stops := by
    cases token with
    | chunk text nonempty noColon => cases notChunk
    | preserved doubled name known => cases stays
    | vendors doubled name each =>
        have noColon : ':' ∉ '-' :: name := by
          simpa using not_mem_of_each each (by decide)
        refine delete_colons_append preservedLength_atColon noColon ?_ doubled
        refine preservedLength_eq_zero (by simp) noColon fun known isKnown begins => ?_
        obtain ⟨knownSome, -, noHyphen⟩ := name_of_preserved isKnown
        cases known with
        | nil => exact knownSome rfl
        | cons first others =>
            obtain ⟨rfl, -⟩ := List.cons_prefix_cons.mp begins
            exact noHyphen rfl
    | plain doubled name nonempty each noHyphen unknown =>
        have noColon : ':' ∉ name := not_mem_of_each each (by decide)
        refine delete_colons_append preservedLength_atColon noColon ?_ doubled
        refine preservedLength_eq_zero nonempty noColon fun known isKnown begins => ?_
        have areNames := (name_of_preserved isKnown).2.1
        exact unknown known isKnown (prefix_of_prefix_append areNames stops begins)

/-- Deleting pseudo selectors of all kinds leaves the pieces of text. -/
theorem pseudoLength_actsOnTokens : ActsOnTokens pseudoLength Token.isChunk where
  atColon := pseudoLength_atColon
  chunk _ isChunk := isChunk
  goes token rest goes stops := by
    cases token with
    | chunk text nonempty noColon => cases goes
    | preserved doubled name known =>
        obtain ⟨nonempty, each, -⟩ := name_of_preserved known
        exact pseudoLength_append doubled each nonempty stops
    | vendors doubled name each =>
        have areNames : ∀ char ∈ '-' :: name, isNameChar char = true := by
          intro char member
          rcases List.mem_cons.mp member with rfl | member
          · decide
          · exact isNameChar_of_isVendorChar (each char member)
        exact pseudoLength_append doubled areNames (by simp) stops
    | plain doubled name nonempty each noHyphen unknown =>
        exact pseudoLength_append doubled each nonempty stops
  remains token rest stays notChunk := by
    rw [stays] at notChunk
    cases notChunk

/-- Deleting pseudo selectors of vendors takes these tokens away, and of the others it touches no
piece of text and no plain pseudo selector. -/
theorem vendorLength_actsOnTokens :
    ActsOnTokens vendorLength fun token => !token.isVendors where
  atColon := vendorLength_atColon
  chunk token isChunk := by
    cases token with
    | chunk text nonempty noColon => rfl
    | _ => cases isChunk
  goes token rest goes stops := by
    cases token with
    | vendors doubled name each =>
        exact vendorLength_append doubled each (name_stops_of_vendor stops)
    | _ => cases goes
  remains token rest stays notChunk stops := by
    cases token with
    | chunk text nonempty noColon => cases notChunk
    | preserved doubled name known =>
        obtain ⟨nonempty, each, noHyphen⟩ := name_of_preserved known
        have noColon : ':' ∉ name := not_mem_of_each each (by decide)
        refine delete_colons_append vendorLength_atColon noColon ?_ doubled
        exact vendorLength_eq_zero nonempty noColon noHyphen
    | vendors doubled name each => cases stays
    | plain doubled name nonempty each noHyphen unknown =>
        have noColon : ':' ∉ name := not_mem_of_each each (by decide)
        refine delete_colons_append vendorLength_atColon noColon ?_ doubled
        exact vendorLength_eq_zero nonempty noColon noHyphen

/-! ## Reduction token by token -/

theorem colon_mem_spell (pseudo : ∃ token ∈ tokens, token.isChunk = false) :
    ':' ∈ spell tokens := by
  obtain ⟨token, member, notChunk⟩ := pseudo
  obtain ⟨rest, begins⟩ := Token.spelling_of_pseudo notChunk
  exact List.mem_flatMap.mpr ⟨token, member, by simp [begins]⟩

/-- A selector with pseudo selectors is reduced token by token: there is no reduction if the pieces
of text are blank together, and else it consists of the pieces of text and the plain pseudo
selectors, in their order. -/
theorem reduce_spell (separated : Separated false tokens)
    (pseudo : ∃ token ∈ tokens, token.isChunk = false) :
    reduce (String.ofList (spell tokens)) =
      if (spell (tokens.filter Token.isChunk)).all Text.isBlank then none
      else some (String.ofList (spell (tokens.filter Token.isMatchable))) := by
  have kept : delete preservedLength (spell tokens) =
      spell (tokens.filter fun token => !token.isPreserved) :=
    preservedLength_actsOnTokens.delete_spell separated
  have keptSeparated := separated.filter preservedLength_actsOnTokens.chunk
  have text : delete pseudoLength (spell (tokens.filter fun token => !token.isPreserved)) =
      spell (tokens.filter Token.isChunk) := by
    rw [pseudoLength_actsOnTokens.delete_spell keptSeparated, List.filter_filter]
    congr 1
    refine List.filter_congr fun token _ => ?_
    cases token <;> rfl
  have matchable : delete vendorLength (spell (tokens.filter fun token => !token.isPreserved)) =
      spell (tokens.filter Token.isMatchable) := by
    rw [vendorLength_actsOnTokens.delete_spell keptSeparated, List.filter_filter]
    congr 1
    refine List.filter_congr fun token _ => ?_
    cases token <;> rfl
  have hasColon : ':' ∈ (String.ofList (spell tokens)).toList := by
    simpa using colon_mem_spell pseudo
  rw [reduce_of_mem hasColon, String.toList_ofList, kept, text, matchable]

/-- A button with pseudo selectors of all kinds next to each other, and another element behind. -/
def crowdedTokens : List Token :=
  [.chunk "button".toList (by simp) (by simp),
    .plain false "hover".toList (by simp) (by simp [isNameChar]) (by simp)
      (by simp [preservedNames]),
    .preserved true "before".toList (by decide),
    .vendors true "moz-focus-inner".toList (by simp [isVendorChar]),
    .plain false "not".toList (by simp) (by simp [isNameChar]) (by simp)
      (by simp [preservedNames]),
    .chunk "(.a) > .b".toList (by simp) (by simp),
    .preserved false "first-letter".toList (by decide),
    .vendors false "ms-clear".toList (by simp [isVendorChar])]

theorem crowdedTokens_reduce :
    String.ofList (spell crowdedTokens) =
        "button:hover::before::-moz-focus-inner:not(.a) > .b:first-letter:-ms-clear" ∧
      Separated false crowdedTokens ∧ (∃ token ∈ crowdedTokens, token.isChunk = false) ∧
      reduce (String.ofList (spell crowdedTokens)) = some "button:hover:not(.a) > .b" := by
  have separated : Separated false crowdedTokens := by
    refine ⟨nofun, fun _ => ?_, trivial⟩
    rintro char ⟨⟩
    rfl
  have pseudo : ∃ token ∈ crowdedTokens, token.isChunk = false := by
    simp [crowdedTokens, Token.isChunk]
  refine ⟨by decide +kernel, separated, pseudo, ?_⟩
  rw [reduce_spell separated pseudo]
  decide +kernel

end CriticalCss.Selector
