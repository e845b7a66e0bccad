import CriticalCss.Proofs.Failing
import CriticalCss.Text.Utf8

/-!
# Which bytes are a text

Bytes are read as a text exactly if they are the bytes of that text.  Everything else is refused:
stray and missing continuation bytes, overlong forms, halves of characters, and code points that are
too large.
-/

namespace CriticalCss.Text

/-! ## One character -/

section

variable {lead needed low high taken bits code byte : Nat} {bytes rest left : List Nat}

/-- The bounds of the second byte leave out what would be overlong, half a character or too
large. -/
theorem secondRange_iff : (secondRange lead).1 ≤ byte ∧ byte ≤ (secondRange lead).2 ↔
    0x80 ≤ byte ∧ byte ≤ 0xBF ∧ (lead = 0xE0 → 0xA0 ≤ byte) ∧ (lead = 0xED → byte ≤ 0x9F) ∧
      (lead = 0xF0 → 0x90 ≤ byte) ∧ (lead = 0xF4 → byte ≤ 0x8F) := by
  rw [secondRange]
  split
  · simp only
    omega
  split
  · simp only
    omega
  split
  · simp only
    omega
  split <;> simp only <;> omega

theorem decodeRest_zero : decodeRest 0 low high taken bits bytes = .ok (code, left) ↔
    code = bits ∧ left = bytes := by
  simp only [decodeRest, Except.ok.injEq, Prod.mk.injEq, eq_comm]

theorem decodeRest_succ : decodeRest (needed + 1) low high taken bits bytes = .ok (code, left) ↔
    ∃ byte rest, bytes = byte :: rest ∧ (low ≤ byte ∧ byte ≤ high) ∧
      decodeRest needed 0x80 0xBF (taken + 1) (bits * 0x40 + (byte - 0x80)) rest =
        .ok (code, left) := by
  cases bytes with
  | nil => simp [decodeRest]
  | cons byte rest =>
      rw [decodeRest]
      constructor
      · intro read
        split at read
        next inRange => exact ⟨byte, rest, rfl, inRange, read⟩
        next => cases read
      · rintro ⟨_, _, ⟨⟩, inRange, read⟩
        rw [if_pos inRange]
        exact read

/-- A first byte says how many bytes follow, and begins with what is left of the code point. -/
theorem leadByte?_iff : leadByte? lead = some (needed, bits) ↔
    (lead < 0x80 ∧ needed = 0 ∧ bits = lead) ∨
    (0xC2 ≤ lead ∧ lead < 0xE0 ∧ needed = 1 ∧ bits = lead - 0xC0) ∨
    (0xE0 ≤ lead ∧ lead < 0xF0 ∧ needed = 2 ∧ bits = lead - 0xE0) ∨
    (0xF0 ≤ lead ∧ lead < 0xF5 ∧ needed = 3 ∧ bits = lead - 0xF0) := by
  rw [leadByte?]
  repeat' split
  all_goals simp only [Option.some.injEq, Prod.mk.injEq, reduceCtorEq, false_iff]; omega

theorem decodeCode_eq_ok : decodeCode lead rest = .ok (code, left) ↔
    ∃ needed bits, leadByte? lead = some (needed, bits) ∧
      decodeRest needed (secondRange lead).1 (secondRange lead).2 1 bits rest =
        .ok (code, left) := by
  rw [decodeCode]
  split
  next noLead => simp [noLead]
  next needed bits isLead =>
    constructor
    · exact fun read => ⟨needed, bits, isLead, read⟩
    · rintro ⟨_, _, same, read⟩
      cases isLead.symm.trans same
      exact read

/-- What is read as a code point are the bytes of a character. -/
theorem encodes_of_decodeCode (read : decodeCode lead rest = .ok (code, left)) :
    code.isValidChar ∧ lead :: rest = encodeCode code ++ left := by
  obtain ⟨needed, bits, isLead, read⟩ := decodeCode_eq_ok.mp read
  rw [Nat.isValidChar]
  rcases leadByte?_iff.mp isLead with ⟨small, rfl, leadIs⟩ | ⟨low, high, rfl, leadIs⟩ |
    ⟨low, high, rfl, leadIs⟩ | ⟨low, high, rfl, leadIs⟩
  · obtain ⟨codeIs, rfl⟩ := decodeRest_zero.mp read
    refine ⟨by omega, ?_⟩
    rw [encodeCode, if_pos (by omega), codeIs, leadIs]
    rfl
  · obtain ⟨second, rest, rfl, range, read⟩ := decodeRest_succ.mp read
    have bounds := secondRange_iff.mp range
    obtain ⟨codeIs, rfl⟩ := decodeRest_zero.mp read
    refine ⟨by omega, ?_⟩
    rw [encodeCode, if_neg (by omega), if_pos (by omega)]
    simp only [List.cons_append, List.nil_append, List.cons.injEq, and_true]
    omega
  · obtain ⟨second, rest, rfl, range, read⟩ := decodeRest_succ.mp read
    have bounds := secondRange_iff.mp range
    obtain ⟨third, rest, rfl, thirdRange, read⟩ := decodeRest_succ.mp read
    obtain ⟨codeIs, rfl⟩ := decodeRest_zero.mp read
    refine ⟨by omega, ?_⟩
    rw [encodeCode, if_neg (by omega), if_neg (by omega), if_pos (by omega)]
    simp only [List.cons_append, List.nil_append, List.cons.injEq, and_true]
    omega
  · obtain ⟨second, rest, rfl, range, read⟩ := decodeRest_succ.mp read
    have bounds := secondRange_iff.mp range
    obtain ⟨third, rest, rfl, thirdRange, read⟩ := decodeRest_succ.mp read
    obtain ⟨fourth, rest, rfl, fourthRange, read⟩ := decodeRest_succ.mp read
    obtain ⟨codeIs, rfl⟩ := decodeRest_zero.mp read
    refine ⟨by omega, ?_⟩
    rw [encodeCode, if_neg (by omega), if_neg (by omega), if_neg (by omega)]
    simp only [List.cons_append, List.nil_append, List.cons.injEq, and_true]
    omega

/-- The bytes of a character are read as its code point. -/
theorem decodeCode_of_encodes (valid : code.isValidChar)
    (isCode : lead :: rest = encodeCode code ++ left) :
    decodeCode lead rest = .ok (code, left) := by
  rw [Nat.isValidChar] at valid
  rw [decodeCode_eq_ok]
  rw [encodeCode] at isCode
  split at isCode
  next small =>
    cases isCode
    exact ⟨0, lead, leadByte?_iff.mpr (by omega), decodeRest_zero.mpr ⟨rfl, rfl⟩⟩
  next =>
  split at isCode
  next =>
    cases isCode
    refine ⟨1, _, leadByte?_iff.mpr (.inr (.inl ⟨by omega, by omega, rfl, rfl⟩)), ?_⟩
    refine decodeRest_succ.mpr ⟨_, _, rfl, secondRange_iff.mpr (by omega), ?_⟩
    exact decodeRest_zero.mpr ⟨by omega, rfl⟩
  next =>
  split at isCode
  next =>
    cases isCode
    refine ⟨2, _, leadByte?_iff.mpr (.inr (.inr (.inl ⟨by omega, by omega, rfl, rfl⟩))), ?_⟩
    refine decodeRest_succ.mpr ⟨_, _, rfl, secondRange_iff.mpr (by omega), ?_⟩
    refine decodeRest_succ.mpr ⟨_, _, rfl, by omega, ?_⟩
    exact decodeRest_zero.mpr ⟨by omega, rfl⟩
  next =>
    cases isCode
    refine ⟨3, _, leadByte?_iff.mpr (.inr (.inr (.inr ⟨by omega, by omega, rfl, rfl⟩))), ?_⟩
    refine decodeRest_succ.mpr ⟨_, _, rfl, secondRange_iff.mpr (by omega), ?_⟩
    refine decodeRest_succ.mpr ⟨_, _, rfl, by omega, ?_⟩
    refine decodeRest_succ.mpr ⟨_, _, rfl, by omega, ?_⟩
    exact decodeRest_zero.mpr ⟨by omega, rfl⟩

/-- A code point is read from its own bytes, and from no others. -/
theorem decodeCode_eq_ok_iff : decodeCode lead rest = .ok (code, left) ↔
    code.isValidChar ∧ lead :: rest = encodeCode code ++ left :=
  ⟨encodes_of_decodeCode, fun encodes => decodeCode_of_encodes encodes.1 encodes.2⟩

end

/-! ## A text -/

theorem isValidChar_toNat (char : Char) : char.toNat.isValidChar := char.valid

theorem toNat_ofNat {code : Nat} (valid : code.isValidChar) : (Char.ofNat code).toNat = code := by
  rw [Char.ofNat, dif_pos valid]
  rfl

theorem encode_cons (char : Char) (chars : List Char) :
    encode (char :: chars) = encodeCode char.toNat ++ encode chars := rfl

section

variable {lead position fuel : Nat} {bytes rest : List Nat} {chars : List Char}

theorem exists_encodeCode (code : Nat) : ∃ lead behind, encodeCode code = lead :: behind := by
  rw [encodeCode]
  repeat' split
  all_goals exact ⟨_, _, rfl⟩

theorem decodeFrom_succ : decodeFrom (fuel + 1) position (lead :: rest) = .ok chars ↔
    ∃ char left others, lead :: rest = encodeCode char.toNat ++ left ∧
      decodeFrom fuel (position + (rest.length + 1 - left.length)) left = .ok others ∧
      chars = char :: others := by
  rw [decodeFrom]
  constructor
  · intro read
    split at read
    next => cases read
    next code left isCode =>
      obtain ⟨others, othersRead, ended⟩ := exists_ok_of_bind read
      cases ended
      obtain ⟨valid, split⟩ := decodeCode_eq_ok_iff.mp isCode
      refine ⟨Char.ofNat code, left, others, ?_, othersRead, rfl⟩
      rw [toNat_ofNat valid]
      exact split
  · rintro ⟨char, left, others, split, othersRead, rfl⟩
    rw [decodeCode_eq_ok_iff.mpr ⟨isValidChar_toNat char, split⟩]
    simp only [othersRead, Char.ofNat_toNat]
    rfl

theorem decodeFrom_encode (enough : (encode chars).length ≤ fuel) :
    decodeFrom fuel position (encode chars) = .ok chars := by
  induction chars generalizing fuel position with
  | nil => cases fuel <;> rfl
  | cons char others ih =>
      obtain ⟨lead, behind, isCode⟩ := exists_encodeCode char.toNat
      rw [encode_cons, isCode, List.cons_append] at enough ⊢
      simp only [List.length_cons, List.length_append] at enough
      obtain ⟨fuel, rfl⟩ : ∃ less, fuel = less + 1 := ⟨fuel - 1, by omega⟩
      refine decodeFrom_succ.mpr ⟨char, encode others, others, ?_, ih (by omega), rfl⟩
      rw [isCode, List.cons_append]

theorem encode_of_decodeFrom (enough : bytes.length ≤ fuel)
    (decoded : decodeFrom fuel position bytes = .ok chars) : bytes = encode chars := by
  induction fuel generalizing position bytes chars with
  | zero =>
      cases List.length_eq_zero_iff.mp (Nat.le_zero.mp enough)
      cases decoded
      rfl
  | succ fuel ih =>
      cases bytes with
      | nil =>
          cases decoded
          rfl
      | cons lead rest =>
          obtain ⟨char, left, others, split, othersRead, rfl⟩ := decodeFrom_succ.mp decoded
          have shorter : left.length ≤ fuel := by
            obtain ⟨first, behind, isCode⟩ := exists_encodeCode char.toNat
            have length := congrArg List.length split
            simp only [isCode, List.length_cons, List.length_append, List.cons_append] at length
            simp only [List.length_cons] at enough
            omega
          rw [encode_cons, split, ih shorter othersRead]

/-- Bytes are read as a text exactly if they are its bytes. -/
theorem decode_eq_ok_iff : decode bytes = .ok chars ↔ bytes = encode chars := by
  constructor
  · exact encode_of_decodeFrom (Nat.le_refl _)
  · rintro rfl
    exact decodeFrom_encode (Nat.le_refl _)

/-- Bytes are refused exactly if they are the bytes of no text. -/
theorem decode_fails_iff :
    (∃ error, decode bytes = .error error) ↔ ∀ chars, bytes ≠ encode chars := by
  simp only [ne_eq, ← decode_eq_ok_iff]
  cases decode bytes <;> simp

end

end CriticalCss.Text
