import CriticalCss.Json.Reader
import CriticalCss.Proofs.Text.Utf8
import CriticalCss.Url

/-!
# Quoting is an encoding

An address is quoted character by character: what may stand in an address stays, and everything else
is given by its bytes.  What is written for a byte may itself stand in an address, so quoting twice
is quoting once.  A percent sign stays as well, so two addresses may be quoted alike; addresses
without percent signs can be read back.
-/

namespace CriticalCss.Url

/-! ## Reading percent notation -/

/-- The bytes that an address stands for: a percent sign and two hexadecimal digits are the byte with
that number, and every other character is its own bytes. -/
def bytes : List Char → List Nat
  | [] => []
  | '%' :: high :: low :: rest =>
    match Json.hexValue? high, Json.hexValue? low with
    | some high, some low => (16 * high + low) :: bytes rest
    | _, _ => Text.encodeCode '%'.toNat ++ bytes (high :: low :: rest)
  | char :: rest => Text.encodeCode char.toNat ++ bytes rest

/-- The text that an address stands for. -/
def unquote (url : String) : Except Text.DecodeError String :=
  (Text.decode (bytes url.toList)).map String.ofList

/-- The characters of an address: the letters and digits of ASCII, the marks that need never be
quoted, and those with a meaning in addresses. -/
inductive IsProper (char : Char) : Prop where
  | letter : char.isAlpha = true → IsProper char
  | digit : char.isDigit = true → IsProper char
  | mark : char ∈ ['_', '.', '-', '~'] → IsProper char
  | reserved : char ∈ reserved → IsProper char

variable {char : Char} {byte : Nat} {rest chars : List Char}

theorem isAllowed_iff : isAllowed char = true ↔ IsProper char := by
  rw [isAllowed, Char.isAlphanum, Bool.or_eq_true, Bool.or_eq_true, List.contains_iff_mem]
  constructor
  · intro allowed
    rcases allowed with (letter | digit) | member
    · exact .letter letter
    · exact .digit digit
    · exact .reserved member
  · intro proper
    cases proper with
    | letter letter => exact .inl (.inl letter)
    | digit digit => exact .inl (.inr digit)
    | mark member =>
        have among : ['_', '.', '-', '~'].all Url.reserved.contains = true := by decide
        exact .inr (List.contains_iff_mem.mp (List.all_eq_true.mp among char member))
    | reserved member => exact .inr member

/-! ## One character -/

/-- The hexadecimal digit of a number below sixteen. -/
def upperDigit (value : Nat) : Char := (Nat.digitChar value).toUpper

theorem percentByte_eq (byte : Nat) :
    percentByte byte = ['%', upperDigit (byte / 16), upperDigit (byte % 16)] := rfl

theorem isAllowed_upperDigit : ∀ value < 16, isAllowed (upperDigit value) = true := by decide

theorem hexValue?_upperDigit : ∀ value < 16, Json.hexValue? (upperDigit value) = some value := by
  decide

theorem isAllowed_of_mem_percentByte (small : byte < 256) (member : char ∈ percentByte byte) :
    isAllowed char = true := by
  rw [percentByte_eq] at member
  simp only [List.mem_cons, List.not_mem_nil, or_false] at member
  rcases member with rfl | rfl | rfl
  · decide
  · apply isAllowed_upperDigit
    omega
  · apply isAllowed_upperDigit
    omega

/-- The code points of characters have bytes below 256. -/
theorem lt_of_mem_encodeCode {code : Nat} (valid : code.isValidChar)
    (member : byte ∈ Text.encodeCode code) : byte < 256 := by
  rw [Nat.isValidChar] at valid
  rw [Text.encodeCode] at member
  repeat' split at member
  all_goals
    simp only [List.mem_cons, List.not_mem_nil, or_false] at member
    omega

theorem quoteChar_of_allowed (allowed : isAllowed char = true) : quoteChar char = [char] := by
  rw [quoteChar, if_pos allowed]

/-- Whatever a character is, it is quoted in characters that may stand in an address. -/
theorem isAllowed_of_mem_quoteChar {quoted : Char} (member : quoted ∈ quoteChar char) :
    isAllowed quoted = true := by
  rw [quoteChar] at member
  split at member
  next allowed =>
    rw [List.mem_singleton.mp member]
    exact allowed
  next =>
    obtain ⟨byte, isByte, inByte⟩ := List.mem_flatMap.mp member
    have small := lt_of_mem_encodeCode (Text.isValidChar_toNat char) isByte
    exact isAllowed_of_mem_percentByte small inByte

theorem bytes_percentByte (small : byte < 256) (rest : List Char) :
    bytes (percentByte byte ++ rest) = byte :: bytes rest := by
  have high := hexValue?_upperDigit (byte / 16) (by omega)
  have low := hexValue?_upperDigit (byte % 16) (by omega)
  rw [percentByte_eq, List.cons_append, List.cons_append, List.cons_append, List.nil_append, bytes,
    high, low]
  simp only
  rw [Nat.div_add_mod]

/-- Bytes in percent notation stand for themselves. -/
theorem bytes_flatMap_percentByte {bytesIn : List Nat} (small : ∀ byte ∈ bytesIn, byte < 256)
    (rest : List Char) : bytes (bytesIn.flatMap percentByte ++ rest) = bytesIn ++ bytes rest := by
  induction bytesIn with
  | nil => rfl
  | cons byte others ih =>
      have smallOthers : ∀ other ∈ others, other < 256 := by
        intro other member
        exact small other (by simp [member])
      rw [List.flatMap_cons, List.append_assoc, bytes_percentByte (small byte (by simp)),
        ih smallOthers, List.cons_append]

/-- A character that is no percent sign stands for its bytes, quoted or not. -/
theorem bytes_quoteChar (noPercent : char ≠ '%') (rest : List Char) :
    bytes (quoteChar char ++ rest) = Text.encodeCode char.toNat ++ bytes rest := by
  rw [quoteChar]
  split
  next =>
    rw [List.cons_append, List.nil_append, bytes]
    intro high low behind isPercent
    exact absurd isPercent noPercent
  next =>
    apply bytes_flatMap_percentByte
    intro byte member
    exact lt_of_mem_encodeCode (Text.isValidChar_toNat char) member

/-! ## A whole address -/

theorem toList_quote (url : String) : (quote url).toList = url.toList.flatMap quoteChar :=
  String.toList_ofList

/-- A quoted address consists of characters that may stand in one. -/
theorem isAllowed_of_mem_quote {url : String} (member : char ∈ (quote url).toList) :
    isAllowed char = true := by
  rw [toList_quote] at member
  obtain ⟨original, -, quoted⟩ := List.mem_flatMap.mp member
  exact isAllowed_of_mem_quoteChar quoted

theorem flatMap_quoteChar_of_allowed (allowed : ∀ char ∈ chars, isAllowed char = true) :
    chars.flatMap quoteChar = chars := by
  induction chars with
  | nil => rfl
  | cons char others ih =>
      have allowedOthers : ∀ other ∈ others, isAllowed other = true := by
        intro other member
        exact allowed other (by simp [member])
      rw [List.flatMap_cons, quoteChar_of_allowed (allowed char (by simp)), ih allowedOthers]
      rfl

/-- Quoting leaves alone exactly the addresses in which every character may stand. -/
theorem quote_eq_self_iff {url : String} :
    quote url = url ↔ ∀ char ∈ url.toList, isAllowed char = true := by
  constructor
  · intro same char member
    rw [← same] at member
    exact isAllowed_of_mem_quote member
  · intro allowed
    rw [quote, flatMap_quoteChar_of_allowed allowed, String.ofList_toList]

theorem quote_append (front back : String) : quote (front ++ back) = quote front ++ quote back := by
  simp only [quote, String.toList_append, List.flatMap_append, String.ofList_append]

theorem quote_quote (url : String) : quote (quote url) = quote url := by
  apply quote_eq_self_iff.mpr
  intro char member
  exact isAllowed_of_mem_quote member

/-- A quoted text stands for the bytes of the text. -/
theorem bytes_flatMap_quoteChar (noPercent : '%' ∉ chars) :
    bytes (chars.flatMap quoteChar) = Text.encode chars := by
  induction chars with
  | nil => rfl
  | cons char others ih =>
      rw [List.mem_cons, not_or] at noPercent
      rw [List.flatMap_cons, bytes_quoteChar (Ne.symm noPercent.1), ih noPercent.2,
        Text.encode_cons]

/-- What has no percent sign of its own is read back. -/
theorem unquote_quote_eq {url : String} (noPercent : '%' ∉ url.toList) :
    unquote (quote url) = .ok url := by
  have decoded : Text.decode (bytes (quote url).toList) = .ok url.toList := by
    rw [toList_quote, bytes_flatMap_quoteChar noPercent]
    exact Text.decode_eq_ok_iff.mpr rfl
  rw [unquote, decoded]
  exact congrArg Except.ok String.ofList_toList

/-- Quoting is a safe encoding: it leaves only what may stand in an address, changes nothing where
there is nothing else, goes character by character, and changes nothing more when it is repeated;
and an address without percent signs can be read back from it. -/
theorem quote_is_safe_encoding (url : String) :
    (∀ char ∈ (quote url).toList, IsProper char) ∧
      (quote url = url ↔ ∀ char ∈ url.toList, IsProper char) ∧
      (∀ more, quote (url ++ more) = quote url ++ quote more) ∧
      quote (quote url) = quote url ∧
      ('%' ∉ url.toList → unquote (quote url) = .ok url) := by
  refine ⟨?_, ?_, quote_append url, quote_quote url, unquote_quote_eq⟩
  · intro char member
    exact isAllowed_iff.mp (isAllowed_of_mem_quote member)
  · rw [quote_eq_self_iff]
    simp only [isAllowed_iff]

/-- Characters of one, two, three and four bytes are quoted and read back. -/
theorem wideAddress_is_read_back :
    '%' ∉ "http://[::1]/a é€😀".toList ∧
      quote "http://[::1]/a é€😀" = "http://[::1]/a%20%C3%A9%E2%82%AC%F0%9F%98%80" ∧
      unquote (quote "http://[::1]/a é€😀") = .ok "http://[::1]/a é€😀" := by
  have noPercent : '%' ∉ "http://[::1]/a é€😀".toList := by decide
  exact ⟨noPercent, by decide +kernel,
    (quote_is_safe_encoding "http://[::1]/a é€😀").2.2.2.2 noPercent⟩

end CriticalCss.Url
