import CriticalCss.Proofs.Json.Progress
import CriticalCss.Proofs.Stylesheet.Validation
import CriticalCss.Proofs.Text.Utf8

/-!
# What a stylesheet file is refused for

Loading a file ends with the rules of the stylesheet in it or with a fault.  The fault is one of the
input if the file is missing or cannot be opened, if its text is not JSON, and if the value is not a
stylesheet.  Three things slip through: a path that no file can have, bytes that are not a text,
and a whole number of too many digits.
-/

namespace CriticalCss.Stylesheet

/-- At a path there is a file that holds a text, with line ends of any kind. -/
structure HoldsText (tree : FileTree) (path text : String) : Prop where
  isPath : '\x00' ∉ path.toList
  holds : ∃ chars, tree.read (FilePath.ofText path) = .ok (Text.encode chars) ∧
    text = String.ofList (Text.unifyLineEnds chars)

/-- What makes a load end with a fault that is not one of the input, and the label of the fault. -/
inductive Slips (tree : FileTree) (path : String) : (label : String) → Prop where
  | noPath : '\x00' ∈ path.toList → Slips tree path "ValueError"
  | noText {bytes : List Nat} : '\x00' ∉ path.toList →
      tree.read (FilePath.ofText path) = .ok bytes → (∀ chars, bytes ≠ Text.encode chars) →
      Slips tree path "UnicodeDecodeError"
  | longNumber {text : String} {error : Json.Error} {digits : Nat} : HoldsText tree path text →
      Json.read text = .error error → error.problem = .tooLong digits →
      Slips tree path "ValueError"

section

variable {tree : FileTree} {path text : String} {stylesheet rules : Value} {fault : Fault}

theorem readText_eq_ok_iff : readText tree path = .ok text ↔ HoldsText tree path text := by
  simp only [readText, List.contains_iff_mem]
  constructor
  · intro read
    split at read
    next => cases read
    next isPath =>
    split at read
    next => cases read
    next bytes isFile =>
    split at read
    next => cases read
    next chars decoded =>
      cases read
      rw [Text.decode_eq_ok_iff.mp decoded] at isFile
      exact ⟨isPath, chars, isFile, rfl⟩
  · rintro ⟨isPath, chars, isFile, rfl⟩
    rw [if_neg isPath]
    simp only [isFile, Text.decode_eq_ok_iff.mpr rfl]

theorem decodeText_eq_ok_iff :
    decodeText path text = .ok stylesheet ↔ Json.read text = .ok stylesheet := by
  rw [decodeText]
  split
  next value read => simp [read]
  next error failed =>
    simp only [failed, reduceCtorEq, iff_false]
    split <;> exact nofun

theorem readText_failsWith :
    FailsWith (fun fault => fault.family = .input ∨ Slips tree path fault.label)
      (readText tree path) := by
  simp only [readText, List.contains_iff_mem]
  split
  next noPath => exact .error (.inr (.noPath noPath))
  next isPath =>
  split
  next => exact .error (.inl rfl)
  next bytes isFile =>
  split
  next error failed =>
    exact .error (.inr (.noText isPath isFile (Text.decode_fails_iff.mp ⟨error, failed⟩)))
  next => exact .ok _

theorem decodeText_failsWith (held : HoldsText tree path text) :
    FailsWith (fun fault => fault.family = .input ∨ Slips tree path fault.label)
      (decodeText path text) := by
  rw [decodeText]
  split
  next => exact .ok _
  next error failed =>
  split
  next digits tooLong => exact .error (.inr (.longNumber held failed tooLong))
  next => exact .error (.inl rfl)

theorem parse_failsWith : FailsWith (fun fault => fault.family = .input) (parse stylesheet) := by
  rw [parse]
  split
  · exact .ok _
  · exact .error rfl

theorem load_eq_ok_iff : load tree path = .ok rules ↔ ∃ text stylesheet,
    HoldsText tree path text ∧ Json.read text = .ok stylesheet ∧ HoldsRules stylesheet rules := by
  constructor
  · intro loaded
    obtain ⟨text, held, loaded⟩ := exists_ok_of_bind loaded
    obtain ⟨stylesheet, decoded, parsed⟩ := exists_ok_of_bind loaded
    have read := decodeText_eq_ok_iff.mp decoded
    have json := (Json.read_madeOf read).isJson
    exact ⟨text, stylesheet, readText_eq_ok_iff.mp held, read, (parse_eq_ok_iff json).mp parsed⟩
  · rintro ⟨text, stylesheet, held, read, holds⟩
    have json := (Json.read_madeOf read).isJson
    rw [load, readText_eq_ok_iff.mpr held]
    change (decodeText path text >>= parse) = _
    rw [decodeText_eq_ok_iff.mpr read]
    exact (parse_eq_ok_iff json).mpr holds

/-- A load fails with a fault of the input, or something slips through. -/
theorem load_failsWith :
    FailsWith (fun fault => fault.family = .input ∨ Slips tree path fault.label)
      (load tree path) := by
  intro fault failed
  rcases error_of_bind failed with failed | ⟨text, held, failed⟩
  · exact readText_failsWith fault failed
  rcases error_of_bind failed with failed | ⟨stylesheet, -, failed⟩
  · exact decodeText_failsWith (readText_eq_ok_iff.mp held) fault failed
  · exact .inl (parse_failsWith fault failed)

theorem load_of_slips {label : String} (slips : Slips tree path label) :
    ∃ fault, load tree path = .error fault ∧ fault.label = label ∧ label ≠ "InputError" := by
  have of_readText {fault : Fault} (failed : readText tree path = .error fault) :
      load tree path = .error fault := by
    rw [load, failed]
    rfl
  cases slips with
  | noPath noPath =>
      refine ⟨.nullInPath, of_readText ?_, rfl, by decide⟩
      simp only [readText, List.contains_iff_mem, if_pos noPath]
  | noText isPath isFile noText =>
      obtain ⟨error, failed⟩ := Text.decode_fails_iff.mpr noText
      refine ⟨.undecodable error, of_readText ?_, rfl, by decide⟩
      simp only [readText, List.contains_iff_mem, if_neg isPath, isFile, failed]
  | @longNumber text error digits held failed tooLong =>
      refine ⟨.tooManyDigits digits, ?_, rfl, by decide⟩
      rw [load, readText_eq_ok_iff.mpr held]
      change (decodeText path text >>= parse) = _
      simp only [decodeText, failed, tooLong]
      rfl

/-- A file holds one text. -/
theorem HoldsText.unique {other : String} (held : HoldsText tree path text)
    (alsoHeld : HoldsText tree path other) : text = other :=
  Except.ok.inj ((readText_eq_ok_iff.mpr held).symm.trans (readText_eq_ok_iff.mpr alsoHeld))

/-- Nothing slips through where there is a text without too many digits in a row. -/
theorem HoldsText.not_slips {label : String} (held : HoldsText tree path text)
    (noRun : ¬ Json.HasLongRun text.toList) : ¬ Slips tree path label := by
  rintro (noPath | @⟨bytes, -, isFile, noText⟩ | @⟨other, error, digits, alsoHeld, failed, tooLong⟩)
  · exact held.isPath noPath
  · obtain ⟨chars, isText, -⟩ := held.holds
    exact noText chars (Except.ok.inj (isFile.symm.trans isText))
  · rw [← held.unique alsoHeld] at failed
    exact noRun (Json.hasLongRun_of_read failed tooLong)

end

/-- Loading a file ends with the rules of the stylesheet that it holds, or with a fault.  The fault
is one of the input, unless the path is none, the bytes are no text, or a whole number has too many
digits. -/
theorem loading_slips_iff (tree : FileTree) (path : String) :
    (∀ rules, load tree path = .ok rules ↔ ∃ text stylesheet, HoldsText tree path text ∧
      Json.read text = .ok stylesheet ∧ HoldsRules stylesheet rules) ∧
    (∀ label, (∃ fault, load tree path = .error fault ∧ fault.label = label ∧
      label ≠ "InputError") ↔ Slips tree path label) ∧
    (∀ text, HoldsText tree path text → ¬ Json.HasLongRun text.toList →
      ∀ fault, load tree path = .error fault → fault.label = "InputError") := by
  refine ⟨fun _ => load_eq_ok_iff, fun label => ⟨?_, load_of_slips⟩, ?_⟩
  · rintro ⟨fault, failed, rfl, notInput⟩
    rcases load_failsWith fault failed with input | slips
    · exact absurd (Fault.label_of_input input) notInput
    · exact slips
  · intro text held noRun fault failed
    rcases load_failsWith fault failed with input | slips
    · exact Fault.label_of_input input
    · exact absurd slips (held.not_slips noRun)

/-- A file with a byte that no text has. -/
def strayByte : FileTree := ⟨[(["a"], .file [0xFF])]⟩

theorem strayByte_slips :
    load strayByte "a" = .error (.undecodable ⟨0, [0xFF], .invalidStart⟩) ∧
      (Fault.undecodable ⟨0, [0xFF], .invalidStart⟩).label = "UnicodeDecodeError" := by
  have names : "a".splitOn "/" = ["a"] := by
    rw [String.splitOn, if_neg (by decide), String.splitOnAux, if_neg (by decide),
      if_neg (by decide), String.splitOnAux, if_pos (by decide)]
    rfl
  have isPath : FilePath.ofText "a" = ⟨"", ["a"]⟩ := by
    rw [FilePath.ofText, names]
    rfl
  have isFile : strayByte.read (FilePath.ofText "a") = .ok [0xFF] := by
    rw [isPath]
    rfl
  have unread : readText strayByte "a" = .error (.undecodable ⟨0, [0xFF], .invalidStart⟩) := by
    simp only [readText, isFile]
    rfl
  rw [load, unread]
  exact ⟨rfl, rfl⟩

end CriticalCss.Stylesheet
