import CriticalCss.Diagnostic
import CriticalCss.Proofs.Text.Span
import Mathlib.Data.List.Find

/-!
# What a message says about a network failure

The code of a failure and the host that it is about are searched for separately, each of them where
it stands first in a message.  Neither reaches across a blank, so a message that is made of a reason
and an address with words in between is searched in the reason first and then in the address.  The
kind of a failure depends on its code only.
-/

namespace CriticalCss

namespace NetworkError

/-! ## Searching for what is marked -/

/-- What stands behind one of some marks at the start of a text, if that is not nothing. -/
def markedAt? (marks : List (List Char)) (isPart : Char → Bool) (text : List Char) :
    Option (List Char) :=
  match marks.find? (·.isPrefixOf text) with
  | none => none
  | some mark =>
    match (text.drop mark.length).takeWhile isPart with
    | [] => none
    | part => some part

/-- The first part of a text that stands behind one of some marks. -/
def marked? (marks : List (List Char)) (isPart : Char → Bool) : List Char → Option (List Char)
  | [] => none
  | char :: rest => (markedAt? marks isPart (char :: rest)).or (marked? marks isPart rest)

theorem code?_eq_marked? (text : List Char) : code? text = marked? [codeMark] Text.isWord text := by
  induction text with
  | nil => rfl
  | cons char rest ih =>
      rw [code?, marked?, markedAt?, ← ih, List.find?_singleton]
      cases codeMark.isPrefixOf (char :: rest) with
      | false => rfl
      | true =>
          simp only [if_true]
          cases ((char :: rest).drop codeMark.length).takeWhile Text.isWord <;> rfl

theorem host?_eq_marked? (text : List Char) :
    host? text = marked? ["https://".toList, "http://".toList] isHostChar text := by
  induction text with
  | nil => rfl
  | cons char rest ih =>
      rw [host?, marked?, markedAt?, afterScheme?, ← ih]
      cases ["https://".toList, "http://".toList].find? (·.isPrefixOf (char :: rest)) with
      | none => rfl
      | some scheme =>
          simp only [Option.map_some]
          cases ((char :: rest).drop scheme.length).takeWhile isHostChar <;> rfl

section

variable {marks : List (List Char)} {isPart : Char → Bool} {gap : Char}

theorem isPrefixOf_append_gap {mark : List Char} (foreign : gap ∉ mark) (left right : List Char) :
    mark.isPrefixOf (left ++ gap :: right) = mark.isPrefixOf left := by
  induction mark generalizing left with
  | nil => rfl
  | cons char rest ih =>
      simp only [List.mem_cons, not_or] at foreign
      cases left with
      | nil => simp [List.isPrefixOf, Ne.symm foreign.1]
      | cons first others => simp [List.isPrefixOf, ih foreign.2]

/-- A character that no mark holds, and that is no part of what is marked, ends the search at a
place. -/
theorem markedAt?_append_gap (foreign : ∀ mark ∈ marks, gap ∉ mark) (ends : isPart gap = false)
    (left right : List Char) :
    markedAt? marks isPart (left ++ gap :: right) = markedAt? marks isPart left := by
  have sameMark : marks.find? (·.isPrefixOf (left ++ gap :: right)) =
      marks.find? (·.isPrefixOf left) :=
    List.find?_congr fun mark member => isPrefixOf_append_gap (foreign mark member) left right
  rw [markedAt?, markedAt?, sameMark]
  cases found : marks.find? (·.isPrefixOf left) with
  | none => rfl
  | some mark =>
      have within : mark.length ≤ left.length := by
        have start : mark.isPrefixOf left = true := by simpa using List.find?_some found
        exact (List.isPrefixOf_iff_prefix.mp start).length_le
      simp only [List.drop_append_of_le_length within, Text.takeWhile_append_gap ends]

theorem markedAt?_nil : markedAt? marks isPart [] = none := by
  rw [markedAt?]
  split
  · rfl
  · simp

/-- What is marked stands before such a character or behind it. -/
theorem marked?_append_gap (foreign : ∀ mark ∈ marks, gap ∉ mark) (ends : isPart gap = false)
    (left right : List Char) :
    marked? marks isPart (left ++ gap :: right) =
      (marked? marks isPart left).or (marked? marks isPart right) := by
  induction left with
  | nil =>
      have nothing := markedAt?_append_gap foreign ends [] right
      rw [List.nil_append, markedAt?_nil] at nothing
      change (markedAt? marks isPart (gap :: right)).or (marked? marks isPart right) = _
      rw [nothing]
      rfl
  | cons char rest ih =>
      have here := markedAt?_append_gap foreign ends (char :: rest) right
      rw [List.cons_append] at here ⊢
      rw [marked?, here, ih, marked?, Option.or_assoc]

/-- What is marked in a reason and an address with words in between stands in the reason or in the
address. -/
theorem marked?_glued (foreign : ∀ mark ∈ marks, ' ' ∉ mark) (ends : isPart ' ' = false)
    (nothing : marked? marks isPart "at".toList = none) (reason address : List Char) :
    marked? marks isPart (reason ++ " at ".toList ++ address) =
      (marked? marks isPart reason).or (marked? marks isPart address) := by
  have split : reason ++ " at ".toList ++ address =
      reason ++ ' ' :: ("at".toList ++ ' ' :: address) := by simp
  rw [split, marked?_append_gap foreign ends, marked?_append_gap foreign ends, nothing]
  rfl

end

theorem code?_glued (reason address : List Char) :
    code? (reason ++ " at ".toList ++ address) = (code? reason).or (code? address) := by
  simp only [code?_eq_marked?]
  exact marked?_glued (by decide) (by decide) (by decide) reason address

theorem host?_glued (reason address : List Char) :
    host? (reason ++ " at ".toList ++ address) = (host? reason).or (host? address) := by
  simp only [host?_eq_marked?]
  exact marked?_glued (by decide) (by decide) (by decide) reason address

/-- An address at the start of a text is the first one. -/
theorem host?_of_afterScheme {text behind : List Char} (starts : afterScheme? text = some behind)
    (named : behind.takeWhile isHostChar ≠ []) :
    host? text = some (behind.takeWhile isHostChar) := by
  cases text with
  | nil => cases starts
  | cons char rest =>
      rw [host?, starts]
      split <;> simp_all

/-! ## Kinds of failures -/

/-- The kind of the failures that have a code. -/
def kindOf (code : List Char) : FailureKind := (describe code none).1

/-- What is said about a failure of a kind, and the word between that and the host. -/
def hostWords : FailureKind → Option (String × String)
  | .dnsResolutionFailed => some ("Could not resolve domain name", "")
  | .pageTimeout => some ("Connection timed out", " to")
  | .connectionFailed => some ("Connection failed", " to")
  | .tlsError => some ("SSL/TLS error", " for")
  | _ => none

/-- A failure is described by its kind and its host, or by its code if its kind tells nothing. -/
theorem describe_eq (code : List Char) (host : Option (List Char)) :
    describe code host = (kindOf code,
      match hostWords (kindOf code) with
      | some (description, preposition) => withHost description preposition host
      | none => s!"Navigation failed (net::ERR_{String.ofList code})") := by
  simp only [kindOf, describe]
  split_ifs <;> rfl

theorem kindOf_mem (code : List Char) :
    kindOf code ∈ [.dnsResolutionFailed, .pageTimeout, .connectionFailed, .tlsError,
      .navigationFailed] := by
  simp only [kindOf, describe]
  split_ifs <;> simp

/-- No failure of the network is an internal one. -/
theorem kindOf_ne_internal (code : List Char) : kindOf code ≠ .internal := by
  intro same
  have member := kindOf_mem code
  rw [same] at member
  revert member
  decide

/-- The first code in a reason, or else in an address. -/
def codeIn? (reason address : String) : Option (List Char) :=
  (code? reason.toList).or (code? address.toList)

/-- The first host in a reason, or else in an address. -/
def hostIn? (reason address : String) : Option (List Char) :=
  (host? reason.toList).or (host? address.toList)

theorem classify_glued (reason address : String) :
    classify s!"{reason} at {address}" =
      (codeIn? reason address).map fun code => describe code (hostIn? reason address) := by
  have glued : s!"{reason} at {address}".toList =
      reason.toList ++ " at ".toList ++ address.toList := by
    change (reason ++ " at " ++ address).toList = _
    simp only [String.toList_append]
  rw [classify, glued, code?_glued, host?_glued]
  rfl

end NetworkError

namespace Diagnostic

open NetworkError

/-- The kind of an address that could not be opened: that of the first code, or else it depends on
whether the reason speaks of a timeout. -/
theorem ofNavigation_kind (address reason : String) (fault : Fault) :
    (ofNavigation address reason fault).kind =
      match codeIn? reason address with
      | some code => kindOf code
      | none => if Text.holds reason "timeout" then .pageTimeout else .navigationFailed := by
  rw [ofNavigation, classify_glued]
  cases codeIn? reason address with
  | none =>
      simp only [Option.map_none]
      split <;> rfl
  | some code => simp only [Option.map_some, describe_eq]

theorem ofNavigation_kind_ne_internal (address reason : String) (fault : Fault) :
    (ofNavigation address reason fault).kind ≠ .internal := by
  rw [ofNavigation_kind]
  split
  · exact kindOf_ne_internal _
  · split <;> simp

end Diagnostic

end CriticalCss
