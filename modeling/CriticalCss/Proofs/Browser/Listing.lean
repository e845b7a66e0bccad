import CriticalCss.Proofs.Browser.Lookup

/-!
# Which handles a look-up finds

A look-up takes over the properties of an array one after the other.  Those that are elements and
have an index for a key are its answer, in the order of the indexes.  Digits that are not decimal,
such as superscripts, pass for an index although they are no number, and so do decimal digits that
are too many.  An element with such a key ends the look-up with a fault, and neither this element
nor what is listed behind it becomes alive.
-/

namespace CriticalCss.Browser

/-! ## Indexes -/

namespace Handle

/-- The index that the key of a handle is: it consists of decimal digits, and of no more than can be
read. -/
def index? (handle : Handle) : Option Nat :=
  let chars := handle.key.toList
  if chars ≠ [] ∧ chars.all Text.isDecimal = true ∧ chars.length ≤ Integer.digitLimit then
    some (Integer.ofDigitValues (chars.map Text.digitValue))
  else none

/-- The handle holds an element, and its key is an index. -/
def isIndexed (handle : Handle) : Bool := handle.element.isSome && handle.index?.isSome

/-- The handle holds an element, and its key consists of digits but is no index. -/
def isMisleading (handle : Handle) : Bool := handle.isMember && handle.index?.isNone

variable {handle : Handle} {place : Nat}

theorem index?_eq_some_iff : handle.index? = some place ↔
    handle.key.toList ≠ [] ∧ (∀ char ∈ handle.key.toList, Text.isDecimal char = true) ∧
      handle.key.toList.length ≤ Integer.digitLimit ∧
      Integer.ofDigitValues (handle.key.toList.map Text.digitValue) = place := by
  rw [index?, ← List.all_eq_true]
  constructor
  · intro isIndex
    split at isIndex
    next fits => exact ⟨fits.1, fits.2.1, fits.2.2, Option.some.inj isIndex⟩
    next => cases isIndex
  · intro fits
    rw [if_pos ⟨fits.1, fits.2.1, fits.2.2.1⟩, fits.2.2.2]

theorem isDigits_of_index? (isIndex : handle.index? = some place) :
    Text.isDigits handle.key = true := by
  obtain ⟨nonempty, decimals, -, -⟩ := index?_eq_some_iff.mp isIndex
  have digits : ∀ char ∈ handle.key.toList, Text.isDigit char = true := fun char member =>
    Text.isDigit_of_isDecimal (decimals char member)
  simpa [Text.isDigits, nonempty] using digits

/-- An index is read as the number that it is. -/
theorem read_of_index? (isIndex : handle.index? = some place) :
    Integer.read handle.key.toList = .ok place := by
  obtain ⟨nonempty, decimals, short, value⟩ := index?_eq_some_iff.mp isIndex
  rw [Integer.read_of_decimals nonempty decimals, if_neg (Nat.not_lt.mpr short), value]

/-- Digits that are no index cannot be read: one of them is not decimal, or they are too many. -/
theorem read_of_not_index (digits : Text.isDigits handle.key = true)
    (noIndex : handle.index? = none) :
    Integer.read handle.key.toList = .error .notANumber ∨
      Integer.read handle.key.toList = .error (.tooLong handle.key.toList.length) := by
  have nonempty : handle.key.toList ≠ [] := by
    intro empty
    simp [Text.isDigits, empty] at digits
  rw [Text.isDigits, Bool.and_eq_true, List.all_eq_true] at digits
  by_cases decimals : ∀ char ∈ handle.key.toList, Text.isDecimal char = true
  · right
    have long : Integer.digitLimit < handle.key.toList.length := by
      rw [← Nat.not_le]
      intro short
      rw [index?_eq_some_iff.mpr ⟨nonempty, decimals, short, rfl⟩] at noIndex
      cases noIndex
    rw [Integer.read_of_decimals nonempty decimals, if_pos long]
  · left
    simp only [not_forall, Bool.not_eq_true] at decimals
    obtain ⟨other, member, notDecimal⟩ := decimals
    exact Integer.read_of_other digits.2 member notDecimal

end Handle

namespace Page

open Activity

variable {handle : Handle} {handles front back : List Handle} {content : Content}
  {selector : String} {fault : Fault}

/-- A handle is found as the element that it holds if its key is an index. -/
theorem found?_eq (handle : Handle) :
    found? handle = handle.element.bind fun box =>
      handle.index?.map fun place => (place, ⟨handle, box⟩) := by
  cases holds : handle.element with
  | none => simp [found?, element?, holds]
  | some box =>
      cases isIndex : handle.index? with
      | some place =>
          simp [found?, element?, holds, Handle.isDigits_of_index? isIndex,
            Handle.read_of_index? isIndex]
      | none =>
          cases digits : Text.isDigits handle.key with
          | false => simp [found?, element?, holds, digits]
          | true =>
              rcases Handle.read_of_not_index digits isIndex with unread | unread
              all_goals simp [found?, element?, holds, digits, unread]

/-- An element whose key misleads ends the look-up. -/
theorem element?_of_misleading (misleads : handle.isMisleading = true) :
    ∃ fault, element? handle = .error fault ∧ fault.label = "ValueError" := by
  rw [Handle.isMisleading, Handle.isMember, Bool.and_eq_true, Bool.and_eq_true] at misleads
  obtain ⟨⟨isElement, digits⟩, noIndex⟩ := misleads
  obtain ⟨box, holds⟩ := Option.isSome_iff_exists.mp isElement
  rcases Handle.read_of_not_index digits (Option.isNone_iff_eq_none.mp noIndex) with unread | unread
  · exact ⟨.unreadableWhole handle.key, by simp [element?, holds, digits, unread], rfl⟩
  · exact ⟨.tooManyDigits handle.key.toList.length, by simp [element?, holds, digits, unread], rfl⟩

/-- Every other handle can be told. -/
theorem element?_of_not_misleading (clear : handle.isMisleading = false) :
    ∃ found, element? handle = .ok found := by
  cases isMember : handle.isMember with
  | false => exact ⟨none, element?_of_not_isMember isMember⟩
  | true =>
      rw [Handle.isMisleading, isMember, Bool.true_and, Option.isNone_eq_false_iff] at clear
      obtain ⟨place, isIndex⟩ := Option.isSome_iff_exists.mp clear
      obtain ⟨isElement, digits⟩ := Bool.and_eq_true_iff.mp isMember
      obtain ⟨box, holds⟩ := Option.isSome_iff_exists.mp isElement
      exact ⟨some (place, ⟨handle, box⟩),
        by simp [element?, holds, digits, Handle.read_of_index? isIndex]⟩

/-! ## The answer -/

/-- Elements answer a listing: they are the indexed handles of it, each with what it holds, in the
order of their indexes, and as they are listed where an index occurs twice. -/
structure Answers (handles : List Handle) (elements : List Element) : Prop where
  indexed : (elements.map (·.handle)).Perm (handles.filter Handle.isIndexed)
  held : ∀ element ∈ elements, element.handle.element = some element.box
  ascending : elements.Pairwise fun left right => ∀ former latter,
    left.handle.index? = some former → right.handle.index? = some latter → former ≤ latter
  stable : ∀ place, ((handles.filter Handle.isIndexed).filter (·.index? == some place)).Sublist
    (elements.map (·.handle))

/-- What is found by a handle is the handle with its index. -/
theorem index?_of_found? {place : Nat} {element : Element}
    (isFound : found? handle = some (place, element)) :
    element.handle = handle ∧ handle.element = some element.box ∧ handle.index? = some place := by
  obtain ⟨same, holds⟩ := holds_of_found? isFound
  refine ⟨same, holds, ?_⟩
  rw [found?_eq, holds, Option.bind_some, Option.map_eq_some_iff] at isFound
  obtain ⟨other, isIndex, pair⟩ := isFound
  rw [isIndex, (Prod.mk.inj pair).1]

/-- The handles that are found are the indexed ones, in the order of the listing. -/
theorem map_handle_found? (handles : List Handle) :
    (handles.filterMap found?).map (·.2.handle) = handles.filter Handle.isIndexed := by
  rw [List.map_filterMap, ← List.filterMap_eq_filter]
  apply List.filterMap_congr
  intro handle _
  rw [found?_eq, Option.guard, Handle.isIndexed]
  cases handle.element with
  | none => rfl
  | some box => cases handle.index? <;> rfl

/-- What has been found, put in order, answers the listing. -/
theorem inOrder_answers (handles : List Handle) :
    Answers handles (inOrder (handles.filterMap found?)) := by
  let items := handles.filterMap found?
  have told : ∀ item ∈ items, item.2.handle.element = some item.2.box ∧
      item.2.handle.index? = some item.1 := by
    intro item member
    obtain ⟨handle, -, isFound⟩ := List.mem_filterMap.mp member
    obtain ⟨same, holds, isIndex⟩ := index?_of_found? isFound
    rw [same]
    exact ⟨holds, isIndex⟩
  have among : ∀ item ∈ items.mergeSort mayPrecede, item ∈ items := fun item member =>
    List.mem_mergeSort.mp member
  have answer : inOrder items = (items.mergeSort mayPrecede).map (·.2) := rfl
  have handlesOf : (inOrder items).map (·.handle) =
      (items.mergeSort mayPrecede).map (·.2.handle) := by
    rw [answer, List.map_map]
    rfl
  constructor
  case indexed =>
    rw [handlesOf, ← map_handle_found?]
    exact (List.mergeSort_perm items mayPrecede).map _
  case held =>
    intro element member
    rw [answer] at member
    obtain ⟨item, sorted, rfl⟩ := List.mem_map.mp member
    exact (told item (among item sorted)).1
  case ascending =>
    rw [answer, List.pairwise_map]
    have sorted := List.pairwise_mergeSort mayPrecede_trans mayPrecede_total items
    apply sorted.imp_of_mem
    intro left right leftIn rightIn order former latter isFormer isLatter
    cases (told left (among left leftIn)).2.symm.trans isFormer
    cases (told right (among right rightIn)).2.symm.trans isLatter
    exact of_decide_eq_true order
  case stable =>
    intro place
    -- Items with one index are in order as they are listed, so sorting leaves them so.
    let same := items.filter fun item => item.2.handle.index? == some place
    have inOrderAlready : same.Pairwise fun left right => mayPrecede left right = true := by
      apply List.pairwise_of_forall_mem_list
      intro left leftIn right rightIn
      have numbered : ∀ item ∈ same, item.1 = place := by
        intro item member
        obtain ⟨inItems, hasPlace⟩ := List.mem_filter.mp member
        have isPlace := eq_of_beq hasPlace
        rw [(told item inItems).2] at isPlace
        exact Option.some.inj isPlace
      simp [mayPrecede, numbered left leftIn, numbered right rightIn]
    have kept := List.sublist_mergeSort mayPrecede_trans mayPrecede_total inOrderAlready
      List.filter_sublist
    rw [handlesOf, ← map_handle_found?, List.filter_map]
    exact kept.map _

/-! ## The look-up -/

/-- A handle that cannot be told ends the look-up, and only what is listed before it is alive. -/
theorem adopt_of_fault (told : ∀ earlier ∈ front, ∃ found, element? earlier = .ok found)
    (failed : element? handle = .error fault) (live : List Handle) :
    adopt (front ++ handle :: back) live = ⟨.error fault, [], live ++ front⟩ := by
  induction front generalizing live with
  | nil =>
      have ends : (ofOutcome (element? handle) : Deed _) live = ⟨.error fault, [], live⟩ := by
        rw [failed]
        rfl
      rw [List.nil_append, adopt, bind_eq, bind_of_error (by rw [ends]), ends, List.append_nil]
  | cons first rest ih =>
      obtain ⟨found, foundIs⟩ := told first (by simp)
      have others := ih (fun other member => told other (by simp [member])) (live ++ [first])
      rw [List.cons_append, adopt_cons foundIs, bind_of_error (by rw [others]), others]
      simp

theorem fetch_of_fault (evaluated : content.evaluation selector = none)
    (listed : content.listing selector = .ok (front ++ handle :: back))
    (told : ∀ earlier ∈ front, ∃ found, element? earlier = .ok found)
    (failed : element? handle = .error fault) :
    fetch content selector [] = ⟨.error fault,
      [.called (.properties selector), .called (.releaseArray selector)], front⟩ := by
  have ends : adopt (front ++ handle :: back) [] = ⟨.error fault, [], [] ++ front⟩ :=
    adopt_of_fault told failed []
  rw [fetch_eq_adopt evaluated listed, bind_of_error (by rw [ends]), ends]
  rfl

/-- The first element whose key misleads ends the look-up, and only what is listed before it is
alive. -/
theorem query_of_misleading (evaluated : content.evaluation selector = none)
    (listed : content.listing selector = .ok (front ++ handle :: back))
    (clear : ∀ earlier ∈ front, earlier.isMisleading = false)
    (misleads : handle.isMisleading = true) (live : List Handle) :
    ∃ fault, (query content selector live).outcome = .error fault ∧
      fault.label = "ValueError" ∧ (query content selector live).state = front := by
  obtain ⟨fault, failed, label⟩ := element?_of_misleading misleads
  have told : ∀ earlier ∈ front, ∃ found, element? earlier = .ok found := by
    intro earlier member
    exact element?_of_not_misleading (clear earlier member)
  have fetched := fetch_of_fault evaluated listed told failed
  refine ⟨fault, ?_, label, ?_⟩
  · rw [query_eq, fetched]
    rfl
  · rw [query_eq, fetched]
    rfl

/-- Where no key misleads, the look-up is answered and everything that is listed is alive. -/
theorem query_of_clear (evaluated : content.evaluation selector = none)
    (listed : content.listing selector = .ok handles)
    (clear : ∀ handle ∈ handles, handle.isMisleading = false) (live : List Handle) :
    ∃ elements, (query content selector live).outcome = .ok elements ∧
      (query content selector live).state = handles ∧ Answers handles elements := by
  have fetched := fetch_of_listed evaluated listed fun handle member =>
    element?_of_not_misleading (clear handle member)
  refine ⟨inOrder (handles.filterMap found?), ?_, ?_, inOrder_answers handles⟩
  · rw [query_eq, fetched]
    rfl
  · rw [query_eq, fetched]
    rfl

/-- A look-up of a selector that can be evaluated and whose properties can be had fails exactly if
the key of an element misleads.  Then only what is listed before the first such element is alive.
Otherwise everything that is listed is alive, and the elements that are found are those whose keys
are indexes, in their order. -/
theorem query_slips_iff (evaluated : content.evaluation selector = none)
    (listed : content.listing selector = .ok handles) (live : List Handle) :
    ((∃ fault, (query content selector live).outcome = .error fault) ↔
        ∃ handle ∈ handles, handle.isMisleading = true) ∧
      (∀ front handle back, handles = front ++ handle :: back →
        (∀ earlier ∈ front, earlier.isMisleading = false) → handle.isMisleading = true →
        ∃ fault, (query content selector live).outcome = .error fault ∧
          fault.label = "ValueError" ∧ (query content selector live).state = front) ∧
      (∀ elements, (query content selector live).outcome = .ok elements →
        (query content selector live).state = handles ∧ Answers handles elements) := by
  have misled : ∀ front handle back, handles = front ++ handle :: back →
      (∀ earlier ∈ front, earlier.isMisleading = false) → handle.isMisleading = true →
      ∃ fault, (query content selector live).outcome = .error fault ∧
        fault.label = "ValueError" ∧ (query content selector live).state = front := by
    intro front handle back split clear misleads
    rw [split] at listed
    exact query_of_misleading evaluated listed clear misleads live
  cases first : handles.find? Handle.isMisleading with
  | some handle =>
      obtain ⟨misleads, front, back, split, before⟩ := List.find?_eq_some_iff_append.mp first
      have clear : ∀ earlier ∈ front, earlier.isMisleading = false := by
        intro earlier member
        simpa using before earlier member
      obtain ⟨fault, failed, -⟩ := misled front handle back split clear misleads
      have member := List.mem_of_find?_eq_some first
      refine ⟨⟨fun _ => ⟨handle, member, misleads⟩, fun _ => ⟨fault, failed⟩⟩, misled, ?_⟩
      intro elements succeeds
      cases failed.symm.trans succeeds
  | none =>
      have clear : ∀ handle ∈ handles, handle.isMisleading = false := by
        intro handle member
        simpa using List.find?_eq_none.mp first handle member
      obtain ⟨elements, succeeds, alive, answers⟩ := query_of_clear evaluated listed clear live
      refine ⟨⟨?_, ?_⟩, misled, ?_⟩
      · intro fails
        obtain ⟨fault, failed⟩ := fails
        cases failed.symm.trans succeeds
      · intro misleading
        obtain ⟨handle, member, misleads⟩ := misleading
        cases (clear handle member).symm.trans misleads
      · intro others succeedsWith
        cases succeeds.symm.trans succeedsWith
        exact ⟨alive, answers⟩

/-- A handle on an element with a key. -/
def keyed (key : String) : Handle :=
  ⟨".item", key, some ⟨.ok (.ofInt 50), .ok (.text "static")⟩, false⟩

/-- A handle on something else with a key. -/
def unkeyed (key : String) : Handle := ⟨".item", key, none, false⟩

/-- A page that lists these handles for every selector. -/
def pageOf (handles : List Handle) : Content := ⟨fun _ => none, fun _ => .ok handles⟩

/-- Indexes in two scripts, one of them twice, and keys of other properties. -/
def wideListing : List Handle :=
  [keyed "٣", unkeyed "²", keyed "01", keyed "name", keyed "1", unkeyed "length", keyed "0"]

/-- A superscript among the keys of elements. -/
def superscriptListing : List Handle := [keyed "0", keyed "²", keyed "1"]

theorem superscript_ends_lookup :
    (pageOf superscriptListing).evaluation ".item" = none ∧
      (pageOf superscriptListing).listing ".item" = .ok superscriptListing ∧
      (∃ fault, (query (pageOf superscriptListing) ".item" []).outcome = .error fault ∧
        fault.label = "ValueError" ∧
        (query (pageOf superscriptListing) ".item" []).state = [keyed "0"]) ∧
      ∃ elements, (query (pageOf wideListing) ".item" []).outcome = .ok elements ∧
        (query (pageOf wideListing) ".item" []).state = wideListing ∧
        Answers wideListing elements := by
  have evaluated (handles : List Handle) : (pageOf handles).evaluation ".item" = none := rfl
  have listed (handles : List Handle) : (pageOf handles).listing ".item" = .ok handles := rfl
  have misled := (query_slips_iff (evaluated superscriptListing) (listed _) []).2.1 [keyed "0"]
    (keyed "²") [keyed "1"] rfl (by decide +kernel) (by decide +kernel)
  obtain ⟨fails, -, answered⟩ := query_slips_iff (evaluated wideListing) (listed _) []
  refine ⟨evaluated _, listed _, misled, ?_⟩
  cases ends : (query (pageOf wideListing) ".item" []).outcome with
  | ok elements => exact ⟨elements, rfl, answered elements ends⟩
  | error fault =>
      have clear : wideListing.any Handle.isMisleading = false := by decide +kernel
      obtain ⟨handle, member, misleads⟩ := fails.mp ⟨fault, ends⟩
      rw [List.any_eq_false] at clear
      exact absurd misleads (clear handle member)

/-- A look-up that gets its handles does not always take them over. -/
theorem superscript_key_slips :
    ¬∀ (content : Content) (selector : String) (handles live : List Handle),
      content.evaluation selector = none → content.listing selector = .ok handles →
      ∃ elements, (query content selector live).outcome = .ok elements ∧
        (query content selector live).state = handles ∧ Answers handles elements := by
  intro answers
  obtain ⟨elements, succeeds, -⟩ :=
    answers (pageOf superscriptListing) ".item" superscriptListing [] rfl rfl
  have fails : (query (pageOf superscriptListing) ".item" []).outcome.toOption.isSome = false := by
    decide +kernel
  rw [succeeds] at fails
  cases fails

end Page

end CriticalCss.Browser
