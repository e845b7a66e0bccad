import CriticalCss.Proofs.Browser.Blame
import CriticalCss.Proofs.Url.Host

/-!
# Which host a diagnosis names

A diagnosis of an address that could not be opened names a host if the code of the failure tells
what is wrong with one.  It is the first host that the reason names, or else the one that stands
behind the scheme of the page's address.  The address of the resource that failed does not count, so
a page is blamed for what it has loaded from elsewhere.
-/

namespace CriticalCss

namespace Diagnostic

open NetworkError

/-- The diagnosis names a host as the one that a failure is about. -/
def Quotes (diagnostic : Diagnostic) (address : String) (host : List Char) : Prop :=
  ∃ kind description preposition, hostWords kind = some (description, preposition) ∧
    diagnostic.detail =
      withHost description preposition (some host) ++ s!" (opening '{address}')"

theorem withHost_some (description preposition : String) (host : List Char) :
    withHost description preposition (some host) =
      description ++ (preposition ++ " '" ++ String.ofList host ++ "'") := by
  simp only [withHost, toString, String.append_assoc]

/-- How a text begins. -/
def heading (text : String) : List Char := text.toList.take 12

theorem heading_append {first : String} (long : 12 ≤ first.toList.length) (rest : String) :
    heading (first ++ rest) = heading first := by
  rw [heading, String.toList_append, List.take_append_of_le_length long, heading]

section

variable {kind other : FailureKind} {description preposition : String}

theorem heading_withHost (words : hostWords kind = some (description, preposition))
    (host : Option (List Char)) (rest : String) :
    heading (withHost description preposition host ++ rest) = heading description := by
  have long : 12 ≤ description.toList.length := by
    cases kind <;> simp only [hostWords] at words <;> cases words <;> decide
  cases host with
  | none => exact heading_append long rest
  | some host => rw [withHost_some, String.append_assoc, heading_append long]

/-- What is said about a failure tells its kind from how it begins. -/
theorem kind_of_heading {otherDescription otherPreposition : String}
    (words : hostWords kind = some (description, preposition))
    (otherWords : hostWords other = some (otherDescription, otherPreposition))
    (same : heading description = heading otherDescription) : kind = other := by
  cases kind <;> simp only [hostWords] at words <;> cases words <;>
    cases other <;> simp only [hostWords] at otherWords <;> cases otherWords <;>
      revert same <;> decide

theorem heading_message (address reason resource : String) :
    heading (Fault.navigationFailed address reason resource).message = "Error openin".toList := by
  have spelled : (Fault.navigationFailed address reason resource).message =
      s!"Error opening url '{if resource.isEmpty then address else resource}': {reason}" := rfl
  rw [spelled]
  simp only [toString, String.append_assoc]
  exact (heading_append (by decide) _).trans (by decide)

theorem heading_unnamed (name rest : String) :
    heading (s!"Navigation failed (net::ERR_{name})" ++ rest) = "Navigation f".toList := by
  simp only [toString, String.append_assoc]
  exact (heading_append (by decide) _).trans (by decide)

/-- What is said without a host begins otherwise. -/
theorem heading_ne (words : hostWords kind = some (description, preposition)) :
    heading description ≠ "Error openin".toList ∧ heading description ≠ "Navigation f".toList := by
  cases kind <;> simp only [hostWords] at words <;> cases words <;> decide

end

/-- A description shows the host that it is made with. -/
theorem withHost_injective {description preposition ending : String} {host : List Char}
    {named : Option (List Char)}
    (same : withHost description preposition named ++ ending =
      withHost description preposition (some host) ++ ending) : named = some host := by
  have chars := congrArg String.toList same
  rw [withHost_some] at chars
  cases named with
  | none =>
      simp only [withHost, String.toList_append, List.append_assoc,
        List.append_cancel_left_eq] at chars
      have lengths := congrArg List.length chars
      simp at lengths
      omega
  | some other =>
      rw [withHost_some] at chars
      simp only [String.toList_append, List.append_assoc, List.append_cancel_left_eq,
        String.toList_ofList] at chars
      rw [List.append_cancel_right chars]

theorem ofNavigation_detail (address reason : String) (fault : Fault) :
    (ofNavigation address reason fault).detail =
      match codeIn? reason address with
      | some code => (describe code (hostIn? reason address)).2 ++ s!" (opening '{address}')"
      | none => fault.message := by
  rw [ofNavigation, classify_glued]
  cases codeIn? reason address with
  | none =>
      simp only [Option.map_none]
      split <;> rfl
  | some code => simp only [Option.map_some, toString, String.append_assoc]

/-- A diagnosis names a host exactly if the code of the failure tells what is wrong with one: the
first host in the reason, or else in the address of the page. -/
theorem quotes_iff (address reason resource : String) (host : List Char) :
    (ofFault (.navigationFailed address reason resource)).Quotes address host ↔
      (∃ code, codeIn? reason address = some code ∧ hostWords (kindOf code) ≠ none) ∧
        hostIn? reason address = some host := by
  have detail := ofNavigation_detail address reason (.navigationFailed address reason resource)
  constructor
  · rintro ⟨kind, description, preposition, words, quoted⟩
    have said := detail.symm.trans quoted
    have begins := congrArg heading said
    rw [heading_withHost words] at begins
    cases coded : codeIn? reason address with
    | none =>
        rw [coded] at begins
        exact absurd (begins.symm.trans (heading_message address reason resource))
          (heading_ne words).1
    | some code =>
        rw [coded] at begins said
        cases told : hostWords (kindOf code) with
        | none =>
            simp only [describe_eq, told] at begins
            exact absurd (begins.symm.trans (heading_unnamed _ _)) (heading_ne words).2
        | some spoken =>
            obtain ⟨spokenDescription, spokenPreposition⟩ := spoken
            simp only [describe_eq, told] at begins said
            rw [heading_withHost told] at begins
            cases kind_of_heading told words begins
            rw [told] at words
            cases words
            refine ⟨⟨code, rfl, by simp [told]⟩, withHost_injective said⟩
  · rintro ⟨⟨code, coded, tells⟩, named⟩
    obtain ⟨⟨description, preposition⟩, words⟩ := Option.ne_none_iff_exists'.mp tells
    refine ⟨kindOf code, description, preposition, words, ?_⟩
    rw [ofFault, detail, coded, named]
    simp only [describe_eq, words]

/-- A page whose address holds the code of a failure. -/
def codedAddress (code : String) : String := s!"https://example.org/?net::ERR_{code}"

/-- What is said about a page that could not be opened. -/
def ofPage (url reason resource : String) : Diagnostic :=
  ofFault (.navigationFailed (Url.quote url) reason resource)

/-- The kind of a failure depends on the reason only, exactly if that has a code: if it has none,
the address of the page is searched for one. -/
theorem kind_constant_iff (url reason resource : String) :
    (∀ other otherResource,
        (ofPage other reason otherResource).kind = (ofPage url reason resource).kind) ↔
      code? reason.toList ≠ none := by
  have kinds : ∀ url resource, (ofPage url reason resource).kind = _ :=
    fun url resource => ofNavigation_kind (Url.quote url) reason _
  constructor
  · intro constant uncoded
    have same := (constant (codedAddress "TIMED_OUT") "").trans
      (constant (codedAddress "NAME_NOT_RESOLVED") "").symm
    have late : code? (Url.quote (codedAddress "TIMED_OUT")).toList =
        some "TIMED_OUT".toList := by decide +kernel
    have lost : code? (Url.quote (codedAddress "NAME_NOT_RESOLVED")).toList =
        some "NAME_NOT_RESOLVED".toList := by decide +kernel
    simp only [kinds, codeIn?, uncoded, late, lost, Option.none_or] at same
    revert same
    decide
  · intro coded other otherResource
    obtain ⟨code, found⟩ := Option.ne_none_iff_exists'.mp coded
    simp only [kinds, codeIn?, found, Option.some_or]

/-- The address at fault if another one could not be opened: that of the resource that failed, or
else that address itself. -/
def addressAtFault (address resource : String) : String :=
  if resource = "" then address else resource

/-- If the reason names no host, the host of a plain address is named.  It is that of the address at
fault exactly if no resource of another host is. -/
theorem quotes_plain {address reason resource : String} {host named : List Char}
    (quotes : (ofFault (.navigationFailed address reason resource)).Quotes address host)
    (unnamed : NetworkError.host? reason.toList = none)
    (plain : Url.IsPlain named address.toList) :
    host = named ∧
      (Url.host? (addressAtFault address resource).toList = some host ↔
        resource = "" ∨ Url.host? resource.toList = Url.host? address.toList) := by
  have found := ((quotes_iff address reason resource host).mp quotes).2
  rw [hostIn?, unnamed, Option.none_or, plain.found] at found
  cases found
  refine ⟨rfl, ?_⟩
  rw [addressAtFault, plain.host?_eq]
  split
  next none => simp [none, plain.host?_eq]
  next some => simp [some]

end Diagnostic

open NetworkError

/-- What a diagnosis of an address that could not be opened says does not depend on the resource
that failed.  Its kind depends on the reason only, exactly if that has a code.  The host that it
names is the first one in the reason, or else in the address of the page.  For a plain address that
is the host of the address at fault exactly if no resource of another host has failed. -/
theorem diagnosis_slips_iff (url reason resource : String) :
    ((∀ other otherResource, (Diagnostic.ofPage other reason otherResource).kind =
        (Diagnostic.ofPage url reason resource).kind) ↔ code? reason.toList ≠ none) ∧
      (∀ host, (Diagnostic.ofPage url reason resource).Quotes (Url.quote url) host ↔
        (∃ code, codeIn? reason (Url.quote url) = some code ∧ hostWords (kindOf code) ≠ none) ∧
          hostIn? reason (Url.quote url) = some host) ∧
      ∀ host named, (Diagnostic.ofPage url reason resource).Quotes (Url.quote url) host →
        NetworkError.host? reason.toList = none → Url.IsPlain named (Url.quote url).toList →
          host = named ∧
            (Url.host? (Diagnostic.addressAtFault (Url.quote url) resource).toList = some host ↔
              resource = "" ∨ Url.host? resource.toList = Url.host? (Url.quote url).toList) := by
  refine ⟨Diagnostic.kind_constant_iff url reason resource,
    Diagnostic.quotes_iff (Url.quote url) reason resource, ?_⟩
  intro host named quotes unnamed plain
  exact Diagnostic.quotes_plain quotes unnamed plain

/-- A page of one host, whose style sheet is on another host that cannot be found. -/
def scatteredVisit : Browser.Visit where
  events := [.requestFailed "https://cdn.example.net/site.css" (some "net::ERR_NAME_NOT_RESOLVED")]
  requests := []
  arrival := .failed "Page.goto: net::ERR_ABORTED; maybe frame was detached?"

/-- What opening that page ends with. -/
def scatteredFault : Fault :=
  .navigationFailed (Url.quote "https://example.org/") "net::ERR_NAME_NOT_RESOLVED"
    "https://cdn.example.net/site.css"

theorem scatteredFault_quotes :
    (Diagnostic.ofFault scatteredFault).Quotes (Url.quote "https://example.org/")
      "example.org".toList :=
  ⟨.dnsResolutionFailed, "Could not resolve domain name", "", rfl, by decide +kernel⟩

theorem scatteredPage_plain :
    Url.IsPlain "example.org".toList (Url.quote "https://example.org/").toList := by
  have spelled : (Url.quote "https://example.org/").toList =
      "https://".toList ++ ("example.org".toList ++ ([] ++ ['/'])) := by decide +kernel
  rw [spelled]
  have isName : Url.IsName "example.org".toList :=
    ⟨by decide, List.all_eq_true.mp (by decide +kernel), by simp⟩
  exact .intro _ _ _ (by decide) isName (.inl rfl) (.inr ⟨[], rfl⟩)

theorem scatteredVisit_misnamed :
    (Diagnostic.ofFault scatteredFault).Quotes (Url.quote "https://example.org/")
        "example.org".toList ∧
      NetworkError.host? "net::ERR_NAME_NOT_RESOLVED".toList = none ∧
      Url.IsPlain "example.org".toList (Url.quote "https://example.org/").toList ∧
      Url.host? "https://cdn.example.net/site.css".toList ≠ some "example.org".toList := by
  have unnamed : NetworkError.host? "net::ERR_NAME_NOT_RESOLVED".toList = none := by decide +kernel
  obtain ⟨-, -, right⟩ := diagnosis_slips_iff "https://example.org/" "net::ERR_NAME_NOT_RESOLVED"
    "https://cdn.example.net/site.css"
  have ⟨_, named⟩ := right _ _ scatteredFault_quotes unnamed scatteredPage_plain
  refine ⟨scatteredFault_quotes, unnamed, scatteredPage_plain, fun same => ?_⟩
  rcases named.mp same with none | same
  · revert none
    decide
  · revert same
    decide +kernel

/-- A page is named as the one that failed although it was a resource of another host. -/
theorem elsewhere_is_misnamed :
    ¬∀ (settings : Browser.Settings) (machine : Browser.Machine) (first : Browser.State)
      (past : List Browser.Incident) (url : String) (course : Browser.Visit)
      (page reason resource : String),
      (Browser.start settings machine first).outcome = .ok () →
      (Browser.navigate settings url course
        (Browser.sessionAfter settings machine first past)).outcome =
          .error (.navigationFailed page reason resource) →
      ∀ host, (Diagnostic.ofFault (.navigationFailed page reason resource)).Quotes page host →
        Url.host? (Diagnostic.addressAtFault page resource).toList = some host := by
  intro rightly
  have outcome : (Browser.navigate .standard "https://example.org/" scatteredVisit
      (Browser.sessionAfter .standard Browser.soundMachine (.initial [] []) [])).outcome =
        .error scatteredFault := by
    rw [Browser.navigate_outcome (Browser.sessionAfter_hasPage Browser.soundMachine_starts [])]
    rfl
  have named := rightly _ _ _ _ _ _ _ _ _ Browser.soundMachine_starts outcome _
    scatteredFault_quotes
  revert named
  decide +kernel

end CriticalCss
