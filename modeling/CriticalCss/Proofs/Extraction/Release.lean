import CriticalCss.Proofs.Browser.Ledger
import CriticalCss.Proofs.Extraction.Refinement
import CriticalCss.Proofs.Pruning.Measuring

/-!
# An extraction gives back what it takes

An extraction takes arrays and handles from the page while it looks up selectors, and may
fail at any point of it.  All the same it has a ledger that ends with nothing held: what one
look-up takes is given back by the next or, if there is none, before the session is closed.

The invariant that carries the run says that exactly the handles that are alive are held.
-/

namespace CriticalCss

namespace Browser

open Activity

section

variable {σ α β : Type} {content : Content} {holding : σ → Holding}

/-- The steps of an activity lead from what is held in the state before it to what is held
in the state after it. -/
def KeepsLedger (content : Content) (holding : σ → Holding) (activity : Activity σ Step α) :
    Prop :=
  ∀ state, Ledger content (holding state) (activity state).steps
    (holding (activity state).state)

theorem keepsLedger_ofOutcome (outcome : Except Fault α) :
    KeepsLedger content holding (ofOutcome outcome) :=
  fun _ => .nil

theorem KeepsLedger.observe {activity : Activity σ Step α}
    {next : Except Fault α → Activity σ Step β} (first : KeepsLedger content holding activity)
    (rest : ∀ outcome, KeepsLedger content holding (next outcome)) :
    KeepsLedger content holding (activity.observe next) :=
  fun state => (first state).append (rest _ _)

theorem KeepsLedger.bind {activity : Activity σ Step α} {next : α → Activity σ Step β}
    (first : KeepsLedger content holding activity)
    (rest : ∀ result, KeepsLedger content holding (next result)) :
    KeepsLedger content holding (activity.bind next) := by
  refine first.observe fun outcome => ?_
  cases outcome with
  | ok result => exact rest result
  | error fault => exact keepsLedger_ofOutcome _

theorem KeepsLedger.ensuring {activity : Activity σ Step α} {tidying : Tidying σ Step}
    (keeps : KeepsLedger content holding activity)
    (tidies : KeepsLedger content holding (tidy tidying)) :
    KeepsLedger content holding (activity.ensuring tidying) :=
  keeps.observe fun _ => tidies.observe fun _ => keepsLedger_ofOutcome _

/-- A step that touches nothing in a page and closes no part may be taken at any time. -/
theorem keepsLedger_take {step : Step} (outside : step.IsOutside)
    (closesNothing : ∀ part, step ≠ .called (.close part)) :
    KeepsLedger content holding (take step) :=
  fun _ => .single (.outside outside fun part closes => absurd closes (closesNothing part))

theorem keepsLedger_report (event : Event) :
    KeepsLedger content holding (report event : Activity σ Step Unit) :=
  keepsLedger_take trivial fun _ closes => nomatch closes

/-- Whoever touches nothing in a page holds nothing of it. -/
theorem keepsLedger_of_keeps {ρ : Type} {view : σ → ρ} {activity : Activity σ Step α}
    (keeps : activity.Keeps Step.IsOutside view) :
    KeepsLedger content (fun _ => .nothing) activity :=
  fun state => .of_outside (keeps state).1

end

/-- Every key that consists of digits can be read as a number. -/
def Content.HasReadableKeys (content : Content) : Prop :=
  ∀ {selector : String} {handles : List Handle}, content.listing selector = .ok handles →
    ∀ handle ∈ handles, Text.isDigits handle.key = true →
      ∃ place, Integer.read handle.key.toList = .ok place

namespace Page

variable {content : Content} {live : List Handle}

/-- The handles that are alive are held. -/
def held (live : List Handle) : Holding := ⟨[], live⟩

/-! ## One look-up -/

/-- Releasing what is alive gives back everything. -/
theorem releaseAll_keepsLedger : KeepsLedger content held (tidy releaseAll) := by
  intro live
  change Ledger content (held live) (live.flatMap releaseSteps) .nothing
  induction live with
  | nil => exact .nil
  | cons handle rest ih =>
      have first : Ledger content (held (handle :: rest)) (releaseSteps handle) (held rest) := by
        unfold releaseSteps
        split
        · exact .cons .released (.single (.outside trivial fun _ closes => nomatch closes))
        · exact .single .released
      rw [List.flatMap_cons]
      exact first.append ih

theorem element?_of_readable (readable : content.HasReadableKeys) {selector : String}
    {handles : List Handle} (listed : content.listing selector = .ok handles)
    {handle : Handle} (member : handle ∈ handles) :
    ∃ found, element? handle = .ok found := by
  cases isMember : handle.isMember with
  | false => exact ⟨none, element?_of_not_isMember isMember⟩
  | true =>
      obtain ⟨hasElement, digits⟩ := Bool.and_eq_true_iff.mp isMember
      obtain ⟨box, boxIs⟩ := Option.isSome_iff_exists.mp hasElement
      obtain ⟨place, placeIs⟩ := readable listed handle member digits
      exact ⟨some (place.toNat, ⟨handle, box⟩), by simp [element?, boxIs, digits, placeIs]⟩

/-- What a look-up takes from the page is alive at the end of it, apart from the array. -/
theorem fetch_ledger (readable : content.HasReadableKeys) (selector : String) :
    Ledger content .nothing (.called (.evaluate selector) :: (fetch content selector []).steps)
      (held (fetch content selector []).state) := by
  cases evaluation : content.evaluation selector with
  | some report =>
      rw [fetch_of_unevaluated evaluation]
      exact .single (.refused evaluation)
  | none =>
      refine .cons (.evaluated evaluation) ?_
      cases listing : content.listing selector with
      | error report =>
          rw [fetch_of_unlisted evaluation listing]
          exact .cons (.unlisted listing) (.single .arrayReleased)
      | ok handles =>
          rw [fetch_of_listed evaluation listing fun _ => element?_of_readable readable listing]
          exact .cons (.listed listing) (.single .arrayReleased)

/-- A look-up gives back what was alive before it. -/
theorem query_keepsLedger (readable : content.HasReadableKeys) (selector : String) :
    KeepsLedger content held (query content selector) := by
  intro live
  rw [query_eq, Transcript.steps_after, Transcript.state_after, List.append_assoc]
  exact (releaseAll_keepsLedger live).append (fetch_ledger readable selector)

/-- The elements that a look-up finds are held by handles that are alive. -/
theorem mem_live_of_found (readable : content.HasReadableKeys) {selector : String}
    {element : Element} (isFound : element ∈ Pass.found (query content selector live).outcome) :
    element.handle ∈ (query content selector live).state := by
  rw [query_eq, Transcript.outcome_after] at isFound
  rw [query_eq, Transcript.state_after]
  cases evaluation : content.evaluation selector with
  | some report =>
      rw [fetch_of_unevaluated evaluation] at isFound
      cases isFound
  | none =>
      cases listing : content.listing selector with
      | error report =>
          rw [fetch_of_unlisted evaluation listing] at isFound
          cases isFound
      | ok handles =>
          have told : ∀ handle ∈ handles, ∃ found, element? handle = .ok found :=
            fun _ => element?_of_readable readable listing
          rw [fetch_of_listed evaluation listing told] at isFound ⊢
          simp only [Pass.found, inOrder, List.mem_map, List.mem_mergeSort,
            List.mem_filterMap] at isFound
          obtain ⟨⟨place, other⟩, ⟨handle, member, holds⟩, rfl⟩ := isFound
          have same : other.handle = handle := (holds_of_found? holds).1
          rwa [same]

/-! ## A whole pass -/

/-- Carrying out a pass that measures only what it has found keeps a ledger. -/
theorem run_ledger (readable : content.HasReadableKeys) {α : Type} {pass : Pass Element α}
    {elements : List Element} {leaves : List Element → Prop}
    (measures : pass.MeasuresFound leaves elements)
    (alive : ∀ element ∈ elements, element.handle ∈ live) :
    Ledger content (held live) (pass.run (responder content) live).steps
      (held (pass.run (responder content) live).state) := by
  induction pass generalizing elements live with
  | done outcome => exact .nil
  | note event rest ih =>
      have noted : Ledger content (held live) [.reported event] (held live) :=
        .single (.outside trivial fun _ closes => nomatch closes)
      exact noted.append (ih measures alive)
  | query selector next ih =>
      have asked := query_keepsLedger readable selector live
      exact asked.append (ih _ (measures _) fun _ => mem_live_of_found readable)
  | top clear element next ih =>
      obtain ⟨member, onward⟩ := measures
      have measured : Ledger content (held live)
          [.called (.measureTop element.handle clear)] (held live) :=
        .single (.measured rfl (alive element member))
      have split : (Pass.top clear element next).run (responder content) live =
          ((next (element.box.top.bind toReal)).run (responder content) live).after
            [.called (.measureTop element.handle clear)] := by
        simp only [Pass.run, responder, observe]
        rw [top_apply]
      rw [split]
      exact measured.append (ih _ (onward _) alive)
  | position element next ih =>
      obtain ⟨member, onward⟩ := measures
      have measured : Ledger content (held live)
          [.called (.measurePosition element.handle)] (held live) :=
        .single (.measured rfl (alive element member))
      exact measured.append (ih _ (onward _) alive)

end Page

end Browser

namespace Extraction

open Activity Browser

/-! ## A whole extraction -/

/-- Classifying a page gives back everything that it takes from it. -/
theorem classify_keepsLedger {content : Content} (readable : content.HasReadableKeys)
    (options : Options) (rules : Value) :
    KeepsLedger content Page.held (classify options content rules) := by
  have waits : KeepsLedger content Page.held
      (wait options.settleDelay : Page.Deed Unit) := by
    unfold wait
    split
    · exact keepsLedger_take trivial fun _ closes => nomatch closes
    · exact keepsLedger_ofOutcome _
  have prunes : KeepsLedger content Page.held
      ((Pass.prune options rules).run (Page.responder content)) := by
    intro live
    exact Page.run_ledger readable (Pass.prune_measuresFound options rules []) (by simp)
  refine KeepsLedger.ensuring ?_ Page.releaseAll_keepsLedger
  refine (keepsLedger_report _).bind fun _ => ?_
  refine waits.bind fun _ => ?_
  refine (keepsLedger_report _).bind fun _ => ?_
  refine prunes.bind fun kept => ?_
  exact (keepsLedger_report _).bind fun _ => keepsLedger_ofOutcome _

/-- An extraction that has been checked holds nothing of the page before and after it. -/
theorem carryOut_keepsLedger {world : World} (readable : world.content.HasReadableKeys)
    (order : Order) :
    KeepsLedger world.content (fun _ => .nothing) (carryOut world order) := by
  have classifies : KeepsLedger world.content (fun _ : State => .nothing)
      (within [] (classify order.options world.content order.rules)) :=
    fun _ => classify_keepsLedger readable order.options order.rules []
  have stops : KeepsLedger world.content (fun _ => .nothing) (tidy (stop world.machine)) :=
    keepsLedger_of_keeps (keeps_tidy (stop_outside world.machine))
  have required : requirePage.Keeps Step.IsOutside (unseen : State → Unit) := requirePage_keeps
  refine KeepsLedger.bind ?_ fun kept => ?_
  · refine (keepsLedger_of_keeps (start_outside _ _)).bind fun _ => ?_
    refine KeepsLedger.ensuring ?_ stops
    refine (keepsLedger_of_keeps (navigate_outside _ _ _)).bind fun _ => ?_
    refine (keepsLedger_of_keeps required).bind fun _ => ?_
    exact classifies
  · exact (keepsLedger_report _).bind fun _ => keepsLedger_ofOutcome _

/-- Whatever happens in an extraction, it is tidy about what it takes from the page: every
array and every handle is given back exactly once and before any part of the session is
closed, the handles of at most one look-up are held at a time, and only those are
measured. -/
theorem extract_isTidy {world : World} (readable : world.content.HasReadableKeys)
    (url : String) (settings : Settings) (rules : Value) (state : State) :
    IsTidy world.content (extract world url settings rules state).steps := by
  apply Ledger.isTidy
  cases checked : check url settings rules with
  | error fault =>
      have stopped : (extract world url settings rules state).steps = [] := by
        simp only [extract, checked]
        rfl
      rw [stopped]
      exact .nil
  | ok order =>
      have carried : extract world url settings rules state = carryOut world order state := by
        simp only [extract, checked]
        rfl
      rw [carried]
      exact carryOut_keepsLedger readable order state

theorem jumbledWorld_hasReadableKeys : jumbledWorld.content.HasReadableKeys := by
  intro selector handles listed handle member digits
  simp only [jumbledWorld, Except.ok.injEq] at listed
  subst listed
  split at member
  · simp only [List.mem_cons, List.not_mem_nil, or_false] at member
    rcases member with rfl | rfl | rfl | rfl
    · exact absurd digits (by decide +kernel)
    · exact ⟨1, rfl⟩
    · exact absurd digits (by decide +kernel)
    · exact ⟨0, rfl⟩
  · cases member

theorem jumbledWorld_extract_isTidy :
    jumbledWorld.content.HasReadableKeys ∧
      IsTidy jumbledWorld.content
        (extract jumbledWorld "https://example.org" .standard jumbledRules
          (.initial [] [])).steps :=
  ⟨jumbledWorld_hasReadableKeys,
    extract_isTidy jumbledWorld_hasReadableKeys "https://example.org" .standard jumbledRules
      (.initial [] [])⟩

end Extraction

end CriticalCss
