import CriticalCss.Proofs.Pruning.Handling

/-!
# Pruning with more generous options

Options are more generous than others if they keep whatever those keep in any case, and if
their first screen is not lower.  On one and the same document a pass with more generous
options leaves at least as much and asks no more: each scan of elements stops where the other
one stops, or earlier.  So it meets no fault that the other pass has avoided.
-/

namespace CriticalCss

/-! ## Heights -/

theorem Point.less_trans {first second third : Point} (below : first.less second = true)
    (alsoBelow : second.less third = true) : first.less third = true := by
  cases first <;> cases second <;> cases third <;> simp_all [Point.less]
  omega

/-- What is less than a number is less than every number that is not lower. -/
theorem Number.less_of_less_of_atMost {held low high : Number} (below : held.less low = true)
    (order : low.atMost high = true) : held.less high = true := by
  unfold Number.less at below
  split at below
  next first second firstIs secondIs =>
    simp only [atMost, less, same, secondIs, Bool.or_eq_true] at order
    cases thirdIs : high.point? with
    | none => simp [thirdIs] at order
    | some third =>
        simp only [thirdIs, beq_iff_eq] at order
        simp only [less, firstIs, thirdIs]
        rcases order with lower | same
        · exact Point.less_trans below lower
        · exact same ▸ below
  next => cases below

/-- What lies above the edge of a first screen lies above the edge of every one that is not lower. -/
theorem Value.less_of_atMost {top : Value} {low high : Number} (order : low.atMost high = true)
    {above : Bool} (compared : top.less (.number low) = .ok above) :
    ∃ other, top.less (.number high) = .ok other ∧ (above = true → other = true) := by
  cases top with
  | number held =>
      rw [Value.less] at compared ⊢
      cases compared
      exact ⟨_, rfl, fun below => Number.less_of_less_of_atMost below order⟩
  | foreign kind => cases kind <;> cases compared
  | _ => cases compared

/-- Options are at most as generous as others: those keep whatever these keep in any case, and their
first screen is not lower. -/
structure Options.AtMost (options wider : Options) : Prop where
  forceInclude : ∀ entry ∈ options.forceInclude, entry ∈ wider.forceInclude
  height : options.viewportHeight.atMost wider.viewportHeight = true

theorem Options.AtMost.keeps {options wider : Options} (atMost : options.AtMost wider)
    {selector : String} (kept : options.keeps selector = true) : wider.keeps selector = true := by
  simp only [Options.keeps, List.any_eq_true] at kept ⊢
  obtain ⟨entry, member, covers⟩ := kept
  exact ⟨entry, atMost.forceInclude entry member, covers⟩

/-! ## Passes that ask less -/

namespace Document

variable {ε α β γ δ : Type}

/-- What a pass asks a document, in order. -/
def questions (document : Document ε) (pass : Pass ε α) : List (PassStep ε) :=
  (document.perform pass).steps.filter PassStep.isQuestion

/-- If the first pass succeeds, so does the second, with a related result and with some of its
questions, in their order. -/
def Shortens (document : Document ε) (related : α → β → Prop) (pass : Pass ε α)
    (shorter : Pass ε β) : Prop :=
  ∀ result, (document.perform pass).outcome = .ok result →
    ∃ other, (document.perform shorter).outcome = .ok other ∧ related result other ∧
      (document.questions shorter).Sublist (document.questions pass)

namespace Shortens

variable {document : Document ε} {related : α → β → Prop}

theorem give {result : α} {other : β} (holds : related result other) :
    document.Shortens related (.done (.ok result)) (.done (.ok other)) := by
  rintro _ ⟨⟩
  exact ⟨other, rfl, holds, List.Sublist.refl _⟩

/-- A pass that fails shortens to any. -/
theorem fail (fault : Fault) (shorter : Pass ε β) :
    document.Shortens related (.done (.error fault)) shorter := by
  rintro _ ⟨⟩

/-- Any pass shortens to one that asks nothing. -/
theorem skip {other : β} (holds : ∀ result, related result other) (pass : Pass ε α) :
    document.Shortens related pass (.done (.ok other)) := by
  intro result _
  exact ⟨other, rfl, holds result, List.nil_sublist _⟩

theorem refl {related : α → α → Prop} (holds : ∀ result, related result result)
    (pass : Pass ε α) : document.Shortens related pass pass := by
  intro result ends
  exact ⟨result, ends, holds result, List.Sublist.refl _⟩

theorem note (event event' : Event) {pass : Pass ε α} {shorter : Pass ε β}
    (shortens : document.Shortens related pass shorter) :
    document.Shortens related (.note event pass) (.note event' shorter) :=
  shortens

theorem query (selector : String) {next : Except Fault (List ε) → Pass ε α}
    {next' : Except Fault (List ε) → Pass ε β}
    (onward : document.Shortens related (next (document.query selector))
      (next' (document.query selector))) :
    document.Shortens related (.query selector next) (.query selector next') := by
  intro result ends
  obtain ⟨other, endsToo, holds, sublist⟩ := onward result ends
  exact ⟨other, endsToo, holds, sublist.cons_cons _⟩

theorem bind {last : γ → δ → Prop} {pass : Pass ε α} {shorter : Pass ε β} {next : α → Pass ε γ}
    {next' : β → Pass ε δ} (first : document.Shortens related pass shorter)
    (rest : ∀ result other, related result other →
      document.Shortens last (next result) (next' other)) :
    document.Shortens last (pass.bind next) (shorter.bind next') := by
  intro result ends
  obtain ⟨middle, middleIs, ends⟩ := document.ok_of_bind ends
  obtain ⟨middle', middleIs', holds, firstQuestions⟩ := first middle middleIs
  obtain ⟨other, endsToo, lastHolds, restQuestions⟩ := rest middle middle' holds result ends
  refine ⟨other, ?_, lastHolds, ?_⟩
  · rw [outcome_bind document middleIs', endsToo]
  · simp only [questions, perform_bind document middleIs, perform_bind document middleIs',
      Transcript.steps_after, List.filter_append]
    exact firstQuestions.append restQuestions

end Shortens

end Document

/-! ## What grows -/

/-- Some items with two selections of them, in order, of which the second takes whatever the first
does. -/
inductive Selections {α : Type} : List α → List α → List α → Prop where
  | nil : Selections [] [] []
  | both {item : α} {items fewer more : List α} :
      Selections items fewer more → Selections (item :: items) (item :: fewer) (item :: more)
  | second {item : α} {items fewer more : List α} :
      Selections items fewer more → Selections (item :: items) fewer (item :: more)
  | neither {item : α} {items fewer more : List α} :
      Selections items fewer more → Selections (item :: items) fewer more

mutual

/-- A node with what is left of it twice, and what is left the first time is left the second time
too. -/
inductive Grows : Value → Option Value → Option Value → Prop where
  | leaf {fields : Fields} : fields.IsLeaf →
      Grows (.object fields) (some (.object fields)) (some (.object fields))
  | rule {fields : Fields} {selectors fewer more : List Value} :
      fields.IsRule → fields.elementsAt "selectors" = some selectors →
      Selections selectors fewer more →
      Grows (.object fields) (fields.withLeft "selectors" fewer) (fields.withLeft "selectors" more)
  | group {fields : Fields} {fewer more : List Value} :
      fields.IsGroup → AllGrow (fields.listAt "rules") fewer more →
      Grows (.object fields) (fields.withLeft "rules" fewer) (fields.withLeft "rules" more)
  | dropped {fields : Fields} : ¬fields.IsRule → ¬fields.IsGroup →
      Grows (.object fields) none none

/-- Some nodes with what is left of each, in order. -/
inductive AllGrow : List Value → List Value → List Value → Prop where
  | nil : AllGrow [] [] []
  | cons {node : Value} {less? more? : Option Value} {nodes fewer more : List Value} :
      Grows node less? more? → AllGrow nodes fewer more →
      AllGrow (node :: nodes) (less?.toList ++ fewer) (more?.toList ++ more)

end

theorem Selections.sublist {α : Type} {items fewer more : List α}
    (selections : Selections items fewer more) : fewer.Sublist more := by
  induction selections with
  | nil => exact .slnil
  | both _ ih => exact ih.cons_cons _
  | second _ ih => exact ih.cons _
  | neither _ ih => exact ih

/-- What is left of an object with a thinned list is a remnant of what is left of it with a list that
has been thinned less. -/
theorem remnants_withLeft {fields : Fields} {key : String} {fewer more : List Value}
    (none : more = [] → fewer = [])
    (remnant : fewer ≠ [] → Remnant (.object (fields.put key (.list more)))
      (.object ((fields.put key (.list more)).put key (.list fewer)))) :
    Remnants (fields.withLeft key more).toList (fields.withLeft key fewer).toList := by
  cases more with
  | nil =>
      rw [none rfl]
      exact .nil
  | cons first others =>
      cases fewer with
      | nil => exact .drop .nil
      | cons head tail =>
          have kept := remnant (by simp)
          rw [Fields.put_put] at kept
          exact .keep kept .nil

mutual

/-- What is left the first time is a remnant of what is left the second time. -/
theorem Grows.remnants {node : Value} {less? more? : Option Value} :
    Grows node less? more? → Remnants more?.toList less?.toList
  | .leaf isLeaf => .keep (.leaf isLeaf) .nil
  | .rule isRule _ selections => by
      refine remnants_withLeft (fun none => ?_) fun nonempty => ?_
      · exact List.sublist_nil.mp (none ▸ selections.sublist)
      · refine .rule ((Fields.isRule_put (by decide)).mpr isRule) nonempty ?_
        rw [Fields.listAt_put]
        exact selections.sublist
  | .group isGroup grow => by
      have remnants := grow.remnants
      refine remnants_withLeft (fun none => ?_) fun nonempty => ?_
      · exact remnants.eq_nil none
      · refine .group ((Fields.isGroup_put (by decide)).mpr isGroup) nonempty ?_
        rwa [Fields.listAt_put]
  | .dropped _ _ => .nil

theorem AllGrow.remnants {nodes fewer more : List Value} :
    AllGrow nodes fewer more → Remnants more fewer
  | .nil => .nil
  | .cons grows grow => grows.remnants.append grow.remnants

end

/-! ## Pruning -/

namespace Pass

open Document

variable {ε : Type} {document : Document ε} {options wider : Options}

theorem isAboveFold_shortens {low high : Number} (order : low.atMost high = true) (element : ε) :
    document.Shortens (fun above other => above = true → other = true)
      (isAboveFold (.number low) element) (isAboveFold (.number high) element) := by
  have measured : document.Shortens Eq (topOf element) (topOf element) := .refl (fun _ => rfl) _
  refine measured.bind ?_
  rintro top _ rfl
  cases compared : top.less (.number low) with
  | error kinds => exact .fail _ _
  | ok above =>
      obtain ⟨other, otherCompared, higher⟩ := Value.less_of_atMost order compared
      rw [otherCompared]
      cases other with
      | true => exact .skip (fun _ _ => rfl) _
      | false =>
          cases above with
          | true => cases higher rfl
          | false => exact .refl (fun _ held => held) _

/-- A scan of elements that stops stops earlier, or at the same element, under a higher edge. -/
theorem anyAboveFold_shortens {low high : Number} (order : low.atMost high = true)
    (elements : List ε) :
    document.Shortens (fun above other => above = true → other = true)
      (anyAboveFold (.number low) elements) (anyAboveFold (.number high) elements) := by
  induction elements with
  | nil => exact .give id
  | cons element rest ih =>
      refine (isAboveFold_shortens order element).bind ?_
      intro above other higher
      cases other with
      | true => exact .skip (fun _ _ => rfl) _
      | false =>
          cases above with
          | true => cases higher rfl
          | false => exact ih

theorem isCriticalText_shortens (atMost : options.AtMost wider) (selector : String) :
    document.Shortens (fun critical other => critical = true → other = true)
      (isCriticalText options selector) (isCriticalText wider selector) := by
  unfold isCriticalText
  by_cases widerKeeps : wider.keeps (Text.trim selector) = true
  · rw [if_pos widerKeeps]
    exact .skip (fun _ _ => rfl) _
  have notKept : ¬options.keeps (Text.trim selector) = true := fun kept =>
    widerKeeps (atMost.keeps kept)
  rw [if_neg widerKeeps, if_neg notKept]
  split
  · exact .give id
  cases Selector.reduce selector with
  | none => exact .give id
  | some reduced =>
      apply Shortens.query
      cases document.query reduced with
      | ok elements => exact anyAboveFold_shortens atMost.height elements
      | error fault =>
          cases fault with
          | invalidSelector refused => exact .note _ _ (.give id)
          | _ => exact .fail _ _

/-- A selector that is critical is critical under more generous options, too. -/
theorem isCritical_shortens (atMost : options.AtMost wider) (selector : Value) :
    document.Shortens (fun critical other => critical = true → other = true)
      (isCritical options selector) (isCritical wider selector) := by
  unfold isCritical
  split
  · exact isCriticalText_shortens atMost _
  · split <;> exact .fail _ _
  · exact .fail _ _

theorem criticalSelectors_shortens (atMost : options.AtMost wider) (selectors : List Value) :
    document.Shortens (Selections selectors) (criticalSelectors options selectors)
      (criticalSelectors wider selectors) := by
  induction selectors with
  | nil => exact .give .nil
  | cons selector rest ih =>
      refine (isCritical_shortens atMost selector).bind ?_
      intro critical other higher
      refine ih.bind ?_
      intro fewer more selections
      apply Shortens.give
      cases other with
      | true =>
          cases critical with
          | true => exact .both selections
          | false => exact .second selections
      | false =>
          cases critical with
          | true => cases higher rfl
          | false => exact .neither selections

theorem pruneNodes_shortens {nodes : List Value}
    (each : ∀ node ∈ nodes, document.Shortens (Grows node) (pruneNode options node)
      (pruneNode wider node)) :
    document.Shortens (AllGrow nodes) (pruneNodes options nodes) (pruneNodes wider nodes) := by
  induction nodes with
  | nil =>
      simp only [pruneNodes]
      exact .give .nil
  | cons node rest ih =>
      simp only [pruneNodes]
      refine (each node (by simp)).bind ?_
      intro less? more? grows
      refine (ih fun other member => each other (by simp [member])).bind ?_
      intro fewer more grow
      exact .give (.cons grows grow)

/-- What is left of a node is left under more generous options, too. -/
theorem pruneNode_shortens (atMost : options.AtMost wider) (node : Value) :
    document.Shortens (Grows node) (pruneNode options node) (pruneNode wider node) := by
  induction node using Value.node_induction with
  | node node ih =>
      cases @handling ε node with
      | rule isRule elements handled =>
          rw [handled, handled]
          refine (criticalSelectors_shortens atMost _).bind ?_
          intro fewer more selections
          exact .give (.rule isRule elements selections)
      | leaf isLeaf handled =>
          rw [handled, handled]
          exact .give (.leaf isLeaf)
      | group isGroup handled =>
          rw [handled, handled]
          refine (pruneNodes_shortens (ih _ rfl)).bind ?_
          intro fewer more grow
          exact .give (.group isGroup grow)
      | dropped notRule notGroup handled =>
          rw [handled, handled]
          exact .note _ _ (.give (.dropped notRule notGroup))
      | refused _ handled =>
          rw [handled]
          exact .fail _ _

/-- Pruning is monotone in the options.  If it succeeds, it succeeds under more generous options, which
leave whatever has been left, and more than that only in between; and the document is asked some of
the same questions in the same order. -/
theorem prune_monotone (atMost : options.AtMost wider) {rules : Value} {fewer : List Value}
    (pruned : (document.perform (prune options rules)).outcome = .ok fewer) :
    ∃ nodes more, rules.elements? = some nodes ∧
      (document.perform (prune wider rules)).outcome = .ok more ∧
      AllGrow nodes fewer more ∧ Remnants more fewer ∧
      (document.questions (prune wider rules)).Sublist
        (document.questions (prune options rules)) := by
  cases elements : rules.elements? with
  | none =>
      simp only [prune, elementsOf, elements] at pruned
      cases pruned
  | some nodes =>
      have shortens : document.Shortens (AllGrow nodes) (prune options rules)
          (prune wider rules) := by
        simp only [prune, elementsOf, elements]
        refine (pruneNodes_shortens fun node _ => pruneNode_shortens atMost node).bind ?_
        intro fewer more grow
        exact .note _ _ (.give grow)
      obtain ⟨more, prunedToo, grow, sublist⟩ := shortens fewer pruned
      exact ⟨nodes, more, rfl, prunedToo, grow, grow.remnants, sublist⟩

/-- Options that keep one selector more than the plain ones, on a first screen that is higher. -/
def generousOptions : Options where
  forceInclude := [.universal, .literal ".forced"]
  viewportHeight := .whole 1000
  settleDelay := .whole 350
  has_universal := by decide
  height_positive := by decide +kernel
  delay_nonnegative := by decide +kernel

theorem plain_atMost_generous : Options.plain.AtMost generousOptions where
  forceInclude := by simp [Options.plain, generousOptions]
  height := by decide +kernel

/-- A page with an element between the edges of two first screens, in front of one that is above both,
and with one that cannot be measured. -/
def edgePage : Snapshot where
  selected := [(".edge", [⟨.ok (.ofInt 950), .ok (.text "static")⟩,
      ⟨.ok (.ofInt 10), .ok (.text "static")⟩, ⟨.error (.browserCall "gone"), .error .noPage⟩]),
    (".low", [⟨.ok (.ofInt 990), .ok (.text "static")⟩])]
  invalid := [".forced"]
  failing := []

/-- A rule with two selectors and one with a third. -/
def edgeRules : Value :=
  .list [.object [("type", .text "rule"), ("selectors", .list [.text ".low", .text ".edge"])],
    .object [("type", .text "rule"), ("selectors", .list [.text ".forced"])]]

theorem edgeRules_monotone :
    Options.plain.AtMost generousOptions ∧
      ∃ fewer, (edgePage.document.perform (prune Options.plain edgeRules)).outcome = .ok fewer ∧
        fewer.length = 1 ∧
        ∃ nodes more, edgeRules.elements? = some nodes ∧
          (edgePage.document.perform (prune generousOptions edgeRules)).outcome = .ok more ∧
          AllGrow nodes fewer more ∧ Remnants more fewer ∧
          (edgePage.document.questions (prune generousOptions edgeRules)).Sublist
            (edgePage.document.questions (prune Options.plain edgeRules)) := by
  have leaves : (edgePage.document.perform (prune Options.plain edgeRules)).outcome.toOption.map
      List.length = some 1 := by decide +kernel
  obtain ⟨fewer, pruned, single⟩ := exists_ok_of_view leaves
  exact ⟨plain_atMost_generous, fewer, pruned, single,
    prune_monotone plain_atMost_generous pruned⟩

end Pass

end CriticalCss
