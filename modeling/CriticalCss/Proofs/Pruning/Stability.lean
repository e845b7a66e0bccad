import CriticalCss.Proofs.Pruning.Handling

/-!
# Pruning what is left

A document that always gives the same answers finds critical again what it has found
critical.  So pruning what a pass has left, on the same page and with the same options,
succeeds and leaves it as it is, down to the order of keys.  That needs no tree of the right
shape: whatever a pass has got through without a fault has left nodes that it gets through
again.
-/

namespace CriticalCss.Pass

open Document

variable {ε : Type} {document : Document ε} {options : Options}

/-- Selectors that have been found critical are found critical again. -/
theorem criticalSelectors_stable {selectors kept : List Value}
    (pruned : (document.perform (criticalSelectors options selectors)).outcome = .ok kept) :
    (document.perform (criticalSelectors options kept)).outcome = .ok kept := by
  induction selectors generalizing kept with
  | nil =>
      cases pruned
      rfl
  | cons selector rest ih =>
      obtain ⟨critical, criticalIs, pruned⟩ := document.ok_of_bind pruned
      obtain ⟨others, othersAre, pruned⟩ := document.ok_of_bind pruned
      cases pruned
      have stable := ih othersAre
      cases critical with
      | false => exact stable
      | true =>
          simp only [↓reduceIte, criticalSelectors, bind_eq]
          rw [outcome_bind document criticalIs, outcome_bind document stable]
          rfl

/-- Nodes are stable together if each of them is. -/
theorem pruneNodes_stable {nodes kept : List Value}
    (each : ∀ node ∈ nodes, ∀ image,
      (document.perform (pruneNode options node)).outcome = .ok (some image) →
        (document.perform (pruneNode options image)).outcome = .ok (some image))
    (pruned : (document.perform (pruneNodes options nodes)).outcome = .ok kept) :
    (document.perform (pruneNodes options kept)).outcome = .ok kept := by
  induction nodes generalizing kept with
  | nil =>
      rw [pruneNodes] at pruned
      cases pruned
      rw [pruneNodes]
      rfl
  | cons node rest ih =>
      rw [pruneNodes] at pruned
      obtain ⟨image?, imageIs, pruned⟩ := document.ok_of_bind pruned
      obtain ⟨others, othersAre, pruned⟩ := document.ok_of_bind pruned
      cases pruned
      have stable := ih (fun other member => each other (by simp [member])) othersAre
      cases image? with
      | none => exact stable
      | some image =>
          have imageStable := each node (by simp) image imageIs
          simp only [Option.toList_some, List.singleton_append, pruneNodes, bind_eq]
          rw [outcome_bind document imageStable, outcome_bind document stable]
          rfl

/-- What is left of a node is stable. -/
theorem pruneNode_stable (node image : Value)
    (pruned : (document.perform (pruneNode options node)).outcome = .ok (some image)) :
    (document.perform (pruneNode options image)).outcome = .ok (some image) := by
  induction node using Value.node_induction generalizing image with
  | node node ih =>
      cases @handling ε node with
      | @rule fields selectors isRule _ handled =>
          rw [handled] at pruned
          obtain ⟨kept, keptAre, pruned⟩ := document.ok_of_bind pruned
          obtain ⟨-, rfl⟩ := Fields.withLeft_eq_some (Except.ok.inj pruned)
          have staysRule : (fields.put "selectors" (.list kept)).IsRule :=
            (Fields.isRule_put (by decide)).mpr isRule
          rw [pruneNode_of_rule staysRule Fields.elementsAt_put,
            outcome_bind document (criticalSelectors_stable keptAre)]
          simpa [Fields.withLeft_put] using pruned
      | leaf isLeaf handled =>
          rw [handled] at pruned
          cases pruned
          rw [handled]
          rfl
      | @group fields isGroup handled =>
          rw [handled] at pruned
          obtain ⟨kept, keptAre, pruned⟩ := document.ok_of_bind pruned
          obtain ⟨-, rfl⟩ := Fields.withLeft_eq_some (Except.ok.inj pruned)
          have staysGroup : (fields.put "rules" (.list kept)).IsGroup :=
            (Fields.isGroup_put (by decide)).mpr isGroup
          have stable := pruneNodes_stable (ih fields rfl) keptAre
          rw [pruneNode_of_group staysGroup, pruneNested_eq options Fields.holdsList_put,
            Fields.listAt_put, outcome_bind document stable]
          simpa [Fields.withLeft_put] using pruned
      | dropped _ _ handled =>
          rw [handled] at pruned
          cases pruned
      | refused _ handled =>
          rw [handled] at pruned
          cases pruned

/-- Pruning is idempotent: what is left of any rules can be pruned again, on the same document and
with the same options, and stays as it is. -/
theorem prune_idempotent {document : Document ε} {options : Options} {rules : Value}
    {kept : List Value}
    (pruned : (document.perform (prune options rules)).outcome = .ok kept) :
    (document.perform (prune options (.list kept))).outcome = .ok kept := by
  obtain ⟨nodes, -, pruned⟩ := document.ok_of_bind pruned
  obtain ⟨left, leftAre, pruned⟩ := document.ok_of_bind pruned
  cases pruned
  have stable := pruneNodes_stable (fun node _ => pruneNode_stable node) leftAre
  simp only [prune, elementsOf, Value.elements?, pure_eq, bind_eq, bind]
  rw [outcome_bind document stable]
  rfl

/-- A page on which one look-up and one measurement fail. -/
def failingPage : Snapshot where
  selected := [(".hero", [⟨.ok (.ofInt 10), .ok (.text "static")⟩,
      ⟨.error (.browserCall "gone"), .ok (.text "static")⟩]),
    ("b", [⟨.ok (.ofInt 20), .error .missingUrl⟩])]
  invalid := ["a"]
  failing := [(".lost", .browserCall "lost")]

/-- Rules of which some have the wrong shape: a text and an object stand for lists of selectors, a
group has no rules, and the type of a node is a number. -/
def crookedRules : Value :=
  .list [.object [("selectors", .text "ab"), ("type", .text "rule"), ("line", .ofInt 3)],
    .object [("type", .text "media")],
    .object [("type", .ofInt 1), ("rules", .null)],
    .object [("type", .text "supports"), ("rules", .list [
      .object [("type", .text "rule"), ("selectors", .object [(".hero", .null), ("a", .null)])],
      .object [("type", .text "import"), ("selectors", .ofInt 7)]])]]

/-- What is left of these rules on that page. -/
def crookedRemnants : Value :=
  .list [.object [("selectors", .list [.text "b"]), ("type", .text "rule"), ("line", .ofInt 3)],
    .object [("type", .text "supports"), ("rules", .list [
      .object [("type", .text "rule"), ("selectors", .list [.text ".hero"])],
      .object [("type", .text "import"), ("selectors", .ofInt 7)]])]]

theorem crookedRules_idempotent :
    ∃ kept, (failingPage.document.perform (prune Options.plain crookedRules)).outcome = .ok kept ∧
      Value.same (.list kept) crookedRemnants = true ∧
      (failingPage.document.perform (prune Options.plain (.list kept))).outcome = .ok kept := by
  have leaves : (failingPage.document.perform
      (prune Options.plain crookedRules)).outcome.toOption.map
        (fun kept => Value.same (.list kept) crookedRemnants) = some true := by decide +kernel
  obtain ⟨kept, pruned, same⟩ := exists_ok_of_view leaves
  exact ⟨kept, pruned, same, prune_idempotent pruned⟩

end CriticalCss.Pass
