import CriticalCss.Proofs.Extraction.Checks
import CriticalCss.Proofs.Extraction.Course
import CriticalCss.Proofs.Pruning.Acceptance
import CriticalCss.Proofs.Pruning.Faults
import CriticalCss.Proofs.Stylesheet.Output

/-!
# What an extraction keeps

An extraction may fail in many ways, but if it ends with rules they are remnants of those that it has
been given, whatever the page has answered on the way.  Rules from a file have no key twice, hence
neither have their remnants, and the text of what is kept reads back as what is kept.
-/

namespace CriticalCss

/-- Tops, if they are measured at all, are numbers. -/
def Responder.MeasuresNumbers {σ τ ε : Type} (responder : Responder σ τ ε) : Prop :=
  ∀ clear element state measured, (responder.top clear element state).outcome = .ok measured →
    ∃ top, measured = .number top

/-- What a pass ensures where it cannot fail holds of its result wherever it does not fail. -/
theorem Pass.Ensures.of_run {σ τ ε α : Type} {condition : α → Prop} {pass : Pass ε α}
    (ensures : pass.Ensures condition) (ends : pass.EndsOnFault) {responder : Responder σ τ ε}
    (numbers : responder.MeasuresNumbers) {state : σ} {result : α}
    (succeeds : (pass.run responder state).outcome = .ok result) : condition result := by
  induction pass generalizing state with
  | done outcome =>
      cases outcome with
      | ok result =>
          cases succeeds
          exact ensures
      | error fault => cases succeeds
  | note event rest ih => exact ih ensures ends succeeds
  | query selector next ih =>
      obtain ⟨onward, failed⟩ := ends
      simp only [Pass.run, Activity.observe, Transcript.outcome_after] at succeeds
      cases reply : (responder.query selector state).outcome with
      | ok elements =>
          rw [reply] at succeeds
          exact ih _ (ensures.1 elements) (onward elements) succeeds
      | error fault =>
          rw [reply] at succeeds
          rcases failed fault with stops | ⟨⟨refused, rfl⟩, refusal⟩
          · rw [stops] at succeeds
            cases succeeds
          · exact ih _ (ensures.2 refused) refusal succeeds
  | top clear element next ih =>
      obtain ⟨onward, failed⟩ := ends
      simp only [Pass.run, Activity.observe, Transcript.outcome_after] at succeeds
      cases reply : (responder.top clear element state).outcome with
      | ok measured =>
          rw [reply] at succeeds
          obtain ⟨top, rfl⟩ := numbers clear element state measured reply
          exact ih _ (ensures top) (onward _) succeeds
      | error fault =>
          rw [reply, failed] at succeeds
          cases succeeds
  | position element next ih =>
      obtain ⟨onward, failed⟩ := ends
      simp only [Pass.run, Activity.observe, Transcript.outcome_after] at succeeds
      cases reply : (responder.position element state).outcome with
      | ok position =>
          rw [reply] at succeeds
          exact ih _ (ensures position) (onward position) succeeds
      | error fault =>
          rw [reply, failed] at succeeds
          cases succeeds

namespace Browser.Page

theorem exists_number_of_toReal {measured real : Value} (read : toReal measured = .ok real) :
    ∃ top, real = .number top := by
  simp only [toReal] at read
  split at read
  · split at read
    · cases read
      exact ⟨_, rfl⟩
    · cases read
  · split at read
    · cases read
      exact ⟨_, rfl⟩
    · cases read
  · cases read
  · cases read

theorem responder_measuresNumbers (content : Content) : (responder content).MeasuresNumbers := by
  intro clear element state measured top
  obtain ⟨_, -, top⟩ := Activity.ok_of_bind top
  obtain ⟨_, -, read⟩ := Activity.ok_of_bind top
  exact exists_number_of_toReal read

end Browser.Page

namespace Stylesheet

/-- A file that has been loaded holds accepted rules. -/
theorem accepted_of_load {files : FileTree} {path : String} {rules : Value}
    (loaded : load files path = .ok rules) : Accepted rules := by
  obtain ⟨text, -, loaded⟩ := exists_ok_of_bind loaded
  obtain ⟨stylesheet, decoded, parsed⟩ := exists_ok_of_bind loaded
  rw [decodeText] at decoded
  split at decoded
  next read =>
    cases decoded
    exact .stylesheet read parsed
  next => split at decoded <;> cases decoded

end Stylesheet

namespace Extraction

open Activity Browser Stylesheet

/-- A page that has been classified keeps what pruning leaves. -/
theorem remnants_of_classify {options : Options} {content : Content} {nodes kept : List Value}
    (wellFormed : ∀ node ∈ nodes, WellFormed node)
    (classified : (classify options content (.list nodes) []).outcome = .ok kept) :
    Remnants nodes kept := by
  rw [classify] at classified
  rw [ensuring_apply] at classified
  obtain ⟨_, -, classified⟩ := ok_of_bind classified
  obtain ⟨_, -, classified⟩ := ok_of_bind classified
  obtain ⟨pruned, prunes, ended⟩ := ok_of_bind classified
  have same : pruned = kept := Except.ok.inj ended
  subst same
  exact (Pass.prune_ensures wellFormed).of_run (Pass.prune_endsOnFault options _)
    (Page.responder_measuresNumbers content) prunes

variable {world : World} {url path : String} {settings : Settings} {state : State}
  {kept : List Value}

/-- An extraction keeps remnants of the rules that it is given. -/
theorem remnants_of_extract {nodes : List Value} (wellFormed : ∀ node ∈ nodes, WellFormed node)
    (extracted : (extract world url settings (.list nodes) state).outcome = .ok kept) :
    Remnants nodes kept := by
  cases checked : check url settings (.list nodes) with
  | error fault =>
      rw [extract_of_error checked] at extracted
      cases extracted
  | ok order =>
      rw [extract_of_ok checked] at extracted
      have course := carryOut_course world order state
      generalize carryOut world order state = ran at course extracted
      cases course with
      | unstarted | unopened => cases extracted
      | classified _ _ _ _ pass =>
          rw [← pass, (isChecked_of_check checked).rules] at extracted
          exact remnants_of_classify wellFormed extracted

/-- An extraction from a file keeps remnants of the rules in it. -/
theorem remnants_of_extractFile {files : FileTree}
    (extracted : (extractFile world files url path settings state).outcome = .ok kept) :
    ∃ nodes, Stylesheet.Accepted (.list nodes) ∧ Remnants nodes kept := by
  cases loaded : Stylesheet.load files path with
  | error fault =>
      rw [extractFile_of_error loaded] at extracted
      cases extracted
  | ok rules =>
      have accepted := Stylesheet.accepted_of_load loaded
      obtain ⟨nodes, rfl, wellFormed⟩ := accepted.wellFormed
      rw [extractFile_of_ok loaded, Transcript.outcome_after] at extracted
      exact ⟨nodes, accepted, remnants_of_extract wellFormed extracted⟩

/-- What is kept of the rules in a file is read back from its text. -/
theorem read_of_extractFile {files : FileTree} {text : String}
    (extracted : (extractFile world files url path settings state).outcome = .ok kept)
    (written : Stylesheet.toLine (.list kept) = .ok text) :
    Json.read text = .ok (.list kept) := by
  obtain ⟨nodes, accepted, remnants⟩ := remnants_of_extractFile extracted
  have unique : ∀ node ∈ nodes, node.HasUniqueKeys := by
    cases accepted.hasUniqueKeys with
    | list each => exact each
  have blank : (Json.Layout.mk false none).IsBlank := by rintro step ⟨⟩
  exact Stylesheet.read_of_toJson rfl blank (remnants.inherit .hasUniqueKeys unique) written

end Extraction

end CriticalCss
