import CriticalCss.CommandLine.Run
import CriticalCss.Proofs.CommandLine.Noise
import CriticalCss.Proofs.Extraction.Order

/-!
# What can end a run

Whatever goes wrong in a run of the command line, from the flags to the text of what is kept, the
fault is one that the program meets by itself, and every such fault has something to say.  The one
other thing that can end a run is an interruption, which shows in the call that opens the address.
-/

namespace CriticalCss

/-- Met by the program itself: neither an interruption or a cancellation from outside nor a fault that
is handed in. -/
def Fault.isOwn : Fault → Bool
  | .interrupted | .cancelled | .reported _ _ => false
  | _ => true

/-- The fault is met by the program itself. -/
abbrev Fault.IsOwn (fault : Fault) : Prop := fault.isOwn = true

theorem Fault.IsMishap.isOwn {fault : Fault} (mishap : fault.IsMishap) : fault.IsOwn := by
  cases fault with
  | interrupted | cancelled | reported => cases mishap
  | _ => rfl

/-! ## Every fault has something to say -/

theorem append_ne_left {first second : String} (some : first ≠ "") : first ++ second ≠ "" := by
  simp [some]

theorem append_ne_right {first second : String} (some : second ≠ "") : first ++ second ≠ "" := by
  simp [some]

/-- The faults that users are told of without their labels have a message. -/
theorem Fault.IsOwn.message_ne {fault : Fault} (own : fault.IsOwn)
    (unlabelled : fault.family = .input ∨ fault.family = .browser ∨ fault.family = .output) :
    fault.message ≠ "" := by
  cases fault with
  | missingUrl | installFailed => decide
  | invalidOptions | widthNotPositive | viewportNotPositive | malformedRules | malformedStylesheet
  | unreadableFile | fileNotJson | flagNotJson | flagOfWrongKind | settingNotWhole | launchFailed
  | navigationFailed | rulesNotIterable =>
      -- Some part of each text is the same for all faults of its kind.
      repeat first | decide | exact append_ne_right (by decide) | apply append_ne_left
  | unwritable reason =>
      cases reason with
      | indentTooLarge => decide
      | indentOutOfMemory => rcases unlabelled with other | other | other <;> cases other
      | _ => exact append_ne_left (by decide)
  | reported => cases own
  | badPattern source error =>
      obtain ⟨problem, position⟩ := error
      cases problem <;> rcases unlabelled with other | other | other <;> cases other
  | _ => rcases unlabelled with other | other | other <;> cases other

namespace Diagnostic

/-- A user is told something about every fault that the program meets by itself. -/
theorem detail_ne {fault : Fault} (own : fault.IsOwn) : (ofFault fault).detail ≠ "" := by
  simp only [ofFault]
  split
  next url reason resource =>
    have told := own.message_ne (.inr (.inl rfl))
    rw [ofNavigation]
    split
    · exact append_ne_right (by decide)
    · split
      · exact told
      · exact told
  next =>
    split
    next input => exact own.message_ne (.inl input)
    next browser => exact own.message_ne (.inr (.inl browser))
    next output => exact own.message_ne (.inr (.inr output))
    next label _ => exact append_ne_left (append_ne_right (by decide))

theorem shorten_ne {detail : String} (some : detail ≠ "") : shorten detail ≠ "" := by
  simp only [shorten]
  split
  · exact append_ne_right (by decide)
  · exact some

/-- What is shown about a fault that the program meets begins with the word for errors and goes on
with what happened. -/
theorem exists_text_eq {fault : Fault} (own : fault.IsOwn) :
    ∃ detail hint, detail ≠ "" ∧ (ofFault fault).text = "Error: " ++ detail ++ hint := by
  have told := shorten_ne (detail_ne own)
  rw [text, lines]
  cases (ofFault fault).kind.hint with
  | none => exact ⟨_, "", told, String.intercalate_singleton.trans (String.append_empty).symm⟩
  | some hint =>
      refine ⟨_, "\n" ++ ("Hint: " ++ hint), told, ?_⟩
      simp only [Option.toList_some, List.map_cons, List.map_nil, String.intercalate_cons_cons,
        String.intercalate_singleton, String.append_assoc]
      rfl

end Diagnostic

/-! ## Every fault is the program's own -/

theorem comparable_isOwn (relation : String) (value : Value) :
    FailsWith Fault.IsOwn (Options.comparable relation value) :=
  Options.comparable_failsWith rfl

theorem Options.build_isOwn (forceInclude height delay : Value) :
    FailsWith Fault.IsOwn (build forceInclude height delay) := by
  apply build_failsWith
  case entries => exact fun _ _ _ _ => entryOf_failsWith rfl rfl fun _ _ _ _ => rfl
  all_goals intros; rfl

namespace Extraction

theorem options_isOwn (settings : Settings) : FailsWith Fault.IsOwn settings.options := by
  rw [Settings.options]
  split
  · exact .ok _
  next built =>
    split
    · exact .error rfl
    · exact .error (Options.build_isOwn _ _ _ _ built)

theorem headerOf_isOwn (index : Nat) (pair : Value) :
    FailsWith Fault.IsOwn (headerOf index pair) := by
  rw [headerOf]
  split
  · exact .error rfl
  next key value _ =>
    split
    · exact .error rfl
    · exact .error rfl
    · exact .error rfl
    · exact .ok (key, value)
  · exact .error rfl

theorem headersFrom_isOwn (index : Nat) (pairs : List Value) :
    FailsWith Fault.IsOwn (headersFrom index pairs) := by
  induction pairs generalizing index with
  | nil => exact .ok []
  | cons pair rest ih =>
      apply (headerOf_isOwn index pair).bind
      intro header
      apply (ih (index + 1)).bind
      intro headers
      exact .ok (header :: headers)

theorem headers_isOwn (value : Value) : FailsWith Fault.IsOwn (headers value) := by
  rw [headers.eq_def]
  split
  · exact .ok _
  · split
    · exact .error rfl
    · apply (headersFrom_isOwn 0 _).bind
      intro _
      exact .ok _

theorem browser_isOwn (settings : Settings) : FailsWith Fault.IsOwn settings.browser := by
  apply (comparable_isOwn "<=" settings.width).bind
  intro width
  split
  · exact .error (Fault.fits_naming rfl rfl)
  · apply (headers_isOwn settings.extraHeaders).bind
    intro _
    exact .ok _

theorem check_isOwn (url : String) (settings : Settings) (rules : Value) :
    FailsWith Fault.IsOwn (check url settings rules) :=
  check_failsWith_parts rfl (options_isOwn settings) (fun _ _ _ => browser_isOwn settings)
    fun _ => rfl

end Extraction

namespace Stylesheet

theorem readText_isOwn (files : FileTree) (path : String) :
    FailsWith Fault.IsOwn (readText files path) := by
  rw [readText]
  split
  · exact .error rfl
  · simp only
    split
    · exact .error rfl
    · split
      · exact .error rfl
      · exact .ok _

theorem decodeText_isOwn (path text : String) : FailsWith Fault.IsOwn (decodeText path text) := by
  rw [decodeText]
  split
  · exact .ok _
  · split
    · exact .error rfl
    · exact .error rfl

theorem parse_isOwn (stylesheet : Value) : FailsWith Fault.IsOwn (parse stylesheet) := by
  rw [parse]
  split
  · exact .ok _
  · exact .error rfl

theorem load_isOwn (files : FileTree) (path : String) :
    FailsWith Fault.IsOwn (load files path) := by
  apply (readText_isOwn files path).bind
  intro text
  apply (decodeText_isOwn path text).bind
  intro stylesheet
  exact parse_isOwn stylesheet

theorem toJson_isOwn (room : Nat) (rules indent : Value) :
    FailsWith Fault.IsOwn (toJson room rules indent) := by
  rw [toJson]
  split
  · exact .error rfl
  · split
    · exact .ok _
    · exact .error rfl

end Stylesheet

namespace CommandLine

theorem jsonValue_isOwn (flag : Flag) (expected : Kind) (given : Value) :
    FailsWith Fault.IsOwn (jsonValue flag expected given) := by
  rw [jsonValue.eq_def]
  split
  · split
    · exact .ok _
    · split
      · exact .ok _
      · split
        · exact .ok _
        · exact .error rfl
      · exact .error rfl
      · exact .error rfl
  · exact .ok _

theorem wholeSetting_isOwn (environment : Environment) (name : String) (standard : Value) :
    FailsWith Fault.IsOwn (wholeSetting environment name standard) := by
  simp only [wholeSetting]
  split
  · exact .ok _
  · split
    · exact .ok _
    · exact .error rfl

theorem wholeOr_isOwn (given : Value) (environment : Environment) (name : String)
    (standard : Value) : FailsWith Fault.IsOwn (wholeOr given environment name standard) := by
  rw [wholeOr.eq_def]
  split
  · exact wholeSetting_isOwn environment name standard
  · exact .ok _

theorem checkViewport_isOwn (width height : Value) :
    FailsWith Fault.IsOwn (checkViewport width height) := by
  have own : (Fault.naming (.list [width, height]) (.viewportNotPositive width height)).IsOwn :=
    Fault.fits_naming rfl rfl
  apply (comparable_isOwn "<=" width).bind
  intro _
  split
  · exact .error own
  · apply (comparable_isOwn "<=" height).bind
    intro _
    split
    · exact .error own
    · exact .ok ()

theorem configuration_isOwn (arguments : Arguments) (environment : Environment) :
    FailsWith Fault.IsOwn (configuration arguments environment) := by
  apply (jsonValue_isOwn _ _ _).bind
  intro headers
  apply (jsonValue_isOwn _ _ _).bind
  intro forceInclude
  apply (wholeOr_isOwn _ _ _ _).bind
  intro width
  apply (wholeOr_isOwn _ _ _ _).bind
  intro height
  apply (checkViewport_isOwn _ _).bind
  intro _
  apply (Extraction.options_isOwn _).bind
  intro _
  exact .ok _

end CommandLine

/-! ## Interruptions -/

namespace Extraction

open Activity Browser

/-- The address has been called for, and this was interrupted. -/
def WasInterrupted (course : Visit) (steps : List Step) : Prop :=
  course.arrival = .interrupted ∧
    ∃ target waitUntil timeout, .called (.visit target waitUntil timeout) ∈ steps

section

variable {world : World} {state : State}

/-- An extraction that has been checked ends with an interruption exactly if its address was called
for and interrupted. -/
theorem Course.interrupted_iff {order : Order} {ran : Transcript State Step (List Value)}
    (course : Course world order state ran) (fails : world.content.FailsByCalls) :
    ran.outcome = .error .interrupted ↔ WasInterrupted world.course ran.steps := by
  cases course with
  | @unstarted session fault sessionIs failed =>
      subst sessionIs
      have mishap := start_failsWith order.settings world.machine state fault failed
      have unvisited := (start_ofSession order.settings world.machine state).1
      constructor
      · rintro ⟨⟩
        cases mishap
      · rintro ⟨-, _, _, _, visited⟩
        exact (unvisited _ visited).elim
  | @unopened session opening fault sessionIs started openingIs failed =>
      have isOpen : session.state.opened.has .page = true := by
        rw [← sessionIs] at started ⊢
        rw [opened_of_start started]
        rfl
      have opens := navigate_apply isOpen order.settings order.url world.course
      have allowed := navigate_failsWith order.settings order.url world.course session.state
      rw [openingIs] at opens allowed
      constructor
      · rintro ⟨⟩
        rcases allowed _ failed with mishap | ⟨-, arrival⟩
        · cases mishap
        · have visited : .called (.visit (Url.quote order.url) order.settings.waitUntil
              order.settings.timeout) ∈ opening.steps := by
            rw [opens]
            simp
          exact ⟨arrival, _, _, _, List.mem_append_right _ (List.mem_append_left _ visited)⟩
      · rintro ⟨arrival, -⟩
        rw [opens, arrival] at failed
        cases failed
        rfl
  | @classified session opening status pass sessionIs started openingIs arrives passIs =>
      have allowed := classify_failsWith fails order.options order.rules []
      rw [passIs] at allowed
      rw [← openingIs] at arrives
      obtain ⟨_, _, _, _, reached, arrived, -⟩ := navigate_isArrival arrives
      constructor
      · intro interrupted
        cases allowed _ interrupted
      · rintro ⟨arrival, -⟩
        rw [arrival] at arrived
        cases arrived

/-- What ends before any step is not interrupted. -/
theorem interrupted_iff_of_idle {α : Type} {fault : Fault} (own : fault.IsOwn) (course : Visit) :
    (.error fault : Except Fault α) = .error .interrupted ↔ WasInterrupted course [] := by
  constructor
  · rintro ⟨⟩
    cases own
  · rintro ⟨-, _, _, _, visited⟩
    cases visited

theorem extract_interrupted_iff (fails : world.content.FailsByCalls) (url : String)
    (settings : Settings) (rules : Value) :
    (extract world url settings rules state).outcome = .error .interrupted ↔
      WasInterrupted world.course (extract world url settings rules state).steps := by
  cases checked : check url settings rules with
  | ok order =>
      rw [extract_of_ok checked]
      exact (carryOut_course world order state).interrupted_iff fails
  | error fault =>
      rw [extract_of_error checked]
      exact interrupted_iff_of_idle (check_isOwn url settings rules fault checked) _

theorem extractFile_interrupted_iff (fails : world.content.FailsByCalls) (files : FileTree)
    (url path : String) (settings : Settings) :
    (extractFile world files url path settings state).outcome = .error .interrupted ↔
      WasInterrupted world.course (extractFile world files url path settings state).steps := by
  cases loaded : Stylesheet.load files path with
  | ok rules =>
      rw [extractFile_of_ok loaded, Transcript.outcome_after, Transcript.steps_after,
        extract_interrupted_iff fails]
      simp [WasInterrupted]
  | error fault =>
      rw [extractFile_of_error loaded]
      exact interrupted_iff_of_idle (Stylesheet.load_isOwn files path fault loaded) _

/-- An extraction from a file fails on its own, unless it is interrupted. -/
theorem extractFile_isOwn (fails : world.content.FailsByCalls) (files : FileTree)
    (url path : String) (settings : Settings) :
    (extractFile world files url path settings).FailsWith fun fault =>
      fault.IsOwn ∨ fault = .interrupted := by
  let allowed (fault : Fault) : Prop := fault.IsOwn ∨ fault = .interrupted
  have loads : CriticalCss.FailsWith allowed (Stylesheet.load files path) :=
    (Stylesheet.load_isOwn files path).mono fun _ => .inl
  have checks (rules : Value) : CriticalCss.FailsWith allowed (check url settings rules) :=
    (check_isOwn url settings rules).mono fun _ => .inl
  apply (FailsWith.ofOutcome loads).bind
  intro rules
  refine (FailsWith.take _).bind fun _ => ?_
  apply (FailsWith.ofOutcome (checks rules)).bind
  intro order
  refine (carryOut_failsWith fails order).mono ?_
  rintro fault (mishap | ⟨interrupted, -⟩)
  · exact .inl mishap.isOwn
  · exact .inr interrupted

end

end Extraction

end CriticalCss
