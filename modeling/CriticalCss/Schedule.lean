import CriticalCss.Document.Snapshot
import CriticalCss.Pruning
import CriticalCss.Time

/-!
# Scheduled passes

A pass is scheduled to begin once the page has had time to settle, and its result is delivered
through a promise that can be cancelled.  The page, and the list of rules until the pass begins, may
change meanwhile.  Looking up a selector may take time; the answer is what the page holds at the end
of that time.
-/

namespace CriticalCss

/-- What a look-up does when it is cancelled: it gives way, it fails, or it goes on as if its time
were over. -/
inductive OnCancel where
  | giveWay
  | fail
  | goOn
  deriving DecidableEq

/-- What has become of the promised result. -/
inductive Promise where
  | pending
  | done (rules : List Value)
  | failed (fault : Fault)
  | cancelled

namespace Promise

/-- Whether the result is still to come. -/
def isPending : Promise → Bool
  | pending => true
  | _ => false

/-- Whether the promise was cancelled. -/
def isCancelled : Promise → Bool
  | cancelled => true
  | _ => false

/-- A promise on which an outcome has been delivered. -/
def ofOutcome : Except Fault (List Value) → Promise
  | .ok rules => done rules
  | .error fault => failed fault

/-- Delivers an outcome.  A promise that has been settled or cancelled before refuses it. -/
def deliver (promise : Promise) (outcome : Except Fault (List Value)) : Option Promise :=
  match promise with
  | pending => some (ofOutcome outcome)
  | _ => none

/-- Cancels the promise if the result is still to come, and says whether it was. -/
def cancel (promise : Promise) : Bool × Promise :=
  match promise with
  | pending => (true, cancelled)
  | promise => (false, promise)

/-- The name of a state of the promise. -/
def stateName : Promise → String
  | pending => "pending"
  | done _ => "done"
  | failed _ => "failed"
  | cancelled => "cancelled"

/-- What awaiting the promise gives, once it is settled. -/
def outcome? : Promise → Option (Except Fault (List Value))
  | pending => none
  | done rules => some (.ok rules)
  | failed fault => some (.error fault)
  | cancelled => some (.error .cancelled)

end Promise

/-- Where the pass in the background stands. -/
inductive Progression where
  /-- It begins at a time, or waits for ever. -/
  | settling (due? : Option Instant)
  /-- It awaits the answer to a look-up. -/
  | asking (selector : String) (due : Instant)
      (next : Except Fault (List Located) → Pass Located (List Value))
  /-- It has ended. -/
  | ended

/-- Whether the pass has ended. -/
def Progression.isEnded : Progression → Bool
  | ended => true
  | _ => false

/-- Where a pass stands at first.  A delay that has no number of seconds cannot be waited for and
ends the pass before it begins; the promise then stays pending. -/
def Progression.ofDelay (delay : Number) : Progression :=
  if delay.hasSeconds then .settling delay.span? else .ended

/-- A scheduled pass, the page, and all that has happened so far, last thing first. -/
structure Schedule where
  options : Options
  rules : Value
  page : Snapshot
  lookupTime : Instant
  onCancel : OnCancel
  now : Instant
  progression : Progression
  promise : Promise
  /-- Whether the promise has refused an outcome of the pass. -/
  refused : Bool
  history : List (PassStep Located)

/-- What a stretch of a running pass leads to: a wait for an answer or the end, and what happened,
last thing first. -/
structure Stretch where
  now : Instant
  progression : Progression
  outcome? : Option (Except Fault (List Value))
  history : List (PassStep Located)

namespace Schedule

/-- The event that ends a pass: only a pass that succeeds reports it. -/
def closing : Except Fault (List Value) → List (PassStep Located)
  | .ok _ => [.reported .passDone]
  | .error _ => []

/-- Whether a time comes no later than a limit, if there is one. -/
def isDue (time : Instant) : Option Instant → Bool
  | none => true
  | some limit => decide (time ≤ limit)

/-- Carries out a pass from a time up to a limit, on a page that does not change meanwhile. -/
def proceed (page : Snapshot) (lookupTime : Instant) (limit : Option Instant) :
    Pass Located (List Value) → Instant → List (PassStep Located) → Stretch
  | .done outcome, now, history => ⟨now, .ended, some outcome, closing outcome ++ history⟩
  | .note event rest, now, history =>
    proceed page lookupTime limit rest now (.reported event :: history)
  | .query selector next, now, history =>
    if isDue (now + lookupTime) limit then
      proceed page lookupTime limit (next (page.query selector)) (now + lookupTime)
        (.queried selector :: history)
    else ⟨now, .asking selector (now + lookupTime) next, none, .queried selector :: history⟩
  | .top clear element next, now, history =>
    proceed page lookupTime limit (next element.box.top) now (.measured clear element :: history)
  | .position element next, now, history =>
    proceed page lookupTime limit (next element.box.position) now (.positioned element :: history)

/-- Ends the pass with an outcome, which is delivered only if the promise still waits for one. -/
def conclude (schedule : Schedule) (outcome : Except Fault (List Value)) : Schedule :=
  if schedule.promise.isPending then
    match schedule.promise.deliver outcome with
    | some promise => { schedule with promise := promise }
    | none => { schedule with refused := true }
  else schedule

/-- Moves a schedule to where a stretch of the pass leads. -/
def move (schedule : Schedule) (stretch : Stretch) : Schedule :=
  { schedule with
    now := stretch.now
    progression := stretch.progression
    history := stretch.history }

/-- Puts a stretch of the pass into effect. -/
def apply (schedule : Schedule) (stretch : Stretch) : Schedule :=
  match stretch.outcome? with
  | some outcome => (schedule.move stretch).conclude outcome
  | none => schedule.move stretch

/-- Schedules a pass at time zero. -/
def start (options : Options) (rules : Value) (page : Snapshot) (lookupTime : Instant)
    (onCancel : OnCancel) : Schedule where
  options := options
  rules := rules
  page := page
  lookupTime := lookupTime
  onCancel := onCancel
  now := 0
  progression := .ofDelay options.settleDelay
  promise := .pending
  refused := false
  history := [.reported (.waiting options.settleDelay)]

/-- Lets the pass go on up to a limit, without moving the clock beyond what it does. -/
def work (schedule : Schedule) (limit : Option Instant) : Schedule :=
  match schedule.progression with
  | .ended | .settling none => schedule
  | .settling (some time) =>
    if isDue time limit then
      schedule.apply <| proceed schedule.page schedule.lookupTime limit
        (Pass.prune schedule.options schedule.rules) time
        (.reported .passStarted :: schedule.history)
    else schedule
  | .asking selector time next =>
    if isDue time limit then
      schedule.apply <| proceed schedule.page schedule.lookupTime limit
        (next (schedule.page.query selector)) time schedule.history
    else schedule

/-- Lets time go by up to a moment. -/
def advance (schedule : Schedule) (time : Instant) : Schedule :=
  { schedule.work (some time) with now := time }

/-- Lets time go by until the promise is settled; what is settled already takes no time. -/
def await (schedule : Schedule) : Schedule :=
  if schedule.promise.isPending then schedule.work none else schedule

/-- Cancels the pass.  One that is settling ends; a look-up reacts in its own way. -/
def cancelPass (schedule : Schedule) : Schedule :=
  match schedule.progression, schedule.onCancel with
  | .asking selector _ next, .goOn =>
    schedule.apply <| proceed schedule.page schedule.lookupTime (some schedule.now)
      (next (schedule.page.query selector)) schedule.now schedule.history
  | .asking _ _ next, .fail =>
    schedule.apply <| proceed schedule.page schedule.lookupTime (some schedule.now)
      (next (.error (.documentCall "cancelled query"))) schedule.now schedule.history
  | _, _ => { schedule with progression := .ended }

/-- What follows once the promise is no longer pending: a cancelled promise cancels the pass, unless
that has ended. -/
def followUp (schedule : Schedule) : Schedule :=
  if schedule.promise.isCancelled && !schedule.progression.isEnded then schedule.cancelPass
  else schedule

/-- Cancels the promise with all that follows, and says whether it was pending. -/
def cancel (schedule : Schedule) : Bool × Schedule :=
  match schedule.promise.cancel with
  | (true, promise) => (true, { schedule with promise := promise }.followUp)
  | (false, _) => (false, schedule)

/-- Something that happens to a scheduled pass from outside. -/
inductive Action where
  | insert (selector : String) (boxes : List Box)
  | remove (selector : String)
  | addRule (rule : Value)
  | cancel
  | look

/-- A list of rules with one more at its end. -/
def withRule (rules rule : Value) : Value :=
  match rules with
  | .list nodes => .list (nodes ++ [rule])
  | rules => rules

/-- Carries out an action. -/
def act (schedule : Schedule) : Action → Schedule
  | .insert selector boxes => { schedule with page := schedule.page.insert selector boxes }
  | .remove selector => { schedule with page := schedule.page.remove selector }
  | .addRule rule => { schedule with rules := withRule schedule.rules rule }
  | .cancel => schedule.cancel.2
  | .look => schedule

/-- Lets time go by up to a moment and then carries out an action. -/
def actAt (schedule : Schedule) (time : Instant) (action : Action) : Schedule :=
  (schedule.advance time).act action

end Schedule

end CriticalCss
