import CriticalCss.Browser.Page
import CriticalCss.Browser.Session
import CriticalCss.Extraction.Settings
import CriticalCss.Pruning
import CriticalCss.Stylesheet.File
import CriticalCss.Time

/-!
# Extracting critical rules

An extraction checks what it is given, opens the address in a browser, lets the page settle, and
prunes the rules to what its first screen needs.  Whatever happens, the browser is closed in the end.
-/

namespace CriticalCss.Extraction

open Browser (Content Deed Machine Step Visit)

/-- What an extraction finds outside: the machine, the course of opening the address, and the page
behind it. -/
structure World where
  machine : Machine
  course : Visit
  content : Content

/-- Waits for some milliseconds.  A number that is no number of seconds cannot be waited for. -/
def wait {σ : Type} (delay : Number) : Activity σ Step Unit :=
  if delay.hasSeconds then Activity.take (.waited delay) else Activity.fail .unending

/-- Prunes rules on an opened page, once it has settled; no handle stays alive. -/
def classify (options : Options) (content : Content) (rules : Value) :
    Browser.Page.Deed (List Value) :=
  Activity.ensuring
    (do
      Browser.report (.waiting options.settleDelay)
      wait options.settleDelay
      Browser.report .passStarted
      let kept ← (Pass.prune options rules).run (Browser.Page.responder content)
      Browser.report .passDone
      return kept)
    Browser.Page.releaseAll

/-- What an extraction works with, once everything has been checked. -/
structure Order where
  url : String
  options : Options
  settings : Browser.Settings
  rules : Value

/-- Checks what is given for an extraction: the address, the options, the width and the rules, in
this order. -/
def check (url : String) (settings : Settings) (rules : Value) : Except Fault Order :=
  if url.isEmpty then .error .missingUrl
  else do
    let options ← settings.options
    let browser ← settings.browser
    Stylesheet.validateRules rules
    return ⟨url, options, browser, rules⟩

/-- Carries out an extraction that has been checked. -/
def carryOut (world : World) (order : Order) : Deed (List Value) := do
  let kept ← Browser.inSession order.settings world.machine do
    let _ ← Browser.navigate order.settings order.url world.course
    Browser.requirePage
    Activity.within [] (classify order.options world.content order.rules)
  Browser.report <|
    if kept.isEmpty then .nothingCritical order.url else .extracted kept.length order.url
  return kept

/-- The rules that the first screen of an address needs. -/
def extract (world : World) (url : String) (settings : Settings) (rules : Value) :
    Deed (List Value) := do
  let order ← Activity.ofOutcome (check url settings rules)
  carryOut world order

/-- The number of rules in a list. -/
def ruleCount (rules : Value) : Nat := (rules.elements?.getD []).length

/-- The rules of a stylesheet file that the first screen of an address needs. -/
def extractFile (world : World) (files : FileTree) (url path : String) (settings : Settings) :
    Deed (List Value) := do
  let rules ← Activity.ofOutcome (Stylesheet.load files path)
  Browser.report (.rulesLoaded (ruleCount rules) path)
  extract world url settings rules

end CriticalCss.Extraction
