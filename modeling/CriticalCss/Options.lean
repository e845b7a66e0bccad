import CriticalCss.Fault

/-!
# Options of a classification

The selectors that are always kept, the height of the first screen, and how long the page is left to
settle.  Options can only be made by `Options.build`, so whoever has some may rely on what was
checked.
-/

namespace CriticalCss

/-- The options of a classification. -/
structure Options where
  forceInclude : List ForceInclude
  viewportHeight : Number
  settleDelay : Number
  /-- The universal selector is always kept. -/
  has_universal : forceInclude.any ForceInclude.isUniversal = true
  /-- The first screen is not empty. -/
  height_positive : viewportHeight.atMost (.whole 0) = false
  /-- Time does not run backward. -/
  delay_nonnegative : settleDelay.less (.whole 0) = false

namespace Options

/-- The entry that an item of a list of entries stands for: a text is a selector, an object holds
a selector, or a pattern if its type says so. -/
def entryOf (item : Value) : Except Fault ForceInclude :=
  match item with
  | .entry entry => .ok entry
  | .text selector => .ok (.literal selector)
  | .object fields =>
    match (Fields.get? fields "value").bind Value.text? with
    | none => .error (.naming item (.badEntry item))
    | some value =>
      if (Fields.get? fields "type").any (·.isText "RegExp") then
        match ForceInclude.ofPattern value with
        | .ok entry => .ok entry
        | .error error => .error (.badPattern value error)
      else .ok (.literal value)
  | item => .error (.naming item (.badEntry item))

/-- The entries of a list, read from left to right. -/
def entriesOf (forceInclude : Value) : Except Fault (List ForceInclude) :=
  match forceInclude.elements? with
  | none => .error (.notIterable forceInclude.kind)
  | some items => items.mapM entryOf

/-- The entries, with the universal selector in front if it is not among them. -/
def withUniversal (entries : List ForceInclude) : List ForceInclude :=
  if entries.any ForceInclude.isUniversal then entries else .universal :: entries

theorem any_isUniversal_withUniversal (entries : List ForceInclude) :
    (withUniversal entries).any ForceInclude.isUniversal = true := by
  unfold withUniversal
  split
  · assumption
  · simp [ForceInclude.universal, ForceInclude.isUniversal]

/-- A value that is compared with a number has to be one. -/
def comparable (relation : String) (value : Value) : Except Fault Number :=
  match value with
  | .number number => .ok number
  | value => .error (.unordered relation value.kind .whole)

/-- Makes options from entries, a height and a delay, checked in this order. -/
def build (forceInclude viewportHeight settleDelay : Value) : Except Fault Options := do
  let entries ← entriesOf forceInclude
  let height ← comparable "<=" viewportHeight
  if positive : height.atMost (.whole 0) = false then
    let delay ← comparable "<" settleDelay
    if nonnegative : delay.less (.whole 0) = false then
      return ⟨withUniversal entries, height, delay, any_isUniversal_withUniversal entries, positive,
        nonnegative⟩
    else throw (.naming settleDelay (.delayNegative delay))
  else throw (.naming viewportHeight (.heightNotPositive height))

/-- The height of the first screen unless another one is given. -/
def standardHeight : Value := .ofInt 900

/-- The delay unless another one is given. -/
def standardDelay : Value := .ofInt 100

/-- Makes options from settings by name. -/
def ofFields (fields : Fields) : Except Fault Options :=
  let known := ["force_include", "viewport_height", "settle_delay_ms"]
  match fields.find? fun field => !known.contains field.1 with
  | some (keyword, _) => .error (.unknownKeyword .options keyword)
  | none =>
    build ((fields.get? "force_include").getD (.list []))
      ((fields.get? "viewport_height").getD standardHeight)
      ((fields.get? "settle_delay_ms").getD standardDelay)

/-- Whether a selector is always kept. -/
def keeps (options : Options) (selector : String) : Bool :=
  options.forceInclude.any (·.covers selector)

/-- Whether a value is a selector that is always kept.  What is no text is never equal to a selector,
and a pattern refuses to look at it. -/
def isForceIncluded (options : Options) (selector : Value) : Except Fault Bool :=
  match selector with
  | .text selector => .ok (options.keeps selector)
  | selector =>
    if options.forceInclude.all ForceInclude.isLiteral then .ok false
    else .error (.notSearchable selector.kind)

end Options

end CriticalCss
