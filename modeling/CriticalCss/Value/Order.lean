import CriticalCss.Value

/-!
# Order of values

Numbers are ordered among themselves, and so are texts and lists.  Values of different kinds are
not, and neither are objects; a list is ordered by the first pair of items that differ.
-/

namespace CriticalCss.Value

mutual

/-- Whether two values are equal. -/
def same : Value → Value → Bool
  | null, null => true
  | number left, number right => left.same right
  | text left, text right => left == right
  | list left, list right => sameItems left right
  | object left, object right => left.length == right.length && sameFields left right
  | foreign left, foreign right => left == right && left != .bareObject
  | entry left, entry right => left.isLiteral == right.isLiteral && left.value == right.value
  | _, _ => false

/-- Whether two lists have equal items. -/
def sameItems : List Value → List Value → Bool
  | [], [] => true
  | left :: lefts, right :: rights => left.same right && sameItems lefts rights
  | _, _ => false

/-- Whether every field has an equal one under the same key. -/
def sameFields : List (String × Value) → List (String × Value) → Bool
  | [], _ => true
  | (key, left) :: lefts, rights =>
    (match rights.lookup key with
      | some right => left.same right
      | none => false) && sameFields lefts rights

end

mutual

/-- Whether an item equals its copy.  Only a bare object differs from its copy. -/
def equalsCopy : Value → Bool
  | list items => itemsEqualCopies items
  | object fields => fieldsEqualCopies fields
  | foreign kind => kind != .bareObject
  | _ => true

/-- Whether all items equal their copies. -/
def itemsEqualCopies : List Value → Bool
  | [] => true
  | item :: rest => item.equalsCopy && itemsEqualCopies rest

/-- Whether all fields equal their copies. -/
def fieldsEqualCopies : List (String × Value) → Bool
  | [] => true
  | (_, value) :: rest => value.equalsCopy && fieldsEqualCopies rest

end

/-- Two kinds whose values have no order. -/
structure Unordered where
  left : Kind
  right : Kind
  deriving DecidableEq

mutual

/-- Whether a value is less than another. -/
def less : Value → Value → Except Unordered Bool
  | number left, number right => .ok (left.less right)
  | text left, text right => .ok (decide (left < right))
  | list left, list right => lessItems left right
  | foreign .emptySet, foreign .emptySet => .ok false
  | foreign .byteString, foreign .byteString => .ok false
  | left, right => .error ⟨left.kind, right.kind⟩

/-- Whether a list comes before another. -/
def lessItems : List Value → List Value → Except Unordered Bool
  | [], right => .ok !right.isEmpty
  | _ :: _, [] => .ok false
  | left :: lefts, right :: rights =>
    if left.same right then lessItems lefts rights else left.less right

end

end CriticalCss.Value
