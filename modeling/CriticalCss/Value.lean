import CriticalCss.ForceInclude
import CriticalCss.Number
import CriticalCss.Text.Quoted

/-!
# Values

The data that rule trees, options and settings are made of: what a JSON text can express, and a few
things that it cannot but that a caller may hand over all the same.  Objects keep their keys in order.
-/

namespace CriticalCss

/-- Things that a caller can put into a tree although no JSON text expresses them. -/
inductive Foreign where
  | emptySet
  | byteString
  | imaginaryUnit
  | bareObject
  deriving DecidableEq

/-- A value. -/
inductive Value where
  | null
  | number (number : Number)
  | text (text : String)
  | list (items : List Value)
  | object (fields : List (String × Value))
  | foreign (kind : Foreign)
  | entry (entry : ForceInclude)

/-- The keys and values of an object, in order. -/
abbrev Fields := List (String × Value)

/-- The kinds of values that messages tell apart. -/
inductive Kind where
  | null
  | truth
  | whole
  | real
  | text
  | list
  | object
  | foreign (kind : Foreign)
  | entry
  deriving DecidableEq

/-- The name of a kind in messages. -/
def Kind.name : Kind → String
  | null => "NoneType"
  | truth => "bool"
  | whole => "int"
  | real => "float"
  | text => "str"
  | list => "list"
  | object => "dict"
  | foreign .emptySet => "set"
  | foreign .byteString => "bytes"
  | foreign .imaginaryUnit => "complex"
  | foreign .bareObject => "object"
  | entry => "ForceIncludeEntry"

namespace Fields

/-- The value of a key. -/
def get? (fields : Fields) (key : String) : Option Value := fields.lookup key

/-- Sets the value of a key: in its place if the key is there, and at the end if it is not. -/
def put : Fields → String → Value → Fields
  | [], key, value => [(key, value)]
  | (name, held) :: rest, key, value =>
    if name = key then (name, value) :: rest else (name, held) :: put rest key value

/-- The object of a sequence of pairs; of a repeated key the last value counts, at the first
place. -/
def ofPairs (pairs : List (String × Value)) : Fields :=
  pairs.foldl (fun fields pair => put fields pair.1 pair.2) []

end Fields

namespace Value

/-- A whole number. -/
def ofInt (value : Int) : Value := number (.whole value)

/-- A truth value. -/
def ofBool (value : Bool) : Value := number (.truth value)

/-- The kind of a value. -/
def kind : Value → Kind
  | null => .null
  | number (.truth _) => .truth
  | number (.whole _) => .whole
  | number (.real _) => .real
  | text _ => .text
  | list _ => .list
  | object _ => .object
  | foreign kind => .foreign kind
  | entry _ => .entry

/-- The text of a value that is one. -/
def text? : Value → Option String
  | text held => some held
  | _ => none

/-- Whether a value is the given text. -/
def isText (value : Value) (wanted : String) : Bool :=
  match value with
  | text held => held == wanted
  | _ => false

/-- The elements that iterating over a value gives: the items of a list, the characters of a text,
the keys of an object. -/
def elements? : Value → Option (List Value)
  | list items => some items
  | text held => some (held.toList.map fun char => text char.toString)
  | object fields => some (fields.map fun field => text field.1)
  | foreign .emptySet => some []
  | foreign .byteString => some [ofInt 120]
  | _ => none

/-- Whether a value counts as true: zero and empty values do not. -/
def isTruthy : Value → Bool
  | null => false
  | number held => !held.same (.whole 0)
  | text held => !held.isEmpty
  | list items => !items.isEmpty
  | object fields => !fields.isEmpty
  | foreign .emptySet => false
  | foreign _ => true
  | entry _ => true

end Value

end CriticalCss
