import Jobflow.Number.Shortest
import Jobflow.Text.Quoted
import Jobflow.Text.Cut
import Jobflow.Timestamp

/-!
# Dynamic values

Options, definitions and server answers hold values of any shape: nothing, truth values,
integers, floating point numbers, texts, dates and times, lists, tuples, mappings with text
keys, and objects of classes that documents have no form for. This module has their type, when
they count as empty, their text in messages, and which of them are equal or ordered.

A list, tuple, mapping, date or time may carry a label. Two occurrences with one label are one
object met twice, which documents write once and refer to afterwards; equal objects with
different labels, or without any, are written in full.
-/

namespace Jobflow

open Number (Binary64)

/-- A value of any shape. The entries of a mapping have distinct keys, in a fixed order. -/
inductive Value
  /-- No value. -/
  | null
  /-- A truth value. -/
  | bool (b : Bool)
  /-- An integer of any size. -/
  | int (n : Int)
  /-- A floating point number. -/
  | float (x : Binary64)
  /-- A text. -/
  | text (s : String)
  /-- A date or time. -/
  | time (label : Option Nat) (timestamp : Timestamp)
  /-- A list. -/
  | list (label : Option Nat) (items : List Value)
  /-- A tuple: a list that nothing changes, so that it can be a key. -/
  | tuple (label : Option Nat) (items : List Value)
  /-- A mapping from texts. -/
  | map (label : Option Nat) (entries : List (String × Value))
  /-- Any other object, which equals no other one: which one it is, and how it is quoted. -/
  | object (identity : Nat) (quoted : String)
deriving Inhabited, Repr

namespace Value

/-- A list met only once. -/
def ofList (items : List Value) : Value := list none items

/-- A mapping met only once. -/
def ofEntries (entries : List (String × Value)) : Value := map none entries

/-- A list of texts. -/
def ofTexts (texts : List String) : Value := ofList (texts.map text)

/-- A natural number. -/
def ofNat (n : Nat) : Value := int n

/-- A value, or nothing. -/
def ofOption : Option Value → Value
  | some value => value
  | none => null

/-- Whether a value counts as true: it is neither nothing, false, a zero nor empty. -/
def truthy : Value → Bool
  | null => false
  | bool b => b
  | int n => n != 0
  | float x => !x.isZero
  | text s => !s.isEmpty
  | time .. => true
  | list _ items => !items.isEmpty
  | tuple _ items => !items.isEmpty
  | map _ entries => !entries.isEmpty
  | object .. => true

/-- Whether a value is a mapping. -/
def isMap : Value → Bool
  | map .. => true
  | _ => false

/-- The text of a value, if it is one. -/
def text? : Value → Option String
  | text s => some s
  | _ => none

/-- The items of a list or tuple. -/
def sequence? : Value → Option (List Value)
  | list _ items => some items
  | tuple _ items => some items
  | _ => none

/-- The value of a key, if the value is a mapping with that key. -/
def field? (key : String) : Value → Option Value
  | map _ entries => entries.lookup key
  | _ => none

/-- The label of a value. The empty tuple is a single object wherever it occurs, and has none. -/
def label? : Value → Option Nat
  | time label _ => label
  | list label _ => label
  | tuple _ [] => none
  | tuple label _ => label
  | map label _ => label
  | _ => none

/-- A tuple by the texts of its items. A single item is followed by a comma. -/
def tupleText : List String → String
  | [item] => "(" ++ item ++ ",)"
  | items => "(" ++ Text.join ", " items ++ ")"

mutual

/-- The text of a value inside another one: texts are quoted. -/
def repr : Value → String
  | null => "None"
  | bool b => if b then "True" else "False"
  | int n => toString n
  | float x => x.repr
  | text s => Text.quote s
  | time _ timestamp => timestamp.repr
  | list _ items => "[" ++ Text.join ", " (reprItems items) ++ "]"
  | tuple _ items => tupleText (reprItems items)
  | map _ entries => "\x7b" ++ Text.join ", " (reprEntries entries) ++ "\x7d"
  | object _ quoted => quoted

/-- The texts of the items of a list or tuple. -/
def reprItems : List Value → List String
  | [] => []
  | item :: rest => repr item :: reprItems rest

/-- The texts of the entries of a mapping. -/
def reprEntries : List (String × Value) → List String
  | [] => []
  | (key, value) :: rest => (Text.quote key ++ ": " ++ repr value) :: reprEntries rest

end

/-- The text of a value on its own: texts stand for themselves. -/
def str : Value → String
  | text s => s
  | time _ timestamp => timestamp.text
  | other => repr other

/-- A value as a number, if it is one; truth values are zero and one. -/
inductive Numeric
  /-- An integer. -/
  | int (n : Int)
  /-- A floating point number. -/
  | float (x : Binary64)

/-- The number a value is, if any. -/
def numeric? : Value → Option Numeric
  | bool b => some (.int (if b then 1 else 0))
  | int n => some (.int n)
  | float x => some (.float x)
  | _ => none

/-- Whether two numbers are equal. -/
def Numeric.same : Numeric → Numeric → Bool
  | .int a, .int b => a == b
  | .float x, .float y => x.sameNumber y
  | .int a, .float x => x.isExactly a
  | .float x, .int a => x.isExactly a

/-- Whether one number is below another one. -/
def Numeric.below : Numeric → Numeric → Bool
  | .int a, .int b => a < b
  | .float x, .float y => x.below y
  | .int a, .float x => x.atLeast a && !x.isExactly a
  | .float x, .int a => !x.atLeast a && x.sameNumber x

mutual

/-- Whether two values are equal: numbers by value, whatever their kind, and mappings
whatever the order of their entries. -/
def same : Value → Value → Bool
  | null, null => true
  | text s, text t => s == t
  | time _ timestamp, time _ other => timestamp.same other
  | list _ items, list _ others => sameItems items others
  | tuple _ items, tuple _ others => sameItems items others
  | object identity _, object other _ => identity == other
  | map _ entries, map _ others => entries.length == others.length && sameEntries entries others
  | left, right =>
    match left.numeric?, right.numeric? with
    | some a, some b => a.same b
    | _, _ => false

/-- Whether two lists have equal items. -/
def sameItems : List Value → List Value → Bool
  | [], [] => true
  | item :: rest, other :: others => same item other && sameItems rest others
  | _, _ => false

/-- Whether every entry has an equal one among the others. -/
def sameEntries : List (String × Value) → List (String × Value) → Bool
  | [], _ => true
  | (key, value) :: rest, others =>
    (match others.lookup key with
      | some other => same value other
      | none => false) && sameEntries rest others

end

mutual

/-- Whether one value is below another one. Only numbers, texts, dates, times, lists and tuples
have an order, each among their own kind. -/
def below? : Value → Value → Option Bool
  | text s, text t => some (decide (s < t))
  | time _ timestamp, time _ other => timestamp.below? other
  | list _ items, list _ others => belowItems? items others
  | tuple _ items, tuple _ others => belowItems? items others
  | left, right =>
    match left.numeric?, right.numeric? with
    | some a, some b => some (a.below b)
    | _, _ => none

/-- The order of lists: by the first items that differ, a proper beginning first. -/
def belowItems? : List Value → List Value → Option Bool
  | _, [] => some false
  | [], _ :: _ => some true
  | item :: rest, other :: others =>
    if same item other then belowItems? rest others else below? item other

end

/-- Put a value in its place among sorted ones, after its equals. -/
def insertSorted? (value : Value) : List Value → Option (List Value)
  | [] => some [value]
  | other :: rest => do
    if ← below? value other then return value :: other :: rest
    else return other :: (← insertSorted? value rest)

/-- The values in increasing order, unless two of them have no order. -/
def sorted? (values : List Value) : Option (List Value) :=
  values.foldlM (fun sorted value => insertSorted? value sorted) []

mutual

/-- Whether a value can be a key of a look-up table: lists and mappings cannot, nor can tuples
that hold any. -/
def isKey : Value → Bool
  | list .. => false
  | tuple _ items => areKeys items
  | map .. => false
  | _ => true

/-- Whether all of some values can be keys. -/
def areKeys : List Value → Bool
  | [] => true
  | item :: rest => isKey item && areKeys rest

end

/-- The distinct values of a list, each at the place of its first occurrence. -/
def distinct (values : List Value) : List Value :=
  values.foldl (fun kept value => if kept.any (same value) then kept else kept ++ [value]) []

example : repr (ofEntries [("k", ofList [text "a", int 1, tuple none [null]])]) =
    "\x7b'k': ['a', 1, (None,)]\x7d" := by cbv

end Value

end Jobflow
