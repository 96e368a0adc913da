import Jobflow.Fault
import Jobflow.Yaml.Scalar

/-!
# Block documents

A value as a YAML document in block style: one entry or item a line, two blanks more for
each level, in the order of the value. Empty collections are written in brackets. A list
that is the value of a mapping starts in the column of its key. A key that is empty, long
or broken into lines is written after a question mark, and its value after a colon on a
line of its own.

A date or time is written plain if it is read back as one, and otherwise in single quotes
after a tag. A collection, date or time met twice is written once, with an anchor, and
referred to afterwards. Anchors are numbered in the order of second meetings.

A tuple is written as a list. Other objects have no form, and values that are nested too deeply are
not written: such a value has no document.
-/

namespace Jobflow.Yaml

open Number (Binary64)

/-- What is written in a document. -/
inductive Node
  /-- A scalar that is no text, as it is written. -/
  | word (text : String)
  /-- A text. -/
  | text (s : String)
  /-- A date or time by its text, with its anchor if it is referred to. -/
  | time (anchor : Option Nat) (text : String)
  /-- A reference to what was written before. -/
  | reference (anchor : Nat)
  /-- A list, with its anchor if it is referred to. -/
  | list (anchor : Option Nat) (items : List Node)
  /-- A mapping, with its anchor if it is referred to. -/
  | map (anchor : Option Nat) (entries : List (String × Node))

/-! ## Anchors -/

/-- The labels met so far, and those of them met again, in order. -/
structure Meetings where
  /-- Labels met at least once. -/
  seen : List Nat := []
  /-- Labels met at least twice, in the order of their second meetings. -/
  repeated : List Nat := []

/-- Meet a label; the answer tells whether it is met for the first time. -/
def Meetings.meet (meetings : Meetings) : Option Nat → Meetings × Bool
  | none => (meetings, true)
  | some label =>
    if meetings.seen.contains label then
      if meetings.repeated.contains label then (meetings, false)
      else ({ meetings with repeated := meetings.repeated ++ [label] }, false)
    else ({ meetings with seen := label :: meetings.seen }, true)

mutual

/-- Meet all labels of a value, those inside a repeated collection only once. -/
def meetAll (meetings : Meetings) (value : Value) : Meetings :=
  match meetings.meet value.label?, value with
  | (meetings, true), .list _ items => meetItems meetings items
  | (meetings, true), .tuple _ items => meetItems meetings items
  | (meetings, true), .map _ entries => meetEntries meetings entries
  | (meetings, _), _ => meetings

/-- Meet the labels of the items of a list. -/
def meetItems (meetings : Meetings) : List Value → Meetings
  | [] => meetings
  | item :: rest => meetItems (meetAll meetings item) rest

/-- Meet the labels of the values of a mapping. -/
def meetEntries (meetings : Meetings) : List (String × Value) → Meetings
  | [] => meetings
  | (_, value) :: rest => meetEntries (meetAll meetings value) rest

end

/-- The number of the anchor of a label, if it is met again. -/
def anchorOf (repeated : List Nat) (label : Option Nat) : Option Nat :=
  label.bind fun label => (repeated.idxOf? label).map (· + 1)

/-- Floating point numbers in documents. -/
def numberFormat : Binary64.TextFormat := ⟨17, -4, true, ".inf", ".nan"⟩

/-- The anchors written once a value with an anchor is begun. -/
def begun (written : List Nat) (anchor : Option Nat) : List Nat := anchor.toList ++ written

/-- Whether a value with an anchor is written already. -/
def isWritten (written : List Nat) (anchor : Option Nat) : Bool := anchor.any written.contains

/-- The room inside a value, if there is room for it. -/
def inside : Nat → Except Mishap Nat
  | 0 => .error .endless
  | room + 1 => .ok room

mutual

/-- The node of a value, with the anchors written so far. The room is how deep values may be
nested. -/
def nodeOf (room : Nat) (repeated written : List Nat) (value : Value) :
    Except Mishap (Node × List Nat) := do
  let room ← inside room
  let anchor := anchorOf repeated value.label?
  if isWritten written anchor then return (.reference (anchor.getD 0), written)
  match value with
  | .null => return (.word "null", written)
  | .bool b => return (.word (if b then "true" else "false"), written)
  | .int n => return (.word (toString n), written)
  | .float x => return (.word (x.text numberFormat), written)
  | .text s => return (.text s, written)
  | .time _ timestamp => return (.time anchor timestamp.text, begun written anchor)
  | .list _ items =>
    let (nodes, written) ← nodesOf room repeated (begun written anchor) items
    return (.list anchor nodes, written)
  | .tuple _ items =>
    let (nodes, written) ← nodesOf room repeated (begun written anchor) items
    return (.list anchor nodes, written)
  | .map _ entries =>
    let (nodes, written) ← entryNodesOf room repeated (begun written anchor) entries
    return (.map anchor nodes, written)
  | .object .. => throw .unrepresentable

/-- The nodes of the items of a list. -/
def nodesOf (room : Nat) (repeated written : List Nat) :
    List Value → Except Mishap (List Node × List Nat)
  | [] => return ([], written)
  | item :: rest => do
    let (node, written) ← nodeOf room repeated written item
    let (nodes, written) ← nodesOf room repeated written rest
    return (node :: nodes, written)

/-- The nodes of the entries of a mapping. -/
def entryNodesOf (room : Nat) (repeated written : List Nat) :
    List (String × Value) → Except Mishap (List (String × Node) × List Nat)
  | [] => return ([], written)
  | (key, value) :: rest => do
    let (node, written) ← nodeOf room repeated written value
    let (nodes, written) ← entryNodesOf room repeated written rest
    return ((key, node) :: nodes, written)

end

/-- The document of a value, given how deep values may be nested. -/
def ofValue (room : Nat) (value : Value) : Except Mishap Node := do
  return (← nodeOf room (meetAll {} value).repeated [] value).1

/-! ## Layout -/

/-- Blanks up to a column. -/
def indentation (column : Nat) : List Char := List.replicate column ' '

/-- The name of an anchor: its number in three digits at least. -/
def anchorName (anchor : Nat) : List Char := 'i' :: 'd' :: Text.decimal 3 anchor

/-- The mark of what has an anchor, after a blank. -/
def anchorMark : Option Nat → List Char
  | none => []
  | some anchor => ' ' :: '&' :: anchorName anchor

/-- Whether a key is written on one line before its colon. -/
def isSimpleKey (key : List Char) : Bool :=
  !key.isEmpty && !key.any isBreak && key.length + 5 < 128

/-- What stands before the value of an entry or item. -/
inductive Lead
  /-- A simple key and a colon; the column is that of what follows. -/
  | key (column : Nat)
  /-- The colon of a key written after a question mark. -/
  | colon
  /-- The dash of an item. -/
  | dash

/-- Drop the indentation of the first line. -/
def sameLine (indent : Nat) (lines : List Char) : List Char := lines.drop indent

/-- The column of what follows a lead in its line. -/
def Lead.column (indent : Nat) : Lead → Nat
  | .key column => column
  | _ => indent + 2

/-- The tag of dates and times. -/
def timeTag : List Char := "!!timestamp ".toList

/-- Write the text of a date or time from a column on. -/
def timeScalar (place : Place) (column : Nat) (cs : List Char) : List Char :=
  if timestamps.accepts cs then plain place column false cs
  else timeTag ++ '\'' :: single place (column + timeTag.length + 1) none cs ++ ['\'']

mutual

/-- Write the value of an entry or item of a collection in a column, after its lead. A
collection without an anchor goes on in the same line after a dash or a lone colon, and
starts a new line otherwise. -/
def value (indent : Nat) (lead : Lead) : Node → List Char
  | .word text => ' ' :: text.toList ++ ['\n']
  | .text s => ' ' :: scalar ⟨indent + 2, true⟩ (lead.column indent) false s.toList ++ ['\n']
  | .time anchor text =>
    let mark := anchorMark anchor
    mark ++ ' ' :: timeScalar ⟨indent + 2, true⟩ (lead.column indent + mark.length) text.toList ++
      ['\n']
  | .reference anchor => ' ' :: '*' :: anchorName anchor ++ ['\n']
  | .list anchor [] => anchorMark anchor ++ [' ', '[', ']', '\n']
  | .map anchor [] => anchorMark anchor ++ [' ', '\x7b', '\x7d', '\n']
  | .list anchor (node :: nodes) =>
    match lead, anchor with
    | .key _, _ | .colon, some _ =>
      anchorMark anchor ++ '\n' :: items indent (node :: nodes)
    | .dash, some _ => anchorMark anchor ++ '\n' :: items (indent + 2) (node :: nodes)
    | _, none => ' ' :: sameLine (indent + 2) (items (indent + 2) (node :: nodes))
  | .map anchor (node :: nodes) =>
    match lead, anchor with
    | .key _, _ | _, some _ => anchorMark anchor ++ '\n' :: entries (indent + 2) (node :: nodes)
    | _, none => ' ' :: sameLine (indent + 2) (entries (indent + 2) (node :: nodes))

/-- Write the items of a list in a column. -/
def items (indent : Nat) : List Node → List Char
  | [] => []
  | node :: rest => indentation indent ++ '-' :: value indent .dash node ++ items indent rest

/-- Write the entries of a mapping in a column. -/
def entries (indent : Nat) : List (String × Node) → List Char
  | [] => []
  | (key, node) :: rest =>
    let cs := key.toList
    let entry :=
      if isSimpleKey cs then
        let written := scalar ⟨indent + 2, false⟩ indent true cs
        written ++ ':' :: value indent (.key (indent + written.length + 2)) node
      else
        '?' :: ' ' :: scalar ⟨indent + 2, true⟩ (indent + 2) false cs ++
          '\n' :: indentation indent ++ ':' :: value indent .colon node
    indentation indent ++ entry ++ entries indent rest

end

/-- The text of a document that is a single scalar: a mark ends the document after a plain one. -/
def loneScalar (plainly : Bool) (cs : List Char) : String :=
  String.ofList cs ++ if plainly then "\n...\n" else "\n"

/-- The text of a document. -/
def layout : Node → String
  | .map _ [] => "\x7b\x7d\n"
  | .map _ (node :: nodes) => String.ofList (entries 0 (node :: nodes))
  | .list _ (node :: nodes) => String.ofList (items 0 (node :: nodes))
  | .list _ [] => "[]\n"
  | .word text => loneScalar true text.toList
  | .text s => loneScalar (plainAllowed s.toList) (scalar ⟨2, true⟩ 0 false s.toList)
  | .time _ text =>
    loneScalar (timestamps.accepts text.toList) (timeScalar ⟨2, true⟩ 0 text.toList)
  | .reference _ => ""

/-- The text of the document of a value, given how deep values may be nested. -/
def render (room : Nat) (value : Value) : Except Mishap String := (ofValue room value).map layout

end Jobflow.Yaml
