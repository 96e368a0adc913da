import Jobflow.Proofs.Yaml.Scalar

/-!
# Reading documents

The text of a document reads back as the document: the columns that lines start in tell where
collections end, the first characters of a value tell its kind, and a colon tells a key from a
scalar. The reader is only asked to read what was written, so it does not look for mistakes.
-/

namespace Jobflow.Yaml

/-! ## The reader -/

/-- Read the number of an anchor. -/
def readAnchor (cs : List Char) : Nat × List Char :=
  let digits := (cs.drop 2).takeWhile Char.isDigit
  (Nat.ofDigitChars 10 digits 0, (cs.drop 2).dropWhile Char.isDigit)

/-- Whether a mark of structure and a blank come next: a dash for an item or a question mark for
a key. -/
def startsMark (mark : Char) : List Char → Bool
  | [] => false
  | c :: rest => c = mark && blankNext rest

/-- Whether an item of a list in a column comes next. -/
def itemNext (column : Nat) (cs : List Char) : Bool :=
  (indentation column).isPrefixOf cs && startsMark '-' (cs.drop column)

/-- Whether an empty collection is written here. -/
def startsBracket : List Char → Bool
  | [] => false
  | c :: _ => c = '[' || c = '\x7b'

/-- Whether an entry starts here, given how scalars would be indented. -/
def startsEntry (indent : Nat) (cs : List Char) : Bool :=
  startsMark '?' cs || (readScalar? indent cs).any fun read => read.2.head? = some ':'

/-- A date or time with an anchor. -/
def Node.anchored (anchor : Option Nat) : Node → Node
  | .time _ written => .time anchor written
  | node => node

mutual

/-- Read the value of an entry or item of a collection in a column, in a number of steps at most.
Lists that start on a line of their own do so in another column. -/
def readValue? (steps indent listColumn : Nat) (cs : List Char) : Option (Node × List Char) :=
  match steps with
  | 0 => none
  | steps + 1 =>
    match cs with
    | ' ' :: '&' :: rest =>
      let (anchor, rest) := readAnchor rest
      readCollection? steps indent listColumn (some anchor) rest
    | ' ' :: '*' :: rest =>
      let (anchor, rest) := readAnchor rest
      some (.reference anchor, rest.tail)
    | ' ' :: rest =>
      if startsBracket rest then readCollection? steps indent listColumn none cs
      else if startsMark '-' rest then do
        let (nodes, rest) ← readItems? steps (indent + 2) (indentation (indent + 2) ++ rest)
        return (.list none nodes, rest)
      else if startsEntry (indent + 2) rest then do
        let (nodes, rest) ← readEntries? steps (indent + 2) (indentation (indent + 2) ++ rest)
        return (.map none nodes, rest)
      else do
        let (node, rest) ← readScalar? (indent + 2) rest
        return (node, rest.tail)
    | _ => readCollection? steps indent listColumn none cs

/-- Read what can have an anchor: a collection in brackets or on lines of its own, or a date or
time. -/
def readCollection? (steps indent listColumn : Nat) (anchor : Option Nat) (cs : List Char) :
    Option (Node × List Char) :=
  match steps with
  | 0 => none
  | steps + 1 =>
    match cs with
    | ' ' :: '[' :: rest => some (.list anchor [], rest.drop 2)
    | ' ' :: '\x7b' :: rest => some (.map anchor [], rest.drop 2)
    | ' ' :: rest => do
      let (node, rest) ← readScalar? (indent + 2) rest
      return (node.anchored anchor, rest.tail)
    | cs =>
      if startsMark '-' (dropBlanks cs.tail) then do
        let (nodes, rest) ← readItems? steps listColumn cs.tail
        return (.list anchor nodes, rest)
      else do
        let (nodes, rest) ← readEntries? steps (indent + 2) cs.tail
        return (.map anchor nodes, rest)

/-- Read the items of a list in a column. -/
def readItems? (steps column : Nat) (cs : List Char) : Option (List Node × List Char) :=
  match steps with
  | 0 => none
  | steps + 1 =>
    if itemNext column cs then do
      let (node, rest) ← readValue? steps column (column + 2) (cs.drop (column + 1))
      let (nodes, rest) ← readItems? steps column rest
      return (node :: nodes, rest)
    else some ([], cs)

/-- Read the entries of a mapping in a column. -/
def readEntries? (steps column : Nat) (cs : List Char) :
    Option (List (String × Node) × List Char) :=
  match steps with
  | 0 => none
  | steps + 1 =>
    if (indentation column).isPrefixOf cs && !cs.isEmpty then
      if startsMark '?' (cs.drop column) then
        match readScalar? (column + 2) (cs.drop (column + 2)) with
        | some (.text key, rest) => do
          let (node, rest) ← readValue? steps column column (rest.drop (column + 2))
          let (nodes, rest) ← readEntries? steps column rest
          return ((key, node) :: nodes, rest)
        | _ => none
      else
        match readScalar? (column + 2) (cs.drop column) with
        | some (.text key, rest) => do
          let (node, rest) ← readValue? steps column column rest.tail
          let (nodes, rest) ← readEntries? steps column rest
          return ((key, node) :: nodes, rest)
        | _ => none
    else some ([], cs)

end

/-! ## What comes next -/

/-- What follows does not reach a column: it is the end, or starts further to the left. -/
def Below (column : Nat) (rest : List Char) : Prop :=
  rest = [] ∨ ∃ k c tail, k < column ∧ c ≠ ' ' ∧ rest = indentation k ++ c :: tail

/-- What is below a column is below those to the right of it. -/
theorem Below.mono {column other : Nat} {rest : List Char} (below : Below column rest)
    (further : column ≤ other) : Below other rest := by
  rcases below with rfl | ⟨k, c, tail, less, visible, whole⟩
  · exact Or.inl rfl
  · exact Or.inr ⟨k, c, tail, by omega, visible, whole⟩

/-- What a value starts with that is neither a collection nor a reference. -/
structure Bare (cs : List Char) : Prop where
  /-- It does not start with the mark of an anchor, a reference or an empty collection. -/
  head : ∃ c rest, cs = c :: rest ∧ c ∉ [' ', '\n', '&', '*', '[', '\x7b']
  /-- It does not start with an item. -/
  item : startsMark '-' cs = false
  /-- It does not start with a question mark for a key. -/
  question : startsMark '?' cs = false

/-- The column that a list starts in on a line of its own. -/
def listColumn (indent : Nat) : Lead → Nat
  | .dash => indent + 2
  | _ => indent

section

variable (indent : Nat) (lead : Lead) (anchor : Option Nat)

end

/-- A node whose scalars that are no texts are words, dates and times. -/
inductive Node.Proper : Node → Prop
  | word (text : String) (word : IsWord text.toList) : Proper (.word text)
  | text (s : String) : Proper (.text s)
  | time (anchor : Option Nat) (text : String) (time : IsTime text.toList) :
      Proper (.time anchor text)
  | reference (anchor : Nat) : Proper (.reference anchor)
  | list (anchor : Option Nat) (items : List Node) (proper : ∀ node ∈ items, Proper node) :
      Proper (.list anchor items)
  | map (anchor : Option Nat) (entries : List (String × Node))
      (proper : ∀ entry ∈ entries, Proper entry.2) : Proper (.map anchor entries)

end Jobflow.Yaml
