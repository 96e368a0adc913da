import Jobflow.OrderedMap
import Jobflow.Text.Hex
import Jobflow.Value

/-!
# JSON

Reading and writing JSON documents as values. Mappings keep the order of their members; of
members with one name the last value counts, at the place of the first. A number without
fraction and exponent is an integer of any size, any other a floating point number, for
which `NaN`, `Infinity` and `-Infinity` are read as well. Every list and mapping read gets
a label of its own, in the order of their opening brackets.
-/

namespace Jobflow.Json

open Number (Binary64)

/-- White space between the tokens of a document. -/
def isSpace (c : Char) : Bool := c = ' ' || c = '\t' || c = '\n' || c = '\r'

/-- Drop white space from the front. -/
def skip (cs : List Char) : List Char := cs.dropWhile isSpace

/-- Drop a fixed beginning, unless the text begins otherwise. -/
def expect (start cs : List Char) : Option (List Char) :=
  if start.isPrefixOf cs then some (cs.drop start.length) else none

/-- The character of a code point; a surrogate on its own stands for no character and is
read as the replacement character. -/
def charOf (n : Nat) : Char :=
  if 0xd800 ≤ n ∧ n ≤ 0xdfff then Char.ofNat 0xfffd else Char.ofNat n

/-- Read a four digit escape. -/
def readUnit? : List Char → Option (Nat × List Char)
  | a :: b :: c :: d :: rest => (Text.readHex? [a, b, c, d]).map fun n => (n, rest)
  | _ => none

/-- The character that a one letter escape stands for. -/
def escaped? (c : Char) : Option Char :=
  match c with
  | '"' => some '"'
  | '\\' => some '\\'
  | '/' => some '/'
  | 'b' => some '\x08'
  | 'f' => some '\x0c'
  | 'n' => some '\n'
  | 'r' => some '\r'
  | 't' => some '\t'
  | _ => none

/-- Read a code point escape after its mark: a high surrogate followed by the escape of a
low one is one code point. -/
def readCodePoint? (cs : List Char) : Option (Char × List Char) := do
  let (unit, rest) ← readUnit? cs
  match rest with
  | '\\' :: 'u' :: after =>
    match readUnit? after with
    | some (low, after) =>
      if 0xd800 ≤ unit ∧ unit ≤ 0xdbff ∧ 0xdc00 ≤ low ∧ low ≤ 0xdfff then
        return (Char.ofNat (0x10000 + (unit - 0xd800) * 0x400 + (low - 0xdc00)), after)
      else return (charOf unit, rest)
    | none => return (charOf unit, rest)
  | _ => return (charOf unit, rest)

/-- Read the characters of a text up to its closing quote, latest first. A step per
character of the document is enough. -/
def readText (steps : Nat) (read : List Char) (cs : List Char) :
    Option (List Char × List Char) :=
  match steps with
  | 0 => none
  | steps + 1 =>
    match cs with
    | [] => none
    | '"' :: rest => some (read.reverse, rest)
    | '\\' :: 'u' :: rest =>
      match readCodePoint? rest with
      | some (c, rest) => readText steps (c :: read) rest
      | none => none
    | '\\' :: mark :: rest =>
      match escaped? mark with
      | some c => readText steps (c :: read) rest
      | none => none
    | c :: rest => if c.toNat < 0x20 then none else readText steps (c :: read) rest

/-- The digits at the front, and what follows them. -/
def readDigits (cs : List Char) : List Char × List Char := cs.span Char.isDigit

/-- The number written by decimal digits. -/
def digitsToNat (digits : List Char) : Nat :=
  digits.foldl (fun n c => 10 * n + (c.toNat - 0x30)) 0

/-- Read a fraction: a point and at least one digit. -/
def readFraction (cs : List Char) : Option (List Char × List Char) :=
  match cs with
  | '.' :: rest =>
    let (digits, after) := readDigits rest
    if digits.isEmpty then none else some (digits, after)
  | _ => none

/-- Read an exponent: a mark, an optional sign and at least one digit. -/
def readExponent (cs : List Char) : Option (Int × List Char) :=
  match cs with
  | [] => none
  | mark :: rest =>
    if mark = 'e' ∨ mark = 'E' then
      let (negative, rest) :=
        match rest with
        | '-' :: rest => (true, rest)
        | '+' :: rest => (false, rest)
        | rest => (false, rest)
      let (digits, after) := readDigits rest
      if digits.isEmpty then none
      else
        let n : Int := digitsToNat digits
        some (if negative then -n else n, after)
    else none

/-- Read a number without its sign. -/
def readMagnitude (negative : Bool) (cs : List Char) : Option (Value × List Char) :=
  let (whole, rest) :=
    match cs with
    | '0' :: rest => (['0'], rest)
    | cs => readDigits cs
  if whole.isEmpty then none
  else
    let fraction := readFraction rest
    let rest := (fraction.map Prod.snd).getD rest
    let exponent := readExponent rest
    let rest := (exponent.map Prod.snd).getD rest
    match fraction, exponent with
    | none, none =>
      let n : Int := digitsToNat whole
      some (.int (if negative then -n else n), rest)
    | _, _ =>
      let places := (fraction.map Prod.fst).getD []
      let digits := digitsToNat (whole ++ places)
      let power := (exponent.map Prod.fst).getD 0 - (places.length : Int)
      some (.float (Binary64.ofDecimal negative digits power), rest)

/-- The words that stand for values. -/
def words : List (String × Value) :=
  [("null", .null), ("true", .bool true), ("false", .bool false),
    ("NaN", .float .nan), ("Infinity", .float (.infinite false)),
    ("-Infinity", .float (.infinite true))]

/-- Read a word. -/
def readWord (cs : List Char) : Option (Value × List Char) :=
  words.findSome? fun (word, value) => (expect word.toList cs).map fun rest => (value, rest)

mutual

/-- Read a value at the front of a document without leading white space. The next label
comes in and goes out. -/
def readValue (steps label : Nat) (cs : List Char) : Option (Value × Nat × List Char) :=
  match steps with
  | 0 => none
  | steps + 1 =>
    match cs with
    | '"' :: rest =>
      match readText (rest.length + 1) [] rest with
      | some (text, rest) => some (.text (String.ofList text), label, rest)
      | none => none
    | '[' :: rest =>
      match skip rest with
      | ']' :: rest => some (.list (some label) [], label + 1, rest)
      | rest =>
        match readItems steps [] (label + 1) rest with
        | some (items, next, rest) => some (.list (some label) items, next, rest)
        | none => none
    | '\x7b' :: rest =>
      match skip rest with
      | '\x7d' :: rest => some (.map (some label) [], label + 1, rest)
      | rest =>
        match readMembers steps .empty (label + 1) rest with
        | some (members, next, rest) => some (.map (some label) members.entries, next, rest)
        | none => none
    | cs =>
      match readWord cs with
      | some (value, rest) => some (value, label, rest)
      | none =>
        let number :=
          match cs with
          | '-' :: rest => readMagnitude true rest
          | cs => readMagnitude false cs
        number.map fun (value, rest) => (value, label, rest)

/-- Read the items of a list up to its closing bracket. -/
def readItems (steps : Nat) (read : List Value) (label : Nat) (cs : List Char) :
    Option (List Value × Nat × List Char) :=
  match steps with
  | 0 => none
  | steps + 1 =>
    match readValue steps label cs with
    | none => none
    | some (item, label, rest) =>
      match skip rest with
      | ',' :: rest => readItems steps (item :: read) label (skip rest)
      | ']' :: rest => some ((item :: read).reverse, label, rest)
      | _ => none

/-- Read the members of a mapping up to its closing bracket. -/
def readMembers (steps : Nat) (read : OrderedMap Value) (label : Nat) (cs : List Char) :
    Option (OrderedMap Value × Nat × List Char) :=
  match steps with
  | 0 => none
  | steps + 1 =>
    match cs with
    | '"' :: rest =>
      match readText (rest.length + 1) [] rest with
      | none => none
      | some (key, rest) =>
        match skip rest with
        | ':' :: rest =>
          match readValue steps label (skip rest) with
          | none => none
          | some (value, label, rest) =>
            let read := read.insert (String.ofList key) value
            match skip rest with
            | ',' :: rest => readMembers steps read label (skip rest)
            | '\x7d' :: rest => some (read, label, rest)
            | _ => none
        | _ => none
    | _ => none

end

/-- Read a document, which is one value between white space. -/
def read? (document : String) : Option Value :=
  let cs := document.toList
  match readValue (cs.length + 1) 0 (skip cs) with
  | some (value, _, rest) => if (skip rest).isEmpty then some value else none
  | none => none

/-- One character of a written text. Characters beyond ASCII are written by the code
points of their UTF-16 units. -/
def textChar (c : Char) : List Char :=
  if c = '"' then ['\\', '"']
  else if c = '\\' then ['\\', '\\']
  else if c = '\n' then ['\\', 'n']
  else if c = '\r' then ['\\', 'r']
  else if c = '\t' then ['\\', 't']
  else if c = '\x08' then ['\\', 'b']
  else if c = '\x0c' then ['\\', 'f']
  else if 0x20 ≤ c.toNat ∧ c.toNat < 0x7f then [c]
  else if c.toNat < 0x10000 then '\\' :: 'u' :: Text.hex 4 c.toNat
  else
    let offset := c.toNat - 0x10000
    '\\' :: 'u' :: Text.hex 4 (0xd800 + offset / 0x400) ++
      '\\' :: 'u' :: Text.hex 4 (0xdc00 + offset % 0x400)

/-- A text between quotes, in ASCII. -/
def quotedText (text : String) : String :=
  String.ofList ('"' :: text.toList.flatMap textChar ++ ['"'])

/-- Floating point numbers in documents. -/
def numberFormat : Binary64.TextFormat := ⟨17, -4, false, "Infinity", "NaN"⟩

mutual

/-- Write a value as a document: a blank follows each comma and colon, and nothing is
broken into lines. There are no dates, times and objects in such documents; they are written as
texts. -/
def write : Value → String
  | .null => "null"
  | .bool b => if b then "true" else "false"
  | .int n => toString n
  | .float x => x.text numberFormat
  | .text s => quotedText s
  | .time _ timestamp => quotedText timestamp.text
  | .list _ items | .tuple _ items => "[" ++ Text.join ", " (writeItems items) ++ "]"
  | .map _ entries => "\x7b" ++ Text.join ", " (writeMembers entries) ++ "\x7d"
  | .object _ quoted => quotedText quoted

/-- The documents of the items of a list or tuple. -/
def writeItems : List Value → List String
  | [] => []
  | item :: rest => write item :: writeItems rest

/-- The members of a mapping, each with its name. -/
def writeMembers : List (String × Value) → List String
  | [] => []
  | (key, value) :: rest => (quotedText key ++ ": " ++ write value) :: writeMembers rest

end

example : (read? "[1, \"a\\u00e9\"]").map write = some "[1, \"a\\u00e9\"]" := by
  decide +kernel

end Jobflow.Json
