import Jobflow.Text.Hex
import Jobflow.Yaml.Resolve

/-!
# Scalars

How a text is written as a scalar: plain if nothing in it would be read as something else,
otherwise between single quotes, where a quote is doubled and a line break stands for one
less, or else between double quotes with escapes. Lines longer than the line width are
folded at single blanks, in double quotes also after an escape, except inside simple keys.
-/

namespace Jobflow.Yaml

/-- The line width beyond which scalars are folded. -/
def lineWidth : Nat := 80

/-- Characters that break a line. -/
def isBreak (c : Char) : Bool :=
  c = '\n' || c.toNat == 0x85 || c.toNat == 0x2028 || c.toNat == 0x2029

/-- White space as far as the place of indicators goes. -/
def isSpace (c : Char) : Bool :=
  c.toNat == 0 || c = ' ' || c = '\t' || c = '\r' || isBreak c

/-- Whether a character is ASCII and visible, or a blank. -/
def isVisible (c : Char) : Bool := 0x20 ≤ c.toNat && c.toNat ≤ 0x7e

/-- Whether white space, or the end, comes next. -/
def spaceNext : List Char → Bool
  | [] => true
  | c :: _ => isSpace c

/-- Whether a text has a blank directly followed by a line break. -/
def blankThenBreak : List Char → Bool
  | c :: d :: rest => (c = ' ' && isBreak d) || blankThenBreak (d :: rest)
  | _ => false

/-- Whether a text has a line break directly followed by a blank. -/
def breakThenBlank : List Char → Bool
  | c :: d :: rest => (isBreak c && d = ' ') || breakThenBlank (d :: rest)
  | _ => false

/-- Whether a text can be written in double quotes only: it has characters that need an
escape, or a blank that folding would lose. -/
def isSpecial (cs : List Char) : Bool :=
  cs.any (fun c => c != '\n' && !isVisible c) || blankThenBreak cs

/-- Whether an indicator occurs after the first character: a colon before white space, or
a number sign after it. -/
def innerIndicator (previous : Char) : List Char → Bool
  | [] => false
  | c :: rest =>
    (c = ':' && spaceNext rest) || (c = '#' && isSpace previous) || innerIndicator c rest

/-- Whether a text has a part that would be read as structure. -/
def hasIndicator (cs : List Char) : Bool :=
  "---".toList.isPrefixOf cs || "...".toList.isPrefixOf cs ||
    match cs with
    | [] => false
    | c :: rest =>
      "#,[]\x7b\x7d&*!|>'\"%@`".toList.contains c ||
        ("?:-".toList.contains c && spaceNext rest) || innerIndicator c rest

/-- Whether a text starts or ends with a blank or line break. -/
def hasOuterSpace (cs : List Char) : Bool :=
  let outer (c : Option Char) := c.any fun c => c = ' ' || isBreak c
  outer cs.head? || outer cs.getLast?

/-- The ways to write a scalar. -/
inductive Style
  /-- As it is. -/
  | plain
  /-- Between single quotes. -/
  | single
  /-- Between double quotes, with escapes. -/
  | double
deriving DecidableEq, Repr

/-- Whether a text can be written plain. -/
def plainAllowed (cs : List Char) : Bool :=
  standsForText cs && !isSpecial cs && !cs.any isBreak && !hasIndicator cs && !hasOuterSpace cs

/-- Whether a text can be written between single quotes; a simple key keeps to one line. -/
def singleAllowed (simpleKey : Bool) (cs : List Char) : Bool :=
  !isSpecial cs && !breakThenBlank cs && !(simpleKey && cs.any isBreak)

/-- The first style, of plain, single and double quotes, that a text can be written in. -/
def style (simpleKey : Bool) (cs : List Char) : Style :=
  if plainAllowed cs then .plain else if singleAllowed simpleKey cs then .single else .double

/-- Where a scalar is written. -/
structure Place where
  /-- The column that its further lines start in. -/
  indent : Nat
  /-- Whether it may be folded. -/
  folds : Bool

/-- A new line, up to the indentation. -/
def Place.newLine (place : Place) : List Char := '\n' :: List.replicate place.indent ' '

/-- Whether a line that has reached a column is to be folded there. -/
def Place.folding (place : Place) (column : Nat) : Bool := place.folds && lineWidth < column

/-- Whether the next character is a blank. -/
def blankNext : List Char → Bool
  | c :: _ => c = ' '
  | [] => false

/-- Write a plain scalar from a column on. A blank beside another blank is not folded. -/
def plain (place : Place) (column : Nat) (afterBlank : Bool) : List Char → List Char
  | [] => []
  | c :: rest =>
    if c = ' ' && !afterBlank && !blankNext rest && place.folding column then
      place.newLine ++ plain place place.indent true rest
    else c :: plain place (column + 1) (c = ' ') rest

/-- Whether the next character is a line feed. -/
def feedNext : List Char → Bool
  | c :: _ => c = '\n'
  | [] => false

/-- Write the inside of single quotes from a column on, after a given character if there is
one. Blanks at the start and end are not folded; of a row of line feeds, the first is
written twice and the last is followed by the indentation. -/
def single (place : Place) (column : Nat) (previous : Option Char) : List Char → List Char
  | [] => []
  | c :: rest =>
    if c = '\n' then
      (if previous = some '\n' then ['\n'] else ['\n', '\n']) ++
        (if feedNext rest then [] else List.replicate place.indent ' ') ++
        single place place.indent (some c) rest
    else if c = ' ' && previous.any (· != ' ') && !blankNext rest && !rest.isEmpty &&
        place.folding column then
      place.newLine ++ single place place.indent (some c) rest
    else if c = '\'' then '\'' :: '\'' :: single place (column + 2) (some c) rest
    else c :: single place (column + 1) (some c) rest

/-- The escape of a character that has a short one. -/
def shortEscape? (c : Char) : Option Char :=
  if c = '"' then some '"'
  else if c = '\\' then some '\\'
  else
    [(0x00, '0'), (0x07, 'a'), (0x08, 'b'), (0x09, 't'), (0x0a, 'n'), (0x0b, 'v'), (0x0c, 'f'),
      (0x0d, 'r'), (0x1b, 'e'), (0x85, 'N'), (0xa0, '_'), (0x2028, 'L'), (0x2029, 'P')].lookup
      c.toNat

/-- Whether a character is escaped inside double quotes. -/
def needsEscape (c : Char) : Bool := c = '"' || c = '\\' || !isVisible c

/-- The escape of a character. -/
def escape (c : Char) : List Char :=
  match shortEscape? c with
  | some mark => ['\\', mark]
  | none =>
    let n := c.toNat
    if n ≤ 0xff then '\\' :: 'x' :: Text.hexUpper 2 n
    else if n ≤ 0xffff then '\\' :: 'u' :: Text.hexUpper 4 n
    else '\\' :: 'U' :: Text.hexUpper 8 n

/-- Write the inside of double quotes from a column on. A fold is marked by a backslash at
the end of its line, and by another one if the next line starts with a blank. It comes
before a blank, or next to an escape, but neither before the first nor after the last but
one of the characters. -/
def double (place : Place) (column : Nat) (first afterEscape : Bool) : List Char → List Char
  | [] => []
  | c :: rest =>
    let inner := !first && !rest.isEmpty
    if needsEscape c then
      let column := column + (escape c).length
      if inner && place.folding (column - 1) then
        let guard := if blankNext rest then ['\\'] else []
        escape c ++ '\\' :: place.newLine ++ guard ++
          double place (place.indent + guard.length) false true rest
      else escape c ++ double place column false true rest
    else if inner && (c = ' ' || afterEscape) && place.folding column then
      let guard := if c = ' ' then ['\\'] else []
      '\\' :: place.newLine ++ guard ++
        c :: double place (place.indent + guard.length + 1) false false rest
    else c :: double place (column + 1) false false rest

/-- Write a text as a scalar from a column on. -/
def scalar (place : Place) (column : Nat) (simpleKey : Bool) (cs : List Char) : List Char :=
  match style simpleKey cs with
  | .plain => plain place column false cs
  | .single => '\'' :: single place (column + 1) none cs ++ ['\'']
  | .double => '"' :: double place (column + 1) true false cs ++ ['"']

end Jobflow.Yaml
