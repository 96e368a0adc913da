/-!
# Patterns of text

Regular patterns over characters, and whether a whole text matches one. A pattern is
matched by taking its derivative at each character, that is the pattern of what may
follow; the text matches if the last derivative takes the empty text.
-/

namespace Jobflow.Text

/-- A regular pattern. -/
inductive Pattern
  /-- Matched by no text. -/
  | nothing
  /-- Matched by the empty text. -/
  | blank
  /-- Matched by one character of a class. -/
  | one (accepts : Char → Bool)
  /-- Matched by a text of the first pattern followed by one of the second. -/
  | both (first second : Pattern)
  /-- Matched by the texts of either pattern. -/
  | either (first second : Pattern)
  /-- Matched by any number of texts of a pattern in a row. -/
  | many (pattern : Pattern)

namespace Pattern

/-- One given character. -/
def char (c : Char) : Pattern := one (· == c)

/-- One of some characters. -/
def oneOf (cs : String) : Pattern := one fun c => cs.toList.contains c

/-- A character between two others. -/
def range (low high : Char) : Pattern := one fun c => low.toNat ≤ c.toNat && c.toNat ≤ high.toNat

/-- One given text. -/
def word (text : String) : Pattern := text.toList.foldr (fun c rest => both (char c) rest) blank

/-- Patterns in a row. -/
def row (patterns : List Pattern) : Pattern := patterns.foldr both blank

/-- Any of some patterns. -/
def any (patterns : List Pattern) : Pattern := patterns.foldr either nothing

/-- A pattern or the empty text. -/
def optional (pattern : Pattern) : Pattern := either pattern blank

/-- One or more texts of a pattern in a row. -/
def some (pattern : Pattern) : Pattern := both pattern (many pattern)

/-- Whether the empty text matches. -/
def takesEmpty : Pattern → Bool
  | nothing => false
  | blank => true
  | one _ => false
  | both first second => first.takesEmpty && second.takesEmpty
  | either first second => first.takesEmpty || second.takesEmpty
  | many _ => true

/-- Two patterns in a row, simplified where one of them is trivial. -/
def join : Pattern → Pattern → Pattern
  | nothing, _ => nothing
  | blank, second => second
  | first, second => both first second

/-- Either of two patterns, simplified where one of them is trivial. -/
def choose : Pattern → Pattern → Pattern
  | nothing, second => second
  | first, nothing => first
  | first, second => either first second

/-- The pattern of what may follow a character. -/
def after (c : Char) : Pattern → Pattern
  | nothing => nothing
  | blank => nothing
  | one accepts => if accepts c then blank else nothing
  | both first second =>
    if first.takesEmpty then choose (join (after c first) second) (after c second)
    else join (after c first) second
  | either first second => choose (after c first) (after c second)
  | many pattern => join (after c pattern) (many pattern)

/-- Whether a whole text matches. -/
def accepts (pattern : Pattern) (cs : List Char) : Bool :=
  (cs.foldl (fun pattern c => after c pattern) pattern).takesEmpty

example : (row [optional (oneOf "+-"), some (range '0' '9')]).accepts "-12".toList = true := by
  decide

end Pattern

end Jobflow.Text
