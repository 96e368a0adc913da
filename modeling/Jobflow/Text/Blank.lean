/-!
# White space and line breaks

Two classes of characters that readers rely on: white space, which is trimmed from both
ends of names and values, and line breaks, which end a line. A carriage return directly
followed by a line feed is one break. Both classes go beyond ASCII.
-/

namespace Jobflow.Text

/-- White space: the ASCII blanks and separators, and the spaces of other scripts. -/
def isBlank (c : Char) : Bool :=
  let n := c.toNat
  (0x9 ≤ n && n ≤ 0xd) || (0x1c ≤ n && n ≤ 0x20) || n == 0x85 || n == 0xa0 || n == 0x1680 ||
    (0x2000 ≤ n && n ≤ 0x200a) || n == 0x2028 || n == 0x2029 || n == 0x202f || n == 0x205f ||
    n == 0x3000

/-- Characters that end a line. -/
def isLineBreak (c : Char) : Bool :=
  let n := c.toNat
  (0xa ≤ n && n ≤ 0xd) || (0x1c ≤ n && n ≤ 0x1e) || n == 0x85 || n == 0x2028 || n == 0x2029

/-- Drop white space from the front. -/
def trimLeft (cs : List Char) : List Char := cs.dropWhile isBlank

/-- Drop from the end the longest stretch whose characters all satisfy `p`. -/
def dropEndWhile (p : Char → Bool) : List Char → List Char
  | [] => []
  | c :: rest =>
    match dropEndWhile p rest with
    | [] => if p c then [] else [c]
    | kept => c :: kept

/-- Drop white space from the end. -/
def trimRight (cs : List Char) : List Char := dropEndWhile isBlank cs

/-- Drop white space from both ends. -/
def trim (cs : List Char) : List Char := trimRight (trimLeft cs)

/-- Put a character in front of the first line, which it starts if there is none. -/
def consLine (c : Char) : List (List Char) → List (List Char)
  | [] => [[c]]
  | line :: rest => (c :: line) :: rest

/-- The lines of a text without their breaks. A final break starts no further line, so the
empty text has none. -/
def lines : List Char → List (List Char)
  | [] => []
  | '\r' :: '\n' :: rest => [] :: lines rest
  | c :: rest => if isLineBreak c then [] :: lines rest else consLine c (lines rest)

/-- A carriage return, alone or before a line feed, read as a line feed. -/
def unifyBreaks : List Char → List Char
  | [] => []
  | '\r' :: '\n' :: rest => '\n' :: unifyBreaks rest
  | c :: rest => (if c = '\r' then '\n' else c) :: unifyBreaks rest

example : lines "a\r\nb\n".toList = ["a".toList, "b".toList] := by decide

end Jobflow.Text
