import Jobflow.OrderedMap
import Jobflow.Text.Blank

/-!
# Properties files

The format of `.properties` files: a line holds a key and a value, separated by an equals
sign, a colon or white space. A line that ends in a backslash goes on in the next one,
whose leading white space does not count. Lines without content and lines that start with
`#` or `!` are skipped. In a key, a backslash in front of a separator makes it part of the
key. Of several values for one key the last counts, at the place of the first.
-/

namespace Jobflow.PropertiesFile

open Text (isBlank trim)

/-- Join continued lines: a backslash and the line feed after it go, together with the
white space that follows. -/
def joinContinued (cs : List Char) : List Char :=
  match cs with
  | [] => []
  | '\\' :: '\n' :: rest => joinContinued (rest.dropWhile isBlank)
  | c :: rest => c :: joinContinued rest
termination_by cs.length
decreasing_by
  · have := (List.dropWhile_sublist (l := rest) isBlank).length_le
    simp only [List.length_cons]
    omega
  · simp

/-- Whether a character separates keys from values on its own. -/
def isMark (c : Char) : Bool := c = '=' || c = ':'

/-- What follows a separator that starts at white space: the white space, with one mark and
more white space if a mark comes next. -/
def afterBlanks (cs : List Char) : List Char :=
  match cs.dropWhile isBlank with
  | [] => []
  | c :: rest => if isMark c then rest.dropWhile isBlank else c :: rest

/-- Cut a line at its first separator: a mark or white space with no backslash before it.
The flag tells whether a backslash comes right before. -/
def cutSeparator (escaped : Bool) : List Char → List Char × Option (List Char)
  | [] => ([], none)
  | c :: rest =>
    if !escaped && isMark c then ([], some (rest.dropWhile isBlank))
    else if !escaped && isBlank c then ([], some (afterBlanks (c :: rest)))
    else
      let (key, value) := cutSeparator (c = '\\') rest
      (c :: key, value)

/-- Drop the backslashes in front of separators. -/
def unescapeKey : List Char → List Char
  | [] => []
  | '\\' :: c :: rest =>
    if isMark c || isBlank c then c :: unescapeKey rest else '\\' :: unescapeKey (c :: rest)
  | c :: rest => c :: unescapeKey rest

/-- Whether a line has no entry: nothing, or a comment. -/
def isSkipped (line : List Char) : Bool :=
  match line.dropWhile isBlank with
  | [] => true
  | c :: _ => c = '#' || c = '!'

/-- The key and value of a line. -/
def entry (line : List Char) : String × String :=
  let (key, value) := cutSeparator false (trim line)
  (String.ofList (unescapeKey key), String.ofList (trim (value.getD [])))

/-- The entries of a file, in order. -/
def entries (contents : List Char) : List (String × String) :=
  ((Text.lines (joinContinued contents)).filter fun line => !isSkipped line).map entry

/-- The mapping written in files, given by their contents in increasing precedence. -/
def read (files : List (List Char)) : OrderedMap String :=
  OrderedMap.ofList (files.flatMap entries)

example : entry "a\\ b : c d ".toList = ("a b", "c d") := by decide +kernel

end Jobflow.PropertiesFile
