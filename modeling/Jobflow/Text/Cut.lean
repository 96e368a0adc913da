/-!
# Cutting and joining text

Searching a text for another one, cutting it at a character, and joining parts.
-/

namespace Jobflow.Text

/-- Whether `part` occurs in `cs` as a stretch of consecutive characters. -/
def occursIn (part : List Char) : List Char → Bool
  | [] => part.isEmpty
  | c :: rest => part.isPrefixOf (c :: rest) || occursIn part rest

/-- Whether a text holds another one. -/
def holds (text part : String) : Bool := occursIn part.toList text.toList

/-- The parts of a text between the occurrences of a character: one more than there are
occurrences. -/
def splitAll (at? : Char → Bool) : List Char → List (List Char)
  | [] => [[]]
  | c :: rest =>
    if at? c then [] :: splitAll at? rest
    else
      match splitAll at? rest with
      | [] => [[c]]
      | part :: parts => (c :: part) :: parts

/-- Cut a text at the first character satisfying a test, which is dropped. -/
def cutFirst? (at? : Char → Bool) : List Char → Option (List Char × List Char)
  | [] => none
  | c :: rest =>
    if at? c then some ([], rest)
    else (cutFirst? at? rest).map fun (before, after) => (c :: before, after)

/-- Cut a text at the last character satisfying a test, which is dropped. -/
def cutLast? (at? : Char → Bool) : List Char → Option (List Char × List Char)
  | [] => none
  | c :: rest =>
    match cutLast? at? rest with
    | some (before, after) => some (c :: before, after)
    | none => if at? c then some ([], rest) else none

/-- Texts in a row with a separator between neighbours. -/
def join (separator : String) (parts : List String) : String :=
  String.intercalate separator parts

/-- Drop every `/` from the front. -/
def dropSlashes (text : String) : String := String.ofList (text.toList.dropWhile (· == '/'))

/-- Whether a text starts with another one. -/
def startsWith (text start : String) : Bool := start.toList.isPrefixOf text.toList

/-- Whether a text ends with another one. -/
def endsWith (text ending : String) : Bool := ending.toList.isSuffixOf text.toList

example : splitAll (· == ',') "a,,b".toList = ["a".toList, [], "b".toList] := by decide

end Jobflow.Text
