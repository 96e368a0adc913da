import Jobflow.Fault
import Jobflow.Text.Blank

/-!
# Lists of names

Names are given as one text with commas between them. Blanks around a name do not matter,
empty names are dropped, and the rest are sorted by code points without repetition.
-/

namespace Jobflow.Names

/-- Texts in increasing order of code points. -/
def sorted (names : List String) : List String :=
  names.mergeSort fun a b => !decide (b < a)

/-- The distinct names of a list, each at the place of its first occurrence. -/
def distinct (names : List String) : List String := names.eraseDups

/-- The names in a comma separated text, sorted and without repetition. -/
def split (text : String) : List String :=
  let parts := (Text.splitAll (· == ',') text.toList).map Text.trim
  sorted (distinct ((parts.filter fun part => !part.isEmpty).map String.ofList))

/-- The names in a value: a comma separated text, or any value that counts as empty. -/
def ofValue (value : Value) : Except Mishap (List String) :=
  match value with
  | .text text => .ok (split text)
  | other => if other.truthy then .error .missingOperation else .ok []

/-- Names without repetition, in the order in which they were added. -/
structure Distinct where
  /-- The names. -/
  toList : List String
  /-- No name occurs twice. -/
  nodup : toList.Nodup := by decide

instance : Coe Distinct (List String) := ⟨Distinct.toList⟩

/-- No names. -/
def Distinct.empty : Distinct := ⟨[], List.nodup_nil⟩

/-- Add a name at the end, unless it is there. -/
def Distinct.add (names : Distinct) (name : String) : Distinct :=
  if old : name ∈ names.toList then names
  else
    { toList := names.toList ++ [name]
      nodup := by
        rw [List.nodup_append]
        refine ⟨names.nodup, List.pairwise_singleton _ _, ?_⟩
        intro other there last here same
        rw [List.mem_singleton.mp here] at same
        exact old (same ▸ there) }

/-- Add the names that are not there yet, in order. -/
def Distinct.addAll (names : Distinct) (added : List String) : Distinct :=
  added.foldl Distinct.add names

end Jobflow.Names
