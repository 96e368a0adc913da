/-!
# Conditions

The condition of a node is one of a few words on the outcome of the nodes it depends on,
or an expression, which may refer to a parameter of such a node by `${node:parameter}`.
References are found from left to right and do not overlap; the node is a text without
`:` and `}`, not empty, and the parameter a text without `}`.
-/

namespace Jobflow.Flow.Condition

/-- The words on the outcome of the nodes that a node depends on. -/
def outcomes : List String :=
  ["all_success", "all_failed", "all_done", "one_success", "one_failed"]

/-- Whether a character ends the node of a reference. -/
def endsNode (c : Char) : Bool := c == ':' || c == '\x7d'

/-- Read a reference after its opening: the node, and what follows the closing brace. -/
def readReference? (cs : List Char) : Option (List Char × List Char) :=
  let node := cs.takeWhile fun c => !endsNode c
  match cs.drop node.length with
  | ':' :: rest =>
    match rest.dropWhile (· != '\x7d') with
    | _ :: after => if node.isEmpty then none else some (node, after)
    | [] => none
  | _ => none

/-- What follows a reference is shorter than the text after its opening. -/
theorem readReference?_shorter (cs node after : List Char)
    (found : readReference? cs = some (node, after)) : after.length < cs.length := by
  unfold readReference? at found
  simp only at found
  split at found
  · rename_i rest here
    split at found
    · rename_i c tail there
      split at found
      · exact absurd found (by simp)
      · have same : tail = after := by simpa using (Prod.mk.inj (Option.some.inj found)).2
        have dropped : (cs.drop (cs.takeWhile fun c => !endsNode c).length).length ≤ cs.length := by
          rw [List.length_drop]
          omega
        have shorter : (rest.dropWhile (· != '\x7d')).length ≤ rest.length :=
          (List.dropWhile_sublist _).length_le
        rw [here, List.length_cons] at dropped
        rw [there, List.length_cons] at shorter
        rw [← same]
        omega
    · exact absurd found (by simp)
  · exact absurd found (by simp)

/-- The nodes that an expression refers to, in order. -/
def references (cs : List Char) : List (List Char) :=
  match cs with
  | [] => []
  | '$' :: '\x7b' :: rest =>
    match _found : readReference? rest with
    | some (node, after) => node :: references after
    | none => references ('\x7b' :: rest)
  | _ :: rest => references rest
termination_by cs.length
decreasing_by
  · have := readReference?_shorter rest node after _found
    simp only [List.length_cons]
    omega
  · simp
  · simp

/-- The nodes that a condition refers to, in order. -/
def referenced (condition : String) : List String :=
  (references condition.toList).map String.ofList

end Jobflow.Flow.Condition
