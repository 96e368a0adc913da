import Jobflow.Flow.Condition

/-!
# The references in a condition

What it means that a condition refers to nodes is said by the shape of a reference alone: a
dollar sign and an opening brace, a node, a colon, a parameter and a closing brace. A scan
goes from left to right, takes a reference wherever one starts, goes on behind it, and
otherwise passes over a single character. Reading a condition finds exactly the references
of its scan, of which there is only one.
-/

namespace Jobflow.Flow.Condition

/-- A reference to a node starts a text and leaves a rest of it. -/
def Starts (cs node rest : List Char) : Prop :=
  ∃ parameter : List Char,
    cs = '$' :: '\x7b' :: (node ++ ':' :: (parameter ++ '\x7d' :: rest)) ∧
      node ≠ [] ∧ (∀ c ∈ node, c ≠ ':' ∧ c ≠ '\x7d') ∧ ∀ c ∈ parameter, c ≠ '\x7d'

/-- A scan from left to right, with the nodes that it finds references to. References do
not overlap. -/
inductive Scan : List Char → List (List Char) → Prop
  /-- The end of the text. -/
  | done : Scan [] []
  /-- A reference, behind which the scan goes on. -/
  | found {cs node rest : List Char} {nodes : List (List Char)} (reference : Starts cs node rest)
      (later : Scan rest nodes) : Scan cs (node :: nodes)
  /-- A character that no reference starts at. -/
  | passed {c : Char} {cs : List Char} {nodes : List (List Char)}
      (plain : ∀ node rest, ¬ Starts (c :: cs) node rest) (later : Scan cs nodes) :
      Scan (c :: cs) nodes

/-- A condition refers to a node if the scan of its text finds a reference to the node. -/
def RefersTo (condition node : String) : Prop :=
  ∃ nodes, Scan condition.toList nodes ∧ node.toList ∈ nodes

/-- The characters of the node of a reference are those that do not end it. -/
theorem endsNode_eq_false (c : Char) : endsNode c = false ↔ c ≠ ':' ∧ c ≠ '\x7d' := by
  simp [endsNode]

/-- What is taken from the front of a text satisfies the test. -/
theorem takeWhile_satisfies (test : Char → Bool) (cs : List Char) :
    ∀ c ∈ cs.takeWhile test, test c = true :=
  List.all_eq_true.mp List.all_takeWhile

/-- What is left behind the characters taken from the front starts with the first one that
fails the test. -/
theorem drop_takeWhile (test : Char → Bool) (cs : List Char) :
    cs.drop (cs.takeWhile test).length = cs.dropWhile test := by
  have split : cs.takeWhile test ++ cs.dropWhile test = cs := List.takeWhile_append_dropWhile
  calc cs.drop (cs.takeWhile test).length
    _ = (cs.takeWhile test ++ cs.dropWhile test).drop (cs.takeWhile test).length := by rw [split]
    _ = cs.dropWhile test := List.drop_left

/-- A reference that is read has the shape of a reference. -/
theorem starts_of_readReference? (cs node rest : List Char)
    (read : readReference? cs = some (node, rest)) : Starts ('$' :: '\x7b' :: cs) node rest := by
  have kept : ∀ c ∈ cs.takeWhile fun c => !endsNode c, c ≠ ':' ∧ c ≠ '\x7d' := by
    intro c member
    have passes := takeWhile_satisfies (fun c => !endsNode c) cs c member
    exact (endsNode_eq_false c).mp (by simpa using passes)
  have split : (cs.takeWhile fun c => !endsNode c) ++ (cs.dropWhile fun c => !endsNode c) = cs :=
    List.takeWhile_append_dropWhile
  simp only [readReference?, drop_takeWhile] at read
  split at read
  · rename_i tail colon
    split at read
    · rename_i last remaining behind
      split at read
      · simp at read
      · rename_i nonempty
        obtain ⟨rfl, rfl⟩ := Prod.mk.inj (Option.some.inj read)
        have brace : last = '\x7d' := by
          have stops := List.head?_dropWhile_not (· != '\x7d') tail
          rw [behind] at stops
          simpa using stops
        subst brace
        have parameterKept : ∀ c ∈ tail.takeWhile (· != '\x7d'), c ≠ '\x7d' := by
          intro c member
          simpa using takeWhile_satisfies (· != '\x7d') tail c member
        have closing : tail.takeWhile (· != '\x7d') ++ '\x7d' :: remaining = tail := by
          rw [← behind]
          exact List.takeWhile_append_dropWhile
        refine ⟨tail.takeWhile (· != '\x7d'), ?_, by simpa using nonempty, kept, parameterKept⟩
        rw [closing, ← colon, split]
    · simp at read
  · simp at read

/-- What has the shape of a reference is read. -/
theorem readReference?_of_starts (cs node rest : List Char)
    (reference : Starts ('$' :: '\x7b' :: cs) node rest) :
    readReference? cs = some (node, rest) := by
  obtain ⟨parameter, same, nonempty, nodeKept, parameterKept⟩ := reference
  have text : cs = node ++ ':' :: (parameter ++ '\x7d' :: rest) := by simpa using same
  have nodePasses : ∀ c ∈ node, (!endsNode c) = true := by
    intro c member
    simpa using (endsNode_eq_false c).mpr (nodeKept c member)
  have taken : cs.takeWhile (fun c => !endsNode c) = node := by
    rw [text, List.takeWhile_append_of_pos nodePasses, List.takeWhile_cons_of_neg (by decide),
      List.append_nil]
  have left : cs.drop node.length = ':' :: (parameter ++ '\x7d' :: rest) := by
    rw [text, List.drop_left]
  have closed : (parameter ++ '\x7d' :: rest).dropWhile (· != '\x7d') = '\x7d' :: rest := by
    rw [List.dropWhile_append_of_pos (by simpa using parameterKept),
      List.dropWhile_cons_of_neg (by decide)]
  simp [readReference?, taken, left, closed, nonempty]

/-- A reference starts with a dollar sign and an opening brace. -/
theorem opening_of_starts (cs node rest : List Char) (reference : Starts cs node rest) :
    ∃ tail, cs = '$' :: '\x7b' :: tail := by
  obtain ⟨parameter, same, _⟩ := reference
  exact ⟨_, same⟩

/-- The references that are read are those of a scan. -/
theorem scan_references (cs : List Char) : Scan cs (references cs) := by
  fun_induction references cs with
  | case1 => exact .done
  | case2 rest node after read later =>
    exact .found (starts_of_readReference? rest node after read) later
  | case3 rest unread later =>
    refine .passed ?_ later
    intro node after reference
    rw [readReference?_of_starts rest node after reference] at unread
    exact absurd unread (by simp)
  | case4 c rest plain later =>
    refine .passed ?_ later
    intro node after reference
    obtain ⟨tail, same⟩ := opening_of_starts (c :: rest) node after reference
    obtain ⟨rfl, rfl⟩ := List.cons.inj same
    exact plain tail rfl rfl

/-- Where a reference starts, its node and rest are determined. -/
theorem starts_unique (cs node other rest tail : List Char) (first : Starts cs node rest)
    (second : Starts cs other tail) : node = other ∧ rest = tail := by
  obtain ⟨text, rfl⟩ := opening_of_starts cs node rest first
  have read := readReference?_of_starts text node rest first
  rw [readReference?_of_starts text other tail second] at read
  exact (Prod.mk.inj (Option.some.inj read)).imp Eq.symm Eq.symm

/-- There is one scan of a text. -/
theorem scan_unique (cs : List Char) (first second : List (List Char)) (one : Scan cs first)
    (two : Scan cs second) : first = second := by
  induction one generalizing second with
  | done =>
    cases two with
    | done => rfl
    | found reference later =>
      obtain ⟨tail, same⟩ := opening_of_starts _ _ _ reference
      exact absurd same (by simp)
  | found reference later inductionHypothesis =>
    cases two with
    | done =>
      obtain ⟨tail, same⟩ := opening_of_starts _ _ _ reference
      exact absurd same (by simp)
    | found other further =>
      obtain ⟨rfl, rfl⟩ := starts_unique _ _ _ _ _ reference other
      rw [inductionHypothesis _ further]
    | passed plain further => exact absurd reference (plain _ _)
  | passed plain later inductionHypothesis =>
    cases two with
    | found other further => exact absurd other (plain _ _)
    | passed _ further => exact inductionHypothesis _ further

/-- Reading a condition finds exactly the nodes that it refers to. -/
theorem mem_referenced_iff (condition node : String) :
    node ∈ referenced condition ↔ RefersTo condition node := by
  rw [referenced, List.mem_map]
  constructor
  · rintro ⟨cs, member, rfl⟩
    exact ⟨references condition.toList, scan_references condition.toList,
      by rwa [String.toList_ofList]⟩
  · rintro ⟨nodes, scanned, member⟩
    rw [scan_unique _ _ _ scanned (scan_references condition.toList)] at member
    exact ⟨node.toList, member, String.ofList_toList⟩

example : referenced "$\x7ba:x\x7d == $\x7b:y\x7d $\x7b$\x7bb:\x7d" = ["a", "$\x7bb"] := by cbv

end Jobflow.Flow.Condition
