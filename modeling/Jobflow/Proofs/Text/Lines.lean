import Jobflow.Text.Blank
import Mathlib.Data.List.DropRight

/-!
# Laws of lines

Texts in a row have the lines of both if the first one ends where a line does. Unifying line
breaks can be done text by text unless a carriage return and its line feed are parted.
-/

namespace Jobflow.Text

/-- A text ends where a line does: it is empty or ends in a line break. -/
def Ended (cs : List Char) : Prop := ∀ c ∈ cs.getLast?, isLineBreak c = true

instance (cs : List Char) : Decidable (Ended cs) :=
  decidable_of_iff (cs.getLast?.all isLineBreak = true) (Option.all_eq_true _ _)

/-- A text behind a character ends where the whole does. -/
theorem Ended.tail {c : Char} {rest : List Char} (ended : Ended (c :: rest)) : Ended rest := by
  intro d last
  cases rest with
  | nil => cases last
  | cons head others => exact ended d (by simpa using last)

/-- A character may come before a text that ends where a line does; it has to be a break if it stays
alone. -/
theorem Ended.cons {c : Char} {rest : List Char} (ended : Ended rest)
    (alone : rest = [] → isLineBreak c = true) : Ended (c :: rest) := by
  intro d last
  cases rest with
  | nil =>
    obtain rfl := Option.some.inj last
    exact alone rfl
  | cons head others => exact ended d (by simpa using last)

/-- What is left of such a text does so too. -/
theorem Ended.dropWhile {cs : List Char} (ended : Ended cs) (p : Char → Bool) :
    Ended (cs.dropWhile p) := by
  induction cs with
  | nil => exact ended
  | cons c rest inductionHypothesis =>
    rw [List.dropWhile_cons]
    split
    · exact inductionHypothesis ended.tail
    · exact ended

/-- Before the last line without a break, a text ends where a line does. -/
theorem ended_rdropWhile (cs : List Char) : Ended (cs.rdropWhile fun c => !isLineBreak c) := by
  intro c last
  obtain ⟨nonempty, rfl⟩ := List.mem_getLast?_eq_getLast last
  simpa using List.rdropWhile_last_not _ _ nonempty

/-- A line starts with its first character, unless that is a carriage return or a break. -/
theorem lines_cons {c : Char} (other : c ≠ '\r') (rest : List Char) :
    lines (c :: rest) = if isLineBreak c then [] :: lines rest else consLine c (lines rest) := by
  rw [lines]
  exact fun _ same _ => other same

/-- A text that is not empty has a line. -/
theorem lines_ne_nil {cs : List Char} (some : cs ≠ []) : lines cs ≠ [] := by
  fun_cases lines cs with
  | case1 => exact absurd rfl some
  | case2 rest => exact List.cons_ne_nil _ _
  | case3 c rest => exact List.cons_ne_nil _ _
  | case4 c rest =>
    cases lines rest with
    | nil => exact List.cons_ne_nil _ _
    | cons line others => exact List.cons_ne_nil _ _

/-- A text that ends where a line does has its own lines, whatever comes after it. -/
theorem lines_append_of_ended {before : List Char} (ended : Ended before)
    (absent : '\r' ∉ before) (after : List Char) :
    lines (before ++ after) = lines before ++ lines after := by
  induction before with
  | nil => rfl
  | cons c rest inductionHypothesis =>
    obtain ⟨other, absentLater⟩ : '\r' ≠ c ∧ '\r' ∉ rest := by
      simpa only [List.mem_cons, not_or] using absent
    have later := inductionHypothesis ended.tail absentLater
    rw [List.cons_append, lines_cons (Ne.symm other), lines_cons (Ne.symm other), later]
    split
    · rfl
    · next inside =>
      -- The last character is a break, so that there is something behind this one.
      have some : rest ≠ [] := by
        rintro rfl
        exact inside (ended c rfl)
      obtain ⟨line, others, split⟩ := List.exists_cons_of_ne_nil (lines_ne_nil some)
      rw [split]
      rfl

/-- A text may be cut between two characters: no carriage return is parted from the line feed that
belongs to it. -/
def Apart (before after : List Char) : Prop :=
  before.getLast? = some '\r' → after.head? ≠ some '\n'

instance (before after : List Char) : Decidable (Apart before after) :=
  inferInstanceAs (Decidable (before.getLast? = some '\r' → after.head? ≠ some '\n'))

/-- A single character is no carriage return with its line feed. -/
theorem unifyBreaks_cons {c : Char} {rest : List Char} (apart : Apart [c] rest) :
    unifyBreaks (c :: rest) = (if c = '\r' then '\n' else c) :: unifyBreaks rest := by
  rw [unifyBreaks]
  rintro later rfl rfl
  exact apart rfl rfl

/-- A text behind a character is apart from what the whole is apart from. -/
theorem Apart.tail {c : Char} {rest after : List Char} (apart : Apart (c :: rest) after) :
    Apart rest after := by
  intro last
  apply apart
  cases rest with
  | nil => cases last
  | cons head others => simpa using last

/-- Breaks are unified text by text. -/
theorem unifyBreaks_append {before after : List Char} (apart : Apart before after) :
    unifyBreaks (before ++ after) = unifyBreaks before ++ unifyBreaks after := by
  fun_induction unifyBreaks before with
  | case1 => rfl
  | case2 rest inductionHypothesis =>
    rw [List.cons_append, List.cons_append, unifyBreaks, inductionHypothesis apart.tail.tail,
      List.cons_append]
  | case3 c rest other inductionHypothesis =>
    have here : Apart [c] (rest ++ after) := by
      cases rest with
      | nil => exact apart
      | cons head others =>
        rintro last first
        obtain rfl : c = '\r' := by simpa using last
        obtain rfl : head = '\n' := by simpa using first
        exact other others rfl rfl
    rw [List.cons_append, unifyBreaks_cons here, inductionHypothesis apart.tail, List.cons_append]

/-- Unifying breaks adds nothing but line feeds. -/
theorem mem_of_mem_unifyBreaks {c : Char} {cs : List Char} (member : c ∈ unifyBreaks cs) :
    c = '\n' ∨ c ∈ cs := by
  fun_induction unifyBreaks cs with
  | case1 => exact .inr member
  | case2 rest inductionHypothesis =>
    rcases List.mem_cons.mp member with here | later
    · exact .inl here
    · exact (inductionHypothesis later).imp_right fun inside =>
        List.mem_cons_of_mem _ (List.mem_cons_of_mem _ inside)
  | case3 d rest _ inductionHypothesis =>
    rcases List.mem_cons.mp member with here | later
    · split at here
      · exact .inl here
      · exact .inr (here ▸ List.mem_cons_self)
    · exact (inductionHypothesis later).imp_right (List.mem_cons_of_mem d)

/-- Something is left of every text. -/
theorem unifyBreaks_ne_nil {cs : List Char} (some : cs ≠ []) : unifyBreaks cs ≠ [] := by
  fun_cases unifyBreaks cs with
  | case1 => exact absurd rfl some
  | case2 rest => exact List.cons_ne_nil _ _
  | case3 c rest => exact List.cons_ne_nil _ _

/-- A text that ends where a line does still does so. -/
theorem Ended.unifyBreaks {cs : List Char} (ended : Ended cs) : Ended (unifyBreaks cs) := by
  fun_induction Text.unifyBreaks cs with
  | case1 => exact ended
  | case2 rest inductionHypothesis =>
    exact (inductionHypothesis ended.tail.tail).cons fun _ => by decide
  | case3 c rest other inductionHypothesis =>
    refine (inductionHypothesis ended.tail).cons fun last => ?_
    obtain rfl : rest = [] := Classical.byContradiction fun some => unifyBreaks_ne_nil some last
    split
    · decide
    · exact ended c rfl

end Jobflow.Text
