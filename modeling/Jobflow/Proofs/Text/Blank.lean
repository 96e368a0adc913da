import Jobflow.Text.Blank
import Mathlib.Data.List.DropRight

/-!
# Laws of trimming

A text is bare if no white space stands at its ends. Trimming takes white space from both
ends and leaves a bare text, so that it takes nothing from a bare text and does not depend on
how much white space there was.
-/

namespace Jobflow.Text

/-- No white space stands at the ends of a text. -/
structure Bare (cs : List Char) : Prop where
  /-- The first character is no white space. -/
  starts : ∀ c ∈ cs.head?, isBlank c = false
  /-- The last character is no white space. -/
  ends : ∀ c ∈ cs.getLast?, isBlank c = false

/-- Dropping from the end is what the library calls so. -/
theorem dropEndWhile_eq (p : Char → Bool) (cs : List Char) :
    dropEndWhile p cs = cs.rdropWhile p := by
  induction cs using List.reverseRecOn with
  | nil => rfl
  | append_singleton before last inductionHypothesis =>
    have appended : ∀ cs : List Char, dropEndWhile p (cs ++ [last]) =
        if p last then dropEndWhile p cs else cs ++ [last] := by
      intro cs
      induction cs with
      | nil => rfl
      | cons c rest inductionHypothesis =>
        by_cases dropped : p last = true
        · rw [if_pos dropped] at inductionHypothesis ⊢
          rw [List.cons_append, dropEndWhile, inductionHypothesis, dropEndWhile]
        · rw [if_neg dropped] at inductionHypothesis ⊢
          rw [List.cons_append, dropEndWhile, inductionHypothesis]
          cases rest <;> rfl
    rw [appended, List.rdropWhile_concat, inductionHypothesis]

/-- What trimming on the right leaves ends with no white space. -/
theorem ends_trimRight (cs : List Char) : ∀ c ∈ (trimRight cs).getLast?, isBlank c = false := by
  intro c last
  rw [trimRight, dropEndWhile_eq] at last
  obtain ⟨nonempty, rfl⟩ := List.mem_getLast?_eq_getLast last
  exact Bool.eq_false_iff.mpr (List.rdropWhile_last_not _ _ nonempty)

/-- Trimming on the right takes nothing from a text that ends with no white space. -/
theorem trimRight_of_ends {cs : List Char} (ends : ∀ c ∈ cs.getLast?, isBlank c = false) :
    trimRight cs = cs := by
  rw [trimRight, dropEndWhile_eq, List.rdropWhile_eq_self_iff]
  intro nonempty blank
  have last := ends (cs.getLast nonempty) (List.getLast?_eq_getLast_of_ne_nil nonempty)
  rw [last] at blank
  cases blank

/-- What trimming on the right takes away is white space. -/
theorem exists_trimRight (cs : List Char) :
    ∃ after, (∀ c ∈ after, isBlank c = true) ∧ cs = trimRight cs ++ after := by
  refine ⟨cs.rtakeWhile isBlank, fun c member => List.mem_rtakeWhile_imp member, ?_⟩
  rw [trimRight, dropEndWhile_eq, List.rdropWhile_append_rtakeWhile]

/-- Trimming on the right does not depend on the white space at the end. -/
theorem trimRight_append {after : List Char} (blank : after.all isBlank = true) (cs : List Char) :
    trimRight (cs ++ after) = trimRight cs := by
  induction after using List.reverseRecOn with
  | nil => rw [List.append_nil]
  | append_singleton before last inductionHypothesis =>
    obtain ⟨inner, final⟩ : before.all isBlank = true ∧ isBlank last = true := by
      simpa only [List.all_append, List.all_cons, List.all_nil, Bool.and_true,
        Bool.and_eq_true] using blank
    rw [← inductionHypothesis inner, ← List.append_assoc, trimRight, trimRight, dropEndWhile_eq,
      dropEndWhile_eq, List.rdropWhile_concat_pos _ _ _ final]

/-- Trimming leaves a bare text. -/
theorem bare_trim (cs : List Char) : Bare (trim cs) where
  ends := ends_trimRight _
  starts := by
    intro c first
    obtain ⟨after, -, split⟩ := exists_trimRight (trimLeft cs)
    have same : (trimLeft cs).head? = some c := by
      have found : (trimRight (trimLeft cs)).head? = some c := first
      rw [congrArg List.head? split, List.head?_append, found]
      rfl
    have kept := List.head?_dropWhile_not isBlank cs
    rw [← trimLeft, same] at kept
    exact kept

/-- Trimming takes nothing from a bare text. -/
theorem trim_of_bare {cs : List Char} (bare : Bare cs) : trim cs = cs := by
  have left : trimLeft cs = cs := by
    cases cs with
    | nil => rfl
    | cons c rest => exact List.dropWhile_cons_of_neg (by simp [bare.starts c rfl])
  rw [trim, left, trimRight_of_ends bare.ends]

/-- A text is bare exactly if trimming takes nothing from it. -/
theorem bare_iff (cs : List Char) : Bare cs ↔ trim cs = cs :=
  ⟨trim_of_bare, fun same => same ▸ bare_trim cs⟩

instance (cs : List Char) : Decidable (Bare cs) := decidable_of_iff _ (bare_iff cs).symm

/-- What trimming takes away is white space. -/
theorem exists_trim (cs : List Char) :
    ∃ before after, (∀ c ∈ before, isBlank c = true) ∧ (∀ c ∈ after, isBlank c = true) ∧
      cs = before ++ trim cs ++ after := by
  obtain ⟨after, blank, split⟩ := exists_trimRight (trimLeft cs)
  refine ⟨cs.takeWhile isBlank, after, fun c member => List.mem_takeWhile_imp member, blank, ?_⟩
  rw [List.append_assoc, trim, ← split, trimLeft, List.takeWhile_append_dropWhile]

/-- Trimming does not depend on the white space at the ends. -/
theorem trim_pad {before after : List Char} (blankBefore : before.all isBlank = true)
    (blankAfter : after.all isBlank = true) (cs : List Char) :
    trim (before ++ cs ++ after) = trim cs := by
  have right : ∀ cs : List Char, trim (cs ++ after) = trim cs := by
    intro cs
    induction cs with
    | nil =>
      have nothing : after.dropWhile isBlank = [] :=
        List.dropWhile_eq_nil_iff.mpr (List.all_eq_true.mp blankAfter)
      rw [List.nil_append, trim, trimLeft, nothing]
      rfl
    | cons c rest inductionHypothesis =>
      by_cases blank : isBlank c = true
      · rw [trim, trimLeft] at inductionHypothesis ⊢
        rw [List.cons_append, List.dropWhile_cons_of_pos blank, inductionHypothesis, trim, trim,
          trimLeft, trimLeft, List.dropWhile_cons_of_pos blank]
      · rw [trim, trimLeft, List.cons_append, List.dropWhile_cons_of_neg blank, ← List.cons_append,
          trimRight_append blankAfter, trim, trimLeft, List.dropWhile_cons_of_neg blank]
  have left : trim (before ++ cs) = trim cs := by
    rw [trim, trimLeft, List.dropWhile_append_of_pos (List.all_eq_true.mp blankBefore), trim,
      trimLeft]
  rw [right, left]

/-- The characters of a trimmed text are among those of the text. -/
theorem mem_of_mem_trim {c : Char} {cs : List Char} (member : c ∈ trim cs) : c ∈ cs := by
  obtain ⟨before, after, -, -, split⟩ := exists_trim cs
  rw [split]
  exact List.mem_append_left _ (List.mem_append_right _ member)

end Jobflow.Text
