import Jobflow.Proofs.Text.Lowercase
import Jobflow.Text.Cut

/-!
# Searching texts

A word that has no blank is found in a sentence exactly if it is found in one of the parts between
blanks. In a text in small letters it is found wherever its letters are, whichever of its two small
forms a sigma has: the word has none.
-/

namespace Jobflow.Text

variable {part : List Char} {c : Char}

/-- A text that starts with another one goes on after it. -/
theorem startsWith_iff (text start : String) :
    startsWith text start = true ↔ ∃ rest, text = start ++ rest := by
  rw [startsWith, List.isPrefixOf_iff_prefix]
  constructor
  · rintro ⟨rest, same⟩
    refine ⟨String.ofList rest, String.toList_injective ?_⟩
    rw [String.toList_append, String.toList_ofList, same]
  · rintro ⟨rest, rfl⟩
    rw [String.toList_append]
    exact List.prefix_append _ _

/-- What does not have a character is in front of a text exactly if it is in front of the part before
that character. -/
theorem isPrefixOf_append_cons (absent : c ∉ part) (before after : List Char) :
    part.isPrefixOf (before ++ c :: after) = part.isPrefixOf before := by
  induction part generalizing before with
  | nil => cases before <;> rfl
  | cons d part inductionHypothesis =>
    have apart : d ≠ c := fun same => absent (by simp [same])
    cases before with
    | nil => simp [List.isPrefixOf, apart]
    | cons e before =>
      have rest := inductionHypothesis (fun member => absent (List.mem_cons_of_mem _ member)) before
      simp only [List.cons_append, List.isPrefixOf, rest]

/-- What does not have a character is in a text exactly if it is before or behind that character. -/
theorem occursIn_append_cons (absent : c ∉ part) (some : part ≠ []) (before after : List Char) :
    occursIn part (before ++ c :: after) = (occursIn part before || occursIn part after) := by
  have nowhere : occursIn part [] = false := by rwa [occursIn, List.isEmpty_eq_false_iff]
  induction before with
  | nil =>
    have front := isPrefixOf_append_cons absent [] after
    rw [List.nil_append] at front
    have empty : part.isPrefixOf [] = false := by
      cases part with
      | nil => exact absurd rfl some
      | cons d part => rfl
    rw [List.nil_append, nowhere, occursIn, front, empty]
  | cons d before inductionHypothesis =>
    have front := isPrefixOf_append_cons absent (d :: before) after
    rw [List.cons_append] at front
    rw [List.cons_append, occursIn, occursIn, front, inductionHypothesis, Bool.or_assoc]

/-- A change of characters that makes none of a text's own, and keeps those, does not change where
the text is found. -/
theorem occursIn_map (change : Char → Char) (own : ∀ c ∈ part, ∀ d, change d = c ↔ d = c)
    (cs : List Char) : occursIn part (cs.map change) = occursIn part cs := by
  have front (part : List Char) (own : ∀ c ∈ part, ∀ d, change d = c ↔ d = c) (cs : List Char) :
      part.isPrefixOf (cs.map change) = part.isPrefixOf cs := by
    induction part generalizing cs with
    | nil => cases cs <;> rfl
    | cons c part inductionHypothesis =>
      cases cs with
      | nil => rfl
      | cons d cs =>
        have first : (c == change d) = (c == d) := by
          rw [Bool.eq_iff_iff, beq_iff_eq, beq_iff_eq, eq_comm, own c List.mem_cons_self d, eq_comm]
        rw [List.map_cons, List.isPrefixOf, List.isPrefixOf, first,
          inductionHypothesis (fun c member => own c (List.mem_cons_of_mem _ member)) cs]
  induction cs with
  | nil => rfl
  | cons d cs inductionHypothesis =>
    have first := front part own (d :: cs)
    rw [List.map_cons] at first
    rw [List.map_cons, occursIn, occursIn, first, inductionHypothesis]

/-! ## Small letters -/

/-- Both small forms of the sigma as one. -/
def unifySigma (c : Char) : Char := if c = 'ς' then 'σ' else c

/-- The small letters of a character, with one form of the sigma. -/
def foldChar (c : Char) : List Char := (lowerChar c).map unifySigma

/-- But for the form of the sigma, each character turns into its small form. -/
theorem map_unifySigma_lowerAfter (before cs : List Char) :
    (lowerAfter before cs).map unifySigma = cs.flatMap foldChar := by
  induction cs generalizing before with
  | nil => rfl
  | cons c cs inductionHypothesis =>
    rw [lowerAfter, List.map_append, inductionHypothesis, List.flatMap_cons]
    congr 1
    split
    · next final =>
      rw [final.1]
      decide +kernel
    · rfl

/-- A word without a sigma is found in a text in small letters wherever its letters are. -/
theorem holds_lower (text part : String) (small : 'σ' ∉ part.toList) (final : 'ς' ∉ part.toList) :
    holds (lower text) part = occursIn part.toList (text.toList.flatMap foldChar) := by
  have own : ∀ c ∈ part.toList, ∀ d, unifySigma d = c ↔ d = c := by
    intro c member d
    rw [unifySigma]
    split
    · next same =>
      subst same
      exact iff_of_false (ne_of_mem_of_not_mem member small).symm
        (ne_of_mem_of_not_mem member final).symm
    · rfl
  rw [holds, lower, String.toList_ofList, ← occursIn_map unifySigma own, map_unifySigma_lowerAfter]

/-- In a sentence in small letters, a word is found exactly if it is found in what stands between
two parts that do not have it, with blanks on both sides. -/
theorem holds_lower_between (before name after part : String) {start rest : List Char}
    (some : part.toList ≠ []) (blank : ' ' ∉ part.toList)
    (small : 'σ' ∉ part.toList) (final : 'ς' ∉ part.toList)
    (first : before.toList.flatMap foldChar = start ++ [' '])
    (last : after.toList.flatMap foldChar = ' ' :: rest)
    (notFirst : occursIn part.toList start = false) (notLast : occursIn part.toList rest = false) :
    holds (lower (before ++ name ++ after)) part = holds (lower name) part := by
  rw [holds_lower _ part small final, holds_lower _ part small final, String.toList_append,
    String.toList_append, List.flatMap_append, List.flatMap_append, first, last, List.append_assoc,
    List.append_assoc, List.singleton_append, occursIn_append_cons blank some,
    occursIn_append_cons blank some, notFirst, notLast, Bool.false_or, Bool.or_false]

end Jobflow.Text
