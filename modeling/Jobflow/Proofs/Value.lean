import Mathlib.Data.List.Nodup
import Mathlib.Data.String.Basic
import Jobflow.Value

/-!
# Laws of equality and order of values

Equality of values is not identity: numbers of different kinds can be equal, and a number
can differ from itself. Equality with a text or with nothing is identity, which is what
look-ups by name rest on. Texts can always be sorted.
-/

namespace Jobflow.Value

/-- Only a text itself equals it. -/
theorem same_text_iff (value : Value) (name : String) :
    value.same (.text name) = true ↔ value = .text name := by
  cases value <;> simp [same, numeric?]

/-- A text equals only itself. -/
theorem text_same_iff (name : String) (value : Value) :
    (text name).same value = true ↔ value = .text name := by
  cases value with
  | text other =>
    simp only [same, beq_iff_eq, text.injEq]
    exact eq_comm
  | _ => simp [same, numeric?]

/-- Nothing equals only itself. -/
theorem same_null_iff (value : Value) : value.same .null = true ↔ value = .null := by
  cases value <;> simp [same, numeric?]

/-- Nothing is equal to itself only. -/
theorem null_same_iff (value : Value) : null.same value = true ↔ value = .null := by
  cases value <;> simp [same, numeric?]

/-- A value has a text if it is that text. -/
theorem text?_eq_some_iff (value : Value) (name : String) :
    value.text? = some name ↔ value = .text name := by
  cases value <;> simp [text?]

/-- Only given values are kept. -/
theorem mem_of_mem_distinct (values : List Value) (value : Value)
    (member : value ∈ distinct values) : value ∈ values := by
  have onto : ∀ kept : List Value, value ∈ values.foldl
      (fun kept value => if kept.any (same value) then kept else kept ++ [value]) kept →
      value ∈ kept ∨ value ∈ values := by
    clear member
    induction values with
    | nil => exact fun kept member => Or.inl member
    | cons first rest inductionHypothesis =>
      intro kept member
      rcases inductionHypothesis _ member with there | later
      · dsimp only at there
        split at there
        · exact Or.inl there
        · rcases List.mem_append.mp there with before | here
          · exact Or.inl before
          · exact Or.inr (List.mem_singleton.mp here ▸ List.mem_cons_self)
      · exact Or.inr (List.mem_cons_of_mem _ later)
  exact (onto [] member).resolve_left (by simp)

/-- The kept values after one more: it is kept unless it equals one of them. -/
def keep (kept : List Value) (value : Value) : List Value :=
  if kept.any (same value) then kept else kept ++ [value]

/-- What is kept stays kept. -/
theorem mem_foldl_keep (values kept : List Value) (old : Value) (member : old ∈ kept) :
    old ∈ values.foldl keep kept := by
  induction values generalizing kept with
  | nil => exact member
  | cons value rest inductionHypothesis =>
    apply inductionHypothesis
    rw [keep]
    split
    · exact member
    · exact List.mem_append_left _ member

/-- Once a value was met, it is kept or one is that it equals. -/
theorem exists_mem_keep (kept : List Value) (value : Value) :
    ∃ other ∈ keep kept value, value = other ∨ value.same other = true := by
  by_cases known : kept.any (same value) = true
  · obtain ⟨other, member, equal⟩ := List.any_eq_true.mp known
    exact ⟨other, by rwa [keep, if_pos known], Or.inr equal⟩
  · refine ⟨value, ?_, Or.inl rfl⟩
    rw [keep, if_neg known]
    exact List.mem_append_right _ List.mem_cons_self

/-- Each value of a list is kept, or one is that it equals. -/
theorem exists_mem_distinct (values : List Value) (value : Value) (member : value ∈ values) :
    ∃ other ∈ distinct values, value = other ∨ value.same other = true := by
  obtain ⟨before, after, rfl⟩ := List.append_of_mem member
  have met : distinct (before ++ value :: after) =
      after.foldl keep (keep (before.foldl keep []) value) := by
    show (before ++ value :: after).foldl keep [] = _
    rw [List.foldl_append, List.foldl_cons]
  obtain ⟨other, there, equal⟩ := exists_mem_keep (before.foldl keep []) value
  exact ⟨other, met ▸ mem_foldl_keep after _ other there, equal⟩

/-- Values are kept where they come first, behind those that were kept before. -/
theorem foldl_distinct (values kept : List Value)
    (fresh : ∀ value ∈ values, ∀ other ∈ kept, value.same other = false)
    (apart : values.Pairwise fun earlier later => later.same earlier = false) :
    values.foldl
      (fun kept value => if kept.any (same value) then kept else kept ++ [value]) kept =
      kept ++ values := by
  induction values generalizing kept with
  | nil => simp
  | cons value rest inductionHypothesis =>
    obtain ⟨first, later⟩ := List.pairwise_cons.mp apart
    have new : kept.any (same value) = false := by
      rw [List.any_eq_false]
      intro other member
      simp [fresh value List.mem_cons_self other member]
    rw [List.foldl_cons, new, if_neg (by simp), inductionHypothesis _ _ later, List.append_assoc,
      List.singleton_append]
    intro other member old there
    rcases List.mem_append.mp there with before | here
    · exact fresh other (List.mem_cons_of_mem _ member) old before
    · rw [List.mem_singleton.mp here]
      exact first other member

/-- Values of which no two are equal are all kept. -/
theorem distinct_eq_self (values : List Value)
    (apart : values.Pairwise fun earlier later => later.same earlier = false) :
    distinct values = values := by
  rw [distinct, foldl_distinct values [] (by simp) apart, List.nil_append]

/-- Among texts, each is kept once. -/
theorem exists_distinct_texts (names : List String) :
    ∃ kept : List String, distinct (names.map text) = kept.map text ∧ kept.Nodup ∧
      ∀ name, name ∈ kept ↔ name ∈ names := by
  have onto (kept : List String) (distinctKept : kept.Nodup) :
      ∃ all : List String, (names.map text).foldl
          (fun kept value => if kept.any (same value) then kept else kept ++ [value])
          (kept.map text) = all.map text ∧ all.Nodup ∧
        ∀ name, name ∈ all ↔ name ∈ kept ∨ name ∈ names := by
    induction names generalizing kept with
    | nil => exact ⟨kept, rfl, distinctKept, by simp⟩
    | cons name rest inductionHypothesis =>
      have known : (kept.map text).any (same (text name)) = true ↔ name ∈ kept := by
        simp [text_same_iff]
      rw [List.map_cons, List.foldl_cons]
      by_cases old : name ∈ kept
      · rw [if_pos (known.mpr old)]
        obtain ⟨all, same, nodup, members⟩ := inductionHypothesis kept distinctKept
        refine ⟨all, same, nodup, fun other => (members other).trans ?_⟩
        rw [List.mem_cons]
        constructor
        · rintro (there | later)
          · exact Or.inl there
          · exact Or.inr (Or.inr later)
        · rintro (there | rfl | later)
          · exact Or.inl there
          · exact Or.inl old
          · exact Or.inr later
      · have grown : kept.map text ++ [text name] = (kept ++ [name]).map text := by simp
        rw [if_neg (fun there => old (known.mp there)), grown]
        obtain ⟨all, same, nodup, members⟩ := inductionHypothesis (kept ++ [name])
          (by simpa [List.nodup_append] using ⟨distinctKept, fun other there same => old (same ▸ there)⟩)
        refine ⟨all, same, nodup, fun other => (members other).trans ?_⟩
        rw [List.mem_append, List.mem_singleton, List.mem_cons, or_assoc]
  obtain ⟨all, same, nodup, members⟩ := onto [] List.nodup_nil
  exact ⟨all, same, nodup, fun name => (members name).trans (by simp)⟩

/-- A text can be put in its place among sorted ones. -/
theorem exists_insertSorted?_texts (name : String) (sorted : List String)
    (increasing : sorted.Pairwise (· ≤ ·)) :
    ∃ all : List String, insertSorted? (text name) (sorted.map text) = some (all.map text) ∧
      all.Perm (name :: sorted) ∧ all.Pairwise (· ≤ ·) := by
  induction sorted with
  | nil => exact ⟨[name], rfl, .refl _, List.pairwise_singleton _ _⟩
  | cons other rest inductionHypothesis =>
    obtain ⟨first, later⟩ := List.pairwise_cons.mp increasing
    by_cases below : name < other
    · refine ⟨name :: other :: rest, by simp [insertSorted?, below?, below], .refl _, ?_⟩
      rw [List.pairwise_cons]
      refine ⟨?_, increasing⟩
      intro last member
      rcases List.mem_cons.mp member with rfl | there
      · exact below.le
      · exact below.le.trans (first last there)
    · obtain ⟨all, inserted, perm, ordered⟩ := inductionHypothesis later
      refine ⟨other :: all, by simp [insertSorted?, below?, below, inserted],
        (perm.cons other).trans (.swap name other rest), ?_⟩
      rw [List.pairwise_cons]
      refine ⟨?_, ordered⟩
      intro last member
      rcases List.mem_cons.mp (perm.mem_iff.mp member) with rfl | there
      · exact not_lt.mp below
      · exact first last there

/-- Texts can be sorted. -/
theorem exists_sorted?_texts (names : List String) :
    ∃ sorted : List String, sorted? (names.map text) = some (sorted.map text) ∧
      sorted.Perm names ∧ sorted.Pairwise (· ≤ ·) := by
  have onto (before : List String) (increasing : before.Pairwise (· ≤ ·)) :
      ∃ sorted : List String, (names.map text).foldlM
          (fun sorted value => insertSorted? value sorted) (before.map text) =
            some (sorted.map text) ∧
        sorted.Perm (before ++ names) ∧ sorted.Pairwise (· ≤ ·) := by
    induction names generalizing before with
    | nil => exact ⟨before, rfl, by simp, increasing⟩
    | cons name rest inductionHypothesis =>
      obtain ⟨next, inserted, perm, ordered⟩ := exists_insertSorted?_texts name before increasing
      obtain ⟨sorted, folded, permAll, orderedAll⟩ := inductionHypothesis next ordered
      refine ⟨sorted, ?_, ?_, orderedAll⟩
      · rw [List.map_cons, List.foldlM_cons, inserted]
        exact folded
      · calc sorted.Perm (next ++ rest) := permAll
          _ |>.Perm (name :: before ++ rest) := perm.append_right rest
          _ |>.Perm (before ++ name :: rest) := List.perm_middle.symm
  exact onto [] .nil

end Jobflow.Value
