import Jobflow.Proofs.Text.Blank
import Jobflow.Settings.Reader

/-!
# Lines of settings

How a file falls into lines, and what the reader makes of the text of one line: the name of a
section, or the name and value of an option.
-/

namespace Jobflow

namespace Text

/-! ## Cutting -/

/-- Cutting at the first character of a kind leaves none of the kind before it. -/
theorem cutFirst?_eq_some {at? : Char → Bool} {cs before after : List Char}
    (cut : cutFirst? at? cs = some (before, after)) :
    ∃ c, at? c = true ∧ cs = before ++ c :: after ∧ ∀ d ∈ before, at? d = false := by
  induction cs generalizing before with
  | nil => cases cut
  | cons c rest inductionHypothesis =>
    rw [cutFirst?] at cut
    by_cases here : at? c = true
    · rw [if_pos here] at cut
      cases cut
      exact ⟨c, here, rfl, fun d member => by cases member⟩
    · rw [if_neg here, Option.map_eq_some_iff] at cut
      obtain ⟨⟨inner, _⟩, found, same⟩ := cut
      cases same
      obtain ⟨d, is, split, others⟩ := inductionHypothesis found
      refine ⟨d, is, by rw [split]; rfl, fun e member => ?_⟩
      rcases List.mem_cons.mp member with rfl | later
      · exact Bool.eq_false_iff.mpr here
      · exact others e later

/-- A text is cut where the first character of a kind is. -/
theorem cutFirst?_append {at? : Char → Bool} {before : List Char} {c : Char}
    (others : ∀ d ∈ before, at? d = false) (is : at? c = true) (after : List Char) :
    cutFirst? at? (before ++ c :: after) = some (before, after) := by
  induction before with
  | nil => exact if_pos is
  | cons d rest inductionHypothesis =>
    have other : ¬ at? d = true := by rw [others d List.mem_cons_self]; exact Bool.false_ne_true
    rw [List.cons_append, cutFirst?, if_neg other,
      inductionHypothesis fun e member => others e (List.mem_cons_of_mem d member)]
    rfl

/-- A text cannot be cut at a character that is not in it. -/
theorem cutLast?_eq_none_iff (at? : Char → Bool) (cs : List Char) :
    cutLast? at? cs = none ↔ ∀ c ∈ cs, at? c = false := by
  induction cs with
  | nil => exact ⟨fun _ c member => (by cases member), fun _ => rfl⟩
  | cons c rest inductionHypothesis =>
    rw [cutLast?, List.forall_mem_cons, ← inductionHypothesis]
    cases cutLast? at? rest with
    | none => cases at? c <;> simp
    | some _ => simp

/-- Cutting at the last character of a kind leaves two parts of the text. -/
theorem cutLast?_eq_some {at? : Char → Bool} {cs before after : List Char}
    (cut : cutLast? at? cs = some (before, after)) : ∃ c, cs = before ++ c :: after := by
  induction cs generalizing before with
  | nil => cases cut
  | cons c rest inductionHypothesis =>
    rw [cutLast?] at cut
    cases found : cutLast? at? rest with
    | some parts =>
      obtain ⟨inner, last⟩ := parts
      rw [found] at cut
      cases cut
      obtain ⟨d, split⟩ := inductionHypothesis found
      exact ⟨d, by rw [split]; rfl⟩
    | none =>
      rw [found] at cut
      by_cases here : at? c = true
      · rw [if_pos here] at cut
        cases cut
        exact ⟨c, rfl⟩
      · rw [if_neg here] at cut
        cases cut

/-- A text is cut where the last character of a kind is. -/
theorem cutLast?_append {at? : Char → Bool} {after : List Char} {c : Char}
    (others : ∀ d ∈ after, at? d = false) (is : at? c = true) (before : List Char) :
    cutLast? at? (before ++ c :: after) = some (before, after) := by
  induction before with
  | nil => rw [List.nil_append, cutLast?, (cutLast?_eq_none_iff at? after).mpr others, if_pos is]
  | cons d rest inductionHypothesis => rw [List.cons_append, cutLast?, inductionHypothesis]

/-! ## Breaks -/

/-- The parts between the occurrences of a character do not have it. -/
theorem not_mem_of_mem_splitOn {a : Char} {cs part : List Char} (member : part ∈ cs.splitOn a) :
    a ∉ part := by
  induction cs generalizing part with
  | nil =>
    rw [List.splitOn_nil, List.mem_singleton] at member
    rw [member]
    exact List.not_mem_nil
  | cons c rest inductionHypothesis =>
    obtain ⟨first, later, split⟩ := List.exists_cons_of_ne_nil (List.splitOn_ne_nil a rest)
    rw [List.splitOn_cons_eq_if_modifyHead, split] at member
    rw [split] at inductionHypothesis
    by_cases here : (c == a) = true
    · rw [if_pos here] at member
      rcases List.mem_cons.mp member with rfl | among
      · exact List.not_mem_nil
      · exact inductionHypothesis among
    · rw [if_neg here, List.modifyHead_cons] at member
      rcases List.mem_cons.mp member with rfl | among
      · rw [List.mem_cons, not_or]
        exact ⟨fun same => here (beq_iff_eq.mpr same.symm), inductionHypothesis List.mem_cons_self⟩
      · exact inductionHypothesis (List.mem_cons_of_mem first among)

/-- Unifying breaks leaves no carriage return. -/
theorem not_mem_unifyBreaks (cs : List Char) : '\r' ∉ unifyBreaks cs := by
  induction cs using unifyBreaks.induct with
  | case1 => exact List.not_mem_nil
  | case2 rest inductionHypothesis =>
    rw [unifyBreaks, List.mem_cons, not_or]
    exact ⟨by decide, inductionHypothesis⟩
  | case3 c rest _ inductionHypothesis =>
    rw [unifyBreaks, List.mem_cons, not_or]
    · refine ⟨?_, inductionHypothesis⟩
      split
      · decide
      · next other => exact Ne.symm other
    · assumption

/-- A text without carriage returns stays as it is. -/
theorem unifyBreaks_of_not_mem {cs : List Char} (absent : '\r' ∉ cs) : unifyBreaks cs = cs := by
  induction cs using unifyBreaks.induct with
  | case1 => rfl
  | case2 rest _ => exact absurd List.mem_cons_self absent
  | case3 c rest _ inductionHypothesis =>
    rw [List.mem_cons, not_or] at absent
    rw [unifyBreaks, if_neg (Ne.symm absent.1), inductionHypothesis absent.2]
    assumption

end Text

namespace Settings

open Text

/-- A line ends at its line feed. -/
theorem fileLines_append {body : List Char} (single : '\n' ∉ body) (rest : List Char) :
    fileLines (body ++ '\n' :: rest) = (body ++ ['\n']) :: fileLines rest := by
  induction body with
  | nil => exact if_pos rfl
  | cons c body inductionHypothesis =>
    rw [List.mem_cons, not_or] at single
    rw [List.cons_append, fileLines, if_neg (Ne.symm single.1), inductionHypothesis single.2]
    rfl

/-- A line has no line feed but at its end, and its characters are from the file. -/
theorem exists_of_mem_fileLines {cs line : List Char} (member : line ∈ fileLines cs) :
    ∃ body ending, line = body ++ ending ∧ '\n' ∉ body ∧ (∀ c ∈ ending, c = '\n') ∧
      ∀ c ∈ line, c ∈ cs := by
  induction cs generalizing line with
  | nil => cases member
  | cons c rest inductionHypothesis =>
    rw [fileLines] at member
    by_cases feed : c = '\n'
    · rw [if_pos feed] at member
      rcases List.mem_cons.mp member with rfl | later
      · exact ⟨[], ['\n'], rfl, List.not_mem_nil, by simp, by simp [feed]⟩
      · obtain ⟨body, ending, split, single, feeds, among⟩ := inductionHypothesis later
        exact ⟨body, ending, split, single, feeds, fun d inside =>
          List.mem_cons_of_mem c (among d inside)⟩
    · rw [if_neg feed] at member
      have grown : ∀ tail : List (List Char), tail = fileLines rest → line ∈ consLine c tail →
          line = [c] ∨ line ∈ tail ∨ ∃ old ∈ tail, line = c :: old := by
        intro tail _ inside
        cases tail with
        | nil => exact Or.inl (List.mem_singleton.mp inside)
        | cons old others =>
          rcases List.mem_cons.mp inside with new | other
          · exact Or.inr (Or.inr ⟨old, List.mem_cons_self, new⟩)
          · exact Or.inr (Or.inl (List.mem_cons_of_mem old other))
      rcases grown _ rfl member with rfl | later | ⟨old, known, rfl⟩
      · exact ⟨[c], [], rfl, by simpa using Ne.symm feed, by simp, by simp⟩
      · obtain ⟨body, ending, split, single, feeds, among⟩ := inductionHypothesis later
        exact ⟨body, ending, split, single, feeds, fun d inside =>
          List.mem_cons_of_mem c (among d inside)⟩
      · obtain ⟨body, ending, split, single, feeds, among⟩ := inductionHypothesis known
        refine ⟨c :: body, ending, by rw [split]; rfl, ?_, feeds, fun d inside => ?_⟩
        · rw [List.mem_cons, not_or]
          exact ⟨Ne.symm feed, single⟩
        · rcases List.mem_cons.mp inside with rfl | inner
          · exact List.mem_cons_self
          · exact List.mem_cons_of_mem c (among d inner)

/-- What stands on a line of a file without carriage returns breaks no line. -/
theorem trim_single {cs line : List Char} (absent : '\r' ∉ cs) (member : line ∈ fileLines cs) :
    ∀ c ∈ trim line, c ≠ '\n' ∧ c ≠ '\r' := by
  obtain ⟨body, ending, rfl, single, feeds, among⟩ := exists_of_mem_fileLines member
  have blank : ending.all isBlank = true := by
    rw [List.all_eq_true]
    intro c inside
    rw [feeds c inside]
    decide
  intro c inside
  constructor
  · rintro rfl
    have trimmed : trim ([] ++ body ++ ending) = trim body := trim_pad rfl blank body
    rw [List.nil_append] at trimmed
    rw [trimmed] at inside
    exact single (mem_of_mem_trim inside)
  · rintro rfl
    exact absent (among '\r' (mem_of_mem_trim inside))

/-! ## Names of sections -/

/-- A line names no section exactly if it does not start with a bracket, or no bracket closes
after the next character. -/
theorem header?_eq_none_iff (line : List Char) :
    header? line = none ↔ (line.head? = some '[' → ']' ∉ line.drop 2) := by
  have open? : ∀ rest : List Char, header? ('[' :: rest) = none ↔ ']' ∉ rest.drop 1 := by
    intro rest
    rw [header?]
    cases rest with
    | nil => simp [cutLast?]
    | cons c after =>
      rw [cutLast?, List.drop_one, List.tail_cons]
      cases found : cutLast? (· == ']') after with
      | none =>
        have absent : ']' ∉ after := fun member => by
          have other := (cutLast?_eq_none_iff _ _).mp found ']' member
          simp at other
        by_cases closes : (c == ']') = true
        · simp [closes, absent]
        · simp [closes, absent]
      | some cut =>
        have present : ']' ∈ after := by
          by_contra absent
          have nothing : cutLast? (· == ']') after = none := by
            rw [cutLast?_eq_none_iff]
            intro d member
            exact beq_eq_false_iff_ne.mpr fun same => absent (same ▸ member)
          rw [nothing] at found
          cases found
        simp [present]
  cases line with
  | nil => simp [header?]
  | cons c rest =>
    by_cases bracket : c = '['
    · subst bracket
      rw [open?, List.drop_succ_cons]
      simp
    · rw [header?]
      · simp [bracket]
      · intro after same
        cases same
        exact bracket rfl

/-- The name of a section is in its line, and is not empty. -/
theorem header?_eq_some {line : List Char} {name : String} (found : header? line = some name) :
    name.toList ≠ [] ∧ ∀ c ∈ name.toList, c ∈ line := by
  unfold header? at found
  split at found
  · next rest =>
    split at found
    · next inner after cut =>
      split at found
      · cases found
      · next filled =>
        obtain ⟨mark, split⟩ := cutLast?_eq_some cut
        rw [← Option.some.inj found, String.toList_ofList]
        refine ⟨fun nothing => filled (List.isEmpty_iff.mpr nothing), fun c member => ?_⟩
        rw [split]
        exact List.mem_cons_of_mem _ (List.mem_append_left _ member)
    · cases found
  · cases found

/-- The start of a line that names no section names none either. -/
theorem header?_of_append {start rest : List Char} (plain : header? (start ++ rest) = none) :
    header? start = none := by
  rw [header?_eq_none_iff] at plain ⊢
  intro bracket member
  apply plain
  · rw [List.head?_append, bracket]
    rfl
  · rw [List.drop_append]
    exact List.mem_append_left _ member

/-! ## Comments -/

/-- A line is a comment by its first character. -/
theorem isComment_iff (line : List Char) :
    ReadState.isComment line = true ↔ line.head? = some '#' ∨ line.head? = some ';' := by
  cases line with
  | nil => simp [ReadState.isComment]
  | cons c rest =>
    unfold ReadState.isComment
    split <;> simp_all

end Settings

end Jobflow
