import Mathlib
import Jobflow.Proofs.Files.FileTree
import Jobflow.Proofs.Properties.RoundTrip
import Jobflow.Proofs.Text.Lines

/-!
# Comments in properties files

A comment put between two lines of a properties file changes nothing, as long as neither it nor the
text before it goes on in the line after. Continued lines are joined before comments are
recognised, and the white space that is dropped behind a backslash may hold any number of line
breaks. So a comment that ends in a backslash takes the next line in, and a line continued into a
blank one takes in whatever follows that. In both cases a line put after the comment tells the
difference.
-/

namespace Jobflow.PropertiesFile

open Text (isBlank isLineBreak trim trimLeft lines unifyBreaks Ended Apart)

/-! ## Joining texts in a row -/

/-- Joining adds no characters. -/
theorem mem_of_mem_joinContinued {c : Char} {cs : List Char} (member : c ∈ joinContinued cs) :
    c ∈ cs := by
  fun_induction joinContinued cs with
  | case1 => exact member
  | case2 rest inductionHypothesis =>
    have inside := (List.dropWhile_sublist isBlank).mem (inductionHypothesis member)
    exact List.mem_cons_of_mem _ (List.mem_cons_of_mem _ inside)
  | case3 d rest _ inductionHypothesis =>
    rcases List.mem_cons.mp member with rfl | later
    · exact List.mem_cons_self
    · exact List.mem_cons_of_mem d (inductionHypothesis later)

/-- White space stays in front. -/
theorem joinContinued_blank {spaces : List Char} (blank : ∀ c ∈ spaces, isBlank c = true)
    (rest : List Char) : joinContinued (spaces ++ rest) = spaces ++ joinContinued rest := by
  induction spaces with
  | nil => rfl
  | cons c others inductionHypothesis =>
    have noEscape : c ≠ '\\' := by
      rintro rfl
      exact absurd (blank '\\' List.mem_cons_self) (by decide)
    have later := inductionHypothesis fun d member => blank d (List.mem_cons_of_mem c member)
    rw [List.cons_append, joinContinued_cons fun escape => absurd escape noEscape, later,
      List.cons_append]

/-- Texts in a row are joined one by one, except that the first may take away the white space at
the front of the second. -/
theorem exists_joinContinued_append {before : List Char} (ended : Ended before) :
    ∃ opened : Bool, ∀ after, joinContinued (before ++ after) =
      joinContinued before ++ joinContinued (if opened then after.dropWhile isBlank else after) := by
  fun_induction joinContinued before with
  | case1 => exact ⟨false, fun _ => rfl⟩
  | case2 rest inductionHypothesis =>
    by_cases nothing : rest.dropWhile isBlank = []
    · refine ⟨true, fun after => ?_⟩
      rw [List.cons_append, List.cons_append, joinContinued_break, List.dropWhile_append, nothing,
        joinContinued]
      rfl
    · obtain ⟨opened, later⟩ := inductionHypothesis (ended.tail.tail.dropWhile isBlank)
      refine ⟨opened, fun after => ?_⟩
      rw [List.cons_append, List.cons_append, joinContinued_break, List.dropWhile_append,
        if_neg (by simpa using nothing), later]
  | case3 c rest other inductionHypothesis =>
    obtain ⟨opened, later⟩ := inductionHypothesis ended.tail
    refine ⟨opened, fun after => ?_⟩
    have keeps : c = '\\' → (rest ++ after).head? ≠ some '\n' := by
      rintro rfl
      cases rest with
      | nil => exact absurd (ended '\\' rfl) (by decide)
      | cons head others =>
        intro first
        obtain rfl : head = '\n' := by simpa using first
        exact other others rfl rfl
    rw [List.cons_append, joinContinued_cons keeps, later, List.cons_append]

/-! ## The entries of lines -/

/-- The entries in some lines, in order. -/
def pairs (lines : List (List Char)) : List (String × String) :=
  (lines.filter fun line => !isSkipped line).map entry

/-- The entries of a file are those in the lines of the joined text. -/
theorem entries_eq_pairs (cs : List Char) : entries cs = pairs (lines (joinContinued cs)) := rfl

/-- The entries of lines in a row. -/
theorem pairs_append (first second : List (List Char)) :
    pairs (first ++ second) = pairs first ++ pairs second := by
  simp [pairs]

/-- A skipped line has no entry. -/
theorem pairs_cons_of_skipped {line : List Char} (skipped : isSkipped line = true)
    (rest : List (List Char)) : pairs (line :: rest) = pairs rest := by
  simp [pairs, skipped]

/-- White space at the front of a line does not count. -/
theorem pairs_cons_blank {c : Char} (blank : isBlank c = true) (line : List Char)
    (rest : List (List Char)) : pairs ((c :: line) :: rest) = pairs (line :: rest) := by
  have skipped : isSkipped (c :: line) = isSkipped line := by
    rw [isSkipped, List.dropWhile_cons_of_pos blank, isSkipped]
  have read : entry (c :: line) = entry line := by
    rw [entry, trim, trimLeft, List.dropWhile_cons_of_pos blank, entry, trim, trimLeft]
  simp only [pairs, List.filter_cons, skipped]
  split
  · rw [List.map_cons, List.map_cons, read]
  · rfl

/-- White space at the front of a text does not count, line breaks included. -/
theorem pairs_lines_blank {spaces : List Char} (blank : ∀ c ∈ spaces, isBlank c = true)
    (absent : '\r' ∉ spaces) (rest : List Char) :
    pairs (lines (spaces ++ rest)) = pairs (lines rest) := by
  induction spaces with
  | nil => rfl
  | cons c others inductionHypothesis =>
    obtain ⟨other, absentLater⟩ : '\r' ≠ c ∧ '\r' ∉ others := by
      simpa only [List.mem_cons, not_or] using absent
    have later := inductionHypothesis (fun d member => blank d (List.mem_cons_of_mem c member))
      absentLater
    have here := blank c List.mem_cons_self
    rw [List.cons_append, Text.lines_cons (Ne.symm other), ← later]
    split
    · exact pairs_cons_of_skipped rfl _
    · cases lines (others ++ rest) with
      | nil => exact pairs_cons_of_skipped (by simp [isSkipped, here]) _
      | cons line more => exact pairs_cons_blank here line more

/-! ## What the text before leaves open -/

/-- The part of a text, once its continued lines are joined, that the next line goes on from. -/
def leftOpen (before : List Char) : List Char :=
  (joinContinued (unifyBreaks before)).rtakeWhile fun c => !isLineBreak c

/-- Nothing but white space is left open. -/
def Closed (before : List Char) : Prop := ∀ c ∈ leftOpen before, isBlank c = true

/-- What is left open is on one line. -/
theorem unbroken_leftOpen (before : List Char) : ∀ c ∈ leftOpen before, isLineBreak c = false := by
  intro c member
  simpa using List.mem_rtakeWhile_imp member

/-- The text before has entries of its own; what it leaves open goes on in the text after, whose
white space at the front may go. -/
theorem exists_entries_append {before : List Char} (ended : Ended before) :
    ∃ earlier, ∃ opened : Bool, ∀ after, entries (unifyBreaks before ++ after) =
      earlier ++ pairs (lines (leftOpen before ++
        joinContinued (if opened then after.dropWhile isBlank else after))) := by
  obtain ⟨opened, joined⟩ := exists_joinContinued_append ended.unifyBreaks
  let complete := (joinContinued (unifyBreaks before)).rdropWhile fun c => !isLineBreak c
  have split : complete ++ leftOpen before = joinContinued (unifyBreaks before) :=
    List.rdropWhile_append_rtakeWhile
  have absent : '\r' ∉ complete := fun member =>
    Text.not_mem_unifyBreaks before
      (mem_of_mem_joinContinued (split ▸ List.mem_append_left _ member))
  refine ⟨pairs (lines complete), opened, fun after => ?_⟩
  rw [entries_eq_pairs, joined, ← split, List.append_assoc,
    Text.lines_append_of_ended (Text.ended_rdropWhile _) absent, pairs_append]

/-- Texts in a row have the entries of both, where the first one leaves nothing open. -/
theorem exists_entries_append_of_closed {before : List Char} (ended : Ended before)
    (closed : Closed before) :
    ∃ earlier, ∀ after, '\r' ∉ after →
      entries (unifyBreaks before ++ after) = earlier ++ entries after := by
  obtain ⟨earlier, opened, appended⟩ := exists_entries_append ended
  refine ⟨earlier, fun after absent => ?_⟩
  have noReturn : '\r' ∉ leftOpen before := fun member =>
    absurd (unbroken_leftOpen before '\r' member) (by decide)
  rw [appended, pairs_lines_blank closed noReturn]
  cases opened with
  | false => rfl
  | true =>
    -- The white space that goes would not have counted.
    have blank : ∀ c ∈ after.takeWhile isBlank, isBlank c = true := fun c member =>
      List.mem_takeWhile_imp member
    have front : '\r' ∉ after.takeWhile isBlank := fun member =>
      absent ((List.takeWhile_sublist isBlank).mem member)
    rw [entries_eq_pairs, if_pos rfl]
    conv_rhs => rw [← List.takeWhile_append_dropWhile (p := isBlank) (l := after)]
    rw [joinContinued_blank blank, pairs_lines_blank blank front]

/-! ## A comment and the line after it -/

/-- A comment is on one line. -/
theorem unbroken_comment {indentation text : List Char} {mark : Char}
    (indented : ∀ c ∈ indentation, isIndentation c = true) (marked : mark = '#' ∨ mark = '!')
    (unbroken : ∀ c ∈ text, isLineBreak c = false) :
    ∀ c ∈ indentation ++ mark :: text, isLineBreak c = false := by
  simp only [List.forall_mem_append, List.forall_mem_cons]
  refine ⟨fun c member => ((indentation_iff c).mp (indented c member)).2, ?_, unbroken⟩
  rcases marked with rfl | rfl <;> decide

/-- A comment that can be written does not end in a backslash. -/
theorem ends_comment {indentation text : List Char} {mark : Char}
    (writable : WritableComment indentation mark text) :
    ∀ c ∈ (indentation ++ mark :: text).getLast?, c ≠ '\\' := by
  have comment : Item.Writable (.comment indentation mark text) := writable
  exact Item.ends_line comment

/-- There is no carriage return in a line and what follows it. -/
theorem noReturn_line {line rest : List Char} (unbroken : ∀ c ∈ line, isLineBreak c = false)
    (absent : '\r' ∉ rest) : '\r' ∉ line ++ '\n' :: rest := by
  simp only [List.mem_append, List.mem_cons, not_or]
  exact ⟨fun member => absurd (unbroken '\r' member) (by decide), by decide, absent⟩

/-- A line may be put behind any text. -/
theorem apart_line {line : List Char} (unbroken : ∀ c ∈ line, isLineBreak c = false)
    (some : line ≠ []) (before rest : List Char) : Apart before (line ++ rest) := by
  intro _ first
  obtain ⟨c, more, rfl⟩ := List.exists_cons_of_ne_nil some
  obtain rfl : c = '\n' := by simpa using first
  exact absurd (unbroken '\n' List.mem_cons_self) (by decide)

/-- Unifying breaks leaves a line that is put between two texts as it is, and the texts as they are
without it. -/
theorem unifyBreaks_line {line : List Char} (unbroken : ∀ c ∈ line, isLineBreak c = false)
    (some : line ≠ []) (before after : List Char) :
    unifyBreaks (before ++ (line ++ '\n' :: after)) =
      unifyBreaks before ++ (line ++ '\n' :: unifyBreaks after) := by
  have absent : '\r' ∉ line := fun member => absurd (unbroken '\r' member) (by decide)
  have back : Apart line ('\n' :: after) := fun last => absurd (List.mem_of_getLast? last) absent
  rw [Text.unifyBreaks_append (apart_line unbroken some before _), Text.unifyBreaks_append back,
    Text.unifyBreaks_of_not_mem absent, Text.unifyBreaks_cons fun last => absurd last (by decide)]
  rfl

/-- A text that is not all white space has a first character that counts. -/
theorem exists_content {cs : List Char} (content : ∃ c ∈ cs, isBlank c = false) :
    ∃ spaces c rest, (∀ d ∈ spaces, isBlank d = true) ∧ isBlank c = false ∧
      cs = spaces ++ c :: rest := by
  obtain ⟨c, member, here⟩ := content
  have some : cs.dropWhile isBlank ≠ [] := by
    rw [Ne, List.dropWhile_eq_nil_iff]
    intro blank
    exact absurd (blank c member) (by simp [here])
  obtain ⟨d, rest, tail⟩ := List.exists_cons_of_ne_nil some
  refine ⟨cs.takeWhile isBlank, d, rest, fun e inside => List.mem_takeWhile_imp inside, ?_, ?_⟩
  · have first := List.head?_dropWhile_not isBlank cs
    simpa [tail] using first
  · rw [← tail, List.takeWhile_append_dropWhile]

/-- Of a line with content, nothing but white space at its front goes. -/
theorem exists_kept {front : List Char} {c : Char} (blank : ∀ d ∈ front, isBlank d = true)
    (content : isBlank c = false) (opened : Bool) (rest after : List Char) :
    let text := front ++ c :: rest ++ '\n' :: after
    ∃ kept, kept <:+ front ∧
      (if opened then text.dropWhile isBlank else text) = kept ++ c :: rest ++ '\n' :: after := by
  cases opened with
  | false => exact ⟨front, List.suffix_refl front, rfl⟩
  | true =>
    refine ⟨[], List.nil_suffix, ?_⟩
    rw [if_pos rfl, List.append_assoc, List.dropWhile_append_of_pos blank, List.cons_append,
      List.dropWhile_cons_of_neg (by simp [content])]
    rfl

/-- Behind a line feed, no more is left open than stands after it. -/
theorem mem_of_mem_rtakeWhile {c : Char} (before after : List Char)
    (member : c ∈ (before ++ '\n' :: after).rtakeWhile fun c => !isLineBreak c) : c ∈ after := by
  rw [List.rtakeWhile, List.mem_reverse, List.reverse_append, List.reverse_cons,
    List.append_assoc, List.takeWhile_append] at member
  split at member
  · have ends : isLineBreak '\n' = true := by decide
    simpa [ends] using member
  · exact List.mem_reverse.mp ((List.takeWhile_sublist _).mem member)

/-- Nothing is left open behind a line with content that does not end in a backslash, even if blank
lines come after it. -/
theorem closed_of_content {earlier line spaces : List Char} (ended : Ended earlier)
    (unbroken : ∀ c ∈ line, isLineBreak c = false) (content : ∃ c ∈ line, isBlank c = false)
    (ends : ∀ c ∈ line.getLast?, c ≠ '\\') (blank : ∀ c ∈ spaces, isBlank c = true) :
    Closed (earlier ++ (line ++ '\n' :: spaces)) := by
  intro c member
  obtain ⟨opened, joined⟩ := exists_joinContinued_append ended.unifyBreaks
  obtain ⟨front, d, rest, blankFront, counts, rfl⟩ := exists_content content
  obtain ⟨kept, suffix, stays⟩ :=
    exists_kept blankFront counts opened rest (unifyBreaks spaces)
  have unbrokenKept : ∀ e ∈ kept ++ d :: rest, isLineBreak e = false := by
    rw [List.forall_mem_append] at unbroken ⊢
    exact ⟨fun e inside => unbroken.1 e (suffix.mem inside), unbroken.2⟩
  have endsKept : ∀ e ∈ (kept ++ d :: rest).getLast?, e ≠ '\\' := by simpa using ends
  rw [leftOpen, unifyBreaks_line unbroken (by simp), joined, stays,
    joinContinued_line unbrokenKept endsKept, ← List.append_assoc] at member
  have inside := mem_of_mem_joinContinued (mem_of_mem_rtakeWhile _ _ member)
  rcases Text.mem_of_mem_unifyBreaks inside with rfl | among
  · decide
  · exact blank c among

/-- A comment that does not end in a backslash has no entries. -/
theorem entries_comment {indentation text : List Char} {mark : Char}
    (writable : WritableComment indentation mark text) (rest : List Char) :
    entries (indentation ++ mark :: text ++ '\n' :: rest) = entries rest := by
  have comment : Item.Writable (.comment indentation mark text) := writable
  exact entries_line comment rest

/-- A comment that ends in a backslash takes the next line in. -/
theorem entries_comment_continued {indentation body line : List Char} {mark : Char}
    (writable : WritableComment indentation mark (body ++ line))
    (content : ∀ c ∈ line.head?, isBlank c = false) (some : line ≠ []) (rest : List Char) :
    entries (indentation ++ mark :: (body ++ ['\\']) ++ '\n' :: (line ++ '\n' :: rest)) =
      entries rest := by
  obtain ⟨c, more, rfl⟩ := List.exists_cons_of_ne_nil some
  have unindented : ∀ d ∈ ([] : List Char), isBlank d = true := nofun
  have joined := joinContinued_broken (content c rfl) unindented (more ++ '\n' :: rest)
    (indentation ++ mark :: body)
  have skipped := entries_comment writable rest
  rw [entries_eq_pairs] at skipped ⊢
  rw [← skipped]
  simp only [List.append_assoc, List.cons_append, List.nil_append] at joined ⊢
  rw [joined]

/-- A line with a key and no value. -/
def keyLine (key : List Char) : List Char := escapeKey key ++ ['=']

/-- The line of a key can be written. -/
theorem writable_pair {key : List Char} (writable : WritableKey key) :
    Item.Writable (.pair key []) :=
  ⟨writable, by decide⟩

/-- A line with a key has one entry. -/
theorem entries_keyLine {key : List Char} (writable : WritableKey key) (rest : List Char) :
    entries (keyLine key ++ '\n' :: rest) = (String.ofList key, "") :: entries rest :=
  entries_line (writable_pair writable) rest

/-- Repeating a letter gives a new key sooner or later. -/
theorem exists_fresh (letter : Char) (taken : List String) :
    ∃ count, String.ofList (List.replicate (count + 1) letter) ∉ taken := by
  have injective :
      Function.Injective fun count => String.ofList (List.replicate (count + 1) letter) := by
    intro count other same
    have lengths := congrArg String.length same
    simpa using lengths
  obtain ⟨name, ⟨count, rfl⟩, fresh⟩ :=
    (Set.infinite_range_of_injective injective).exists_notMem_finset taken.toFinset
  exact ⟨count, by simpa using fresh⟩

/-- A repeated letter can be written. -/
theorem writableKey_replicate {letter : Char} (plain : letter = 'k' ∨ letter = 'v') (count : Nat) :
    WritableKey (List.replicate count letter) := by
  have only {c : Char} (member : c ∈ List.replicate count letter) : c = 'k' ∨ c = 'v' :=
    List.eq_of_mem_replicate member ▸ plain
  refine ⟨fun c member => ?_, fun c first => ?_, fun c last => ?_⟩
  · rcases only member with rfl | rfl <;> decide
  · rcases only (List.mem_of_head? first) with rfl | rfl <;> decide
  · rcases only (List.mem_of_getLast? last) with rfl | rfl <;> decide

/-- Dropping backslashes leaves the first character, unless that is a backslash in front of a
separator. -/
theorem starts_unescapeKey (c : Char) (rest : List Char) :
    ∀ d ∈ (unescapeKey (c :: rest)).head?, d = c ∨ isMark d = true ∨ isBlank d = true := by
  intro d first
  cases rest with
  | nil =>
    left
    simpa [unescapeKey, eq_comm] using first
  | cons e more =>
    by_cases escape : c = '\\' ∧ (isMark e || isBlank e) = true
    · obtain ⟨rfl, separates⟩ := escape
      rw [unescapeKey, if_pos separates] at first
      obtain rfl := Option.some.inj first
      right
      simpa using separates
    · have stays : c = '\\' → ∀ d ∈ (e :: more).head?, (isMark d || isBlank d) = false := by
        rintro same _ ⟨⟩
        exact Bool.eq_false_iff.mpr fun separates => escape ⟨same, separates⟩
      rw [unescapeKey_cons stays] at first
      exact .inl (Option.some.inj first).symm

/-- The key of a line starts with the first character of the line that is no white space, unless it
is empty or starts with a separator. -/
theorem starts_key {c : Char} (content : isBlank c = false) (rest : List Char) :
    ∃ key, (entry (c :: rest)).1 = String.ofList key ∧
      ∀ d ∈ key.head?, d = c ∨ isMark d = true ∨ isBlank d = true := by
  obtain ⟨more, trimmed⟩ : ∃ more, trim (c :: rest) = c :: more := by
    rw [trim, trimLeft, List.dropWhile_cons_of_neg (by simp [content]), Text.trimRight,
      Text.dropEndWhile]
    split
    · exact ⟨[], by simp [content]⟩
    · exact ⟨_, rfl⟩
  refine ⟨unescapeKey (cutSeparator false (c :: more)).1, by rw [entry, trimmed], ?_⟩
  by_cases marked : isMark c = true
  · simp [cutSeparator, marked, unescapeKey]
  · simpa only [cutSeparator, marked, content, Bool.and_false, Bool.false_eq_true, if_false]
      using starts_unescapeKey c _

/-- The line of a key starts with a character that counts. -/
theorem exists_keyLine_cons {key : List Char} (writable : WritableKey key) :
    ∃ c rest, keyLine key = c :: rest ∧ isBlank c = false := by
  obtain ⟨c, rest, same, content, -⟩ := exists_line_cons writable []
  exact ⟨c, rest, same, content⟩

/-- The line of a key is not empty. -/
theorem keyLine_ne_nil (key : List Char) : keyLine key ≠ [] := by simp [keyLine]

/-- The line of a key is on one line. -/
theorem unbroken_keyLine {key : List Char} (writable : WritableKey key) :
    ∀ c ∈ keyLine key, isLineBreak c = false :=
  Item.unbroken_line (writable_pair writable)

/-- There is no carriage return in the line of a key. -/
theorem noReturn_keyLine {key : List Char} (writable : WritableKey key) :
    '\r' ∉ keyLine key ++ ['\n'] :=
  noReturn_line (unbroken_keyLine writable) List.not_mem_nil

/-- Unifying breaks leaves the line of a key as it is. -/
theorem unifyBreaks_keyLine {key : List Char} (writable : WritableKey key) (before : List Char) :
    unifyBreaks (before ++ (keyLine key ++ ['\n'])) =
      unifyBreaks before ++ (keyLine key ++ ['\n']) :=
  unifyBreaks_line (unbroken_keyLine writable) (keyLine_ne_nil key) before []

/-- The line of a key does not end in a backslash. -/
theorem ends_keyLine (key : List Char) : ∀ c ∈ (keyLine key).getLast?, c ≠ '\\' := by
  simp [keyLine]

/-! ## Where a comment is not inert -/

/-- The keys in a text, in the order of their definitions. -/
def names (cs : List Char) : List String := (entries (unifyBreaks cs)).map Prod.fst

section

variable {before indentation text : List Char} {mark : Char}

/-- A comment that ends in a backslash hides the key that is defined in the next line. -/
theorem exists_hidden (ended : Ended before) (closed : Closed before)
    (indented : ∀ c ∈ indentation, isIndentation c = true) (marked : mark = '#' ∨ mark = '!')
    (unbroken : ∀ c ∈ text, isLineBreak c = false) (continued : text.getLast? = some '\\') :
    ∃ key, WritableKey key ∧
      String.ofList key ∈ names (before ++ (keyLine key ++ ['\n'])) ∧
      String.ofList key ∉ names (before ++
        (indentation ++ mark :: text ++ '\n' :: (keyLine key ++ ['\n']))) := by
  obtain ⟨body, rfl⟩ := List.getLast?_eq_some_iff.mp continued
  obtain ⟨earlier, appended⟩ := exists_entries_append_of_closed ended closed
  obtain ⟨count, fresh⟩ := exists_fresh 'k' (earlier.map Prod.fst)
  have writable := writableKey_replicate (.inl rfl : 'k' = 'k' ∨ 'k' = 'v') (count + 1)
  generalize List.replicate (count + 1) 'k' = key at fresh writable
  have comment : WritableComment indentation mark (body ++ keyLine key) := by
    refine ⟨indented, marked, fun c member => ?_, by simp [keyLine]⟩
    rcases List.mem_append.mp member with inBody | inLine
    · exact unbroken c (List.mem_append_left _ inBody)
    · exact unbroken_keyLine writable c inLine
  obtain ⟨c, rest, line, content⟩ := exists_keyLine_cons writable
  have hidden := entries_comment_continued comment (by simp [line, content]) (by simp [line]) []
  have lineAbsent := noReturn_keyLine writable
  have unbrokenComment := unbroken_comment indented marked unbroken
  refine ⟨key, writable, ?_, ?_⟩
  · rw [names, unifyBreaks_keyLine writable, appended _ lineAbsent, entries_keyLine writable]
    simp
  · rw [names, unifyBreaks_line unbrokenComment (by simp),
      Text.unifyBreaks_of_not_mem lineAbsent, appended _ (noReturn_line unbrokenComment lineAbsent), hidden]
    simpa [entries, joinContinued, lines] using fresh

/-- A key that starts with a letter of its own is not the key of a line. -/
theorem key_ne {c letter : Char} (content : isBlank c = false)
    (plain : letter = 'k' ∨ letter = 'v') (different : letter ≠ c) {key : List Char}
    (first : key.head? = some letter) (rest : List Char) :
    String.ofList key ≠ (entry (c :: rest)).1 := by
  intro same
  obtain ⟨other, read, starts⟩ := starts_key content rest
  obtain rfl : key = other := String.ofList_injective (same.trans read)
  have noSeparator : isMark letter = false ∧ isBlank letter = false := by
    rcases plain with rfl | rfl <;> decide
  rcases starts letter first with same | marked | blank
  · exact different same
  · exact absurd marked (by simp [noSeparator])
  · exact absurd blank (by simp [noSeparator])

/-- Where a line was left open, the next line goes on from it. -/
theorem pairs_leftOpen {spaces rest : List Char} {c : Char}
    (split : leftOpen before = spaces ++ c :: rest) (blank : ∀ d ∈ spaces, isBlank d = true)
    {line : List Char} (unbroken : ∀ d ∈ line, isLineBreak d = false)
    (ends : ∀ d ∈ line.getLast?, d ≠ '\\') (after : List Char) :
    pairs (lines (leftOpen before ++ joinContinued (line ++ '\n' :: after))) =
      pairs [c :: (rest ++ line)] ++ entries after := by
  have inside := unbroken_leftOpen before
  rw [split, List.forall_mem_append] at inside
  have noReturn : '\r' ∉ spaces := fun member => absurd (inside.1 '\r' member) (by decide)
  have whole : ∀ d ∈ c :: rest ++ line, isLineBreak d = false :=
    List.forall_mem_append.mpr ⟨inside.2, unbroken⟩
  rw [split, List.append_assoc, pairs_lines_blank blank noReturn, joinContinued_line unbroken ends,
    ← List.append_assoc, lines_append whole, ← List.singleton_append, pairs_append,
    entries_eq_pairs, List.cons_append]

/-- A comment behind a line that was left open lets the next line define a key, which it does not
without the comment. -/
theorem exists_revealed (ended : Ended before) (continues : ¬ Closed before)
    (writable : WritableComment indentation mark text) :
    ∃ key, WritableKey key ∧
      String.ofList key ∉ names (before ++ (keyLine key ++ ['\n'])) ∧
      String.ofList key ∈ names (before ++
        (indentation ++ mark :: text ++ '\n' :: (keyLine key ++ ['\n']))) := by
  obtain ⟨earlier, opened, appended⟩ := exists_entries_append ended
  obtain ⟨spaces, c, rest, blank, content, split⟩ :=
    exists_content (by simpa [Closed] using continues)
  -- The open line starts with another letter than the key.
  let letter := if c = 'k' then 'v' else 'k'
  have plain : letter = 'k' ∨ letter = 'v' := by grind
  have different : letter ≠ c := by grind
  obtain ⟨count, fresh⟩ := exists_fresh letter (earlier.map Prod.fst)
  have writableKey := writableKey_replicate plain (count + 1)
  have first : (List.replicate (count + 1) letter).head? = some letter := rfl
  generalize List.replicate (count + 1) letter = key at fresh writableKey first
  refine ⟨key, writableKey, ?_, ?_⟩
  · obtain ⟨d, more, line, starts⟩ := exists_keyLine_cons writableKey
    have kept : (if opened then (keyLine key ++ ['\n']).dropWhile isBlank
        else keyLine key ++ ['\n']) = keyLine key ++ '\n' :: [] := by
      cases opened <;> simp [line, starts]
    rw [names, unifyBreaks_keyLine writableKey, appended, kept,
      pairs_leftOpen split blank (unbroken_keyLine writableKey) (ends_keyLine key),
      List.map_append, List.mem_append, not_or]
    refine ⟨fresh, fun member => ?_⟩
    obtain ⟨-, same⟩ : isSkipped (c :: (rest ++ keyLine key)) = false ∧
        (entry (c :: (rest ++ keyLine key))).1 = String.ofList key := by
      simpa [pairs, entries, joinContinued, lines] using member
    exact key_ne content plain different first (rest ++ keyLine key) same.symm
  · have blankFront : ∀ d ∈ indentation, isBlank d = true := fun d member =>
      ((indentation_iff d).mp (writable.indented d member)).1
    have counts : isBlank mark = false := by rcases writable.marked with rfl | rfl <;> decide
    obtain ⟨front, suffix, stays⟩ :=
      exists_kept blankFront counts opened text (keyLine key ++ ['\n'])
    have comment : WritableComment front mark text :=
      { writable with indented := fun d member => writable.indented d (suffix.mem member) }
    have unbroken := unbroken_comment writable.indented writable.marked writable.unbroken
    have lineAbsent := noReturn_keyLine writableKey
    rw [names, unifyBreaks_line unbroken (by simp), Text.unifyBreaks_of_not_mem lineAbsent,
      appended, stays, pairs_leftOpen split blank
        (unbroken_comment comment.indented comment.marked comment.unbroken)
        (ends_comment comment), entries_keyLine writableKey]
    simp

end

/-! ## Files with a comment and without it -/

/-- The entries of the file at a path. -/
def entriesAt (world : World) (path : String) : Except Refusal (List (String × String)) :=
  (contents world.tree world.folder path).map entries

/-- The entries of some files are those of each, or the first refusal. -/
theorem mapM_entriesAt (world : World) (paths : List String) :
    paths.mapM (entriesAt world) =
      (paths.mapM (contents world.tree world.folder)).map (List.map entries) := by
  induction paths with
  | nil => rfl
  | cons path rest inductionHypothesis =>
    rw [List.mapM_cons, List.mapM_cons, inductionHypothesis, entriesAt]
    cases contents world.tree world.folder path with
    | error reason => rfl
    | ok cs => cases rest.mapM (contents world.tree world.folder) <;> rfl

/-- Loading depends on nothing but the entries of the files. -/
theorem load_fst (paths : List String) (world : World) :
    (load paths world).1 = match paths.mapM (entriesAt world) with
      | .ok found => .ok (.ofList found.flatten)
      | .error reason => .error (.refused reason) := by
  have present : (get : Action World) world = (.ok world, world) := rfl
  rw [load, Action.bind_of_ok _ present, mapM_entriesAt]
  cases paths.mapM (contents world.tree world.folder) <;> rfl

/-- The entries of a text file are those of its text, with line feeds for all line ends. -/
theorem entriesAt_of_find {world : World} {path : String} {place : List String} {cs : List Char}
    (found : world.tree.find world.folder path = .ok (place, .text (String.ofList cs))) :
    entriesAt world path = .ok (entries (unifyBreaks cs)) := by
  have opened : contents world.tree world.folder path = .ok (unifyBreaks cs) := by
    simp only [contents, found, File.characters, String.toList_ofList]
  rw [entriesAt, opened]
  rfl

/-- The world with some text in the file at a place. -/
def withText (world : World) (place : List String) (cs : List Char) : World :=
  { world with tree := world.tree.put place (.text (String.ofList cs)) }

/-- Texts with the same entries are loaded alike, whichever files are loaded with them. -/
theorem load_withText_congr {first second : List Char}
    (same : entries (unifyBreaks first) = entries (unifyBreaks second)) (world : World)
    (place paths : List String) :
    (load paths (withText world place first)).1 = (load paths (withText world place second)).1 := by
  have read : entriesAt (withText world place first) = entriesAt (withText world place second) := by
    funext path
    rcases @FileTree.find_put_cases world.tree (.text (String.ofList first))
        (.text (String.ofList second)) nofun nofun place world.folder path with
      unchanged | ⟨spot, found, otherFound⟩
    · simp only [entriesAt, contents, withText, unchanged]
    · have firstRead : entriesAt (withText world place first) path =
          .ok (entries (unifyBreaks first)) := entriesAt_of_find found
      have secondRead : entriesAt (withText world place second) path =
          .ok (entries (unifyBreaks second)) := entriesAt_of_find otherFound
      rw [firstRead, secondRead, same]
  rw [load_fst, load_fst, read]

/-- Texts with other keys are told apart by loading them. -/
theorem load_withText_ne {world : World} {path : String} {place : List String}
    (found : world.tree.placeFor world.folder path = .ok place) {first second : List Char}
    {name : String} (defined : name ∈ names first)
    (undefined : name ∉ names second) :
    (load [path] (withText world place first)).1 ≠
      (load [path] (withText world place second)).1 := by
  have loaded (cs : List Char) : (load [path] (withText world place cs)).1 =
      .ok (.ofList (entries (unifyBreaks cs))) := by
    have read : entriesAt (withText world place cs) path = .ok (entries (unifyBreaks cs)) :=
      entriesAt_of_find (FileTree.find_put found (.text (String.ofList cs)))
    rw [load_fst, List.mapM_cons, read, List.mapM_nil]
    simp
  intro same
  rw [loaded, loaded] at same
  have keys := congrArg OrderedMap.keys (Except.ok.inj same)
  rw [OrderedMap.keys_ofList, OrderedMap.keys_ofList] at keys
  refine undefined (List.mem_eraseDups.mp ?_)
  rw [names, ← keys]
  exact List.mem_eraseDups.mpr defined

/-- Put between two lines of a file, a comment changes nothing that is loaded, whatever comes after
it and whichever files are loaded, exactly if the text before leaves nothing open and the comment
does not end in a backslash. This is said of a comment that does not fail both. -/
theorem load_with_comment_iff {world : World} {path : String} {place : List String}
    (found : world.tree.placeFor world.folder path = .ok place)
    {before indentation text : List Char} {mark : Char} (ended : Ended before)
    (indented : ∀ c ∈ indentation, isIndentation c = true) (marked : mark = '#' ∨ mark = '!')
    (unbroken : ∀ c ∈ text, isLineBreak c = false)
    (once : Closed before ∨ ∀ c ∈ text.getLast?, c ≠ '\\') :
    (∀ after, Apart before after → ∀ paths,
      (load paths (withText world place
          (before ++ (indentation ++ mark :: text ++ '\n' :: after)))).1 =
        (load paths (withText world place (before ++ after))).1) ↔
      Closed before ∧ ∀ c ∈ text.getLast?, c ≠ '\\' := by
  have comment := unbroken_comment indented marked unbroken
  have content : indentation ++ mark :: text ≠ [] := by simp
  constructor
  · intro inert
    by_cases closed : Closed before
    · refine ⟨closed, ?_⟩
      rintro _ last rfl
      obtain ⟨key, writable, defined, hidden⟩ :=
        exists_hidden ended closed indented marked unbroken last
      have apart := apart_line (unbroken_keyLine writable) (keyLine_ne_nil key) before ['\n']
      exact load_withText_ne found defined hidden (inert _ apart [path]).symm
    · obtain ends := once.resolve_left closed
      obtain ⟨key, writable, missing, revealed⟩ :=
        exists_revealed ended closed ⟨indented, marked, unbroken, ends⟩
      have apart := apart_line (unbroken_keyLine writable) (keyLine_ne_nil key) before ['\n']
      exact absurd (inert _ apart [path]) (load_withText_ne found revealed missing)
  · rintro ⟨closed, ends⟩ after apart paths
    obtain ⟨earlier, appended⟩ := exists_entries_append_of_closed ended closed
    apply load_withText_congr
    have absent := Text.not_mem_unifyBreaks after
    rw [unifyBreaks_line comment content, Text.unifyBreaks_append apart,
      appended _ (noReturn_line comment absent), appended _ absent,
      entries_comment ⟨indented, marked, unbroken, ends⟩]

/-- A world without files. -/
def bare : World where
  folder := "/"
  tree := { files := .empty }

/-- A comment behind a line that ends is inert. -/
theorem bare_inert :
    bare.tree.placeFor bare.folder "notes" = .ok ["notes"] ∧ Ended "a=1\n".toList ∧
      ∀ after, Apart "a=1\n".toList after → ∀ paths,
        (load paths (withText bare ["notes"] ("a=1\n  # C:\\temp\n".toList ++ after))).1 =
          (load paths (withText bare ["notes"] ("a=1\n".toList ++ after))).1 := by
  have free : bare.tree.placeFor bare.folder "notes" = .ok ["notes"] := rfl
  have ended : Ended "a=1\n".toList := by decide +kernel
  have unbroken : ∀ c ∈ "a=1".toList, isLineBreak c = false := all_not_iff.mp (by decide +kernel)
  have content : ∃ c ∈ "a=1".toList, isBlank c = false := ⟨'a', by simp, by decide⟩
  have ends : ∀ c ∈ "a=1".toList.getLast?, c ≠ '\\' := forall_mem_ne_iff.mpr (by decide +kernel)
  have closed : Closed ([] ++ ("a=1".toList ++ '\n' :: [])) :=
    closed_of_content (by decide) unbroken content ends nofun
  have indented : ∀ c ∈ "  ".toList, isIndentation c = true :=
    List.all_eq_true.mp (by decide +kernel)
  have unbrokenText : ∀ c ∈ " C:\\temp".toList, isLineBreak c = false :=
    all_not_iff.mp (by decide +kernel)
  have endsText : ∀ c ∈ " C:\\temp".toList.getLast?, c ≠ '\\' :=
    forall_mem_ne_iff.mpr (by decide +kernel)
  refine ⟨free, ended, fun after apart paths => ?_⟩
  exact (load_with_comment_iff free ended indented (.inl rfl) unbrokenText (.inl closed)).mpr
    ⟨closed, endsText⟩ after apart paths

/-- A comment that ends in a backslash hides the line after it. A comment behind a line that is
continued into a blank one becomes part of its value, and the line after it is one of its own. -/
theorem bare_interferes :
    ((load ["notes"] (withText bare ["notes"] "a=1\n".toList)).1 = .ok (.ofList [("a", "1")]) ∧
      (load ["notes"] (withText bare ["notes"] "# C:\\\na=1\n".toList)).1 = .ok .empty) ∧
    ((load ["notes"] (withText bare ["notes"] "a=1\\\n\nb=2\n".toList)).1 =
        .ok (.ofList [("a", "1b=2")]) ∧
      (load ["notes"] (withText bare ["notes"] "a=1\\\n\n# x\nb=2\n".toList)).1 =
        .ok (.ofList [("a", "1# x"), ("b", "2")])) := by
  refine ⟨⟨?_, ?_⟩, ?_, ?_⟩ <;> cbv

end Jobflow.PropertiesFile
