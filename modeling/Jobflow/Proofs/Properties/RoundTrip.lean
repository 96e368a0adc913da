import Jobflow.Proofs.OrderedMap
import Jobflow.Proofs.Session.Call
import Jobflow.Proofs.Settings.Lines
import Jobflow.Proofs.Text.Blank
import Jobflow.Properties.Load

/-!
# Properties files read back

Pairs of a key and a value are written one to a line, with a backslash in front of every
separator in the key. Blank lines and comments may stand between them, and any line may be broken
before any of its characters that is no white space, by a backslash, a line feed and indentation.
Whatever is written so is read back: the files together give each key its last value, at the place
of its first definition.

Keys that start like a comment and keys and values that end in a backslash cannot be written in
this way, and neither can values with white space at their ends.
-/

namespace Jobflow.PropertiesFile

open Text (isBlank isLineBreak trim Bare)

/-! ## What is written -/

/-- A key with a backslash in front of every separator. -/
def escapeKey : List Char → List Char
  | [] => []
  | c :: rest => if isMark c || isBlank c then '\\' :: c :: escapeKey rest else c :: escapeKey rest

/-- White space within a line. -/
def isIndentation (c : Char) : Bool := isBlank c && !isLineBreak c

/-- A key that can be written. -/
structure WritableKey (key : List Char) : Prop where
  /-- It is on one line. -/
  unbroken : ∀ c ∈ key, isLineBreak c = false
  /-- It does not start like a comment. -/
  starts : ∀ c ∈ key.head?, c ≠ '#' ∧ c ≠ '!'
  /-- It does not end in a backslash, which would escape the mark after it. -/
  ends : ∀ c ∈ key.getLast?, c ≠ '\\'

/-- A value that can be written. -/
structure WritableValue (value : List Char) : Prop where
  /-- It is on one line. -/
  unbroken : ∀ c ∈ value, isLineBreak c = false
  /-- No white space stands at its ends. -/
  bare : Bare value
  /-- It does not end in a backslash, which would continue the line. -/
  ends : ∀ c ∈ value.getLast?, c ≠ '\\'

/-- A comment that can be written. -/
structure WritableComment (indentation : List Char) (mark : Char) (text : List Char) : Prop where
  /-- White space may come before the mark. -/
  indented : ∀ c ∈ indentation, isIndentation c = true
  /-- The mark. -/
  marked : mark = '#' ∨ mark = '!'
  /-- It is on one line. -/
  unbroken : ∀ c ∈ text, isLineBreak c = false
  /-- It does not end in a backslash, which would continue the line. -/
  ends : ∀ c ∈ text.getLast?, c ≠ '\\'

/-! That something can be written is decided character by character. -/

/-- An optional character differs from another one exactly if it is not that one. -/
theorem forall_mem_ne_iff {found : Option Char} {other : Char} :
    (∀ c ∈ found, c ≠ other) ↔ found ≠ some other :=
  ⟨fun differs same => differs other same rfl, fun apart _ member same => apart (same ▸ member)⟩

/-- All characters fail a test exactly if the opposite test holds of all. -/
theorem all_not_iff {test : Char → Bool} {cs : List Char} :
    (cs.all fun c => !test c) = true ↔ ∀ c ∈ cs, test c = false := by
  simp

instance (key : List Char) : Decidable (WritableKey key) :=
  decidable_of_iff
    ((key.all fun c => !isLineBreak c) = true ∧
      (key.head? ≠ some '#' ∧ key.head? ≠ some '!') ∧ key.getLast? ≠ some '\\')
    ⟨fun ⟨unbroken, starts, ends⟩ => ⟨all_not_iff.mp unbroken,
      fun c member => ⟨forall_mem_ne_iff.mpr starts.1 c member,
        forall_mem_ne_iff.mpr starts.2 c member⟩, forall_mem_ne_iff.mpr ends⟩,
    fun ⟨unbroken, starts, ends⟩ => ⟨all_not_iff.mpr unbroken,
      ⟨forall_mem_ne_iff.mp fun c member => (starts c member).1,
        forall_mem_ne_iff.mp fun c member => (starts c member).2⟩, forall_mem_ne_iff.mp ends⟩⟩

instance (value : List Char) : Decidable (WritableValue value) :=
  decidable_of_iff
    ((value.all fun c => !isLineBreak c) = true ∧ Bare value ∧ value.getLast? ≠ some '\\')
    ⟨fun ⟨unbroken, bare, ends⟩ =>
      ⟨all_not_iff.mp unbroken, bare, forall_mem_ne_iff.mpr ends⟩,
    fun ⟨unbroken, bare, ends⟩ =>
      ⟨all_not_iff.mpr unbroken, bare, forall_mem_ne_iff.mp ends⟩⟩

instance (indentation : List Char) (mark : Char) (text : List Char) :
    Decidable (WritableComment indentation mark text) :=
  decidable_of_iff
    (indentation.all isIndentation = true ∧ (mark = '#' ∨ mark = '!') ∧
      (text.all fun c => !isLineBreak c) = true ∧ text.getLast? ≠ some '\\')
    ⟨fun ⟨indented, marked, unbroken, ends⟩ =>
      ⟨List.all_eq_true.mp indented, marked, all_not_iff.mp unbroken, forall_mem_ne_iff.mpr ends⟩,
    fun ⟨indented, marked, unbroken, ends⟩ => ⟨List.all_eq_true.mpr indented, marked,
      all_not_iff.mpr unbroken, forall_mem_ne_iff.mp ends⟩⟩

/-- What a line is written for. -/
inductive Item
  /-- A key and its value. -/
  | pair (key value : List Char)
  /-- Nothing but white space. -/
  | blank (spaces : List Char)
  /-- A comment. -/
  | comment (indentation : List Char) (mark : Char) (text : List Char)

namespace Item

/-- The line of an item, before it is broken. -/
def line : Item → List Char
  | .pair key value => escapeKey key ++ '=' :: value
  | .blank spaces => spaces
  | .comment indentation mark text => indentation ++ mark :: text

/-- The key and value of an item, if it has any. -/
def pair? : Item → Option (String × String)
  | .pair key value => some (String.ofList key, String.ofList value)
  | _ => none

/-- An item that can be written. -/
def Writable : Item → Prop
  | .pair key value => WritableKey key ∧ WritableValue value
  | .blank spaces => ∀ c ∈ spaces, isIndentation c = true
  | .comment indentation mark text => WritableComment indentation mark text

instance : (item : Item) → Decidable item.Writable
  | .pair key value => inferInstanceAs (Decidable (WritableKey key ∧ WritableValue value))
  | .blank spaces => decidable_of_iff (spaces.all isIndentation = true) List.all_eq_true
  | .comment indentation mark text =>
    inferInstanceAs (Decidable (WritableComment indentation mark text))

end Item

/-- A line broken any number of times before characters that are no white space, those of earlier
breaks included. -/
inductive Broken (line : List Char) : List Char → Prop
  /-- The line as it is. -/
  | whole : Broken line line
  /-- One break more. -/
  | further {before indentation after : List Char} {c : Char}
      (broken : Broken line (before ++ c :: after)) (content : isBlank c = false)
      (indented : ∀ d ∈ indentation, isIndentation d = true) :
      Broken line (before ++ '\\' :: '\n' :: (indentation ++ c :: after))

/-- The texts of a file for some items. -/
inductive Written : List Item → List Char → Prop
  /-- The empty file. -/
  | nothing : Written [] []
  /-- A further line in front. -/
  | item {item : Item} {rest : List Item} {broken text : List Char} (writable : item.Writable)
      (line : Broken item.line broken) (later : Written rest text) :
      Written (item :: rest) (broken ++ '\n' :: text)

/-! ## Joining continued lines -/

/-- A break goes, together with the white space after it. -/
theorem joinContinued_break (rest : List Char) :
    joinContinued ('\\' :: '\n' :: rest) = joinContinued (rest.dropWhile isBlank) := by
  rw [joinContinued]

/-- Any other character stays. -/
theorem joinContinued_cons {c : Char} {rest : List Char}
    (other : c = '\\' → rest.head? ≠ some '\n') :
    joinContinued (c :: rest) = c :: joinContinued rest := by
  rw [joinContinued]
  rintro later rfl rfl
  exact other rfl rfl

/-- A break before a character that is no white space may as well not be there, whatever comes
before and after it. -/
theorem joinContinued_broken {c : Char} (content : isBlank c = false) {indentation : List Char}
    (blank : ∀ d ∈ indentation, isBlank d = true) (after before : List Char) :
    joinContinued (before ++ '\\' :: '\n' :: (indentation ++ c :: after)) =
      joinContinued (before ++ c :: after) := by
  have here : joinContinued ('\\' :: '\n' :: (indentation ++ c :: after)) =
      joinContinued (c :: after) := by
    rw [joinContinued_break, List.dropWhile_append_of_pos blank,
      List.dropWhile_cons_of_neg (by simp [content])]
  have noFeed : c ≠ '\n' := by
    rintro rfl
    exact absurd content (by decide)
  -- The induction is on the length, since an earlier break takes more than one character away.
  induction length : before.length using Nat.strong_induction_on generalizing before with
  | _ length inductionHypothesis =>
    subst length
    cases before with
    | nil => exact here
    | cons b rest =>
      rw [List.cons_append, List.cons_append]
      by_cases breaks : b = '\\' ∧ rest.head? = some '\n'
      · obtain ⟨rfl, first⟩ := breaks
        obtain ⟨others, rfl⟩ := List.head?_eq_some_iff.mp first
        have shorter : (others.dropWhile isBlank).length < ('\\' :: '\n' :: others).length := by
          have := (List.dropWhile_sublist (l := others) isBlank).length_le
          simp only [List.length_cons]
          omega
        rw [List.cons_append, List.cons_append, joinContinued_break, joinContinued_break,
          List.dropWhile_append, List.dropWhile_append]
        split
        · rw [List.dropWhile_cons_of_neg (by decide),
            List.dropWhile_cons_of_neg (by simp [content])]
          exact here
        · exact inductionHypothesis _ shorter _ rfl
      · have later := inductionHypothesis rest.length (by simp) rest rfl
        have keeps : ∀ next : Char, next ≠ '\n' → ∀ tail : List Char,
            b = '\\' → (rest ++ next :: tail).head? ≠ some '\n' := by
          intro next different tail escape
          cases rest with
          | nil => simpa using different
          | cons head others => simpa [escape] using breaks
        rw [joinContinued_cons (keeps '\\' (by decide) _), joinContinued_cons (keeps c noFeed _),
          later]

/-- A line that does not end in a backslash goes on in no other one. -/
theorem joinContinued_line {line : List Char} (unbroken : ∀ c ∈ line, isLineBreak c = false)
    (ends : ∀ c ∈ line.getLast?, c ≠ '\\') (rest : List Char) :
    joinContinued (line ++ '\n' :: rest) = line ++ '\n' :: joinContinued rest := by
  induction line with
  | nil =>
    rw [List.nil_append, joinContinued_cons fun escape => absurd escape (by decide),
      List.nil_append]
  | cons c line inductionHypothesis =>
    have later := inductionHypothesis (fun d member => unbroken d (List.mem_cons_of_mem _ member))
      fun d last => by
        cases line with
        | nil => cases last
        | cons head tail => exact ends d (by simpa using last)
    have other : c = '\\' → (line ++ '\n' :: rest).head? ≠ some '\n' := by
      intro escape
      cases line with
      | nil => exact absurd escape (ends c rfl)
      | cons head tail =>
        rintro same
        obtain rfl := Option.some.inj same
        exact absurd (unbroken '\n' (by simp)) (by decide)
    rw [List.cons_append, joinContinued_cons other, later, List.cons_append]

/-- A broken line is read as the whole one. -/
theorem Broken.joinContinued_append {line broken : List Char} (breaks : Broken line broken)
    (rest : List Char) : joinContinued (broken ++ rest) = joinContinued (line ++ rest) := by
  induction breaks with
  | whole => rfl
  | @further before indentation after c _ content indented inductionHypothesis =>
    have blank : ∀ d ∈ indentation, isBlank d = true := by
      intro d member
      have inside := indented d member
      rw [isIndentation, Bool.and_eq_true] at inside
      exact inside.1
    rw [← inductionHypothesis, List.append_assoc, List.append_assoc]
    simpa using joinContinued_broken content blank (after ++ rest) before

/-! ## Cutting lines -/

/-- A line ends at the first line feed. -/
theorem lines_append {line : List Char} (unbroken : ∀ c ∈ line, isLineBreak c = false)
    (rest : List Char) : Text.lines (line ++ '\n' :: rest) = line :: Text.lines rest := by
  induction line with
  | nil =>
    rw [List.nil_append, Text.lines, if_pos (by decide)]
    simp
  | cons c line inductionHypothesis =>
    have inside : isLineBreak c = false := unbroken c List.mem_cons_self
    have later := inductionHypothesis fun d member => unbroken d (List.mem_cons_of_mem _ member)
    have noReturn : c ≠ '\r' := by
      rintro rfl
      exact absurd inside (by decide)
    rw [List.cons_append, Text.lines, if_neg (by simp [inside]), later]
    · rfl
    · exact fun _ same _ => noReturn same

/-! ## Keys and values -/

/-- Indentation is white space that ends no line. -/
theorem indentation_iff (c : Char) :
    isIndentation c = true ↔ isBlank c = true ∧ isLineBreak c = false := by
  rw [isIndentation, Bool.and_eq_true, Bool.not_eq_true']

/-- Escaping adds nothing but backslashes. -/
theorem mem_escapeKey {c : Char} {key : List Char} (member : c ∈ escapeKey key) :
    c = '\\' ∨ c ∈ key := by
  induction key with
  | nil => cases member
  | cons d rest inductionHypothesis =>
    rw [escapeKey] at member
    split at member
    · rcases List.mem_cons.mp member with rfl | here | later
      · exact Or.inl rfl
      · exact Or.inr List.mem_cons_self
      · exact (inductionHypothesis (by assumption)).imp id (List.mem_cons_of_mem d)
    · rcases List.mem_cons.mp member with rfl | later
      · exact Or.inr List.mem_cons_self
      · exact (inductionHypothesis later).imp id (List.mem_cons_of_mem d)

/-- An escaped key never starts with a separator. -/
theorem escapeKey_starts (key : List Char) :
    ∀ c ∈ (escapeKey key).head?, (isMark c || isBlank c) = false := by
  intro c first
  cases key with
  | nil => cases first
  | cons d rest =>
    by_cases separates : (isMark d || isBlank d) = true
    · rw [escapeKey, if_pos separates] at first
      obtain rfl := Option.some.inj first
      decide
    · rw [escapeKey, if_neg separates] at first
      obtain rfl := Option.some.inj first
      exact Bool.eq_false_iff.mpr separates

/-- A character stays, unless it is a backslash in front of a separator. -/
theorem unescapeKey_cons {c : Char} {rest : List Char}
    (other : c = '\\' → ∀ d ∈ rest.head?, (isMark d || isBlank d) = false) :
    unescapeKey (c :: rest) = c :: unescapeKey rest := by
  cases rest with
  | nil => simp [unescapeKey]
  | cons d others =>
    by_cases escape : c = '\\'
    · subst escape
      rw [unescapeKey, if_neg (by simp [other rfl d rfl])]
    · rw [unescapeKey]
      exact fun _ _ same _ => escape same

/-- Dropping the backslashes in front of separators undoes escaping. -/
theorem unescapeKey_escapeKey (key : List Char) : unescapeKey (escapeKey key) = key := by
  induction key with
  | nil => rfl
  | cons c rest inductionHypothesis =>
    by_cases separates : (isMark c || isBlank c) = true
    · rw [escapeKey, if_pos separates, unescapeKey, if_pos separates, inductionHypothesis]
    · -- A backslash of the key itself stands in front of no separator.
      rw [escapeKey, if_neg separates, unescapeKey_cons fun _ => escapeKey_starts rest,
        inductionHypothesis]

/-- A line is cut at the mark after an escaped key. The flag only matters if the key is empty,
since an escaped key never starts with a separator. -/
theorem cutSeparator_escapeKey (value key : List Char) (escaped : Bool)
    (ends : ∀ c ∈ key.getLast?, c ≠ '\\') (fresh : key = [] → escaped = false) :
    cutSeparator escaped (escapeKey key ++ '=' :: value) =
      (escapeKey key, some (value.dropWhile isBlank)) := by
  induction key generalizing escaped with
  | nil =>
    rw [fresh rfl]
    rfl
  | cons c rest inductionHypothesis =>
    have endsLater : ∀ d ∈ rest.getLast?, d ≠ '\\' := by
      intro d last
      cases rest with
      | nil => cases last
      | cons head tail => exact ends d (by simpa using last)
    have freshLater : rest = [] → decide (c = '\\') = false := by
      rintro rfl
      exact decide_eq_false (ends c rfl)
    have later := inductionHypothesis (decide (c = '\\')) endsLater freshLater
    have escape : isMark '\\' = false ∧ isBlank '\\' = false := by decide
    by_cases separates : (isMark c || isBlank c) = true
    · rw [escapeKey, if_pos separates, List.cons_append, List.cons_append, cutSeparator,
        if_neg (by simp [escape.1]), if_neg (by simp [escape.2]), cutSeparator,
        if_neg (by simp), if_neg (by simp), later]
    · obtain ⟨noMark, noBlank⟩ : isMark c = false ∧ isBlank c = false := by
        simpa only [Bool.not_eq_true, Bool.or_eq_false_iff] using separates
      rw [escapeKey, if_neg separates, List.cons_append, cutSeparator, if_neg (by simp [noMark]),
        if_neg (by simp [noBlank]), later]

/-- What ends a line after a mark is the mark or the end of the text after it. -/
theorem forall_last_append {property : Char → Prop} {mark : Char} (before : List Char)
    {text : List Char} (marked : property mark) (ends : ∀ c ∈ text.getLast?, property c) :
    ∀ c ∈ (before ++ mark :: text).getLast?, property c := by
  intro c last
  rw [List.getLast?_append, List.getLast?_cons] at last
  cases final : text.getLast? with
  | none =>
    obtain rfl : mark = c := by simpa [final] using last
    exact marked
  | some d =>
    obtain rfl : d = c := by simpa [final] using last
    exact ends d final

/-- The line of a pair has no white space at its ends and does not start like a comment. -/
theorem exists_line_cons {key : List Char} (writable : WritableKey key) (value : List Char) :
    ∃ c rest, escapeKey key ++ '=' :: value = c :: rest ∧ isBlank c = false ∧
      c ≠ '#' ∧ c ≠ '!' := by
  cases key with
  | nil => exact ⟨'=', value, rfl, by decide, by decide, by decide⟩
  | cons c rest =>
    by_cases separates : (isMark c || isBlank c) = true
    · exact ⟨'\\', c :: escapeKey rest ++ '=' :: value, by rw [escapeKey, if_pos separates]; rfl,
        by decide, by decide, by decide⟩
    · have blank : isBlank c = false := by
        rw [Bool.not_eq_true, Bool.or_eq_false_iff] at separates
        exact separates.2
      exact ⟨c, escapeKey rest ++ '=' :: value, by rw [escapeKey, if_neg separates]; rfl, blank,
        writable.starts c rfl⟩

/-- The line of a pair is bare. -/
theorem bare_line {key value : List Char} (writable : WritableKey key)
    (bare : Bare value) : Bare (escapeKey key ++ '=' :: value) where
  starts := by
    obtain ⟨c, rest, same, content, -⟩ := exists_line_cons writable value
    rw [same]
    rintro d first
    obtain rfl := Option.some.inj first
    exact content
  ends := forall_last_append _ (by decide) bare.ends

/-- The line of a pair is read as the pair. -/
theorem entry_line {key value : List Char} (writable : WritableKey key) (bare : Bare value) :
    entry (escapeKey key ++ '=' :: value) = (String.ofList key, String.ofList value) := by
  have kept : value.dropWhile isBlank = value := by
    cases value with
    | nil => rfl
    | cons c rest => exact List.dropWhile_cons_of_neg (by simp [bare.starts c rfl])
  rw [entry, Text.trim_of_bare (bare_line writable bare),
    cutSeparator_escapeKey value key false writable.ends fun _ => rfl]
  dsimp only
  rw [unescapeKey_escapeKey, kept, Option.getD_some, Text.trim_of_bare bare]

/-! ## Items -/

namespace Item

/-- The line of an item is on one line. -/
theorem unbroken_line {item : Item} (writable : item.Writable) :
    ∀ c ∈ item.line, isLineBreak c = false := by
  intro c member
  cases item with
  | pair key value =>
    obtain ⟨name, content⟩ := writable
    rcases List.mem_append.mp member with inKey | later
    · rcases mem_escapeKey inKey with rfl | inside
      · decide
      · exact name.unbroken c inside
    · rcases List.mem_cons.mp later with rfl | inside
      · decide
      · exact content.unbroken c inside
  | blank spaces => exact (indentation_iff c).mp (writable c member) |>.2
  | comment indentation mark text =>
    rcases List.mem_append.mp member with before | later
    · exact (indentation_iff c).mp (writable.indented c before) |>.2
    · rcases List.mem_cons.mp later with rfl | inside
      · rcases writable.marked with rfl | rfl <;> decide
      · exact writable.unbroken c inside

/-- The line of an item does not end in a backslash. -/
theorem ends_line {item : Item} (writable : item.Writable) :
    ∀ c ∈ item.line.getLast?, c ≠ '\\' := by
  cases item with
  | pair key value => exact forall_last_append _ (by decide) writable.2.ends
  | blank spaces =>
    rintro c last rfl
    exact absurd (writable '\\' (List.mem_of_getLast? last)) (by decide)
  | comment indentation mark text =>
    refine forall_last_append _ ?_ writable.ends
    rcases writable.marked with rfl | rfl <;> decide

/-- The lines without a pair are those that are skipped. -/
theorem isSkipped_line {item : Item} (writable : item.Writable) :
    isSkipped item.line = item.pair?.isNone := by
  cases item with
  | pair key value =>
    obtain ⟨c, rest, same, content, notHash, notBang⟩ := exists_line_cons writable.1 value
    rw [line, same, isSkipped, List.dropWhile_cons_of_neg (by simp [content])]
    simp [notHash, notBang, pair?]
  | blank spaces =>
    have nothing : spaces.dropWhile isBlank = [] :=
      List.dropWhile_eq_nil_iff.mpr fun c member => ((indentation_iff c).mp (writable c member)).1
    rw [line, isSkipped, nothing]
    rfl
  | comment indentation mark text =>
    have blank : ∀ c ∈ indentation, isBlank c = true := fun c member =>
      ((indentation_iff c).mp (writable.indented c member)).1
    rw [line, isSkipped, List.dropWhile_append_of_pos blank]
    rcases writable.marked with rfl | rfl <;> rfl

/-- The line of a pair is read as the pair. -/
theorem entry_of_pair? {item : Item} {pair : String × String} (writable : item.Writable)
    (found : item.pair? = some pair) : entry item.line = pair := by
  cases item with
  | pair key value =>
    cases found
    exact entry_line writable.1 writable.2.bare
  | _ => cases found

end Item

/-! ## Files -/

/-- The line of an item gives the pair of the item, if it has any. -/
theorem entries_line {item : Item} (writable : item.Writable) (rest : List Char) :
    entries (item.line ++ '\n' :: rest) = item.pair?.toList ++ entries rest := by
  rw [entries, joinContinued_line (Item.unbroken_line writable) (Item.ends_line writable),
    lines_append (Item.unbroken_line writable), List.filter_cons, Item.isSkipped_line writable]
  cases found : item.pair? with
  | none => rfl
  | some pair =>
    rw [Option.isNone_some, Bool.not_false, if_pos rfl, List.map_cons,
      Item.entry_of_pair? writable found]
    rfl

/-- What is written for some items is read as their pairs. -/
theorem entries_written {items : List Item} {text : List Char} (written : Written items text) :
    entries text = items.filterMap Item.pair? := by
  induction written with
  | nothing =>
    rw [entries, joinContinued]
    rfl
  | @item item rest broken text writable line later inductionHypothesis =>
    have whole : entries (broken ++ '\n' :: text) = entries (item.line ++ '\n' :: text) := by
      rw [entries, line.joinContinued_append, entries]
    rw [whole, entries_line writable, inductionHypothesis, List.filterMap_cons]
    cases item.pair? <;> rfl

/-- Breaking a line takes no carriage return in. -/
theorem Broken.noReturn {line broken : List Char} (breaks : Broken line broken)
    (absent : '\r' ∉ line) : '\r' ∉ broken := by
  induction breaks with
  | whole => exact absent
  | @further before indentation after c _ _ indented inductionHypothesis =>
    have outside : '\r' ∉ indentation := fun member =>
      absurd (indented '\r' member) (by decide)
    simp only [List.mem_append, List.mem_cons, not_or] at inductionHypothesis ⊢
    exact ⟨inductionHypothesis.1, by decide, by decide, outside, inductionHypothesis.2⟩

/-- There are no carriage returns in what is written. -/
theorem Written.noReturn {items : List Item} {text : List Char} (written : Written items text) :
    '\r' ∉ text := by
  induction written with
  | nothing => exact List.not_mem_nil
  | @item item rest broken text writable line later inductionHypothesis =>
    have absent : '\r' ∉ item.line := fun member =>
      absurd (Item.unbroken_line writable '\r' member) (by decide)
    simp only [List.mem_append, List.mem_cons, not_or]
    exact ⟨line.noReturn absent, by decide, inductionHypothesis⟩

/-- A file that holds what is written for some items. -/
def Holds (world : World) (path : String) (items : List Item) : Prop :=
  ∃ place text, world.tree.find world.folder path = .ok (place, .text (String.ofList text)) ∧
    Written items text

/-- The contents of a file that holds some items are what is written for them. -/
theorem exists_contents {world : World} {path : String} {items : List Item}
    (held : Holds world path items) :
    ∃ text, contents world.tree world.folder path = .ok text ∧
      entries text = items.filterMap Item.pair? := by
  obtain ⟨place, text, found, written⟩ := held
  refine ⟨text, ?_, entries_written written⟩
  rw [contents, found]
  dsimp only [File.characters]
  rw [String.toList_ofList, Text.unifyBreaks_of_not_mem written.noReturn]

/-- Loading files that hold some items gives the mapping of the pairs among them: its keys are in
the order of their first definitions, and each has the value of its last one. -/
theorem load_reads_written {world : World} (files : List (String × List Item))
    (held : ∀ file ∈ files, Holds world file.1 file.2) :
    let pairs := (files.flatMap Prod.snd).filterMap Item.pair?
    ∃ properties, load (files.map Prod.fst) world = (.ok properties, world) ∧
      properties.keys = (pairs.map Prod.fst).eraseDups ∧
      ∀ key, properties.find? key = pairs.reverse.lookup key := by
  have texts : ∃ texts, (files.map Prod.fst).mapM (contents world.tree world.folder) = .ok texts ∧
      texts.flatMap entries = (files.flatMap Prod.snd).filterMap Item.pair? := by
    induction files with
    | nil => exact ⟨[], rfl, rfl⟩
    | cons file rest inductionHypothesis =>
      obtain ⟨text, opened, pairs⟩ := exists_contents (held file List.mem_cons_self)
      obtain ⟨texts, later, others⟩ :=
        inductionHypothesis fun other member => held other (List.mem_cons_of_mem _ member)
      refine ⟨text :: texts, ?_, ?_⟩
      · rw [List.map_cons, List.mapM_cons, opened, later]
        rfl
      · rw [List.flatMap_cons, List.flatMap_cons, List.filterMap_append, pairs, others]
  obtain ⟨texts, opened, pairs⟩ := texts
  refine ⟨read texts, ?_, ?_, ?_⟩
  · have present : (get : Action World) world = (.ok world, world) := rfl
    rw [load, Action.bind_of_ok _ present, opened]
    rfl
  · rw [read, OrderedMap.keys_ofList, pairs]
  · intro key
    rw [read, OrderedMap.find?_ofList, pairs]

/-- A world with two files of properties. -/
def twoFiles : World where
  folder := "/"
  tree :=
    { files := .ofList
        [("/base", .text "! defaults\n\nfs\\:a\\ b=1 \\\n  2\nqueue\\\n\t=\n"),
          ("/own", .text "queue=x:\\y\n")] }

/-- What the first file holds. -/
def baseItems : List Item :=
  [.comment [] '!' " defaults".toList, .blank [], .pair "fs:a b".toList "1 2".toList,
    .pair "queue".toList []]

/-- What the second file holds. -/
def ownItems : List Item := [.pair "queue".toList "x:\\y".toList]

/-- The first file holds its items, two lines of it being broken. -/
theorem holds_base : Holds twoFiles "base" baseItems := by
  have value : Broken (Item.line (.pair "fs:a b".toList "1 2".toList))
      "fs\\:a\\ b=1 \\\n  2".toList :=
    @Broken.further _ "fs\\:a\\ b=1 ".toList "  ".toList [] '2' .whole (by decide)
      (List.all_eq_true.mp (by decide))
  have mark : Broken (Item.line (.pair "queue".toList [])) "queue\\\n\t=".toList :=
    @Broken.further _ "queue".toList "\t".toList [] '=' .whole (by decide)
      (List.all_eq_true.mp (by decide))
  exact ⟨["base"], _, rfl, .item (by decide) .whole (.item (by decide) .whole
    (.item (by decide) value (.item (by decide) mark .nothing)))⟩

/-- The second file holds its item. -/
theorem holds_own : Holds twoFiles "own" ownItems :=
  ⟨["own"], _, rfl, .item (by decide) .whole .nothing⟩

/-- The second file gives the queue its value, at the place that it has in the first one. -/
theorem twoFiles_read :
    (∀ file ∈ [("base", baseItems), ("own", ownItems)], Holds twoFiles file.1 file.2) ∧
      ∃ properties, load ["base", "own"] twoFiles = (.ok properties, twoFiles) ∧
        properties.keys = ["fs:a b", "queue"] ∧ properties.find? "queue" = some "x:\\y" := by
  have held : ∀ file ∈ [("base", baseItems), ("own", ownItems)], Holds twoFiles file.1 file.2 := by
    simp only [List.mem_cons, List.not_mem_nil, or_false, forall_eq_or_imp, forall_eq]
    exact ⟨holds_base, holds_own⟩
  obtain ⟨properties, loaded, keys, values⟩ := load_reads_written _ held
  exact ⟨held, properties, loaded, keys.trans (by decide), (values "queue").trans (by decide)⟩

end Jobflow.PropertiesFile
