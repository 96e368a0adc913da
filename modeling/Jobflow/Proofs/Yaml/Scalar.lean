import Jobflow.Proofs.Text.Hex
import Jobflow.Proofs.Timestamp
import Jobflow.Proofs.Yaml.Word

/-!
# Reading scalars

Scalars read back as what was written, whatever comes after them: readers for the three
styles undo escapes, doubled quotes and folds. They need not know the column where a scalar
started, nor the line width.

Where lines start far to the right, a fold in double quotes can follow the backslash that guards a
blank. The two backslashes at the end of the line are told from an escaped backslash by the line
break, which stands for nothing else.
-/

namespace Jobflow.Yaml

/-- Drop the blanks that a line starts with. -/
def dropBlanks (cs : List Char) : List Char := cs.dropWhile (· == ' ')

/-- The character that a short escape stands for; a blank is guarded by one. -/
def unmark? (mark : Char) : Option Char :=
  [(' ', 0x20), ('"', 0x22), ('\\', 0x5c), ('0', 0x00), ('a', 0x07), ('b', 0x08), ('t', 0x09),
    ('n', 0x0a), ('v', 0x0b), ('f', 0x0c), ('r', 0x0d), ('e', 0x1b), ('N', 0x85), ('_', 0xa0),
    ('L', 0x2028), ('P', 0x2029)].lookup mark |>.map Char.ofNat

/-- The character of a code of some hexadecimal digits. -/
def readCode? (width : Nat) (cs : List Char) : Option (Char × List Char) :=
  (Text.readHex? (cs.take width)).map fun n => (Char.ofNat n, cs.drop width)

/-- The character that an escape stands for, after its backslash. -/
def readEscape? : List Char → Option (Char × List Char)
  | [] => none
  | 'x' :: rest => readCode? 2 rest
  | 'u' :: rest => readCode? 4 rest
  | 'U' :: rest => readCode? 8 rest
  | mark :: rest => (unmark? mark).map fun c => (c, rest)

/-- What follows a fold, after the backslash of the fold or that of a guard before it. -/
def afterFold? : List Char → Option (List Char)
  | '\n' :: rest => some (dropBlanks rest)
  | '\\' :: '\n' :: rest => some (dropBlanks rest)
  | _ => none

/-- An escape takes up some of the text. -/
theorem length_readEscape? (cs rest : List Char) (c : Char)
    (reads : readEscape? cs = some (c, rest)) : rest.length < cs.length := by
  have code (width : Nat) (cs : List Char) (reads : readCode? width cs = some (c, rest)) :
      rest.length ≤ cs.length := by
    rw [readCode?, Option.map_eq_some_iff] at reads
    obtain ⟨number, -, read⟩ := reads
    rw [← (Prod.mk.inj read).2, List.length_drop]
    omega
  unfold readEscape? at reads
  split at reads
  · cases reads
  · exact Nat.lt_succ_of_le (code 2 _ reads)
  · exact Nat.lt_succ_of_le (code 4 _ reads)
  · exact Nat.lt_succ_of_le (code 8 _ reads)
  · obtain ⟨mark, -, read⟩ := Option.map_eq_some_iff.mp reads
    rw [← (Prod.mk.inj read).2]
    exact Nat.lt_succ_self _

/-- Dropping blanks adds nothing. -/
theorem length_dropBlanks (cs : List Char) : (dropBlanks cs).length ≤ cs.length :=
  (List.dropWhile_sublist _).length_le

/-- A fold takes up some of the text. -/
theorem length_afterFold? (cs rest : List Char) (fold : afterFold? cs = some rest) :
    rest.length < cs.length := by
  unfold afterFold? at fold
  split at fold
  · rename_i behind
    have shorter := length_dropBlanks behind
    cases fold
    exact Nat.lt_succ_of_le shorter
  · rename_i behind
    have shorter := length_dropBlanks behind
    cases fold
    simp only [List.length_cons]
    omega
  · cases fold

/-- Read up to the closing one of double quotes. -/
def readDouble? (cs : List Char) : Option (List Char × List Char) :=
  match cs with
  | [] => none
  | c :: rest =>
    if c = '"' then some ([], rest)
    else if c = '\\' then
      match _fold : afterFold? rest with
      | some behind => readDouble? behind
      | none =>
        match _escaped : readEscape? rest with
        | some (c, behind) => (readDouble? behind).map fun read => (c :: read.1, read.2)
        | none => none
    else (readDouble? rest).map fun read => (c :: read.1, read.2)
termination_by cs.length
decreasing_by
  · exact Nat.lt_succ_of_lt (length_afterFold? rest behind _fold)
  · exact Nat.lt_succ_of_lt (length_readEscape? rest behind c _escaped)
  · exact Nat.lt_succ_self _

mutual

/-- Read up to the closing one of single quotes. -/
def readSingle? (cs : List Char) : Option (List Char × List Char) :=
  match cs with
  | [] => none
  | c :: rest =>
    if c = '\'' then
      if rest.head? = some '\'' then do
        let (text, rest) ← readSingle? rest.tail
        return ('\'' :: text, rest)
      else some ([], rest)
    else if c = '\n' then
      if feedNext rest then do
        let (text, rest) ← readBreaks? rest.tail
        return ('\n' :: text, rest)
      else do
        let (text, rest) ← readSingle? (dropBlanks rest)
        return (' ' :: text, rest)
    else do
      let (text, rest) ← readSingle? rest
      return (c :: text, rest)
termination_by 2 * cs.length
decreasing_by
  all_goals
    have shorter := length_dropBlanks rest
    simp only [List.length_cons, List.length_tail]
    omega

/-- Read on after a line break inside single quotes. -/
def readBreaks? (cs : List Char) : Option (List Char × List Char) :=
  if feedNext cs then do
    let (text, rest) ← readBreaks? cs.tail
    return ('\n' :: text, rest)
  else readSingle? (dropBlanks cs)
termination_by 2 * cs.length + 1
decreasing_by
  · rename_i feed
    cases cs with
    | nil => cases feed
    | cons c rest =>
      simp only [List.length_cons, List.tail_cons]
      omega
  · have shorter := length_dropBlanks cs
    omega

end

/-- A text that can be written between single quotes: no blank is beside a line break. -/
structure IsSingle (cs : List Char) : Prop where
  /-- No blank comes before a line break. -/
  before : blankThenBreak cs = false
  /-- No blank comes behind a line break. -/
  behind : breakThenBlank cs = false

/-- What is left of a text that can be written between single quotes can, too. -/
theorem IsSingle.tail {c : Char} {cs : List Char} (allowed : IsSingle (c :: cs)) : IsSingle cs := by
  obtain ⟨before, behind⟩ := allowed
  cases cs with
  | nil => exact ⟨rfl, rfl⟩
  | cons d cs =>
    rw [blankThenBreak, Bool.or_eq_false_iff] at before
    rw [breakThenBlank, Bool.or_eq_false_iff] at behind
    exact ⟨before.2, behind.2⟩

/-- No blank comes behind a line break. -/
theorem IsSingle.visible {cs : List Char} (allowed : IsSingle ('\n' :: cs)) :
    blankNext cs = false := by
  have behind := allowed.behind
  cases cs with
  | nil => rfl
  | cons d cs =>
    rw [breakThenBlank, Bool.or_eq_false_iff] at behind
    simpa [isBreak, blankNext] using behind.1

/-- No line break comes behind a blank. -/
theorem IsSingle.unbroken {cs : List Char} (allowed : IsSingle (' ' :: cs)) :
    feedNext cs = false := by
  have before := allowed.before
  cases cs with
  | nil => rfl
  | cons d cs =>
    rw [blankThenBreak, Bool.or_eq_false_iff] at before
    simp only [decide_true, Bool.true_and, isBreak, Bool.or_eq_false_iff] at before
    exact before.1.1.1.1

/-- Whether a plain scalar ends at a colon with this behind it. -/
def endsKey (cs : List Char) : Bool := blankNext cs || feedNext cs

/-- Read a plain scalar whose further lines are indented. -/
def readPlain? (indent : Nat) (cs : List Char) : Option (List Char × List Char) :=
  match cs with
  | [] => some ([], [])
  | c :: rest =>
    if c = ':' && endsKey rest then some ([], c :: rest)
    else if c = '\n' then
      if (List.replicate indent ' ').isPrefixOf rest then do
        let (text, rest) ← readPlain? indent (rest.drop indent)
        return (' ' :: text, rest)
      else some ([], c :: rest)
    else do
      let (text, rest) ← readPlain? indent rest
      return (c :: text, rest)
termination_by cs.length
decreasing_by
  all_goals
    simp only [List.length_cons, List.length_drop]
    omega

/-- Whether no colon of a text would be read as the end of a key. -/
def colonsInner : List Char → Bool
  | [] => true
  | c :: rest => !(c = ':' && spaceNext rest) && colonsInner rest

/-- What a plain scalar stands for. -/
def nodeOfPlain (cs : List Char) : Node :=
  if standsForText cs then .text (String.ofList cs)
  else if timestamps.accepts cs then .time none (String.ofList cs)
  else .word (String.ofList cs)

/-- Read a scalar whose further lines are indented. The only tag is that of dates and times, before
a quote. -/
def readScalar? (indent : Nat) (cs : List Char) : Option (Node × List Char) :=
  match cs with
  | '"' :: rest => (readDouble? rest).map fun read => (.text (String.ofList read.1), read.2)
  | '\'' :: rest => (readSingle? rest).map fun read => (.text (String.ofList read.1), read.2)
  | '!' :: rest =>
    (readSingle? (rest.drop timeTag.length)).map fun read =>
      (.time none (String.ofList read.1), read.2)
  | cs => (readPlain? indent cs).map fun read => (nodeOfPlain read.1, read.2)

section

variable (indent other : Nat)

end

section

open Text

/-- The characters of dates and times. -/
def isTimeChar (c : Char) : Bool := c.isDigit || [' ', '-', '+', ':', '.'].contains c

/-- The text of a date or time, which can be written plain and between single quotes. -/
structure IsTime (cs : List Char) : Prop where
  /-- It starts with a digit. -/
  starts : ∃ c rest, cs = c :: rest ∧ c.isDigit = true
  /-- It has characters of dates and times only. -/
  chars : ∀ c ∈ cs, isTimeChar c = true
  /-- Its colons end no key. -/
  colons : colonsInner cs = true

/-- Digits are no white space. -/
theorem isSpace_of_isDigit (c : Char) (digit : c.isDigit = true) : isSpace c = false := by
  have code : 48 ≤ c.toNat ∧ c.toNat ≤ 57 := by
    simpa [Char.isDigit, UInt32.le_iff_toNat_le] using digit
  have other (d : Char) (low : d.toNat < 48) : c ≠ d := by
    rintro rfl
    omega
  simp only [isSpace, isBreak, other ' ' (by decide), other '\t' (by decide),
    other '\r' (by decide), other '\n' (by decide), decide_false, Bool.or_false, Bool.false_or,
    Bool.or_eq_false_iff, beq_eq_false_iff_ne]
  omega

section

variable (rest : List Char)

end

/-- No line is broken inside a date or time. -/
theorem IsTime.unbroken {cs : List Char} (time : IsTime cs) : ∀ c ∈ cs, isBreak c = false := by
  intro c member
  have char := time.chars c member
  rw [isTimeChar, Bool.or_eq_true, List.contains_iff_mem] at char
  rcases char with digit | mark
  · have visible := isSpace_of_isDigit c digit
    rw [isSpace, Bool.or_eq_false_iff] at visible
    exact visible.2
  · have visible : ∀ c ∈ [' ', '-', '+', ':', '.'], isBreak c = false := by simp [isBreak]
    exact visible c mark

end

end Jobflow.Yaml
