import Jobflow.Proofs.Text.Blank
import Jobflow.Text.Lowercase
import Mathlib.Data.List.Basic

/-!
# Laws of small letters

A text in small letters stays as it is when it is put in small letters again: no small letter
is the capital of another one. That is read off the runs of capital letters, by comparing the
interval of the images of each run with every run.

White space and the marks of ASCII have no case. They stay where they are, and no letter turns
into one of them, so that a text is structured by the same marks in small letters.
-/

namespace Jobflow.Text

/-! ## Small letters -/

/-- A character is its own small form. -/
def IsSmall (c : Char) : Prop := lowerChar c = [c]

instance (c : Char) : Decidable (IsSmall c) := inferInstanceAs (Decidable (lowerChar c = [c]))

namespace CapitalRun

/-- The image of the last letter of a run. -/
def lastImage (run : CapitalRun) : Nat := run.image + (run.last - run.first)

/-- The images of a run are no letters of another run: they lie before or after it, or between
its letters. -/
def misses (run other : CapitalRun) : Bool :=
  run.lastImage.blt other.first || other.last.blt run.image ||
    ((run.step % 2 == 0 || run.first == run.last) && other.step % 2 == 0 &&
      run.image % 2 != other.first % 2)

/-- Whether a code point is a letter of a run. -/
def covers (run : CapitalRun) (code : Nat) : Bool :=
  run.first ≤ code && code ≤ run.last && (code - run.first) % run.step == 0

/-- A run does not cover the images of a run that misses it. -/
theorem not_covers_of_misses {run other : CapitalRun} {code : Nat}
    (missed : run.misses other = true) (covered : run.covers code = true) :
    other.covers (run.image + (code - run.first)) = false := by
  simp only [misses, lastImage, Bool.or_eq_true, Nat.blt_eq, Bool.and_eq_true, beq_iff_eq,
    bne_iff_ne, ne_eq] at missed
  simp only [covers, Bool.and_eq_true, decide_eq_true_eq, beq_iff_eq] at covered
  rw [covers, Bool.eq_false_iff]
  intro also
  simp only [Bool.and_eq_true, decide_eq_true_eq, beq_iff_eq] at also
  obtain ⟨⟨low, high⟩, stepped⟩ := covered
  obtain ⟨⟨otherLow, otherHigh⟩, otherStepped⟩ := also
  rcases missed with (before | after) | ⟨⟨single, even⟩, parity⟩
  · omega
  · omega
  · -- Both offsets are even, so that the image has the parity of both runs' first letters.
    have offset : (code - run.first) % 2 = 0 := by
      rcases single with stepEven | same
      · exact Nat.mod_eq_zero_of_dvd
          (Nat.dvd_trans (Nat.dvd_of_mod_eq_zero stepEven) (Nat.dvd_of_mod_eq_zero stepped))
      · omega
    have otherOffset : (run.image + (code - run.first) - other.first) % 2 = 0 :=
      Nat.mod_eq_zero_of_dvd
        (Nat.dvd_trans (Nat.dvd_of_mod_eq_zero even) (Nat.dvd_of_mod_eq_zero otherStepped))
    omega

end CapitalRun

/-- The images of every run miss every run. -/
theorem images_miss :
    (capitalRuns.all fun run => capitalRuns.all fun other => run.misses other) = true := by
  decide +kernel

/-- White space beyond ASCII. -/
def wideBlanks : List Nat :=
  [0x85, 0xa0, 0x1680, 0x2000, 0x2001, 0x2002, 0x2003, 0x2004, 0x2005, 0x2006, 0x2007, 0x2008,
    0x2009, 0x200a, 0x2028, 0x2029, 0x202f, 0x205f, 0x3000]

/-- White space is in ASCII or in the list. -/
theorem ascii_or_wide_of_isBlank (c : Char) (blank : isBlank c = true) :
    c.toNat < 0x80 ∨ c.toNat ∈ wideBlanks := by
  simp only [isBlank, Bool.or_eq_true, Bool.and_eq_true, decide_eq_true_eq, beq_iff_eq] at blank
  simp only [wideBlanks, List.mem_cons, List.not_mem_nil, or_false]
  omega

/-- The images of a run are letters of ASCII or beyond it, and neither white space nor the
dotted capital. -/
theorem images_plain : ∀ run ∈ capitalRuns,
    (run.image = 0x6b ∧ run.first = run.last ∨ 0x80 ≤ run.image) ∧
      (run.lastImage < 0xd800 ∨ 0xdfff < run.image ∧ run.lastImage < 0x110000) ∧
      ∀ code ∈ 0x130 :: wideBlanks, code < run.image ∨ run.lastImage < code := by
  decide +kernel

/-- The letters of the runs are beyond ASCII, and neither white space. -/
theorem runs_wide : ∀ run ∈ capitalRuns,
    0x80 ≤ run.first ∧ ∀ code ∈ wideBlanks, code < run.first ∨ run.last < code := by
  decide +kernel

/-- The small form of a letter of ASCII. -/
theorem lowerChar_of_ascii {c : Char} (ascii : c.toNat < 0x80) : lowerChar c = [c.toLower] :=
  if_pos ascii

/-- Beyond ASCII the small form of a character is read off its run, if it has one. -/
theorem lowerChar_wide {c : Char} (wide : 0x80 ≤ c.toNat) (undotted : c.toNat ≠ 0x130) :
    (∃ run ∈ capitalRuns, run.covers c.toNat = true ∧
      lowerChar c = [Char.ofNat (run.image + (c.toNat - run.first))]) ∨
    (∀ run ∈ capitalRuns, run.covers c.toNat = false) ∧ lowerChar c = [c] := by
  rw [lowerChar, if_neg (by omega), if_neg undotted]
  cases found : capitalRuns.find? fun run => run.covers c.toNat with
  | some run =>
    have covered := List.find?_some found
    refine Or.inl ⟨run, List.mem_of_find?_eq_some found, covered, ?_⟩
    simp only [CapitalRun.covers] at found
    rw [found]
  | none =>
    refine Or.inr ⟨fun run member => ?_, ?_⟩
    · exact Bool.eq_false_iff.mpr (List.find?_eq_none.mp found run member)
    · simp only [CapitalRun.covers] at found
      rw [found]

/-- A character that no run covers is its own small form. -/
theorem isSmall_of_uncovered {c : Char} (wide : 0x80 ≤ c.toNat) (undotted : c.toNat ≠ 0x130)
    (uncovered : ∀ run ∈ capitalRuns, run.covers c.toNat = false) : IsSmall c := by
  rcases lowerChar_wide wide undotted with ⟨run, member, covered, -⟩ | ⟨-, same⟩
  · rw [uncovered run member] at covered
    cases covered
  · exact same

/-- What holds of the characters of ASCII one by one holds of each of them. -/
theorem of_ascii {motive : Char → Prop} (checked : ∀ code < 0x80, motive (Char.ofNat code))
    (c : Char) (ascii : c.toNat < 0x80) : motive c := by
  have checkedHere := checked c.toNat ascii
  rwa [Char.ofNat_toNat] at checkedHere

/-- The code point of an image. -/
theorem toNat_image {run : CapitalRun} {code : Nat} (member : run ∈ capitalRuns)
    (covered : run.covers code = true) :
    (Char.ofNat (run.image + (code - run.first))).toNat = run.image + (code - run.first) := by
  obtain ⟨-, valid, -⟩ := images_plain run member
  simp only [CapitalRun.covers, Bool.and_eq_true, decide_eq_true_eq] at covered
  rw [CapitalRun.lastImage] at valid
  have inside : (run.image + (code - run.first)).isValidChar := by
    unfold Nat.isValidChar
    omega
  rw [Char.ofNat, dif_pos inside]
  rfl

/-- The small form of a letter in a run is one. -/
theorem isSmall_image {run : CapitalRun} {code : Nat} (member : run ∈ capitalRuns)
    (covered : run.covers code = true) :
    IsSmall (Char.ofNat (run.image + (code - run.first))) := by
  have number := toNat_image member covered
  obtain ⟨ascii, -, spared⟩ := images_plain run member
  have uncovered : ∀ other ∈ capitalRuns,
      other.covers (run.image + (code - run.first)) = false := fun other otherMember =>
    CapitalRun.not_covers_of_misses
      (List.all_eq_true.mp (List.all_eq_true.mp images_miss run member) other otherMember) covered
  have undotted := spared 0x130 List.mem_cons_self
  simp only [CapitalRun.covers, Bool.and_eq_true, decide_eq_true_eq] at covered
  rw [CapitalRun.lastImage] at undotted
  rcases ascii with ⟨kelvin, single⟩ | wide
  · have only : run.image + (code - run.first) = 0x6b := by omega
    rw [only]
    decide
  · apply isSmall_of_uncovered
    · rw [number]
      omega
    · rw [number]
      omega
    · rw [number]
      exact uncovered

/-- The small form of a character consists of small characters. -/
theorem isSmall_of_mem_lowerChar {c d : Char} (member : d ∈ lowerChar c) : IsSmall d := by
  by_cases ascii : c.toNat < 0x80
  · rw [lowerChar_of_ascii ascii, List.mem_singleton] at member
    rw [member]
    exact of_ascii (motive := fun c => IsSmall c.toLower) (by decide) c ascii
  · by_cases dotted : c.toNat = 0x130
    · rw [lowerChar, if_neg ascii, if_pos dotted] at member
      rcases List.mem_pair.mp member with rfl | rfl
      · decide
      · decide +kernel
    · rcases lowerChar_wide (by omega) dotted with ⟨run, known, covered, small⟩ | ⟨-, small⟩
      · rw [small, List.mem_singleton] at member
        rw [member]
        exact isSmall_image known covered
      · rw [small, List.mem_singleton] at member
        rw [member]
        exact small

/-! ## Characters without case -/

/-- White space, and the characters of ASCII that are no letters. -/
def isUncased (c : Char) : Bool := isBlank c || (c.toNat < 0x80 && !c.isAlpha)

/-- The small form of a character of ASCII is a letter or the character itself. -/
theorem uncased_toLower (c : Char) (ascii : c.toNat < 0x80) :
    isUncased c.toLower = true → c.toLower = c :=
  of_ascii (motive := fun c => isUncased c.toLower = true → c.toLower = c) (by decide) c ascii

/-- The small form of a letter in a run is a letter. -/
theorem isUncased_image {run : CapitalRun} {code : Nat} (member : run ∈ capitalRuns)
    (covered : run.covers code = true) :
    isUncased (Char.ofNat (run.image + (code - run.first))) = false := by
  have number := toNat_image member covered
  obtain ⟨ascii, -, spared⟩ := images_plain run member
  simp only [CapitalRun.covers, Bool.and_eq_true, decide_eq_true_eq] at covered
  rcases ascii with ⟨kelvin, single⟩ | wide
  · have only : run.image + (code - run.first) = 0x6b := by omega
    rw [only]
    decide
  · rw [Bool.eq_false_iff, isUncased, Ne, Bool.or_eq_true, Bool.and_eq_true, decide_eq_true_eq,
      number]
    rintro (blank | ⟨ascii, -⟩)
    · rcases ascii_or_wide_of_isBlank _ blank with ascii | listed
      · rw [number] at ascii
        omega
      · rw [number] at listed
        have missed := spared _ (List.mem_cons_of_mem _ listed)
        rw [CapitalRun.lastImage] at missed
        omega
    · omega

/-- A character without case is its own small form. -/
theorem isSmall_of_isUncased {c : Char} (uncased : isUncased c = true) : IsSmall c := by
  by_cases ascii : c.toNat < 0x80
  · exact of_ascii (motive := fun c => isUncased c = true → IsSmall c) (by decide) c ascii uncased
  · have wide : c.toNat ∈ wideBlanks := by
      rw [isUncased, Bool.or_eq_true, Bool.and_eq_true] at uncased
      rcases uncased with blank | ⟨inside, -⟩
      · exact (ascii_or_wide_of_isBlank c blank).resolve_left ascii
      · exact absurd (of_decide_eq_true inside) ascii
    apply isSmall_of_uncovered (by omega)
    · intro dotted
      rw [dotted] at wide
      revert wide
      decide
    · intro run member
      have spared := (runs_wide run member).2 c.toNat wide
      rw [Bool.eq_false_iff]
      intro covered
      simp only [CapitalRun.covers, Bool.and_eq_true, decide_eq_true_eq] at covered
      omega

/-- No other character turns into one without case. -/
theorem eq_of_mem_lowerChar {c d : Char} (member : d ∈ lowerChar c)
    (uncased : isUncased d = true) : d = c := by
  by_cases ascii : c.toNat < 0x80
  · rw [lowerChar_of_ascii ascii, List.mem_singleton] at member
    rw [member] at uncased ⊢
    exact uncased_toLower c ascii uncased
  · by_cases dotted : c.toNat = 0x130
    · rw [lowerChar, if_neg ascii, if_pos dotted] at member
      rcases List.mem_pair.mp member with rfl | rfl
      · exact absurd uncased (by decide)
      · exact absurd uncased (by decide)
    · rcases lowerChar_wide (by omega) dotted with ⟨run, known, covered, small⟩ | ⟨-, small⟩
      · rw [small, List.mem_singleton] at member
        exact absurd uncased (by rw [member, isUncased_image known covered]; decide)
      · rw [small, List.mem_singleton] at member
        exact member

/-- No other character turns into one beyond ASCII that no run leads to. -/
theorem eq_of_mem_lowerChar_of_spared {c d : Char} (member : d ∈ lowerChar c) (wide : 0x80 ≤ d.toNat)
    (undotted : d.toNat ≠ 0x307)
    (spared : ∀ run ∈ capitalRuns, d.toNat < run.image ∨ run.lastImage < d.toNat) : d = c := by
  by_cases ascii : c.toNat < 0x80
  · rw [lowerChar_of_ascii ascii, List.mem_singleton] at member
    have small := of_ascii (motive := fun c => c.toLower.toNat < 0x80) (by decide) c ascii
    rw [← member] at small
    omega
  · by_cases dotted : c.toNat = 0x130
    · rw [lowerChar, if_neg ascii, if_pos dotted] at member
      rcases List.mem_pair.mp member with rfl | rfl
      · exact absurd wide (by decide)
      · exact absurd rfl undotted
    · rcases lowerChar_wide (by omega) dotted with ⟨run, known, covered, small⟩ | ⟨-, small⟩
      · rw [small, List.mem_singleton] at member
        have missed := spared run known
        rw [member, toNat_image known covered] at missed
        simp only [CapitalRun.covers, Bool.and_eq_true, decide_eq_true_eq] at covered
        rw [CapitalRun.lastImage] at missed
        omega
      · rw [small, List.mem_singleton] at member
        exact member

/-- The small form of a character is not empty. -/
theorem lowerChar_ne_nil (c : Char) : lowerChar c ≠ [] := by
  rw [lowerChar]
  split
  · exact List.cons_ne_nil _ _
  · split
    · exact List.cons_ne_nil _ _
    · split <;> exact List.cons_ne_nil _ _

/-! ## Texts in small letters -/

/-- The characters that a character turns into. -/
structure TurnsInto (c : Char) (form : List Char) : Prop where
  /-- There is at least one. -/
  nonempty : form ≠ []
  /-- They are small. -/
  small : ∀ d ∈ form, IsSmall d
  /-- A small character stays as it is. -/
  stays : IsSmall c → form = [c]
  /-- Only a character without case turns into one. -/
  uncased : ∀ d ∈ form, isUncased d = true → d = c

/-- The small form of a text begins with what its first character turns into. -/
theorem exists_lowerAfter_cons (before rest : List Char) (c : Char) :
    ∃ form, TurnsInto c form ∧
      lowerAfter before (c :: rest) = form ++ lowerAfter (c :: before) rest := by
  refine ⟨_, ?_, rfl⟩
  split
  · next final =>
    have sigma : c = 'Σ' := final.1
    subst sigma
    exact
      { nonempty := List.cons_ne_nil _ _
        small := by
          intro d member
          rw [List.mem_singleton.mp member]
          decide +kernel
        stays := by
          intro small
          revert small
          decide +kernel
        uncased := by
          intro d member uncased
          rw [List.mem_singleton.mp member] at uncased
          exact absurd uncased (by decide) }
  · exact
      { nonempty := lowerChar_ne_nil c
        small := fun d member => isSmall_of_mem_lowerChar member
        stays := id
        uncased := fun d member uncased => eq_of_mem_lowerChar member uncased }

/-- A text in small letters consists of small characters. -/
theorem isSmall_of_mem_lowerAfter {before cs : List Char} {d : Char}
    (member : d ∈ lowerAfter before cs) : IsSmall d := by
  induction cs generalizing before with
  | nil => cases member
  | cons c rest inductionHypothesis =>
    obtain ⟨form, turns, split⟩ := exists_lowerAfter_cons before rest c
    rw [split] at member
    rcases List.mem_append.mp member with here | later
    · exact turns.small d here
    · exact inductionHypothesis later

/-- A text of small characters stays as it is. -/
theorem lowerAfter_of_small {before cs : List Char} (small : ∀ c ∈ cs, IsSmall c) :
    lowerAfter before cs = cs := by
  induction cs generalizing before with
  | nil => rfl
  | cons c rest inductionHypothesis =>
    obtain ⟨form, turns, split⟩ := exists_lowerAfter_cons before rest c
    rw [split, turns.stays (small c List.mem_cons_self),
      inductionHypothesis fun d member => small d (List.mem_cons_of_mem c member)]
    rfl

/-- Putting a text in small letters twice is doing so once. -/
theorem lower_lower (text : String) : lower (lower text) = lower text := by
  rw [lower, lower, String.toList_ofList,
    lowerAfter_of_small fun c member => isSmall_of_mem_lowerAfter member]

/-- Only the empty text has an empty small form. -/
theorem lowerAfter_ne_nil {before cs : List Char} (nonempty : cs ≠ []) :
    lowerAfter before cs ≠ [] := by
  cases cs with
  | nil => exact absurd rfl nonempty
  | cons c rest =>
    obtain ⟨form, turns, split⟩ := exists_lowerAfter_cons before rest c
    rw [split]
    exact List.append_ne_nil_of_left_ne_nil turns.nonempty _

/-- A character without case that is in the small form of a text is in the text. -/
theorem mem_of_mem_lowerAfter {before cs : List Char} {d : Char}
    (member : d ∈ lowerAfter before cs) (uncased : isUncased d = true) : d ∈ cs := by
  induction cs generalizing before with
  | nil => cases member
  | cons c rest inductionHypothesis =>
    obtain ⟨form, turns, split⟩ := exists_lowerAfter_cons before rest c
    rw [split] at member
    rcases List.mem_append.mp member with here | later
    · rw [turns.uncased d here uncased]
      exact List.mem_cons_self
    · exact List.mem_cons_of_mem c (inductionHypothesis later)

/-- The characters of the small form of a text are final sigmas and what its characters turn into. -/
theorem exists_of_mem_lowerAfter {before cs : List Char} {d : Char}
    (member : d ∈ lowerAfter before cs) : d = 'ς' ∨ ∃ c ∈ cs, d ∈ lowerChar c := by
  induction cs generalizing before with
  | nil => cases member
  | cons c rest inductionHypothesis =>
    rw [lowerAfter, List.mem_append] at member
    rcases member with here | later
    · split at here
      · exact Or.inl (List.mem_singleton.mp here)
      · exact Or.inr ⟨c, List.mem_cons_self, here⟩
    · rcases inductionHypothesis later with sigma | ⟨other, member, turns⟩
      · exact Or.inl sigma
      · exact Or.inr ⟨other, List.mem_cons_of_mem c member, turns⟩

/-- A character without case that is after the first one of the small form of a text is after
the first one of the text. -/
theorem mem_tail_of_mem_tail_lowerAfter {before cs : List Char} {d : Char}
    (member : d ∈ (lowerAfter before cs).tail) (uncased : isUncased d = true) : d ∈ cs.tail := by
  cases cs with
  | nil => cases member
  | cons c rest =>
    obtain ⟨form, turns, split⟩ := exists_lowerAfter_cons before rest c
    rw [split, List.tail_append_of_ne_nil turns.nonempty] at member
    rcases List.mem_append.mp member with here | later
    · have same := turns.uncased d (List.mem_of_mem_tail here) uncased
      rw [turns.stays (isSmall_of_isUncased (same ▸ uncased))] at here
      cases here
    · exact mem_of_mem_lowerAfter later uncased

/-- The small form of a text starts with a character without case only if the text does. -/
theorem head?_of_head?_lowerAfter {before cs : List Char} {d : Char}
    (first : (lowerAfter before cs).head? = some d) (uncased : isUncased d = true) :
    cs.head? = some d := by
  cases cs with
  | nil => cases first
  | cons c rest =>
    obtain ⟨form, turns, split⟩ := exists_lowerAfter_cons before rest c
    rw [split, List.head?_append_of_ne_nil _ turns.nonempty] at first
    rw [turns.uncased d (List.mem_of_head? first) uncased]
    rfl

/-- The small form of a text ends with a character without case only if the text does. -/
theorem getLast?_of_getLast?_lowerAfter {before cs : List Char} {d : Char}
    (last : (lowerAfter before cs).getLast? = some d) (uncased : isUncased d = true) :
    cs.getLast? = some d := by
  induction cs generalizing before with
  | nil => cases last
  | cons c rest inductionHypothesis =>
    obtain ⟨form, turns, split⟩ := exists_lowerAfter_cons before rest c
    cases rest with
    | nil =>
      rw [split, lowerAfter, List.append_nil] at last
      rw [turns.uncased d (List.mem_of_getLast? last) uncased]
      rfl
    | cons next rest =>
      rw [split, List.getLast?_append_of_ne_nil _ (lowerAfter_ne_nil (List.cons_ne_nil _ _))] at last
      rw [List.getLast?_cons_cons]
      exact inductionHypothesis last

/-- The small form of a bare text is bare. -/
theorem bare_lowerAfter {cs : List Char} (bare : Bare cs) (before : List Char) :
    Bare (lowerAfter before cs) where
  starts := by
    intro d first
    rw [Bool.eq_false_iff]
    intro blank
    have same := head?_of_head?_lowerAfter first (by rw [isUncased, blank, Bool.true_or])
    rw [bare.starts d same] at blank
    cases blank
  ends := by
    intro d last
    rw [Bool.eq_false_iff]
    intro blank
    have same := getLast?_of_getLast?_lowerAfter last (by rw [isUncased, blank, Bool.true_or])
    rw [bare.ends d same] at blank
    cases blank

end Jobflow.Text
