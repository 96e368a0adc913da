import Jobflow.Proofs.Settings.Writable

/-!
# What is read can be written

The invariant of the reader: unless a line was refused, all that was kept so far is of options
and sections that can be written. One lemma for each thing that a line can do to the state shows
that it is kept; so it holds after all lines of a file.
-/

namespace Jobflow.Settings

open Text
open ReadState (isComment)

/-! ## The line of an option -/

/-- The small form of the start of a line is a name that can be written. -/
theorem writableName_of_start {start rest : List Char} (begun : start ≠ []) (bare : Bare start)
    (single : ∀ c ∈ start, c ≠ '\n' ∧ c ≠ '\r') (whole : ∀ c ∈ start, c ≠ '=' ∧ c ≠ ':')
    (plain : isComment (start ++ rest) = false) :
    WritableName (optionName (String.ofList start)) where
  named := by
    rw [optionName, lower, String.toList_ofList, String.toList_ofList]
    exact lowerAfter_ne_nil begun
  small := lower_lower _
  bare := by
    rw [optionName, lower, String.toList_ofList, String.toList_ofList]
    exact bare_lowerAfter bare []
  whole := by
    rw [optionName, lower, String.toList_ofList, String.toList_ofList]
    refine ⟨fun member => ?_, fun member => ?_, fun member => ?_, fun member => ?_⟩
    · exact (whole '=' (mem_of_mem_lowerAfter member (by decide))).1 rfl
    · exact (whole ':' (mem_of_mem_lowerAfter member (by decide))).2 rfl
    · exact (single '\n' (mem_of_mem_lowerAfter member (by decide))).1 rfl
    · exact (single '\r' (mem_of_mem_lowerAfter member (by decide))).2 rfl
  uncommented := by
    rw [optionName, lower, String.toList_ofList, String.toList_ofList]
    rw [Bool.eq_false_iff, Ne, isComment_iff] at plain ⊢
    intro mark
    apply plain
    rw [List.head?_append_of_ne_nil _ begun]
    exact mark.imp (fun first => head?_of_head?_lowerAfter first (by decide))
      (fun first => head?_of_head?_lowerAfter first (by decide))

/-- The line of an option starts no section if it did not do so before it was read. -/
theorem header?_lowerAfter {start blanks after : List Char} {mark : Char}
    (begun : start ≠ []) (noHeader : header? (start ++ blanks ++ mark :: after) = none) :
    header? (lowerAfter [] start ++ delimiter ++ trim after) = none := by
  rw [header?_eq_none_iff] at noHeader ⊢
  intro bracket member
  rw [List.append_assoc, List.head?_append_of_ne_nil _ (lowerAfter_ne_nil begun)] at bracket
  have first := head?_of_head?_lowerAfter bracket (by decide)
  obtain ⟨stem, rfl⟩ : ∃ stem, start = '[' :: stem := by
    cases start with
    | nil => cases first
    | cons c stem =>
      rw [List.head?_cons, Option.some.injEq] at first
      exact ⟨stem, by rw [first]⟩
  apply noHeader rfl
  have small : lowerAfter [] ('[' :: stem) = '[' :: lowerAfter ['['] stem := by
    obtain ⟨form, turns, split⟩ := exists_lowerAfter_cons [] stem '['
    rw [split, turns.stays (by decide)]
    rfl
  rw [small] at member
  -- The bracket is in the value, or after the first character of the name.
  have place : ']' ∈ stem.tail ∨ ']' ∈ after := by
    rw [List.append_assoc, List.cons_append, List.drop_succ_cons, List.drop_one,
      List.tail_append] at member
    have inside : ']' ∈ (lowerAfter ['['] stem).tail ∨ ']' ∈ delimiter ++ trim after := by
      split at member
      · exact Or.inr (List.mem_of_mem_tail member)
      · exact List.mem_append.mp member
    rcases inside with name | value
    · exact Or.inl (mem_tail_of_mem_tail_lowerAfter name (by decide))
    · rcases List.mem_append.mp value with between | trimmed
      · exact absurd between (by decide)
      · exact Or.inr (mem_of_mem_trim trimmed)
  rw [List.append_assoc, List.cons_append, List.drop_succ_cons, List.drop_one, List.tail_append]
  rcases place with name | value
  · cases stem with
    | nil => cases name
    | cons c stem => exact List.mem_append_left _ name
  · split
    · cases blanks with
      | nil => exact value
      | cons blank blanks => exact List.mem_append_right _ (List.mem_cons_of_mem mark value)
    · exact List.mem_append_right _ (List.mem_append_right _ (List.mem_cons_of_mem mark value))

/-- An option whose line was read can be written, with the value that was read. -/
theorem kept_of_option? {content : List Char} {name value : String} (bare : Bare content)
    (single : ∀ c ∈ content, c ≠ '\n' ∧ c ≠ '\r') (plain : isComment content = false)
    (noHeader : header? content = none) (found : option? content = some (name, value))
    (named : name.isEmpty = false) : Kept name [value] := by
  rw [option?, Option.map_eq_some_iff] at found
  obtain ⟨⟨before, after⟩, cut, same⟩ := found
  obtain ⟨rfl, rfl⟩ := Prod.mk.inj same
  obtain ⟨mark, -, split, whole⟩ := cutFirst?_eq_some cut
  obtain ⟨blanks, -, pieces⟩ := exists_trimRight before
  have begun : trimRight before ≠ [] := by
    intro empty
    rw [empty, optionName, lower, String.toList_ofList, lowerAfter] at named
    exact absurd named (by decide)
  have whole' : content = trimRight before ++ blanks ++ mark :: after := by rw [← pieces, split]
  have among : ∀ c ∈ trimRight before, c ∈ content := by
    intro c member
    rw [whole']
    exact List.mem_append_left _ (List.mem_append_left _ member)
  have start : Bare (trimRight before) :=
    { ends := ends_trimRight before
      starts := by
        intro c first
        apply bare.starts
        rw [whole', List.append_assoc, List.head?_append_of_ne_nil _ begun]
        exact first }
  have undivided : ∀ c ∈ trimRight before, c ≠ '=' ∧ c ≠ ':' := by
    intro c member
    have inside : c ∈ before := by
      rw [pieces]
      exact List.mem_append_left _ member
    simpa using whole c inside
  rw [whole', List.append_assoc] at plain
  have nameWritable := writableName_of_start begun start (fun c member => single c (among c member))
    undivided plain
  exact
    { toWritableName := nameWritable
      begun := List.cons_ne_nil _ _
      bareLines := by
        intro line member
        rw [List.mem_singleton.mp member, String.toList_ofList]
        exact bare_trim after
      single := by
        intro line member c inside
        rw [List.mem_singleton.mp member, String.toList_ofList] at inside
        apply single c
        rw [split]
        exact List.mem_append_right _ (List.mem_cons_of_mem mark (mem_of_mem_trim inside))
      plainLines := fun line nothing => absurd nothing List.not_mem_nil
      noHeader := by
        rw [whole'] at noHeader
        rw [optionName, lower, String.toList_ofList, String.toList_ofList, List.headD_cons,
          String.toList_ofList]
        exact header?_lowerAfter begun noHeader }

/-! ## The state of the reader -/

/-- All that was kept of options can be written. -/
def LinesKept (lines : Lines) : Prop := ∀ entry ∈ lines.entries, Kept entry.1 entry.2

namespace ReadState

/-- All that was kept so far can be written. -/
structure Sound (state : ReadState) : Prop where
  /-- The defaults. -/
  defaults : LinesKept state.defaults
  /-- The sections. -/
  sections : ∀ entry ∈ state.sections.entries, WritableHeader entry.1 ∧ LinesKept entry.2

/-- The options of a section can be written. -/
theorem Sound.currentLines {state : ReadState} (sound : state.Sound) (sectionName : String) :
    LinesKept (state.currentLines sectionName) := by
  unfold ReadState.currentLines
  split
  · next lines found => exact (sound.sections _ (OrderedMap.mem_of_find? found)).2
  · exact sound.defaults

/-- Inserting an option that can be written. -/
theorem linesKept_insert {lines : Lines} {name : String} {value : List String}
    (kept : LinesKept lines) (new : Kept name value) : LinesKept (lines.insert name value) := by
  intro entry member
  rcases mem_insertEntry name value lines.entries entry member with old | rfl
  · exact kept entry old
  · exact new

/-- Replacing the options of a section by ones that can be written. -/
theorem Sound.setLines {state : ReadState} (sound : state.Sound) (sectionName : String)
    {lines : Lines} (kept : LinesKept lines) : (state.setLines sectionName lines).Sound := by
  unfold ReadState.setLines
  split
  · next known =>
    refine ⟨sound.defaults, fun entry member => ?_⟩
    rcases mem_insertEntry sectionName lines state.sections.entries entry member with old | rfl
    · exact sound.sections entry old
    · obtain ⟨before, found⟩ := Option.isSome_iff_exists.mp known
      exact ⟨(sound.sections _ (OrderedMap.mem_of_find? found)).1, kept⟩
  · exact ⟨kept, sound.sections⟩

/-- Going on with a value. -/
theorem Sound.extend {state : ReadState} (sound : state.Sound) (sectionName : String)
    {line : String} (bare : Bare line.toList) (single : ∀ c ∈ line.toList, c ≠ '\n' ∧ c ≠ '\r')
    (plain : isComment line.toList = false) : (state.extend sectionName line).Sound := by
  unfold ReadState.extend
  dsimp only
  split
  · next value found =>
    apply sound.setLines
    have kept := sound.currentLines sectionName
    exact linesKept_insert kept
      ((kept _ (OrderedMap.mem_of_find? found)).extend bare single plain)
  · exact sound

/-- Starting a section. -/
theorem Sound.startSection {state next : ReadState} (sound : state.Sound) {name : String}
    (named : name.toList ≠ []) (single : ∀ c ∈ name.toList, c ≠ '\n' ∧ c ≠ '\r')
    (run : state.startSection name = .ok next) : next.Sound := by
  unfold ReadState.startSection at run
  split at run
  · cases run
  · simp only at run
    split at run
    · cases run
      exact ⟨sound.defaults, sound.sections⟩
    · next distinct =>
      cases run
      refine ⟨sound.defaults, fun entry member => ?_⟩
      rcases mem_insertEntry name OrderedMap.empty state.sections.entries entry member with
        old | rfl
      · exact sound.sections entry old
      · exact ⟨⟨named, distinct, fun feed => (single '\n' feed).1 rfl,
          fun returned => (single '\r' returned).2 rfl⟩, fun option nothing => by cases nothing⟩

/-- Replacing options refuses no line. -/
theorem malformed_setLines (state : ReadState) (sectionName : String) (lines : Lines) :
    (state.setLines sectionName lines).malformed = state.malformed := by
  unfold setLines
  split <;> rfl

/-- Going on with a value refuses no line. -/
theorem malformed_extend (state : ReadState) (sectionName line : String) :
    (state.extend sectionName line).malformed = state.malformed := by
  unfold extend
  dsimp only
  split
  · exact malformed_setLines ..
  · rfl

/-- Starting a section refuses no line. -/
theorem malformed_startSection {state next : ReadState} {name : String}
    (run : state.startSection name = .ok next) : next.malformed = state.malformed := by
  unfold startSection at run
  split at run
  · cases run
  · simp only at run
    split at run <;> · cases run; rfl

/-- Unless a line was refused, all that was kept so far can be written. -/
def Proper (state : ReadState) : Prop := state.malformed = [] → state.Sound

/-- Setting an option. One without a name refuses its line. -/
theorem Proper.setOption {state next : ReadState} (proper : state.Proper)
    {sectionName name value : String} {number : Nat} {line : List Char}
    (kept : name.isEmpty = false → Kept name [value])
    (run : state.setOption sectionName number line name value = .ok next) : next.Proper := by
  unfold ReadState.setOption at run
  cases named : name.isEmpty with
  | true =>
    simp only [named, if_true] at run
    split at run
    · cases run
    · cases run
      intro clean
      rw [malformed_setLines, refuse] at clean
      exact absurd clean (List.append_ne_nil_of_right_ne_nil _ (List.cons_ne_nil _ _))
  | false =>
    simp only [named, Bool.false_eq_true, if_false] at run
    split at run
    · cases run
    · cases run
      intro clean
      rw [malformed_setLines] at clean
      have set := (proper clean).setLines sectionName
        (linesKept_insert ((proper clean).currentLines sectionName) (kept named))
      exact ⟨set.defaults, set.sections⟩

/-- Reading a line that is neither empty nor a comment nor goes on with a value. -/
theorem Proper.readEntry {state next : ReadState} (proper : state.Proper) {number : Nat}
    {line content : List Char} (bare : Bare content) (plain : isComment content = false)
    (single : ∀ c ∈ content, c ≠ '\n' ∧ c ≠ '\r')
    (run : state.readEntry number line content = .ok next) : next.Proper := by
  unfold ReadState.readEntry at run
  split at run
  · next name found =>
    obtain ⟨named, among⟩ := header?_eq_some found
    intro clean
    rw [malformed_startSection run] at clean
    exact (proper clean).startSection named (fun c member => single c (among c member)) run
  · next noHeader =>
    split at run
    · cases run
    · split at run
      · next name value found =>
        exact proper.setOption (kept_of_option? bare single plain noHeader found) run
      · cases run
        intro clean
        exact absurd clean (List.append_ne_nil_of_right_ne_nil _ (List.cons_ne_nil _ _))

/-- Reading a line of a file without carriage returns. -/
theorem Proper.readLine {state next : ReadState} (proper : state.Proper) {number : Nat}
    {contents line : List Char} (absent : '\r' ∉ contents) (member : line ∈ fileLines contents)
    (run : state.readLine number line = .ok next) : next.Proper := by
  have single := trim_single absent member
  have bare := bare_trim line
  unfold ReadState.readLine at run
  dsimp only at run
  split at run
  · cases run
    exact proper
  · next plain =>
    have uncommented : isComment (trim line) = false := Bool.eq_false_iff.mpr plain
    have grown : ∀ sectionName, (state.extend sectionName (String.ofList (trim line))).Proper := by
      intro sectionName clean
      rw [malformed_extend] at clean
      apply (proper clean).extend <;> rw [String.toList_ofList]
      · exact bare
      · exact single
      · exact uncommented
    have moved : ∀ indent, ({ state with indent } : ReadState).Proper :=
      fun indent clean => ⟨(proper clean).defaults, (proper clean).sections⟩
    split at run
    · next empty =>
      have blank : String.ofList (trim line) = "" := by rw [List.isEmpty_iff.mp empty]
      split at run
      · cases run
        split
        · exact proper
        · rw [← blank]
          exact grown _
      · cases run
        exact proper
    · split at run
      · split at run
        · cases run
          exact grown _
        · exact (moved _).readEntry bare uncommented single run
      · exact (moved _).readEntry bare uncommented single run

/-- Reading lines of a file without carriage returns. -/
theorem Proper.readLines {state next : ReadState} (proper : state.Proper) {number : Nat}
    {contents : List Char} {lines : List (List Char)} (absent : '\r' ∉ contents)
    (among : ∀ line ∈ lines, line ∈ fileLines contents)
    (run : state.readLines number lines = .ok next) : next.Proper := by
  induction lines generalizing state number with
  | nil =>
    cases run
    exact proper
  | cons line rest inductionHypothesis =>
    rw [ReadState.readLines] at run
    cases first : state.readLine number line with
    | error error =>
      rw [first] at run
      cases run
    | ok middle =>
      rw [first] at run
      exact inductionHypothesis (proper.readLine absent (among line List.mem_cons_self) first)
        (fun other member => among other (List.mem_cons_of_mem line member)) run

end ReadState

/-- A section whose lines were kept can be written. -/
theorem sectionWritable_of_linesKept {lines : Lines} (kept : LinesKept lines) :
    SectionWritable (lines.map joinValue) := by
  intro entry member
  obtain ⟨⟨name, value⟩, known, rfl⟩ := List.mem_map.mp member
  exact (kept (name, value) known).writable

/-- The settings that the state of the reader stands for. -/
def ReadState.result (state : ReadState) : Settings where
  defaults := state.defaults.map joinValue
  sections := state.sections.map fun lines => lines.map joinValue

/-- Settings are read if every line can be read and none was refused. -/
theorem read_eq_ok_iff (contents : List Char) (settings : Settings) :
    read contents = .ok settings ↔
      ∃ state, ReadState.readLines {} 1 (fileLines contents) = .ok state ∧
        state.malformed = [] ∧ state.result = settings := by
  unfold read
  cases ReadState.readLines {} 1 (fileLines contents) with
  | error error =>
    constructor
    · intro run
      cases run
    · rintro ⟨state, run, -⟩
      cases run
  | ok state =>
    show (if state.malformed.isEmpty then .ok state.result
      else .error (.malformed state.malformed) : Except ReadError Settings) = _ ↔ _
    split
    · next clean =>
      constructor
      · intro run
        exact ⟨state, rfl, List.isEmpty_iff.mp clean, Except.ok.inj run⟩
      · rintro ⟨_, same, -, rfl⟩
        cases same
        rfl
    · next refused =>
      constructor
      · intro run
        cases run
      · rintro ⟨_, same, clean, -⟩
        cases same
        exact absurd (List.isEmpty_iff.mpr clean) refused

/-- Settings that were read from a file without carriage returns can be written. -/
theorem allWritable_of_read {contents : List Char} {settings : Settings}
    (absent : '\r' ∉ contents) (run : read contents = .ok settings) : settings.AllWritable := by
  obtain ⟨state, lines, clean, rfl⟩ := (read_eq_ok_iff contents settings).mp run
  have nothing : ReadState.Proper {} := fun _ =>
    ⟨fun entry none => (by cases none), fun entry none => (by cases none)⟩
  have sound := nothing.readLines absent (fun line member => member) lines clean
  refine ⟨sectionWritable_of_linesKept sound.defaults, fun entry member => ?_⟩
  obtain ⟨⟨name, options⟩, known, rfl⟩ := List.mem_map.mp member
  obtain ⟨header, kept⟩ := sound.sections (name, options) known
  exact ⟨header, sectionWritable_of_linesKept kept⟩

end Jobflow.Settings
