import Jobflow.Proofs.Settings.Reading

/-!
# What stops the reading of settings

The lines of a settings file that are neither empty nor comments nor go on with a value are its
entries. Whether a line goes on with a value depends on the lines before it, of which only three
things count: the section that lines are in, whether the last option has a name, and how far the
last entry is indented. So the entries of a file are told without the reader.

An entry stops the reader if it comes before the first section, or if it gives a section or an
option again; the first such entry decides. The reader keeps more than that, the values above all,
but of what it keeps only the names of sections, the options given and the refused lines matter
here, and these are the entries before.
-/

namespace Jobflow.Settings

open Text
open ReadState (isComment)

/-! ## Entries -/

/-- What an entry is. -/
inductive EntryKind
  /-- A section starts. -/
  | header (name : String)
  /-- An option of a section is set. -/
  | option (sectionName name : String)
  /-- It is neither. -/
  | malformed
  /-- It is no section, and none has started. -/
  | homeless
deriving DecidableEq

/-- A line that is neither empty nor a comment nor goes on with a value. -/
structure Entry where
  /-- The number of the line. -/
  number : Nat
  /-- The line. -/
  line : List Char
  /-- What it is. -/
  kind : EntryKind

/-- What is to be known of earlier lines to tell what the next one is. -/
structure Position where
  /-- The section that lines are in, if one has started. -/
  sectionName : Option String := none
  /-- Whether the section's last option has a name, so that deeper lines go on with its value. -/
  isOpen : Bool := false
  /-- The indentation of the last entry. -/
  indent : Nat := 0

/-- The number of blanks that a line starts with. -/
def indentOf (line : List Char) : Nat := (line.takeWhile isBlank).length

/-- What a text is in a section, or before the first one. -/
def kindIn (sectionName : Option String) (content : List Char) : EntryKind :=
  match header? content, sectionName, option? content with
  | some name, _, _ => .header name
  | none, none, _ => .homeless
  | none, some sectionName, some (name, _) => .option sectionName name
  | none, some _, none => .malformed

/-- Whether a line is an entry. -/
def Position.admits (position : Position) (line : List Char) : Bool :=
  !isComment (trim line) && !(trim line).isEmpty &&
    !(position.isOpen && position.indent < indentOf line)

/-- The position after an entry. -/
def Position.after (position : Position) (indent : Nat) : EntryKind → Position
  | .header name => ⟨some name, false, indent⟩
  | .option _ name => { position with isOpen := !name.isEmpty, indent }
  | .malformed | .homeless => { position with indent }

/-- The entries among lines, the first of which has the given number. -/
def entriesFrom (position : Position) (number : Nat) : List (List Char) → List Entry
  | [] => []
  | line :: rest =>
    if position.admits line then
      let kind := kindIn position.sectionName (trim line)
      ⟨number, line, kind⟩ :: entriesFrom (position.after (indentOf line) kind) (number + 1) rest
    else entriesFrom position (number + 1) rest

/-- The entries among the lines of a file. -/
def entries (lines : List (List Char)) : List Entry := entriesFrom {} 1 lines

/-- Whether an entry is refused in the end: it is neither section nor option, or an option without
a name. -/
def Entry.isRefused (entry : Entry) : Bool :=
  match entry.kind with
  | .option _ name => name.isEmpty
  | .malformed => true
  | _ => false

/-- The numbers and texts of the entries that are refused in the end. -/
def refusals (entries : List Entry) : List (Nat × String) :=
  (entries.filter Entry.isRefused).map fun entry => (entry.number, String.ofList entry.line)

/-- The reader stops at an entry, because of those before it. -/
inductive Entry.Stops (earlier : List Entry) (entry : Entry) : ReadError → Prop
  /-- No section has started. -/
  | homeless (kind : entry.kind = .homeless) :
    Stops earlier entry (.noSection entry.number (String.ofList entry.line))
  /-- There is a section of that name; the defaults can be gone back to. -/
  | repeatedSection {name : String} (kind : entry.kind = .header name)
    (distinct : name ≠ defaultSection) (again : ∃ other ∈ earlier, other.kind = .header name) :
    Stops earlier entry (.repeatedSection name)
  /-- The section has that option. -/
  | repeatedOption {sectionName name : String} (kind : entry.kind = .option sectionName name)
    (again : ∃ other ∈ earlier, other.kind = .option sectionName name) :
    Stops earlier entry (.repeatedOption sectionName name)

/-- The reader stops at one of the entries that follow others, and at none before it. -/
inductive Halts : List Entry → List Entry → ReadError → Prop
  /-- It stops at the first one. -/
  | here {earlier : List Entry} {entry : Entry} {rest : List Entry} {error : ReadError}
    (stops : entry.Stops earlier error) : Halts earlier (entry :: rest) error
  /-- It stops at a later one. -/
  | later {earlier : List Entry} {entry : Entry} {rest : List Entry} {error : ReadError}
    (passes : ∀ error, ¬ entry.Stops earlier error)
    (halts : Halts (earlier ++ [entry]) rest error) : Halts earlier (entry :: rest) error

/-- The reader stops at none of some entries. -/
def Passes (earlier entries : List Entry) : Prop := ∀ error, ¬ Halts earlier entries error

/-- There is one reason at most to stop at an entry. -/
theorem Entry.Stops.unique {earlier : List Entry} {entry : Entry} {error other : ReadError}
    (stops : entry.Stops earlier error) (also : entry.Stops earlier other) : error = other := by
  cases stops with
  | homeless kind => cases also <;> simp_all
  | repeatedSection kind distinct again => cases also <;> simp_all
  | repeatedOption kind again => cases also <;> simp_all

/-- A section stops the reader if it is given again. -/
theorem Entry.Stops.of_header {earlier : List Entry} {entry : Entry} {error : ReadError}
    {name : String} (stops : entry.Stops earlier error) (kind : entry.kind = .header name) :
    name ≠ defaultSection ∧ ∃ other ∈ earlier, other.kind = .header name := by
  cases stops with
  | homeless other => cases kind.symm.trans other
  | repeatedSection other distinct again =>
    cases kind.symm.trans other
    exact ⟨distinct, again⟩
  | repeatedOption other again => cases kind.symm.trans other

/-- An option stops the reader if it is given again. -/
theorem Entry.Stops.of_option {earlier : List Entry} {entry : Entry} {error : ReadError}
    {sectionName name : String} (stops : entry.Stops earlier error)
    (kind : entry.kind = .option sectionName name) :
    ∃ other ∈ earlier, other.kind = .option sectionName name := by
  cases stops with
  | homeless other => cases kind.symm.trans other
  | repeatedSection other distinct again => cases kind.symm.trans other
  | repeatedOption other again =>
    cases kind.symm.trans other
    exact again

/-- A malformed line does not stop the reader. -/
theorem Entry.Stops.ne_malformed {earlier : List Entry} {entry : Entry} {error : ReadError}
    (stops : entry.Stops earlier error) : entry.kind ≠ .malformed := by
  intro kind
  cases stops with
  | homeless other => cases kind.symm.trans other
  | repeatedSection other distinct again => cases kind.symm.trans other
  | repeatedOption other again => cases kind.symm.trans other

/-- There is one reason at most to stop at some entries. -/
theorem Halts.unique {earlier entries : List Entry} {error other : ReadError}
    (halts : Halts earlier entries error) (also : Halts earlier entries other) : error = other := by
  induction halts with
  | here stops =>
    cases also with
    | here alsoStops => exact stops.unique alsoStops
    | later passes _ => exact absurd stops (passes _)
  | later passes _ inductionHypothesis =>
    cases also with
    | here alsoStops => exact absurd alsoStops (passes _)
    | later _ alsoHalts => exact inductionHypothesis alsoHalts

/-- No entry stops the reader for being malformed, as these are refused in the end. -/
theorem Halts.ne_malformed {earlier entries : List Entry} {error : ReadError}
    (halts : Halts earlier entries error) (lines : List (Nat × String)) :
    error ≠ .malformed lines := by
  induction halts with
  | here stops =>
    rintro rfl
    cases stops
  | later _ _ inductionHypothesis => exact inductionHypothesis

/-! ## What the reader keeps of entries -/

namespace ReadState

/-- The position of the reader. -/
def position (state : ReadState) : Position where
  sectionName := state.current
  isOpen := state.current.isSome && !state.option.isEmpty
  indent := state.indent

/-- The reader has met some entries. -/
structure Met (state : ReadState) (earlier : List Entry) : Prop where
  /-- The sections are those that have started, besides the defaults. -/
  sections : ∀ name, state.sections.contains name = true ↔
    name ≠ defaultSection ∧ ∃ entry ∈ earlier, entry.kind = .header name
  /-- The options are those that were set. -/
  given : ∀ sectionName name, (sectionName, name) ∈ state.given ↔
    ∃ entry ∈ earlier, entry.kind = .option sectionName name
  /-- The malformed lines are those that are refused. -/
  malformed : state.malformed = refusals earlier

/-- At first there are none. -/
theorem met_nil : Met {} [] where
  sections name := by simp [OrderedMap.contains, OrderedMap.find?, OrderedMap.empty]
  given sectionName name := by simp
  malformed := rfl

/-- Replacing the options of a section adds no section. -/
theorem contains_setLines (state : ReadState) (sectionName : String) (lines : Lines)
    (name : String) :
    (state.setLines sectionName lines).sections.contains name = state.sections.contains name := by
  unfold setLines
  split
  · next known =>
    rw [Bool.eq_iff_iff, OrderedMap.contains_iff, OrderedMap.contains_iff,
      OrderedMap.mem_keys_insert]
    rw [OrderedMap.contains_iff] at known
    exact ⟨fun either => either.elim id fun same => same ▸ known, Or.inl⟩
  · rfl

/-- Replacing options sets none anew. -/
theorem given_setLines (state : ReadState) (sectionName : String) (lines : Lines) :
    (state.setLines sectionName lines).given = state.given := by
  unfold setLines
  split <;> rfl

/-- Replacing options does not move. -/
theorem position_setLines (state : ReadState) (sectionName : String) (lines : Lines) :
    (state.setLines sectionName lines).position = state.position := by
  unfold setLines
  split <;> rfl

/-- The entries that are met count only by sections, options and malformed lines. -/
theorem Met.of_same {state next : ReadState} {earlier : List Entry} (met : state.Met earlier)
    (sections : ∀ name, next.sections.contains name = state.sections.contains name)
    (given : next.given = state.given) (malformed : next.malformed = state.malformed) :
    next.Met earlier where
  sections name := by rw [sections, met.sections]
  given sectionName name := by rw [given, met.given]
  malformed := by rw [malformed, met.malformed]

/-- Going on with a value meets no entry. -/
theorem Met.extend {state : ReadState} {earlier : List Entry} (met : state.Met earlier)
    (sectionName line : String) : (state.extend sectionName line).Met earlier := by
  unfold ReadState.extend
  dsimp only
  split
  · exact met.of_same (contains_setLines state _ _) (given_setLines ..) (malformed_setLines ..)
  · exact met

/-- Going on with a value does not move. -/
theorem position_extend (state : ReadState) (sectionName line : String) :
    (state.extend sectionName line).position = state.position := by
  unfold extend
  dsimp only
  split
  · exact position_setLines ..
  · rfl

/-- The kinds of entries and a further one. -/
theorem exists_kind_concat (earlier : List Entry) (entry : Entry) (kind : EntryKind) :
    (∃ other ∈ earlier ++ [entry], other.kind = kind) ↔
      (∃ other ∈ earlier, other.kind = kind) ∨ entry.kind = kind := by
  simp only [List.mem_append, List.mem_singleton, or_and_right, exists_or, exists_eq_left]

/-- The refusals of entries and a further one. -/
theorem refusals_concat (earlier : List Entry) (entry : Entry) :
    refusals (earlier ++ [entry]) = refusals earlier ++
      if entry.isRefused then [(entry.number, String.ofList entry.line)] else [] := by
  rw [refusals, refusals, List.filter_append, List.map_append, List.filter_singleton]
  cases entry.isRefused <;> rfl

/-- What a step of the reader does at an entry: it stops as the entry says, or else it has met the
entry and moves on. -/
def Takes (earlier : List Entry) (entry : Entry) (onwards : Position)
    (result : Except ReadError ReadState) : Prop :=
  (∃ error, result = .error error ∧ entry.Stops earlier error) ∨
    ∃ next, result = .ok next ∧ (∀ error, ¬ entry.Stops earlier error) ∧
      next.Met (earlier ++ [entry]) ∧ next.position = onwards

/-- Starting a section. -/
theorem takes_startSection {state : ReadState} {earlier : List Entry} (met : state.Met earlier)
    {entry : Entry} {name : String} (kind : entry.kind = .header name) :
    Takes earlier entry ⟨some name, false, state.indent⟩ (state.startSection name) := by
  have plain : entry.isRefused = false := by rw [Entry.isRefused, kind]
  unfold startSection
  by_cases known : state.sections.contains name = true
  · rw [if_pos known]
    obtain ⟨distinct, again⟩ := (met.sections name).mp known
    exact Or.inl ⟨_, rfl, .repeatedSection kind distinct again⟩
  · rw [if_neg known]
    refine Or.inr ?_
    have passes : ∀ error, ¬ entry.Stops earlier error := fun error stops =>
      known ((met.sections name).mpr (stops.of_header kind))
    have malformed : state.malformed = refusals (earlier ++ [entry]) := by
      rw [refusals_concat, plain, met.malformed]
      exact (List.append_nil _).symm
    have given : ∀ sectionName option, (sectionName, option) ∈ state.given ↔
        ∃ other ∈ earlier ++ [entry], other.kind = .option sectionName option := by
      intro sectionName option
      rw [met.given]
      simp [kind]
    dsimp only
    split
    · next default =>
      refine ⟨_, rfl, passes, ⟨fun other => ?_, given, malformed⟩, rfl⟩
      change state.sections.contains other = true ↔ _
      rw [met.sections]
      rw [exists_kind_concat, kind, EntryKind.header.injEq]
      exact and_congr_right fun distinct =>
        ⟨Or.inl, fun either => either.resolve_right fun same => distinct (same ▸ default)⟩
    · next distinct =>
      refine ⟨_, rfl, passes, ⟨fun other => ?_, given, malformed⟩, rfl⟩
      change (state.sections.insert name OrderedMap.empty).contains other = true ↔ _
      rw [OrderedMap.contains_iff, OrderedMap.mem_keys_insert, ← OrderedMap.contains_iff,
        met.sections]
      rw [exists_kind_concat, kind, EntryKind.header.injEq]
      constructor
      · rintro (⟨other_distinct, again⟩ | rfl)
        · exact ⟨other_distinct, Or.inl again⟩
        · exact ⟨distinct, Or.inr rfl⟩
      · rintro ⟨other_distinct, again | rfl⟩
        · exact Or.inl ⟨other_distinct, again⟩
        · exact Or.inr rfl

/-- Refusing a line that is malformed. -/
theorem takes_refuse {state : ReadState} {earlier : List Entry} (met : state.Met earlier)
    {entry : Entry} (kind : entry.kind = .malformed) :
    Takes earlier entry state.position (.ok (state.refuse entry.number entry.line)) := by
  refine Or.inr ⟨_, rfl, fun error stops => stops.ne_malformed kind,
    ⟨fun name => ?_, fun sectionName name => ?_, ?_⟩, rfl⟩
  · change state.sections.contains name = true ↔ _
    rw [met.sections]
    simp [kind]
  · change (sectionName, name) ∈ state.given ↔ _
    rw [met.given]
    simp [kind]
  · change state.malformed ++ [(entry.number, String.ofList entry.line)] = _
    rw [refusals_concat, met.malformed, Entry.isRefused, kind]
    rfl

/-- Setting an option. One without a name is refused, and counts as set. -/
theorem takes_setOption {state : ReadState} {earlier : List Entry} (met : state.Met earlier)
    {entry : Entry} {sectionName name : String} (kind : entry.kind = .option sectionName name)
    (current : state.current = some sectionName) (value : String) :
    Takes earlier entry ⟨some sectionName, !name.isEmpty, state.indent⟩
      (state.setOption sectionName entry.number entry.line name value) := by
  unfold setOption
  dsimp only
  -- Whether the line is refused or not, all but the malformed lines stays.
  obtain ⟨noted, isNoted, same, malformed⟩ : ∃ noted,
      (if name.isEmpty then state.refuse entry.number entry.line else state) = noted ∧
        noted = { state with malformed := noted.malformed } ∧
        noted.malformed = refusals (earlier ++ [entry]) := by
    have refused : entry.isRefused = name.isEmpty := by rw [Entry.isRefused, kind]
    rw [refusals_concat, refused]
    split
    · exact ⟨_, rfl, rfl, by rw [← met.malformed]; rfl⟩
    · exact ⟨_, rfl, rfl, by rw [← met.malformed, List.append_nil]⟩
  rw [isNoted]
  have given : noted.given = state.given := by rw [same]
  by_cases again : noted.given.contains (sectionName, name) = true
  · rw [if_pos again]
    rw [List.contains_iff_mem, given, met.given] at again
    exact Or.inl ⟨_, rfl, .repeatedOption kind again⟩
  · rw [if_neg again]
    rw [List.contains_iff_mem, given, met.given] at again
    refine Or.inr ⟨_, rfl, fun error stops => again (stops.of_option kind),
      ⟨fun other => ?_, fun otherSection other => ?_, ?_⟩, ?_⟩
    · change (noted.setLines sectionName _).sections.contains other = true ↔ _
      rw [contains_setLines, same]
      change state.sections.contains other = true ↔ _
      rw [met.sections]
      simp [kind]
    · change (otherSection, other) ∈ (sectionName, name) :: noted.given ↔ _
      rw [List.mem_cons, given, met.given]
      rw [exists_kind_concat, kind, EntryKind.option.injEq, Prod.mk.injEq, or_comm,
        eq_comm (a := otherSection), eq_comm (a := other)]
    · change (noted.setLines sectionName _).malformed = _
      rw [malformed_setLines, malformed]
    · have unmoved := position_setLines noted sectionName
        ((noted.currentLines sectionName).insert name [value])
      have there : noted.position = state.position := by rw [same]; rfl
      have section_eq := congrArg Position.sectionName (unmoved.trans there)
      have indent_eq := congrArg Position.indent (unmoved.trans there)
      simp only [position] at section_eq indent_eq ⊢
      rw [section_eq, indent_eq, current]
      rfl

/-- Reading an entry, whose line is not blank. -/
theorem takes_readEntry {state : ReadState} {earlier : List Entry} (met : state.Met earlier)
    (number : Nat) (line content : List Char) :
    Takes earlier ⟨number, line, kindIn state.current content⟩
      (state.position.after state.indent (kindIn state.current content))
      (state.readEntry number line content) := by
  unfold readEntry kindIn
  cases header? content with
  | some name => exact takes_startSection met rfl
  | none =>
    cases current : state.current with
    | none => exact Or.inl ⟨_, rfl, .homeless rfl⟩
    | some sectionName =>
      cases option? content with
      | none =>
        have refuses : Takes earlier ⟨number, line, .malformed⟩ _ _ := takes_refuse met rfl
        exact refuses
      | some option =>
        have sets : Takes earlier ⟨number, line, .option sectionName option.1⟩ _ _ :=
          takes_setOption met rfl current option.2
        rwa [← current] at sets

/-- Reading a line meets its entry, if it is one, and goes on with a value at most otherwise. -/
theorem takes_readLine {state : ReadState} {earlier : List Entry} (met : state.Met earlier)
    (number : Nat) (line : List Char) :
    if state.position.admits line then
      Takes earlier ⟨number, line, kindIn state.current (trim line)⟩
        (state.position.after (indentOf line) (kindIn state.current (trim line)))
        (state.readLine number line)
    else ∃ next, state.readLine number line = .ok next ∧ next.Met earlier ∧
      next.position = state.position := by
  have entry : Takes earlier ⟨number, line, kindIn state.current (trim line)⟩
      (state.position.after (indentOf line) (kindIn state.current (trim line)))
      ({ state with indent := indentOf line }.readEntry number line (trim line)) := by
    have moved : ({ state with indent := indentOf line } : ReadState).Met earlier :=
      met.of_same (fun _ => rfl) rfl rfl
    have takes := takes_readEntry moved number line (trim line)
    cases kind : kindIn state.current (trim line) <;> rwa [kind] at takes
  have stays : ∃ next, (Except.ok state : Except ReadError ReadState) = .ok next ∧
      next.Met earlier ∧ next.position = state.position := ⟨state, rfl, met, rfl⟩
  have goesOn (sectionName text : String) : ∃ next,
      (Except.ok (state.extend sectionName text) : Except ReadError ReadState) = .ok next ∧
        next.Met earlier ∧ next.position = state.position :=
    ⟨_, rfl, met.extend sectionName text, position_extend state sectionName text⟩
  unfold readLine
  dsimp only
  by_cases comment : isComment (trim line) = true
  · have passed : state.position.admits line = false := by simp [Position.admits, comment]
    rw [passed, if_neg Bool.false_ne_true, if_pos comment]
    exact stays
  rw [if_neg comment]
  by_cases empty : (trim line).isEmpty = true
  · have passed : state.position.admits line = false := by simp [Position.admits, empty]
    rw [passed, if_neg Bool.false_ne_true, if_pos empty]
    cases state.current with
    | none => exact stays
    | some sectionName =>
      dsimp only
      split
      · exact stays
      · exact goesOn sectionName ""
  rw [if_neg empty]
  have admits : state.position.admits line = !(state.current.isSome && !state.option.isEmpty &&
      state.indent < indentOf line) := by
    simp only [Position.admits, comment, empty, Bool.not_false, Bool.true_and]
    rfl
  rw [admits]
  cases current : state.current with
  | none =>
    rw [current] at entry
    exact entry
  | some sectionName =>
    rw [current] at entry
    rw [Option.isSome_some, Bool.true_and]
    by_cases deeper : (!state.option.isEmpty && decide (state.indent < indentOf line)) = true
    · have further : (!state.option.isEmpty &&
          decide (state.indent < (line.takeWhile isBlank).length)) = true := deeper
      dsimp only
      rw [deeper, if_pos further]
      exact goesOn sectionName _
    · have notFurther : ¬ (!state.option.isEmpty &&
          decide (state.indent < (line.takeWhile isBlank).length)) = true := deeper
      dsimp only
      rw [Bool.eq_false_iff.mpr deeper, if_neg notFurther]
      exact entry

/-- The reader stops at the first entry that stops it, or else it meets all entries. -/
theorem readLines_cases {state : ReadState} {earlier : List Entry} (met : state.Met earlier)
    (number : Nat) (lines : List (List Char)) :
    (∃ error, state.readLines number lines = .error error ∧
        Halts earlier (entriesFrom state.position number lines) error) ∨
      ∃ last, state.readLines number lines = .ok last ∧
        Passes earlier (entriesFrom state.position number lines) ∧
        last.Met (earlier ++ entriesFrom state.position number lines) := by
  induction lines generalizing state earlier number with
  | nil =>
    refine Or.inr ⟨state, rfl, fun error halts => (by cases halts), ?_⟩
    rw [entriesFrom, List.append_nil]
    exact met
  | cons line rest inductionHypothesis =>
    have step := takes_readLine met number line
    rw [readLines, entriesFrom]
    by_cases admitted : state.position.admits line = true
    · rw [if_pos admitted] at step ⊢
      dsimp only
      rcases step with ⟨error, run, stops⟩ | ⟨next, run, passes, metNext, onwards⟩
      · rw [run]
        exact Or.inl ⟨error, rfl, .here stops⟩
      · rw [run]
        rcases inductionHypothesis metNext (number + 1) with
          ⟨error, later, halts⟩ | ⟨last, later, passed, metLast⟩
        · rw [onwards] at halts
          exact Or.inl ⟨error, later, .later passes halts⟩
        · rw [onwards] at passed metLast
          refine Or.inr ⟨last, later, ?_, ?_⟩
          · rintro error (stops | ⟨-, halts⟩)
            · exact passes error stops
            · exact passed error halts
          · rw [List.append_assoc] at metLast
            exact metLast
    · rw [if_neg admitted] at step ⊢
      obtain ⟨next, run, metNext, onwards⟩ := step
      rw [run, ← onwards]
      exact inductionHypothesis metNext (number + 1)

end ReadState

end Jobflow.Settings
