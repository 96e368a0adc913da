import Jobflow.Proofs.Settings.Reading
import Jobflow.Proofs.Settings.Written

/-!
# What is written reads back

Reading the file that settings were written to gives the settings again, if they can be written.
The reader is followed line by line: each line of an option adds to the value of that option
alone, and after the lines of a section the state stands for the settings with that section.
-/

namespace Jobflow.Settings

open Text
open ReadState (isComment)

/-! ## Sections on their own -/

/-- The options of a section, without the defaults. -/
def own (settings : Settings) (sectionName : String) : Section :=
  if sectionName = defaultSection then settings.defaults
  else (settings.sections.find? sectionName).getD .empty

/-- Replace the options of a section. -/
def setOwn (settings : Settings) (sectionName : String) (options : Section) : Settings :=
  if sectionName = defaultSection then { settings with defaults := options }
  else { settings with sections := settings.sections.insert sectionName options }

/-- The options of a section are the ones that they were replaced by. -/
theorem own_setOwn (settings : Settings) (sectionName : String) (options : Section)
    (other : String) : (settings.setOwn sectionName options).own other =
      if other = sectionName then options else settings.own other := by
  unfold own setOwn
  by_cases default : sectionName = defaultSection
  · subst default
    rw [if_pos rfl]
    split <;> rfl
  · rw [if_neg default]
    by_cases same : other = sectionName
    · subst same
      rw [if_neg default, if_pos rfl, OrderedMap.find?_insert, if_pos rfl]
      rfl
    · rw [if_neg same, OrderedMap.find?_insert, if_neg same]

/-- Of two replacements the later one counts. -/
theorem setOwn_setOwn (settings : Settings) (sectionName : String) (first second : Section) :
    (settings.setOwn sectionName first).setOwn sectionName second =
      settings.setOwn sectionName second := by
  unfold setOwn
  by_cases default : sectionName = defaultSection
  · simp only [if_pos default]
  · simp only [if_neg default, OrderedMap.insert_twice]

/-- Replacing the options of a section by themselves changes nothing. -/
theorem setOwn_own {settings : Settings} {sectionName : String}
    (known : sectionName ≠ defaultSection → settings.sections.contains sectionName = true) :
    settings.setOwn sectionName (settings.own sectionName) = settings := by
  unfold own setOwn
  by_cases default : sectionName = defaultSection
  · simp only [if_pos default]
  · obtain ⟨options, found⟩ := Option.isSome_iff_exists.mp (known default)
    rw [if_neg default, if_neg default, found, Option.getD_some, OrderedMap.insert_of_find? found]

/-! ## The state between lines -/

namespace ReadState

/-- A state stands for settings, and every option that was given is one of theirs. -/
structure Reads (state : ReadState) (settings : Settings) : Prop where
  /-- What was kept is what the settings say. -/
  result : state.result = settings
  /-- No line was refused. -/
  clean : state.malformed = []
  /-- What was given is there. -/
  given : ∀ pair ∈ state.given, pair.2 ∈ (settings.own pair.1).keys

/-- A state stands for settings, and lines go to a section of theirs. -/
structure Within (state : ReadState) (settings : Settings) (sectionName : String) : Prop
    extends Reads state settings where
  /-- The section is the current one. -/
  current : state.current = some sectionName
  /-- It is among the sections unless it is that of the defaults. -/
  known : state.sections.contains sectionName = true ↔ sectionName ≠ defaultSection

variable {state : ReadState} {settings : Settings} {sectionName : String}

/-- What was given is there still if the options of a section stay among its new ones. -/
theorem Reads.given_setOwn (reads : state.Reads settings) {options : Section}
    (kept : ∀ name ∈ (settings.own sectionName).keys, name ∈ options.keys) :
    ∀ pair ∈ state.given, pair.2 ∈ ((settings.setOwn sectionName options).own pair.1).keys := by
  intro pair member
  have already := reads.given pair member
  rw [own_setOwn]
  split
  · next same =>
    rw [same] at already
    exact kept pair.2 already
  · exact already

/-- What a state stands for has the sections of the state. -/
theorem contains_result (state : ReadState) (sectionName : String) :
    state.result.sections.contains sectionName = state.sections.contains sectionName := by
  rw [OrderedMap.contains, OrderedMap.contains, result, OrderedMap.find?_map, Option.isSome_map]

/-- The current lines are those of the section. -/
theorem currentLines_map
    (known : state.sections.contains sectionName = true ↔ sectionName ≠ defaultSection) :
    (state.currentLines sectionName).map joinValue = state.result.own sectionName := by
  rw [own, result, OrderedMap.find?_map, currentLines]
  rw [OrderedMap.contains, Option.isSome_iff_ne_none] at known
  by_cases default : sectionName = defaultSection
  · have absent : state.sections.find? sectionName = none := by
      by_contra present
      exact known.mp present default
    rw [if_pos default, absent]
  · obtain ⟨lines, found⟩ := Option.ne_none_iff_exists'.mp (known.mpr default)
    rw [if_neg default, found]
    rfl

/-- Replacing the current lines replaces the options of the section. -/
theorem result_setLines
    (known : state.sections.contains sectionName = true ↔ sectionName ≠ defaultSection)
    (lines : Lines) :
    (state.setLines sectionName lines).result =
      state.result.setOwn sectionName (lines.map joinValue) := by
  rw [setLines, setOwn]
  by_cases default : sectionName = defaultSection
  · rw [if_pos default, if_neg fun present => known.mp present default]
    rfl
  · rw [if_neg default, if_pos (known.mpr default), result, OrderedMap.map_insert]
    rfl

/-- The current lines are the ones that they were replaced by. -/
theorem currentLines_setLines
    (known : state.sections.contains sectionName = true ↔ sectionName ≠ defaultSection)
    (lines : Lines) : (state.setLines sectionName lines).currentLines sectionName = lines := by
  rw [setLines, currentLines]
  by_cases default : sectionName = defaultSection
  · have absent : ¬ state.sections.contains sectionName = true :=
      fun present => known.mp present default
    have nothing : state.sections.find? sectionName = none := by
      rw [OrderedMap.contains, Option.not_isSome_iff_eq_none] at absent
      exact absent
    rw [if_neg absent]
    simp only [nothing]
  · rw [if_pos (known.mpr default)]
    simp only [OrderedMap.find?_insert, if_true]

/-- The section stays among the sections. -/
theorem known_setLines
    (known : state.sections.contains sectionName = true ↔ sectionName ≠ defaultSection)
    (lines : Lines) :
    (state.setLines sectionName lines).sections.contains sectionName = true ↔
      sectionName ≠ defaultSection := by
  rw [setLines]
  split
  · next present =>
    refine ⟨fun _ => known.mp present, fun _ => ?_⟩
    rw [OrderedMap.contains, OrderedMap.find?_insert, if_pos rfl]
    rfl
  · exact known

/-- Replacing the current lines twice counts once. -/
theorem setLines_setLines (state : ReadState) (sectionName : String) (first second : Lines)
    (known : state.sections.contains sectionName = true ↔ sectionName ≠ defaultSection) :
    (state.setLines sectionName first).setLines sectionName second =
      state.setLines sectionName second := by
  have still := known_setLines known first
  by_cases default : sectionName = defaultSection
  · have absent : ¬ state.sections.contains sectionName = true :=
      fun present => known.mp present default
    rw [setLines, if_neg fun present => still.mp present default, setLines, if_neg absent,
      setLines, if_neg absent]
  · have present := known.mpr default
    rw [setLines, if_pos (still.mpr default), setLines, if_pos present, setLines, if_pos present]
    simp only [OrderedMap.insert_twice]

/-- Replacing the current lines leaves the section the current one. -/
theorem current_setLines (state : ReadState) (sectionName : String) (lines : Lines) :
    (state.setLines sectionName lines).current = state.current := by
  rw [setLines]
  split <;> rfl

/-- Reading lines goes on from where reading the ones before ended. -/
theorem readLines_append {state middle : ReadState} {number : Nat} {first : List (List Char)}
    (run : state.readLines number first = .ok middle) (second : List (List Char)) :
    state.readLines number (first ++ second) = middle.readLines (number + first.length) second := by
  induction first generalizing state number with
  | nil =>
    cases run
    rfl
  | cons line first inductionHypothesis =>
    rw [readLines] at run
    rw [List.cons_append, readLines]
    cases step : state.readLine number line with
    | error error =>
      rw [step] at run
      cases run
    | ok next =>
      rw [step] at run
      show next.readLines (number + 1) (first ++ second) = _
      rw [inductionHypothesis run, List.length_cons, Nat.add_assoc, Nat.add_comm 1]

/-! ## Written lines -/

/-- A line that does not begin with white space is read as an entry. -/
theorem readLine_entry {line content : List Char} (number : Nat) (trimmed : trim line = content)
    (unindented : line.takeWhile isBlank = []) (filled : content ≠ [])
    (plain : isComment content = false) :
    state.readLine number line = { state with indent := 0 }.readEntry number line content := by
  have notEmpty : content.isEmpty = false := by
    rw [Bool.eq_false_iff, Ne, List.isEmpty_iff]
    exact filled
  unfold readLine
  simp only [trimmed, plain, notEmpty, unindented, List.length_nil, Nat.not_lt_zero, decide_false,
    Bool.and_false, Bool.false_eq_true, if_false]
  split <;> rfl

/-- An entry that names no section sets an option of the current one. -/
theorem readEntry_option {content : List Char} {name value : String} (number : Nat)
    (line : List Char) (current : state.current = some sectionName)
    (noHeader : header? content = none) (cut : option? content = some (name, value)) :
    state.readEntry number line content =
      state.setOption sectionName number line name value := by
  unfold readEntry
  rw [noHeader]
  simp only [current, cut]

/-- The state after an option with some lines of its value. -/
def withOption (state : ReadState) (sectionName name : String) (lines : List String) : ReadState :=
  { state.setLines sectionName ((state.currentLines sectionName).insert name lines) with
    option := name, indent := 0, given := (sectionName, name) :: state.given }

/-- Setting a new option begins its value. -/
theorem setOption_eq {name : String} (number : Nat) (line : List Char) (value : String)
    (named : name.isEmpty = false) (new : (sectionName, name) ∉ state.given) :
    { state with indent := 0 }.setOption sectionName number line name value =
      .ok (state.withOption sectionName name [value]) := by
  have absent : state.given.contains (sectionName, name) = false := by
    rw [Bool.eq_false_iff, Ne, List.contains_iff_mem]
    exact new
  unfold setOption withOption setLines
  simp only [named, absent, Bool.false_eq_true, if_false]
  split <;> rfl

/-- The text of the first line of an option: where it is cut, and what is left of it. -/
theorem exists_trim_entry {name first : List Char} (named : name ≠ []) (bareName : Bare name)
    (bare : Bare first) :
    ∃ tail rest, trim (name ++ delimiter ++ first ++ ['\n']) = name ++ [' '] ++ '=' :: tail ∧
      trim tail = first ∧ name ++ delimiter ++ first = name ++ [' '] ++ '=' :: tail ++ rest := by
  have starts : ∀ rest, ∀ c ∈ (name ++ rest).head?, isBlank c = false := by
    intro rest c head
    rw [List.head?_append_of_ne_nil _ named] at head
    exact bareName.starts c head
  have blank : ∀ rest : List Char, rest.all isBlank = true → ∀ cs,
      trim (cs ++ rest) = trim cs := by
    intro rest blank cs
    have padded : trim ([] ++ cs ++ rest) = trim cs := trim_pad rfl blank cs
    rwa [List.nil_append] at padded
  by_cases empty : first = []
  · subst empty
    refine ⟨[], [' '], ?_, rfl, by simp [delimiter]⟩
    have split : name ++ delimiter ++ [] ++ ['\n'] = (name ++ [' '] ++ ['=']) ++ [' ', '\n'] := by
      simp [delimiter]
    rw [split, blank _ (by decide)]
    refine trim_of_bare ⟨?_, ?_⟩
    · rw [List.append_assoc]
      exact starts _
    · intro c last
      rw [List.getLast?_concat, Option.mem_some] at last
      rw [← last]
      decide
  · refine ⟨' ' :: first, [], ?_, ?_, by simp [delimiter]⟩
    · rw [blank _ (by decide), trim_of_bare]
      · simp [delimiter]
      · refine ⟨?_, ?_⟩
        · rw [List.append_assoc]
          exact starts _
        · intro c last
          rw [List.getLast?_append_of_ne_nil _ empty] at last
          exact bare.ends c last
    · have padded : trim ([' '] ++ first ++ []) = trim first :=
        trim_pad (by decide) rfl first
      rw [List.append_nil] at padded
      rw [← List.singleton_append, padded, trim_of_bare bare]

/-- The first line of an option sets it. -/
theorem readLine_option {name first : String} (number : Nat) (current : state.current = some sectionName)
    (writable : WritableName name) (bare : Bare first.toList)
    (noHeader : header? (name.toList ++ delimiter ++ first.toList) = none)
    (new : (sectionName, name) ∉ state.given) :
    state.readLine number (name.toList ++ delimiter ++ first.toList ++ ['\n']) =
      .ok (state.withOption sectionName name [first]) := by
  obtain ⟨tail, rest, trimmed, value, whole⟩ := exists_trim_entry writable.named writable.bare bare
  have unindented : (name.toList ++ delimiter ++ first.toList ++ ['\n']).takeWhile isBlank = [] := by
    obtain ⟨c, name', split⟩ := List.exists_cons_of_ne_nil writable.named
    have visible := writable.bare.starts c (by rw [split]; rfl)
    rw [split, List.cons_append, List.cons_append, List.cons_append,
      List.takeWhile_cons_of_neg (by rw [visible]; exact Bool.false_ne_true)]
  have plain : isComment (name.toList ++ [' '] ++ '=' :: tail) = false := by
    have uncommented := writable.uncommented
    rw [Bool.eq_false_iff, Ne, isComment_iff] at uncommented ⊢
    rwa [List.append_assoc, List.head?_append_of_ne_nil _ writable.named]
  rw [whole] at noHeader
  have others : ∀ c ∈ name.toList ++ [' '], (decide (c = '=') || decide (c = ':')) = false := by
    intro c member
    rcases List.mem_append.mp member with inName | blank
    · have notEquals : c ≠ '=' := fun same => writable.whole.1 (same ▸ inName)
      have notColon : c ≠ ':' := fun same => writable.whole.2.1 (same ▸ inName)
      simp [notEquals, notColon]
    · rw [List.mem_singleton.mp blank]
      decide
  have stem : trimRight (name.toList ++ [' ']) = name.toList := by
    rw [trimRight_append (by decide), trimRight_of_ends writable.bare.ends]
  have cut : option? (name.toList ++ [' '] ++ '=' :: tail) = some (name, first) := by
    rw [option?, cutFirst?_append others (by decide), Option.map_some]
    simp only [stem, value, String.ofList_toList, writable.small]
  have unmoved : ({ state with indent := 0 } : ReadState).current = some sectionName := current
  rw [readLine_entry number trimmed unindented (List.append_ne_nil_of_right_ne_nil _
    (List.cons_ne_nil _ _)) plain, readEntry_option number _ unmoved
    (header?_of_append noHeader) cut, setOption_eq number _ first writable.isEmpty_eq
      new]

/-- Going on with the value of the option. -/
theorem extend_withOption
    (known : state.sections.contains sectionName = true ↔ sectionName ≠ defaultSection)
    (name line : String) (lines : List String) :
    (state.withOption sectionName name lines).extend sectionName line =
      state.withOption sectionName name (lines ++ [line]) := by
  have current : (state.withOption sectionName name lines).currentLines sectionName =
      (state.currentLines sectionName).insert name lines := currentLines_setLines known _
  have found : ((state.currentLines sectionName).insert name lines).find? name = some lines := by
    rw [OrderedMap.find?_insert, if_pos rfl]
  have moved : ∀ more : Lines, (state.withOption sectionName name lines).setLines sectionName more =
      { (state.setLines sectionName ((state.currentLines sectionName).insert name lines)).setLines
          sectionName more with
        option := name, indent := 0, given := (sectionName, name) :: state.given } := by
    intro more
    unfold withOption
    rw [setLines, setLines.eq_def (state.setLines _ _)]
    dsimp only
    split <;> rfl
  have option : (state.withOption sectionName name lines).option = name := rfl
  unfold extend
  dsimp only
  rw [current, option, found]
  simp only
  rw [moved, setLines_setLines _ _ _ _ known, OrderedMap.insert_twice]
  rfl

/-- A line behind a tab goes on with the value of an option. -/
theorem readLine_indented {line : List Char} (number : Nat)
    (current : state.current = some sectionName) (going : state.option.isEmpty = false)
    (flush : state.indent = 0) (bare : Bare line) (plain : isComment line = false) :
    state.readLine number ('\t' :: line ++ ['\n']) =
      .ok (state.extend sectionName (String.ofList line)) := by
  have trimmed : trim ('\t' :: line ++ ['\n']) = line := by
    have padded : trim (['\t'] ++ line ++ ['\n']) = trim line :=
      trim_pad (by decide) (by decide) line
    rw [trim_of_bare bare] at padded
    exact padded
  have deeper : 0 < (('\t' :: line ++ ['\n']).takeWhile isBlank).length := by
    rw [List.cons_append, List.takeWhile_cons_of_pos (by decide)]
    exact Nat.succ_pos _
  unfold readLine
  by_cases empty : line = []
  · subst empty
    simp only [trimmed, plain, current, going, Bool.false_eq_true, if_false, List.isEmpty_nil,
      if_true]
  · have filled : line.isEmpty = false := by
      rw [Bool.eq_false_iff, Ne, List.isEmpty_iff]
      exact empty
    simp only [trimmed, plain, current, going, filled, flush, deeper, decide_true, Bool.not_false,
      Bool.and_self, Bool.false_eq_true, if_false, if_true]

/-- The later lines of an option go on with its value. -/
theorem readLines_later
    (known : state.sections.contains sectionName = true ↔ sectionName ≠ defaultSection)
    (current : state.current = some sectionName) {name : String} (named : name.isEmpty = false)
    {later : List (List Char)} (bare : ∀ line ∈ later, Bare line)
    (plain : ∀ line ∈ later, isComment line = false) (number : Nat) (lines : List String) :
    (state.withOption sectionName name lines).readLines number
        (later.map fun line => '\t' :: line ++ ['\n']) =
      .ok (state.withOption sectionName name (lines ++ later.map String.ofList)) := by
  induction later generalizing number lines with
  | nil => rw [List.map_nil, List.map_nil, List.append_nil]; rfl
  | cons line later inductionHypothesis =>
    have still : (state.withOption sectionName name lines).current = some sectionName :=
      (current_setLines state sectionName _).trans current
    have step : (state.withOption sectionName name lines).readLine number
          ('\t' :: line ++ ['\n']) =
        .ok ((state.withOption sectionName name lines).extend sectionName (String.ofList line)) :=
      readLine_indented number still named rfl (bare line List.mem_cons_self)
        (plain line List.mem_cons_self)
    rw [List.map_cons, readLines, step]
    show ((state.withOption sectionName name lines).extend sectionName
      (String.ofList line)).readLines (number + 1) _ = _
    rw [extend_withOption known,
      inductionHypothesis (fun other member => bare other (List.mem_cons_of_mem line member))
        (fun other member => plain other (List.mem_cons_of_mem line member)),
      List.map_cons, List.append_assoc, List.singleton_append]

/-- Joining the lines of a value that can be written gives the value. -/
theorem joinValue_valueLines {name value : String} (writable : Writable name value) :
    joinValue ((valueLines value).map String.ofList) = .text value := by
  have joined : (join "\n" ((valueLines value).map String.ofList)).toList = value.toList := by
    have listed : ((valueLines value).map String.ofList).map String.toList = valueLines value := by
      simp
    rw [join, String.toList_intercalate, listed]
    exact List.intercalate_splitOn '\n'
  rw [joinValue, joined, writable.ended, String.ofList_toList]

/-- The lines of an option set it, and leave the others as they are. -/
theorem Within.readLines_option (within : state.Within settings sectionName) {name value : String}
    (writable : Writable name value) (new : name ∉ (settings.own sectionName).keys) (number : Nat) :
    ∃ next, state.readLines number (optionLines name value) = .ok next ∧
      next.Within (settings.setOwn sectionName
        ((settings.own sectionName).insert name (.text value))) sectionName := by
  obtain ⟨first, later, split⟩ :=
    List.exists_cons_of_ne_nil (List.splitOn_ne_nil '\n' value.toList)
  have lines : valueLines value = first :: later := split
  have bareLines := writable.bareLines
  have plainLines := writable.plainLines
  have noHeader := writable.noHeader
  rw [lines] at bareLines plainLines noHeader
  have fresh : (sectionName, name) ∉ state.given := fun given => new (within.given _ given)
  have text : (String.ofList first).toList = first := String.toList_ofList
  have begun := readLine_option number within.current writable.toWritableName
    (text.symm ▸ bareLines first List.mem_cons_self) (text.symm ▸ noHeader) fresh
  rw [text] at begun
  refine ⟨state.withOption sectionName name ((valueLines value).map String.ofList), ?_, ?_⟩
  · rw [optionLines, lines, List.headD_cons, List.tail_cons, readLines, begun]
    exact readLines_later within.known within.current writable.isEmpty_eq
      (fun line member => bareLines line (List.mem_cons_of_mem first member)) plainLines _ _
  · have result : (state.withOption sectionName name ((valueLines value).map String.ofList)).result =
        settings.setOwn sectionName ((settings.own sectionName).insert name (.text value)) := by
      show (state.setLines sectionName _).result = _
      rw [result_setLines within.known, OrderedMap.map_insert, currentLines_map within.known,
        within.result, joinValue_valueLines writable]
    refine ⟨⟨result, ?_, ?_⟩, ?_, ?_⟩
    · exact (malformed_setLines state sectionName _).trans within.clean
    · intro pair member
      rcases List.mem_cons.mp member with rfl | old
      · rw [own_setOwn, if_pos rfl]
        exact (OrderedMap.mem_keys_insert _ _ _ _).mpr (Or.inr rfl)
      · exact within.given_setOwn
          (fun option already => (OrderedMap.mem_keys_insert _ _ _ _).mpr (Or.inl already)) pair old
    · exact (current_setLines state sectionName _).trans within.current
    · exact known_setLines within.known _

/-- An empty line at the end of a value does not count. -/
theorem joinValue_concat_empty (lines : List String) :
    joinValue (lines ++ [""]) = joinValue lines := by
  cases lines with
  | nil => rfl
  | cons first lines =>
    have joined : (join "\n" (first :: lines ++ [""])).toList =
        (join "\n" (first :: lines)).toList ++ ['\n'] := by
      rw [join, String.intercalate_append_of_ne_nil (List.cons_ne_nil _ _) (List.cons_ne_nil _ _)]
      simp [join]
    rw [joinValue, joined, trimRight_append (by decide), joinValue]

/-- An empty line changes nothing that the state stands for. -/
theorem Within.readLine_empty (within : state.Within settings sectionName) (number : Nat) :
    ∃ next, state.readLine number ['\n'] = .ok next ∧ next.Reads settings := by
  have current := within.current
  have nothing : trim ['\n'] = [] := by decide
  unfold readLine
  simp only [nothing, current, isComment, Bool.false_eq_true, if_false, List.isEmpty_nil, if_true]
  split
  · exact ⟨state, rfl, within.toReads⟩
  · refine ⟨_, rfl, ?_⟩
    unfold extend
    dsimp only
    split
    · next value found =>
      -- The option has the value that the empty line is added to.
      have foundOwn : (settings.own sectionName).find? state.option = some (joinValue value) := by
        rw [← within.result, ← currentLines_map within.known, OrderedMap.find?_map, found]
        rfl
      have known : sectionName ≠ defaultSection →
          settings.sections.contains sectionName = true := by
        rw [← within.result, contains_result]
        exact within.known.mpr
      refine ⟨?_, (malformed_setLines state sectionName _).trans within.clean, ?_⟩
      · rw [result_setLines within.known, OrderedMap.map_insert, currentLines_map within.known,
          within.result, joinValue_concat_empty, OrderedMap.insert_of_find? foundOwn,
          setOwn_own known]
      · have same : ∀ lines, (state.setLines sectionName lines).given = state.given := by
          intro lines
          rw [setLines]
          split <;> rfl
        rw [same]
        exact within.given
    · exact within.toReads

/-- The line of a section has no other white space than its end. -/
theorem trim_headerLine (sectionName : String) :
    trim (headerLine sectionName) = '[' :: sectionName.toList ++ [']'] := by
  have bare : Bare ('[' :: sectionName.toList ++ [']']) := by
    refine ⟨?_, ?_⟩
    · intro c first
      rw [List.cons_append, List.head?_cons, Option.mem_some] at first
      rw [← first]
      decide
    · intro c last
      rw [List.getLast?_concat, Option.mem_some] at last
      rw [← last]
      decide
  have padded : trim ([] ++ ('[' :: sectionName.toList ++ [']']) ++ ['\n']) =
      trim ('[' :: sectionName.toList ++ [']']) :=
    trim_pad rfl (by decide) _
  rw [trim_of_bare bare] at padded
  simpa [headerLine] using padded

/-- A name in brackets is that of a section. -/
theorem header?_bracketed (named : sectionName.toList ≠ []) :
    header? ('[' :: sectionName.toList ++ [']']) = some sectionName := by
  have cut : cutLast? (· == ']') (sectionName.toList ++ [']']) = some (sectionName.toList, []) :=
    cutLast?_append (fun d nothing => absurd nothing List.not_mem_nil) rfl _
  rw [List.cons_append, header?, cut]
  simp only [List.isEmpty_iff, if_neg named, String.ofList_toList]

/-- The line of a new section starts it. -/
theorem Reads.readLine_header (reads : state.Reads settings) (named : sectionName.toList ≠ [])
    (absent : settings.sections.contains sectionName = false)
    (empty : settings.own sectionName = .empty) (number : Nat) :
    ∃ next, state.readLine number (headerLine sectionName) = .ok next ∧
      next.Within (settings.setOwn sectionName .empty) sectionName := by
  have new : state.sections.contains sectionName = false := by
    rw [← contains_result, reads.result]
    exact absent
  have unknown : settings.setOwn sectionName .empty =
      if sectionName = defaultSection then settings
      else { settings with sections := settings.sections.insert sectionName .empty } := by
    rw [setOwn]
    split
    · next default =>
      rw [own, if_pos default] at empty
      rw [← empty]
    · rfl
  rw [readLine_entry number (trim_headerLine sectionName) rfl (List.cons_ne_nil _ _) rfl, readEntry,
    header?_bracketed named]
  show ∃ next, startSection _ sectionName = .ok next ∧ _
  rw [startSection, if_neg (by rw [new]; exact Bool.false_ne_true)]
  dsimp only
  have given : ∀ pair ∈ state.given, pair.2 ∈ ((settings.setOwn sectionName .empty).own pair.1).keys :=
    reads.given_setOwn fun option already => by rwa [empty] at already
  by_cases default : sectionName = defaultSection
  · rw [if_pos default]
    refine ⟨_, rfl, ⟨⟨?_, reads.clean, given⟩, rfl, ?_⟩⟩
    · rw [unknown, if_pos default]
      exact reads.result
    · rw [new]
      exact ⟨fun impossible => (by cases impossible), fun other => absurd default other⟩
  · rw [if_neg default]
    refine ⟨_, rfl, ⟨⟨?_, reads.clean, given⟩, rfl, ?_⟩⟩
    · rw [unknown, if_neg default, ← reads.result]
      exact congrArg (Settings.mk (state.defaults.map joinValue))
        (OrderedMap.map_insert (fun lines => lines.map joinValue) state.sections sectionName .empty)
    · rw [OrderedMap.contains, OrderedMap.find?_insert, if_pos rfl]
      exact ⟨fun _ => default, fun _ => rfl⟩

/-- The lines of options set them one after the other. -/
theorem Within.readLines_options (within : state.Within settings sectionName)
    {entries : List (String × Value)}
    (writable : ∀ entry ∈ entries, ∃ value, entry.2 = .text value ∧ Writable entry.1 value)
    (distinct : (((settings.own sectionName).entries ++ entries).map Prod.fst).Nodup)
    (number : Nat) :
    ∃ next, state.readLines number
        (entries.flatMap fun entry => optionLines entry.1 entry.2.str) = .ok next ∧
      next.Within (settings.setOwn sectionName ((settings.own sectionName).insertAll entries))
        sectionName := by
  induction entries generalizing state settings number with
  | nil =>
    refine ⟨state, rfl, ?_⟩
    rw [OrderedMap.insertAll_nil, setOwn_own]
    · exact within
    · rw [← within.result, contains_result]
      exact within.known.mpr
  | cons entry entries inductionHypothesis =>
    obtain ⟨name, kept⟩ := entry
    obtain ⟨value, rfl, option⟩ := writable (name, kept) List.mem_cons_self
    have new : name ∉ (settings.own sectionName).keys := by
      intro present
      rw [List.map_append, List.nodup_append] at distinct
      exact distinct.2.2 name present name List.mem_cons_self rfl
    obtain ⟨middle, first, between⟩ := within.readLines_option option new number
    have placed : ((settings.own sectionName).insert name (.text value)).entries =
        (settings.own sectionName).entries ++ [(name, .text value)] :=
      insertEntry_fresh name (Value.text value) (settings.own sectionName).entries new
    obtain ⟨next, rest, after⟩ := inductionHypothesis between
      (fun other member => writable other (List.mem_cons_of_mem _ member))
      (by
        rw [own_setOwn, if_pos rfl, placed, List.append_assoc, List.singleton_append]
        exact distinct)
      (number + (optionLines name value).length)
    refine ⟨next, ?_, ?_⟩
    · rw [List.flatMap_cons]
      exact (readLines_append first _).trans rest
    · rw [own_setOwn, if_pos rfl, setOwn_setOwn] at after
      exact after

/-- The lines of a new section give its options. -/
theorem Reads.readLines_section (reads : state.Reads settings) {options : Section}
    (named : sectionName.toList ≠ []) (absent : settings.sections.contains sectionName = false)
    (empty : settings.own sectionName = .empty) (writable : SectionWritable options)
    (number : Nat) :
    ∃ next, state.readLines number (sectionLines sectionName options) = .ok next ∧
      next.Reads (settings.setOwn sectionName options) := by
  obtain ⟨started, header, within⟩ := reads.readLine_header named absent empty number
  have nothing : (settings.setOwn sectionName .empty).own sectionName = .empty := by
    rw [own_setOwn, if_pos rfl]
  obtain ⟨filled, lines, inside⟩ := within.readLines_options writable
    (by rw [nothing]; exact options.nodup) (number + 1)
  rw [nothing, OrderedMap.ofList_entries, setOwn_setOwn] at inside
  obtain ⟨next, last, after⟩ := inside.readLine_empty
    (number + 1 + (options.entries.flatMap fun entry => optionLines entry.1 entry.2.str).length)
  refine ⟨next, ?_, after⟩
  rw [sectionLines, List.cons_append, readLines, header]
  refine (readLines_append lines _).trans ?_
  rw [readLines, last]
  rfl

/-- The lines of new sections give the sections. -/
theorem Reads.readLines_sections (reads : state.Reads settings)
    {entries : List (String × Section)}
    (writable : ∀ entry ∈ entries, WritableHeader entry.1 ∧ SectionWritable entry.2)
    (distinct : ((settings.sections.entries ++ entries).map Prod.fst).Nodup) (number : Nat) :
    ∃ next, state.readLines number
        (entries.flatMap fun entry => sectionLines entry.1 entry.2) = .ok next ∧
      next.Reads { settings with sections := settings.sections.insertAll entries } := by
  induction entries generalizing state settings number with
  | nil => exact ⟨state, rfl, reads⟩
  | cons entry entries inductionHypothesis =>
    obtain ⟨header, options⟩ := writable entry List.mem_cons_self
    have new : entry.1 ∉ settings.sections.entries.map Prod.fst := by
      intro present
      rw [List.map_append, List.nodup_append] at distinct
      exact distinct.2.2 entry.1 present entry.1 List.mem_cons_self rfl
    have absent : settings.sections.find? entry.1 = none := by
      rw [← Option.not_isSome_iff_eq_none, OrderedMap.find?, lookup_isSome_iff]
      exact new
    obtain ⟨middle, first, between⟩ := reads.readLines_section header.named
      (by rw [OrderedMap.contains, absent]; rfl)
      (by rw [own, if_neg header.distinct, absent]; rfl) options number
    rw [setOwn, if_neg header.distinct] at between
    have placed : (settings.sections.insert entry.1 entry.2).entries =
        settings.sections.entries ++ [entry] := insertEntry_fresh entry.1 entry.2 _ new
    obtain ⟨next, rest, after⟩ := inductionHypothesis between
      (fun other member => writable other (List.mem_cons_of_mem entry member))
      (by
        rw [placed, List.append_assoc, List.singleton_append]
        exact distinct)
      (number + (sectionLines entry.1 entry.2).length)
    refine ⟨next, ?_, after⟩
    rw [List.flatMap_cons]
    exact (readLines_append first _).trans rest

end ReadState

/-! ## Whole files -/

/-- Settings that can be written read back. -/
theorem read_write {settings : Settings} (writable : settings.AllWritable) :
    read settings.write = .ok settings := by
  have nothing : ReadState.Reads {} {} :=
    ⟨rfl, rfl, fun pair none => absurd none List.not_mem_nil⟩
  have sections := fileLines_writeSections writable.sections
  rw [read_eq_ok_iff, write]
  by_cases without : settings.defaults.isEmpty = true
  · have empty : settings.defaults = .empty :=
      OrderedMap.eq_of_entries (List.isEmpty_iff.mp without)
    obtain ⟨state, lines, reads⟩ := nothing.readLines_sections writable.sections
      settings.sections.nodup 1
    rw [if_pos without, List.nil_append, sections]
    refine ⟨state, lines, reads.clean, ?_⟩
    rw [reads.result, OrderedMap.ofList_entries, ← empty]
  · have named : defaultSection.toList ≠ [] := by decide
    obtain ⟨middle, first, between⟩ := nothing.readLines_section named rfl rfl writable.defaults 1
    obtain ⟨state, lines, reads⟩ := between.readLines_sections writable.sections
      settings.sections.nodup (1 + (sectionLines defaultSection settings.defaults).length)
    rw [if_neg without, fileLines_writeSection (by decide) writable.defaults, sections]
    refine ⟨state, (ReadState.readLines_append first _).trans lines, reads.clean, ?_⟩
    rw [reads.result]
    show ({ defaults := settings.defaults
            sections := OrderedMap.empty.insertAll settings.sections.entries } : Settings) = settings
    rw [OrderedMap.ofList_entries]

end Jobflow.Settings
