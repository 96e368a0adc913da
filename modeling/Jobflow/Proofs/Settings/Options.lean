import Jobflow.Proofs.Settings.Writable

/-!
# Options of settings

Look-up after an option was set: the option has its value, and the other options of all sections
have what they had. Setting an option that can be written leaves settings that can be written,
and what look-up finds in such settings can be written.
-/

namespace Jobflow.Settings

/-- Look-up in a section finds its own option, or else the default. -/
theorem get?_eq (settings : Settings) (sectionName name : String) :
    settings.get? sectionName name =
      match settings.sections.find? sectionName with
      | some options =>
        (options.find? (optionName name)).or (settings.defaults.find? (optionName name))
      | none =>
        if sectionName = defaultSection then settings.defaults.find? (optionName name) else none := by
  unfold get? options?
  cases settings.sections.find? sectionName with
  | some options => exact OrderedMap.find?_insertAll _ _ _
  | none =>
    dsimp only
    split <;> rfl

/-- Adding a section before one of its options is set makes no difference. -/
theorem set_addSection (settings : Settings) (sectionName name : String) (value : Value) :
    (settings.addSection sectionName).set sectionName name value =
      settings.set sectionName name value := by
  unfold addSection
  split
  · rfl
  · next absent =>
    have nothing : settings.sections.find? sectionName = none := by
      rwa [hasSection, OrderedMap.contains, Option.not_isSome_iff_eq_none] at absent
    simp only [set, OrderedMap.find?_insert, if_true, nothing, Option.getD_some, Option.getD_none,
      OrderedMap.insert_twice]

/-- There is the section that was added. -/
theorem hasSection_addSection (settings : Settings) (sectionName : String) :
    (settings.addSection sectionName).hasSection sectionName = true := by
  unfold addSection
  split
  · assumption
  · rw [hasSection, OrderedMap.contains, OrderedMap.find?_insert, if_pos rfl, Option.isSome_some]

/-- There is the section of an option that was set. -/
theorem hasSection_set (settings : Settings) (sectionName name : String) (value : Value) :
    (settings.set sectionName name value).hasSection sectionName = true := by
  rw [hasSection, set, OrderedMap.contains, OrderedMap.find?_insert, if_pos rfl, Option.isSome_some]

/-- An option that was set has its value. -/
theorem get?_set_self (settings : Settings) (sectionName name : String) (value : Value) :
    (settings.set sectionName name value).get? sectionName name = some value := by
  rw [get?_eq, set]
  simp only [OrderedMap.find?_insert, if_true, Option.some_or]

/-- Settings have the options of others, but for one: the other options have the same values, and
so do those of its section if it was there before. -/
def SameBut (before after : Settings) (sectionName name : String) : Prop :=
  ∀ other option, (other = sectionName →
    before.hasSection sectionName = true ∧ optionName option ≠ optionName name) →
      after.get? other option = before.get? other option

/-- Setting an option leaves the others as they are. -/
theorem sameBut_set (settings : Settings) (sectionName name : String) (value : Value) :
    settings.SameBut (settings.set sectionName name value) sectionName name := by
  intro other option elsewhere
  rw [get?_eq, get?_eq, set]
  by_cases same : other = sectionName
  · subst same
    obtain ⟨known, different⟩ := elsewhere rfl
    obtain ⟨options, found⟩ := Option.isSome_iff_exists.mp known
    simp only [OrderedMap.find?_insert, if_true, found, Option.getD_some, if_neg different]
  · simp only [OrderedMap.find?_insert, if_neg same]

/-- After an option was set it has its value, and others of the section have what they would have
once the section is there. -/
theorem get?_set (settings : Settings) (sectionName name other : String) (value : Value) :
    (settings.set sectionName name value).get? sectionName other =
      if optionName other = optionName name then some value
      else (settings.addSection sectionName).get? sectionName other := by
  split
  · next same => rw [← get?_set_self settings sectionName name value, get?_eq, get?_eq, same]
  · next different =>
    rw [← set_addSection]
    exact sameBut_set _ _ _ _ _ _ fun _ => ⟨hasSection_addSection _ _, different⟩

/-- Setting an option that can be written leaves settings that can be written. -/
theorem AllWritable.set {settings : Settings} (all : settings.AllWritable) {sectionName : String}
    (header : WritableHeader sectionName) {name value : String}
    (writable : Writable (optionName name) value) :
    (settings.set sectionName name (.text value)).AllWritable := by
  refine ⟨all.defaults, fun entry member => ?_⟩
  rcases mem_insertEntry _ _ _ entry member with old | rfl
  · exact all.sections entry old
  · refine ⟨header, fun option inside => ?_⟩
    rcases mem_insertEntry _ _ _ option inside with old | rfl
    · cases found : settings.sections.find? sectionName with
      | none =>
        rw [found] at old
        cases old
      | some options =>
        rw [found] at old
        exact (all.sections _ (OrderedMap.mem_of_find? found)).2 option old
    · exact ⟨value, rfl, writable⟩

/-- What look-up finds is a text that can be written. -/
theorem AllWritable.exists_text {settings : Settings} (all : settings.AllWritable)
    {sectionName name : String} {value : Value} (found : settings.get? sectionName name = some value) :
    ∃ text, value = .text text ∧ Writable (optionName name) text := by
  have inSection : ∀ options : Section, SectionWritable options →
      options.find? (optionName name) = some value →
        ∃ text, value = .text text ∧ Writable (optionName name) text :=
    fun options writable kept => writable _ (OrderedMap.mem_of_find? kept)
  rw [get?_eq] at found
  split at found
  · next options present =>
    rcases Option.or_eq_some_iff.mp found with kept | ⟨-, kept⟩
    · exact inSection options (all.sections _ (OrderedMap.mem_of_find? present)).2 kept
    · exact inSection _ all.defaults kept
  · split at found
    · exact inSection _ all.defaults found
    · cases found

/-- A text that look-up finds can be written. -/
theorem AllWritable.writable {settings : Settings} (all : settings.AllWritable)
    {sectionName name value : String} (found : settings.get? sectionName name = some (.text value)) :
    Writable (optionName name) value := by
  obtain ⟨text, same, writable⟩ := all.exists_text found
  cases same
  exact writable

end Jobflow.Settings
