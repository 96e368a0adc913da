import Jobflow.Files.Path
import Mathlib.Data.String.Basic

/-!
# Laws of paths

The normal form of a relative path has no slash at its end, so that a slash after it can tell
folders from files. A path that is seen from a folder keeps the names that it ends in. The place
that an absolute path leads to is absolute and resolved: its names all lead down, so that it leads
to itself.
-/

namespace Jobflow

/-- No part of a cut text has a character at which it was cut. -/
theorem Text.forall_mem_splitAll (at? : Char → Bool) (cs : List Char) :
    ∀ part ∈ splitAll at? cs, ∀ c ∈ part, at? c = false := by
  induction cs with
  | nil => simp [splitAll]
  | cons d rest inductionHypothesis =>
    rw [splitAll]
    split
    · rintro part (_ | ⟨_, later⟩)
      · intro c member
        cases member
      · exact inductionHypothesis part later
    · next kept =>
      have inside : at? d = false := Bool.eq_false_iff.mpr kept
      split
      · simp [inside]
      · next first others cut =>
        rw [cut] at inductionHypothesis
        rintro part (_ | ⟨_, later⟩) c member
        · rcases List.mem_cons.mp member with rfl | below
          · exact inside
          · exact inductionHypothesis first List.mem_cons_self c below
        · exact inductionHypothesis part (List.mem_cons_of_mem _ later) c member

/-- A text has at least one part. -/
theorem Text.splitAll_ne_nil (at? : Char → Bool) (cs : List Char) : splitAll at? cs ≠ [] := by
  cases cs with
  | nil => exact List.cons_ne_nil _ _
  | cons c rest =>
    rw [splitAll]
    split
    · exact List.cons_ne_nil _ _
    · split <;> exact List.cons_ne_nil _ _

/-- A cut at a character parts what comes before it from what comes after it. -/
theorem Text.splitAll_append_cons {at? : Char → Bool} {separator : Char}
    (separates : at? separator = true) (before after : List Char) :
    splitAll at? (before ++ separator :: after) = splitAll at? before ++ splitAll at? after := by
  induction before with
  | nil =>
    rw [List.nil_append, splitAll, splitAll, if_pos separates]
    rfl
  | cons c rest inductionHypothesis =>
    rw [List.cons_append, splitAll, splitAll, inductionHypothesis]
    split
    · rfl
    · cases cut : splitAll at? rest with
      | nil => exact absurd cut (splitAll_ne_nil at? rest)
      | cons part parts => rfl

/-- A text without a character to cut at is a single part. -/
theorem Text.splitAll_of_forall {at? : Char → Bool} {cs : List Char}
    (whole : ∀ c ∈ cs, at? c = false) : splitAll at? cs = [cs] := by
  induction cs with
  | nil => rfl
  | cons c rest inductionHypothesis =>
    obtain ⟨here, later⟩ := List.forall_mem_cons.mp whole
    rw [splitAll, here, inductionHypothesis later]
    rfl

/-- What was put at the end of a text is there. -/
theorem Text.endsWith_append (text ending : String) : endsWith (text ++ ending) ending = true := by
  rw [endsWith, List.isSuffixOf_iff_suffix, String.toList_append]
  exact List.suffix_append _ _

namespace Path

/-- A name that a path can have in normal form. -/
structure Proper (name : String) : Prop where
  /-- There is something to it. -/
  nonempty : name ≠ ""
  /-- It is a single name. -/
  single : '/' ∉ name.toList

/-- The names between the slashes of a path have no slashes. -/
theorem slash_notMem_of_mem_names {path name : String} (member : name ∈ names path) :
    '/' ∉ name.toList := by
  obtain ⟨part, cut, rfl⟩ := List.mem_map.mp member
  rw [String.toList_ofList]
  intro slash
  exact absurd (Text.forall_mem_splitAll _ _ part cut '/' slash) (by decide)

/-- Taking in a further name keeps names proper. -/
theorem forall_proper_step {absolute : Bool} {reversed : List String} {name : String}
    (proper : ∀ other ∈ reversed, Proper other) (single : '/' ∉ name.toList) :
    ∀ other ∈ step absolute reversed name, Proper other := by
  have up : Proper ".." := ⟨by decide, by decide⟩
  unfold step
  split
  · exact proper
  · next something =>
    split
    · split
      · split
        · simp
        · simpa using up
      · next last rest =>
        have later := (List.forall_mem_cons.mp proper).2
        split
        · exact List.forall_mem_cons.mpr ⟨up, proper⟩
        · exact later
    · exact List.forall_mem_cons.mpr ⟨⟨fun nothing => something (.inl nothing), single⟩, proper⟩

/-- The names of a normal form are proper. -/
theorem forall_proper_normalNames (path : String) : ∀ name ∈ normalNames path, Proper name := by
  have walked : ∀ name ∈ (names path).foldl (step (isAbsolute path)) [], Proper name :=
    List.foldlRecOn (motive := fun reversed => ∀ name ∈ reversed, Proper name) _ _ (by simp)
      fun _ proper _ member => forall_proper_step proper (slash_notMem_of_mem_names member)
  exact fun name member => walked name (List.mem_reverse.mp member)

/-- Proper names in a row end in a character that is no slash. -/
theorem exists_getLast?_join {names : List String} (nonempty : names ≠ [])
    (proper : ∀ name ∈ names, Proper name) :
    ∃ c, (Text.join "/" names).toList.getLast? = some c ∧ c ≠ '/' := by
  induction names with
  | nil => exact absurd rfl nonempty
  | cons first rest inductionHypothesis =>
    obtain ⟨here, later⟩ := List.forall_mem_cons.mp proper
    cases rest with
    | nil =>
      have content : first.toList ≠ [] := fun empty =>
        here.nonempty (String.toList_eq_nil_iff.mp empty)
      refine ⟨first.toList.getLast content, ?_, ?_⟩
      · rw [Text.join, String.intercalate_singleton, List.getLast?_eq_getLast_of_ne_nil content]
      · exact fun slash => here.single (slash ▸ List.getLast_mem content)
    | cons second others =>
      obtain ⟨c, last, other⟩ := inductionHypothesis (List.cons_ne_nil second others) later
      refine ⟨c, ?_, other⟩
      rw [Text.join] at last ⊢
      rw [String.intercalate_cons_cons, String.toList_append, List.getLast?_append, last]
      rfl

/-- A text that ends in another character does not end in a slash. -/
theorem endsWith_slash_eq_false {text : String} {c : Char} (last : text.toList.getLast? = some c)
    (other : c ≠ '/') : Text.endsWith text "/" = false := by
  rw [Text.endsWith, Bool.eq_false_iff, ne_eq, List.isSuffixOf_iff_suffix]
  rintro ⟨before, same⟩
  have slash : text.toList.getLast? = some '/' := by
    rw [← same]
    exact List.getLast?_concat
  exact other (Option.some.inj (last.symm.trans slash))

/-- The normal form of a relative path does not end in a slash. -/
theorem endsWith_normal {path : String} (relative : isAbsolute path = false) :
    Text.endsWith (normal path) "/" = false := by
  have leading : leadingSlashes path = "" := by
    rw [leadingSlashes, relative]
    rfl
  rw [normal, leading, String.empty_append]
  split
  · decide
  · next something =>
    have nonempty : normalNames path ≠ [] := by
      intro none
      rw [none] at something
      exact something (by decide)
    obtain ⟨c, last, other⟩ := exists_getLast?_join nonempty (forall_proper_normalNames path)
    exact endsWith_slash_eq_false last other

/-! ## Names of joined paths -/

/-- The names of a path below a folder come after those of the folder. -/
theorem names_append_slash (folder path : String) :
    names (folder ++ "/" ++ path) = names folder ++ names path := by
  have cut : Text.splitAll (· == '/') (folder.toList ++ '/' :: path.toList) = _ :=
    Text.splitAll_append_cons rfl folder.toList path.toList
  rw [names, names, names, ← List.map_append, ← cut, String.toList_append, String.toList_append,
    List.append_assoc]
  rfl

/-- The names of a path seen from a folder end in those of the path. -/
theorem exists_names_join (folder path : String) :
    ∃ above, names (join folder path) = above ++ names path := by
  unfold join
  split
  · exact ⟨[], rfl⟩
  · split
    · next slash =>
      obtain ⟨before, same⟩ := List.isSuffixOf_iff_suffix.mp slash
      have trimmed : folder = String.ofList before ++ "/" := by
        rw [← String.toList_inj, String.toList_append, String.toList_ofList, same]
      exact ⟨names (String.ofList before), by rw [trimmed, names_append_slash]⟩
    · exact ⟨names folder, names_append_slash folder path⟩

/-- A single name is its own path. -/
theorem names_of_single {name : String} (single : '/' ∉ name.toList) : names name = [name] := by
  have whole : ∀ c ∈ name.toList, (c == '/') = false := by
    intro c member
    exact beq_eq_false_iff_ne.mpr fun slash => single (slash ▸ member)
  rw [names, Text.splitAll_of_forall whole, List.map_singleton, String.ofList_toList]

/-- From wherever it is seen, the path of a single name in a folder ends in the name. -/
theorem exists_names_of_single {name : String} (single : '/' ∉ name.toList)
    (here folder : String) :
    ∃ above, names (join here (join folder name)) = above ++ [name] := by
  obtain ⟨outer, seen⟩ := exists_names_join here (join folder name)
  obtain ⟨inner, below⟩ := exists_names_join folder name
  exact ⟨outer ++ inner, by rw [seen, below, names_of_single single, List.append_assoc]⟩

/-! ## Resolved places -/

/-- A name that leads down from every folder. -/
structure Plain (name : String) : Prop extends Proper name where
  /-- It does not stay where it is. -/
  notHere : name ≠ "."
  /-- It does not lead up. -/
  notUp : name ≠ ".."

/-- In an absolute path, a further name leaves plain names. -/
theorem forall_plain_step {reversed : List String} {name : String}
    (plain : ∀ other ∈ reversed, Plain other) (single : '/' ∉ name.toList) :
    ∀ other ∈ step true reversed name, Plain other := by
  unfold step
  split
  · exact plain
  · next something =>
    rw [not_or] at something
    split
    · split
      · simp
      · next last rest =>
        obtain ⟨here, later⟩ := List.forall_mem_cons.mp plain
        rw [if_neg here.notUp]
        exact later
    · next notUp =>
      exact List.forall_mem_cons.mpr ⟨⟨⟨something.1, single⟩, something.2, notUp⟩, plain⟩

/-- The names of an absolute path in normal form are plain. -/
theorem forall_plain_normalNames {path : String} (absolute : isAbsolute path = true) :
    ∀ name ∈ normalNames path, Plain name := by
  have walked : ∀ name ∈ (names path).foldl (step true) [], Plain name :=
    List.foldlRecOn (motive := fun reversed => ∀ name ∈ reversed, Plain name) _ _ (by simp)
      fun _ plain _ member => forall_plain_step plain (slash_notMem_of_mem_names member)
  intro name member
  rw [normalNames, absolute, List.mem_reverse] at member
  exact walked name member

/-- A text after a slash is an absolute path. -/
theorem isAbsolute_slash (text : String) : isAbsolute ("/" ++ text) = true := by
  rw [isAbsolute, Text.startsWith, String.toList_append, List.isPrefixOf_iff_prefix]
  exact List.prefix_append _ _

/-- An absolute path is the same from wherever it is seen. -/
theorem join_of_absolute {path : String} (absolute : isAbsolute path = true) (folder : String) :
    join folder path = path := by
  rw [join, absolute, Bool.true_or, if_pos rfl]

/-- A path seen from an absolute folder is absolute. -/
theorem isAbsolute_join {folder : String} (absolute : isAbsolute folder = true) (path : String) :
    isAbsolute (join folder path) = true := by
  have longer (more : String) : isAbsolute (folder ++ more) = true := by
    rw [isAbsolute, Text.startsWith, List.isPrefixOf_iff_prefix] at absolute ⊢
    rw [String.toList_append]
    exact absolute.trans (List.prefix_append _ _)
  unfold join
  split
  · next either =>
    rcases Bool.or_eq_true_iff.mp either with here | nothing
    · exact here
    · obtain rfl : folder = "" := by simpa using nothing
      exact absurd absolute (by decide)
  · split
    · exact longer path
    · rw [String.append_assoc]
      exact longer _

/-- Plain names are the names of the path that they make. -/
theorem names_join {given : List String} (some : given ≠ []) (plain : ∀ name ∈ given, Plain name) :
    names (Text.join "/" given) = given := by
  induction given with
  | nil => exact absurd rfl some
  | cons first rest inductionHypothesis =>
    obtain ⟨here, later⟩ := List.forall_mem_cons.mp plain
    cases rest with
    | nil => rw [Text.join, String.intercalate_singleton, names_of_single here.single]
    | cons second others =>
      have joined : Text.join "/" (first :: second :: others) =
          first ++ "/" ++ Text.join "/" (second :: others) := String.intercalate_cons_cons
      rw [joined, names_append_slash, names_of_single here.single,
        inductionHypothesis (List.cons_ne_nil _ _) later]
      rfl

/-- Plain names are taken in one after the other. -/
theorem foldl_step_plain {given : List String} (plain : ∀ name ∈ given, Plain name)
    (absolute : Bool) (reversed : List String) :
    given.foldl (step absolute) reversed = given.reverse ++ reversed := by
  induction given generalizing reversed with
  | nil => rfl
  | cons first rest inductionHypothesis =>
    obtain ⟨here, later⟩ := List.forall_mem_cons.mp plain
    have taken : step absolute reversed first = first :: reversed := by
      unfold step
      rw [if_neg (not_or.mpr ⟨here.nonempty, here.notHere⟩), if_neg here.notUp]
    rw [List.foldl_cons, taken, inductionHypothesis later, List.reverse_cons, List.append_assoc,
      List.singleton_append]

/-- The normal form of plain names below the root has these names. -/
theorem normalNames_slash_join {given : List String} (plain : ∀ name ∈ given, Plain name) :
    normalNames ("/" ++ Text.join "/" given) = given := by
  have cut : names ("/" ++ Text.join "/" given) = "" :: names (Text.join "/" given) := by
    have below := names_append_slash "" (Text.join "/" given)
    rwa [String.empty_append] at below
  have first : step true [] "" = [] := rfl
  rw [normalNames, isAbsolute_slash, cut, List.foldl_cons, first]
  by_cases nothing : given = []
  · subst nothing
    rfl
  · rw [names_join nothing plain, foldl_step_plain plain, List.append_nil, List.reverse_reverse]

/-- A place that is absolute and that nothing is left to resolve in. -/
structure Resolved (place : String) : Prop where
  /-- It is absolute. -/
  absolute : isAbsolute place = true
  /-- It leads to itself, from wherever it is seen. -/
  stays : ∀ folder, real folder place = place

/-- The place that an absolute path leads to is resolved. -/
theorem resolved_real {folder path : String} (absolute : isAbsolute (join folder path) = true) :
    Resolved (real folder path) where
  absolute := isAbsolute_slash _
  stays other := by
    rw [real, real, join_of_absolute (isAbsolute_slash _),
      normalNames_slash_join (forall_plain_normalNames absolute)]

end Path

end Jobflow
