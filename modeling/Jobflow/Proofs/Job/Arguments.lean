import Jobflow.Job
import Jobflow.Proofs.Log
import Jobflow.Proofs.Logged
import Jobflow.Proofs.Names
import Jobflow.Proofs.Properties
import Jobflow.Proofs.Text.Search
import Mathlib.Data.List.Nodup

/-!
# Java arguments of jobs

Jobs that run Java start from options in which each Java argument is a key of its own, below the
option that they are collected in. Making such a job joins them into one text, in the order of
their names, and takes their keys out; the text takes the place of whatever the option had before.
All other options stay as they were merged, except for those that the class of the job sets, and
for the type and the dependencies, which are no options.
-/

namespace Jobflow

namespace Template

/-- A place for text is filled with the text of its argument. -/
theorem fillPlace_text (value : Value) (args : List Value) :
    fillPlace {} (some 's') (value :: args) = .ok (value.str.toList, args) := by
  have unpadded (text : List Char) : padText ⟨{}, 0, none⟩ text = text := by
    simp [padText, pad]
  show (Except.ok (padText ⟨{}, 0, none⟩ value.str.toList, args) : Except TemplateError _) = _
  rw [unpadded]

/-- A template with a single place for text is filled with the text of its argument. -/
theorem fill_text (value : Value) : fill "%s" [value] = .ok value.str := by
  have places : parts "%s".toList = [.place {} (some 's')] := by decide +kernel
  rw [fill, places, fillParts, fillPlace_text]
  simp [fillParts, bind, Except.bind, pure, Except.pure, Except.map]

end Template

namespace Job

/-! ## Options below an option -/

/-- The options below an option: what follows its name and a dot in their keys, in increasing
order, with their values. -/
structure Lists (options : Properties) (option : String) (arguments : List (String × Value)) :
    Prop where
  /-- They are in increasing order. -/
  ordered : arguments.Pairwise fun a b => a.1 < b.1
  /-- They are the options below the option, with their values. -/
  mem_iff : ∀ suffix value,
    (suffix, value) ∈ arguments ↔ options.find? (keyStart option ++ suffix) = some value

/-- What follows the start of a key is found again. -/
theorem drop_keyStart (option suffix : String) :
    String.ofList ((keyStart option ++ suffix).toList.drop (keyStart option).length) = suffix := by
  rw [String.toList_append, ← String.length_toList, List.drop_left, String.ofList_toList]

/-- What is below an option follows its name and a dot in the keys of options. -/
theorem mem_below_iff (options : Properties) (option suffix : String) (value : Value) :
    (suffix, value) ∈ below options option ↔
      options.find? (keyStart option ++ suffix) = some value := by
  rw [below, List.mem_map]
  constructor
  · rintro ⟨⟨key, other⟩, member, same⟩
    rw [List.mem_filter, Text.startsWith_iff] at member
    obtain ⟨here, rest, rfl⟩ := member
    dsimp only at same
    rw [drop_keyStart] at same
    cases same
    exact lookup_of_mem _ _ _ options.nodup here
  · intro found
    refine ⟨(keyStart option ++ suffix, value), ?_, ?_⟩
    · rw [List.mem_filter, Text.startsWith_iff]
      exact ⟨OrderedMap.mem_of_find? found, suffix, rfl⟩
    · dsimp only
      rw [drop_keyStart]

/-- No two options below an option have the same name, as their keys differ. -/
theorem nodup_below (options : Properties) (option : String) :
    ((below options option).map Prod.fst).Nodup := by
  have keys : ((below options option).map Prod.fst).map (keyStart option ++ ·) =
      (options.entries.filter fun entry =>
        Text.startsWith entry.1 (keyStart option)).map Prod.fst := by
    rw [below, List.map_map, List.map_map]
    apply List.map_congr_left
    rintro ⟨key, value⟩ member
    rw [List.mem_filter, Text.startsWith_iff] at member
    obtain ⟨-, rest, rfl⟩ := member
    simp only [Function.comp_apply, drop_keyStart]
  apply List.Nodup.of_map (keyStart option ++ ·)
  rw [keys]
  exact options.nodup.sublist (List.filter_sublist.map Prod.fst)

/-- The options below an option are put into the order of their names. -/
theorem lists_sortedByKey (options : Properties) (option : String) :
    Lists options option (sortedByKey (below options option)) where
  ordered := by
    have sorted : (sortedByKey (below options option)).Pairwise fun a b => a.1 ≤ b.1 := by
      have pairs : (sortedByKey (below options option)).Pairwise
          fun a b => (!decide (b.1 < a.1)) = true := by
        apply List.pairwise_mergeSort
        · intro a b c
          simpa only [Names.isBelow_iff] using le_trans
        · intro a b
          simpa only [Bool.or_eq_true, Names.isBelow_iff] using le_total a.1 b.1
      exact pairs.imp fun pair => (Names.isBelow_iff _ _).mp pair
    have distinct : ((sortedByKey (below options option)).map Prod.fst).Nodup :=
      ((List.mergeSort_perm _ _).map Prod.fst).nodup_iff.mpr (nodup_below options option)
    have different := List.pairwise_map.mp distinct
    exact (sorted.and different).imp fun pair => lt_of_le_of_ne pair.1 pair.2
  mem_iff suffix value := by
    rw [sortedByKey, (List.mergeSort_perm _ _).mem_iff, mem_below_iff]

/-! ## Collecting -/

/-- How an argument is written for Java. -/
def argumentText (argument : String × Value) : String :=
  "-D" ++ argument.1 ++ "=" ++ argument.2.str

/-- The template of arguments can always be filled. -/
theorem fill_argument (suffix : String) (value : Value) :
    Template.fill "-D%s=%s" [.text suffix, value] = .ok (argumentText (suffix, value)) := by
  have places : Template.parts "-D%s=%s".toList = [.literal '-', .literal 'D',
      .place {} (some 's'), .literal '=', .place {} (some 's')] := by decide +kernel
  have written : (argumentText (suffix, value)).toList =
      '-' :: 'D' :: (suffix.toList ++ '=' :: value.str.toList) := by
    simp [argumentText, String.toList_append]
  rw [fill_eq_ok_iff, places, written]
  simp [Template.fillParts, Template.fillPlace_text, bind, Except.bind, pure, Except.pure,
    Value.str]

/-- A key that has nothing to do with Java arguments. -/
structure Apart (key : String) : Prop where
  /-- It is not the option that they are collected in. -/
  notItself : key ≠ javaArguments
  /-- It is not below that option. -/
  notBelow : ∀ suffix, key ≠ keyStart javaArguments ++ suffix

/-- What is not below an option has a key that does not start with its name and a dot. -/
theorem apart_iff (key : String) :
    Apart key ↔ key ≠ javaArguments ∧ Text.startsWith key (keyStart javaArguments) = false := by
  rw [Bool.eq_false_iff, ne_eq (Text.startsWith _ _), Text.startsWith_iff, not_exists]
  exact ⟨fun apart => ⟨apart.1, apart.2⟩, fun both => ⟨both.1, both.2⟩⟩

instance (key : String) : Decidable (Apart key) := decidable_of_iff _ (apart_iff key).symm

/-- Options after the Java arguments among them were collected, and some others were changed. -/
structure Collected (changed : List String) (before after : Properties)
    (arguments : List (String × Value)) : Prop where
  /-- The arguments are those below the option. -/
  lists : Lists before javaArguments arguments
  /-- The option has the text of all arguments, or what it had if there are none. -/
  joined : after.find? javaArguments =
    if arguments = [] then before.find? javaArguments
    else some (.text (Text.join " " (arguments.map argumentText)))
  /-- The arguments themselves are taken out. -/
  taken : ∀ suffix, after.find? (keyStart javaArguments ++ suffix) = none
  /-- All other options stay. -/
  others : ∀ key, Apart key → key ∉ changed → after.find? key = before.find? key

/-- Changes of other options, before and afterwards, do not matter to the arguments. -/
theorem Collected.changing {before after first last : Properties}
    {arguments : List (String × Value)} (collected : Collected [] before after arguments)
    {changed : List String} (apart : ∀ key ∈ changed, Apart key)
    (sameBefore : ∀ key, key ∉ changed → before.find? key = first.find? key)
    (sameAfter : ∀ key, key ∉ changed → last.find? key = after.find? key) :
    Collected changed first last arguments := by
  have itself : javaArguments ∉ changed := fun member => (apart _ member).notItself rfl
  have below (suffix : String) : keyStart javaArguments ++ suffix ∉ changed :=
    fun member => (apart _ member).notBelow suffix rfl
  refine ⟨⟨collected.lists.ordered, fun suffix value => ?_⟩, ?_, fun suffix => ?_,
    fun key other unchanged => ?_⟩
  · rw [← sameBefore _ (below suffix)]
    exact collected.lists.mem_iff suffix value
  · rw [← sameBefore _ itself, sameAfter _ itself]
    exact collected.joined
  · rw [sameAfter _ (below suffix)]
    exact collected.taken suffix
  · rw [← sameBefore _ unchanged, sameAfter _ unchanged]
    exact collected.others key other List.not_mem_nil

/-- The options that are left when those below an option are taken out. -/
theorem find?_rest (options : Properties) (option key : String) :
    (options.filter fun key _ => !Text.startsWith key (keyStart option)).find? key =
      if Text.startsWith key (keyStart option) then none else options.find? key := by
  rw [OrderedMap.find?_filter]
  cases options.find? key <;> split <;> simp_all

/-- What collecting the arguments of a job comes to: the options below the one that they are
collected in are taken out, and their text is put in unless there are none. -/
theorem collectJavaArguments_eq (job : Job) :
    let arguments := sortedByKey (below job.options javaArguments)
    let rest := job.options.filter fun key _ => !Text.startsWith key (keyStart javaArguments)
    job.collectJavaArguments = .ok { job with
      options :=
        if arguments = [] then rest
        else rest.insert javaArguments (.text (Text.join " " (arguments.map argumentText))) } := by
  intro arguments rest
  have name : optionName javaArguments = javaArguments := by decide +kernel
  have nothing : (below job.options javaArguments).isEmpty = true ↔ arguments = [] := by
    rw [List.isEmpty_iff, ← List.length_eq_zero_iff, ← List.length_eq_zero_iff,
      ← (List.mergeSort_perm (below job.options javaArguments) _).length_eq]
    rfl
  rw [collectJavaArguments, joinBelow, name]
  by_cases none : arguments = []
  · rw [if_pos none, if_pos (nothing.mpr none)]
  · rw [if_neg none, if_neg (mt nothing.mp none), mapM_eq_ok arguments _ argumentText]
    exact fun argument _ => fill_argument argument.1 argument.2

/-- The Java arguments of any job can be collected. -/
theorem exists_collected (job : Job) : ∃ options arguments,
    job.collectJavaArguments = .ok { job with options } ∧
      Collected [] job.options options arguments := by
  have itself : Text.startsWith javaArguments (keyStart javaArguments) = false := by decide +kernel
  have below (suffix : String) :
      Text.startsWith (keyStart javaArguments ++ suffix) (keyStart javaArguments) = true :=
    (Text.startsWith_iff _ _).mpr ⟨suffix, rfl⟩
  have different (suffix : String) : keyStart javaArguments ++ suffix ≠ javaArguments := by
    intro same
    have inside := below suffix
    rw [same, itself] at inside
    cases inside
  refine ⟨_, _, collectJavaArguments_eq job, lists_sortedByKey _ _, ?_, fun suffix => ?_,
    fun key apart _ => ?_⟩
  · split
    · simp [find?_rest, itself]
    · rw [OrderedMap.find?_insert, if_pos rfl]
  · split
    · simp [find?_rest, below]
    · simp [OrderedMap.find?_insert, different, find?_rest, below]
  · obtain ⟨notItself, beside⟩ := (apart_iff key).mp apart
    split
    · simp [find?_rest, beside]
    · simp [OrderedMap.find?_insert, notItself, find?_rest, beside]

/-! ## Setting and joining options -/

/-- The first options that are set are the merged sources, apart from the type and the
dependencies. -/
theorem set_eq (job : Job) (sources : List Entries) (fresh : job.options = .empty) :
    let merged := Properties.ofSources sources
    (∀ mishap, dependencyNames ((merged.find? "dependencies").getD .null) = .error mishap →
      (job.set sources).2 = some mishap) ∧
    ∀ names, dependencyNames ((merged.find? "dependencies").getD .null) = .ok names →
      ∃ set, job.set sources = (set, none) ∧ set.jobClass = job.jobClass ∧
        set.options = (merged.erase "type").erase "dependencies" := by
  intro merged
  have flat : Properties.Flat ((merged.erase "type").erase "dependencies") := by
    intro entry member
    have member := List.mem_of_mem_filter (List.mem_of_mem_filter member)
    exact Properties.flat_ofSources sources entry member
  constructor
  · intro mishap found
    rw [set, found]
  · intro names found
    refine ⟨_, by rw [set, found], ?_, ?_⟩
    · dsimp only [depends]
      split <;> rfl
    · dsimp only [depends]
      split <;>
        simp only [fresh, Properties.merge, List.foldl_cons, List.foldl_nil,
          Properties.flatten_of_flat _ _ flat, OrderedMap.ofList_entries, merged]

/-- A value whose items can be joined: a text, a list or tuple, or an empty value, none
included. -/
def Joinable (value : Option Value) : Prop :=
  ∀ given, value = some given → given.truthy = true →
    (∃ text, given = .text text) ∨ ∃ items, given.sequence? = some items

/-- Options whose items are to be joined can be joined exactly if their value allows it, and
nothing else is changed. -/
theorem joinOption_cases (job : Job) (option : String) :
    (¬ Joinable (job.options.find? option) ∧
        ∃ fault, job.joinOption option "," "%s" = .error fault) ∨
      Joinable (job.options.find? option) ∧ ∃ options,
        job.joinOption option "," "%s" = .ok { job with options } ∧
          ∀ key, key ≠ option → options.find? key = job.options.find? key := by
  unfold joinOption
  split
  · -- There is no such option.
    next found =>
    refine .inr ⟨by simp [Joinable, found], job.options, rfl, fun _ _ => rfl⟩
  · next text found =>
    refine .inr ⟨?_, job.options, rfl, fun _ _ => rfl⟩
    rw [found]
    rintro given ⟨⟩ -
    exact .inl ⟨text, rfl⟩
  · next value notText found =>
    cases sequence : value.sequence? with
    | some items =>
      have joinable : Joinable (job.options.find? option) := by
        rw [found]
        rintro given ⟨⟩ -
        exact .inr ⟨items, sequence⟩
      dsimp only
      split
      · exact .inr ⟨joinable, job.options, rfl, fun _ _ => rfl⟩
      · have texts := mapM_eq_ok items
          (fun item => (Template.fill "%s" [item]).mapError TemplateError.fault) Value.str
          fun item _ => by rw [Template.fill_text]; rfl
        refine .inr ⟨joinable, _, by rw [texts]; rfl, fun key other => ?_⟩
        rw [OrderedMap.find?_insert, if_neg other]
    | none =>
      -- Any other value has no items, so that it must count as empty.
      dsimp only
      split
      · next truthy =>
        refine .inl ⟨fun joinable => ?_, _, rfl⟩
        rcases joinable value found truthy with ⟨text, rfl⟩ | ⟨items, some⟩
        · exact notText text rfl
        · rw [sequence] at some
          cases some
      · next empty =>
        refine .inr ⟨?_, job.options, rfl, fun _ _ => rfl⟩
        rw [found]
        rintro given ⟨⟩ truthy
        exact absurd truthy empty

/-! ## Making jobs -/

/-- The options that a job does not keep as they were merged: those that say something else about
it, its main argument, and the options that are joined. -/
def changedOptions : JobClass → List String
  | .pig => ["type", "dependencies", "pig.script"]
  | .hadoopJava => ["type", "dependencies", "job.class", "classpath"]
  | _ => ["type", "dependencies"]

/-- The main argument and the options suit the class of a job. -/
def Suits (main : Value) (options : Properties) : JobClass → Prop
  | .pig => ∃ script, main = .text script
  | .hadoopJava => Joinable (options.find? "classpath")
  | _ => True

/-- What a job that runs Java can be made from: its options are mappings, the dependencies among
them are names, and the rest suits its class. -/
def Spec.Complete (spec : Spec) : Prop :=
  ∃ sources names, spec.options.mapM entriesOf = .ok sources ∧
    dependencyNames (((Properties.ofSources sources).find? "dependencies").getD .null) = .ok names ∧
    Suits spec.main (Properties.ofSources sources) spec.jobClass

/-- Options without the type and the dependencies are as before apart from these. -/
theorem find?_erase_both (merged : Properties) {key : String} (notType : key ≠ "type")
    (notDependencies : key ≠ "dependencies") :
    ((merged.erase "type").erase "dependencies").find? key = merged.find? key := by
  rw [OrderedMap.find?_erase, if_neg notDependencies, OrderedMap.find?_erase, if_neg notType]

/-- A Pig job is made if its main argument is a text, and collects its arguments. -/
theorem applyMain_pig (main : Value) {job : Job} {merged : Properties}
    (pig : job.jobClass = .pig)
    (rest : job.options = (merged.erase "type").erase "dependencies") :
    (¬ Suits main merged .pig ∧ ∃ fault, job.applyMain main = .error fault) ∨
      Suits main merged .pig ∧ ∃ made arguments, job.applyMain main = .ok made ∧
        Collected (changedOptions .pig) merged made.options arguments := by
  by_cases isText : ∃ script, main = .text script
  · obtain ⟨script, rfl⟩ := isText
    let scripted : Job :=
      { job with options := job.options.insert "pig.script" (.text (Text.dropSlashes script)) }
    have applied : job.applyMain (.text script) = scripted.collectJavaArguments := by
      simp only [applyMain, pig, scripted]
    obtain ⟨options, arguments, ran, collected⟩ := exists_collected scripted
    refine .inr ⟨⟨script, rfl⟩, _, arguments, applied.trans ran, ?_⟩
    refine collected.changing (by decide +kernel) (fun key unchanged => ?_) fun _ _ => rfl
    simp only [changedOptions, List.mem_cons, List.not_mem_nil, or_false, not_or] at unchanged
    obtain ⟨notType, notDependencies, notScript⟩ := unchanged
    show (job.options.insert _ _).find? key = merged.find? key
    rw [OrderedMap.find?_insert, if_neg notScript, rest,
      find?_erase_both merged notType notDependencies]
  · refine .inl ⟨isText, .mishap .missingOperation, ?_⟩
    simp only [applyMain, pig]
    split
    · next script => exact absurd ⟨script, rfl⟩ isText
    · rfl

/-- A job of a Java class is made if its class path can be joined, and collects its arguments. -/
theorem applyMain_hadoopJava (main : Value) {job : Job} {merged : Properties}
    (hadoopJava : job.jobClass = .hadoopJava)
    (rest : job.options = (merged.erase "type").erase "dependencies") :
    (¬ Suits main merged .hadoopJava ∧ ∃ fault, job.applyMain main = .error fault) ∨
      Suits main merged .hadoopJava ∧ ∃ made arguments, job.applyMain main = .ok made ∧
        Collected (changedOptions .hadoopJava) merged made.options arguments := by
  let named : Job := { job with options := job.options.insert "job.class" main }
  obtain ⟨options, arguments, ran, collected⟩ := exists_collected named
  have before (key : String) (unchanged : key ∉ changedOptions .hadoopJava ∨ key = "classpath") :
      named.options.find? key = merged.find? key := by
    have others : key ≠ "type" ∧ key ≠ "dependencies" ∧ key ≠ "job.class" := by
      rcases unchanged with outside | rfl
      · simp_all [changedOptions]
      · decide
    obtain ⟨notType, notDependencies, notClass⟩ := others
    show (job.options.insert _ _).find? key = merged.find? key
    rw [OrderedMap.find?_insert, if_neg notClass, rest,
      find?_erase_both merged notType notDependencies]
  have path : options.find? "classpath" = merged.find? "classpath" := by
    rw [collected.others "classpath" (by decide +kernel) List.not_mem_nil]
    exact before "classpath" (.inr rfl)
  have applied : job.applyMain main =
      Job.joinOption { named with options } "classpath" "," "%s" := by
    have steps : job.applyMain main =
        named.collectJavaArguments >>= fun job => job.joinOption "classpath" "," "%s" := by
      simp only [applyMain, hadoopJava, named]
    rw [steps, ran]
    rfl
  rw [applied, Suits, ← path]
  rcases joinOption_cases { named with options } "classpath" with
    failing | ⟨joinable, joined, run, same⟩
  · exact .inl failing
  · refine .inr ⟨joinable, _, arguments, run, ?_⟩
    refine collected.changing (by decide +kernel) (fun key unchanged => before key (.inl unchanged))
      fun key unchanged => same key ?_
    rintro rfl
    exact unchanged (by decide)

/-- The class of a job runs Java. -/
def RunsJava (jobClass : JobClass) : Prop := jobClass = .pig ∨ jobClass = .hadoopJava

/-- The main argument of a job that runs Java applies if it suits the class, and the job then has
collected its arguments. -/
theorem applyMain_cases (main : Value) {job : Job} {merged : Properties}
    (runsJava : RunsJava job.jobClass)
    (rest : job.options = (merged.erase "type").erase "dependencies") :
    (¬ Suits main merged job.jobClass ∧ ∃ fault, job.applyMain main = .error fault) ∨
      Suits main merged job.jobClass ∧ ∃ made arguments, job.applyMain main = .ok made ∧
        Collected (changedOptions job.jobClass) merged made.options arguments := by
  rcases runsJava with pig | hadoopJava
  · simpa only [pig] using applyMain_pig main pig rest
  · simpa only [hadoopJava] using applyMain_hadoopJava main hadoopJava rest

/-- A job that its options were set for, with what else is given about it. -/
def completed (spec : Spec) (set : Job) : Job :=
  { (set.depends spec.dependencies).require spec.required with
    propertyFiles := spec.propertyFiles }

/-- The main argument of a job is applied after its options were set. -/
theorem ofSpec_eq {spec : Spec} {sources : List Entries}
    (mappings : spec.options.mapM entriesOf = .ok sources) :
    ofSpec spec =
      match ({ ofClass spec.jobClass with condition := spec.condition }).set sources with
      | (_, some mishap) => .error (.mishap mishap)
      | (set, none) => (completed spec set).applyMain spec.main := by
  rw [ofSpec, mappings]
  rfl

/-- If the dependencies among the merged options are no names then the job is not made, and else
its main argument is applied to the other options. -/
theorem ofSpec_of_sources {spec : Spec} {sources : List Entries}
    (mappings : spec.options.mapM entriesOf = .ok sources) :
    let merged := Properties.ofSources sources
    let given := dependencyNames ((merged.find? "dependencies").getD .null)
    (∀ mishap, given = .error mishap → ofSpec spec = .error (.mishap mishap)) ∧
      ∀ names, given = .ok names → ∃ job : Job, ofSpec spec = job.applyMain spec.main ∧
        job.jobClass = spec.jobClass ∧
        job.options = (merged.erase "type").erase "dependencies" := by
  intro merged given
  obtain ⟨failing, setting⟩ :=
    set_eq { ofClass spec.jobClass with condition := spec.condition } sources rfl
  rw [ofSpec_eq mappings]
  constructor
  · intro mishap wrong
    have stopped := failing mishap wrong
    split
    · next same =>
      rw [same] at stopped
      cases stopped
      rfl
    · next same =>
      rw [same] at stopped
      cases stopped
  · intro names found
    obtain ⟨set, ran, sameClass, options⟩ := setting names found
    exact ⟨completed spec set, by rw [ran], sameClass, options⟩

/-- A job that runs Java is made exactly from what is complete. Its Java arguments, those below
their option in the merged options, are then written into this option in the order of their names,
and are taken out. The other options are those that were merged, apart from what the class sets. -/
theorem ofSpec_collects (spec : Spec) (runsJava : RunsJava spec.jobClass) :
    ((∃ job, ofSpec spec = .ok job) ↔ spec.Complete) ∧
      ∀ sources job, spec.options.mapM entriesOf = .ok sources → ofSpec spec = .ok job →
        ∃ arguments, Collected (changedOptions spec.jobClass) (Properties.ofSources sources)
          job.options arguments := by
  rcases sourcesOf : spec.options.mapM entriesOf with mishap | sources
  · -- Options that are no mappings make no job, so that there is nothing to collect.
    have stopped : ofSpec spec = .error (.mishap mishap) := by
      rw [ofSpec, sourcesOf]
      rfl
    simp [Spec.Complete, stopped, sourcesOf]
  obtain ⟨failing, applying⟩ := ofSpec_of_sources sourcesOf
  rcases given : dependencyNames
      (((Properties.ofSources sources).find? "dependencies").getD .null) with mishap | names
  · simp [Spec.Complete, failing mishap given, sourcesOf, given]
  obtain ⟨job, applied, sameClass, options⟩ := applying names given
  have complete : spec.Complete ↔ Suits spec.main (Properties.ofSources sources) spec.jobClass := by
    simp [Spec.Complete, sourcesOf, given]
  rw [applied, complete, ← sameClass]
  rcases applyMain_cases spec.main (sameClass ▸ runsJava) options with
    ⟨unsuited, fault, stopped⟩ | ⟨suited, made, arguments, run, collected⟩
  · simp [stopped, unsuited]
  · simpa [run, suited] using ⟨arguments, collected⟩

/-- A Pig job whose memory is set as a whole after one of its Java arguments. -/
def spacious : Spec where
  jobClass := .pig
  main := .text "etl.pig"
  options := [.ofEntries [("jvm.args", .ofEntries [("foo", .int 1)])],
    .ofEntries [("jvm.args", .text "-Xmx1g")]]

/-- The sources of the options of this job. -/
def spaciousSources : List Entries :=
  [[("jvm.args", .ofEntries [("foo", .int 1)])], [("jvm.args", .text "-Xmx1g")]]

theorem spacious_collects :
    RunsJava .pig ∧ spacious.options.mapM entriesOf = .ok spaciousSources ∧
      ∃ job, ofSpec spacious = .ok job ∧ ∃ arguments,
        Collected ["type", "dependencies", "pig.script"] (Properties.ofSources spaciousSources)
          job.options arguments := by
  obtain ⟨made, collects⟩ := ofSpec_collects spacious (.inl rfl)
  obtain ⟨job, run⟩ := made.mpr ⟨spaciousSources, [], rfl, by decide +kernel, "etl.pig", rfl⟩
  exact ⟨.inl rfl, rfl, job, run, collects spaciousSources job rfl run⟩

/-- The options that this job comes to have the arguments in place of the memory. -/
theorem spacious_loses_memory :
    ((Properties.ofSources spaciousSources).find? javaArguments).bind Value.text? =
        some "-Xmx1g" ∧
      ((ofSpec spacious).toOption.bind (·.options.find? javaArguments)).bind Value.text? =
        some "-Dfoo=1" ∧
      Text.holds "-Dfoo=1" "-Xmx1g" = false := by
  decide +kernel

end Job

end Jobflow
