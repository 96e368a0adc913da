import Jobflow.Workflow.Plan

/-!
# When tagged messages are delivered

A tag is put before a template, not before its filled text, so whatever in the tag looks like
a place is filled as well. Without arguments nothing is filled, and a tag without percent
signs has no places: in both cases the message reads as its tag, two colons and the filled
template. In every other case it does not. Two percent signs in the tag come out as one; a
place in the tag takes an argument that the template needs, unless it runs into the colons,
which are no letters of places.

Which of the two mishaps happens, and hence which messages are lost and which are only
spoilt, is not told apart here.
-/

namespace Jobflow

instance decidableEqResult {ε α : Type} [DecidableEq ε] [DecidableEq α] :
    DecidableEq (Except ε α)
  | .ok _, .ok _ => decidable_of_iff _ (Except.ok.injEq _ _).symm.to_iff
  | .error _, .error _ => decidable_of_iff _ (Except.error.injEq _ _).symm.to_iff
  | .ok _, .error _ => isFalse nofun
  | .error _, .ok _ => isFalse nofun

/-! ## The arguments that places take -/

/-- The number of arguments that a width or precision takes. -/
def Measure.demand : Measure → Nat
  | .asked => 1
  | _ => 0

/-- The number of arguments that a part of a template takes. -/
def TemplatePart.demand : TemplatePart → Nat
  | .place layout _ => layout.width.demand + layout.precision.demand + 1
  | _ => 0

namespace Template

/-- The number of arguments that a template takes. -/
def demand (parts : List TemplatePart) : Nat :=
  parts.foldr (fun part count => part.demand + count) 0

/-- A width or precision takes its argument off the front. -/
theorem length_of_measure (bound : Nat) (args rest : List Value) (wanted : Measure)
    (size : Option Int) (measured : measure bound args wanted = .ok (size, rest)) :
    args.length = wanted.demand + rest.length := by
  cases wanted with
  | unset => simp_all [measure, Measure.demand]
  | given n => simp_all [measure, Measure.demand]
  | asked =>
    cases args with
    | nil => simp [measure] at measured
    | cons arg others =>
      unfold measure at measured
      simp only at measured
      split at measured
      · split at measured
        · simp at measured
        · simp only [Except.ok.injEq, Prod.mk.injEq] at measured
          simp [Measure.demand, measured.2, Nat.add_comm]
      · simp at measured

/-- A place takes the arguments that its layout asks for, and its own. -/
theorem length_of_fillPlace (layout : Layout) (letter : Option Char) (args rest : List Value)
    (cs : List Char) (filled : fillPlace layout letter args = .ok (cs, rest)) :
    args.length = (TemplatePart.place layout letter).demand + rest.length := by
  unfold fillPlace fit at filled
  cases width : measure (Nat.pow 2 63) args layout.width with
  | error reason => simp [width, bind, Except.bind] at filled
  | ok first =>
    cases precision : measure (Nat.pow 2 31) first.2 layout.precision with
    | error reason => simp [width, precision, bind, Except.bind] at filled
    | ok second =>
      have widthTaken := length_of_measure _ _ _ _ _ width
      have precisionTaken := length_of_measure _ _ _ _ _ precision
      simp only [width, precision, bind, Except.bind, pure, Except.pure] at filled
      split at filled
      · simp [throw, throwThe, MonadExceptOf.throw] at filled
      · simp [throw, throwThe, MonadExceptOf.throw] at filled
      · rename_i left
        split at filled
        · simp at filled
        · simp only [Except.ok.injEq, Prod.mk.injEq] at filled
          rw [left] at precisionTaken
          simp only [List.length_cons] at precisionTaken
          simp only [TemplatePart.demand, ← filled.2]
          omega

/-- A literal in front comes before the rest. -/
theorem exists_of_fillParts_literal (c : Char) (rest : List TemplatePart) (args : List Value)
    (cs : List Char) (filled : fillParts (.literal c :: rest) args = .ok cs) :
    ∃ later, fillParts rest args = .ok later ∧ cs = c :: later := by
  cases later : fillParts rest args with
  | error reason => simp [fillParts, later, bind, Except.bind] at filled
  | ok text =>
    simp only [fillParts, later, bind, Except.bind, pure, Except.pure, Except.ok.injEq] at filled
    exact ⟨text, rfl, filled.symm⟩

/-- A place in front takes arguments, and the rest is filled with those that are left. -/
theorem exists_of_fillParts_place (layout : Layout) (letter : Option Char)
    (rest : List TemplatePart) (args : List Value) (cs : List Char)
    (filled : fillParts (.place layout letter :: rest) args = .ok cs) :
    ∃ here left later, fillPlace layout letter args = .ok (here, left) ∧
      fillParts rest left = .ok later ∧
      args.length = (TemplatePart.place layout letter).demand + left.length := by
  cases here : fillPlace layout letter args with
  | error reason => simp [fillParts, here, bind, Except.bind] at filled
  | ok first =>
    cases later : fillParts rest first.2 with
    | error reason => simp [fillParts, here, later, bind, Except.bind] at filled
    | ok text => exact ⟨first.1, first.2, text, rfl, later, length_of_fillPlace _ _ _ _ _ here⟩

/-- Filling a template takes exactly as many arguments as its parts ask for. -/
theorem length_of_fillParts (parts : List TemplatePart) (args : List Value) (cs : List Char)
    (filled : fillParts parts args = .ok cs) : args.length = demand parts := by
  induction parts generalizing args cs with
  | nil =>
    cases args with
    | nil => rfl
    | cons arg rest => simp [fillParts] at filled
  | cons part rest inductionHypothesis =>
    cases part with
    | literal c =>
      obtain ⟨later, filledLater, -⟩ := exists_of_fillParts_literal c rest args cs filled
      simpa [demand, TemplatePart.demand] using inductionHypothesis args later filledLater
    | named => simp [fillParts] at filled
    | place layout letter =>
      obtain ⟨here, left, later, -, filledLater, taken⟩ :=
        exists_of_fillParts_place layout letter rest args cs filled
      rw [taken, inductionHypothesis left later filledLater]
      rfl

/-! ## Reading a tag -/

/-- What is left of a tag and what follows it, while a place is read: either a rest of the
tag, or all but the blank after the tag, which can be taken for a flag. -/
def Held (tag after left : List Char) : Prop :=
  (∃ rest, rest <:+ tag ∧ left = rest ++ ' ' :: ':' :: after) ∨ left = ':' :: after

/-- Only a colon stops the reading of a place. -/
theorem held_tail (tag after left : List Char) (c : Char) (noColon : c ≠ ':')
    (held : Held tag after (c :: left)) : Held tag after left := by
  rcases held with ⟨rest, inside, whole⟩ | whole
  · cases rest with
    | nil => exact Or.inr (List.cons.inj whole).2
    | cons d rest =>
      exact Or.inl ⟨rest, (List.suffix_cons d rest).trans inside, (List.cons.inj whole).2⟩
  · exact absurd (List.cons.inj whole).1 noColon

/-- A number ends before a colon. -/
theorem held_readNumber (tag after left : List Char) (value : Nat) (held : Held tag after left) :
    Held tag after (readNumber value left).2 := by
  induction left generalizing value with
  | nil => exact held
  | cons c rest inductionHypothesis =>
    unfold readNumber
    split
    · rename_i digit
      have noColon : c ≠ ':' := by rintro rfl; simp at digit
      exact inductionHypothesis _ (held_tail tag after rest c noColon held)
    · exact held

/-- A width or precision ends before a colon. -/
theorem held_readMeasure (tag after left : List Char) (held : Held tag after left) :
    Held tag after (readMeasure left).2 := by
  cases left with
  | nil => exact held
  | cons c rest =>
    by_cases star : c = '*'
    · subst star
      exact held_tail tag after rest '*' (by decide) held
    · by_cases digit : c.isDigit
      · simpa [readMeasure, star, digit] using held_readNumber tag after (c :: rest) 0 held
      · simpa [readMeasure, star, digit] using held

/-- Flags end before a colon. -/
theorem held_readFlags (tag after left : List Char) (flags : Flags)
    (held : Held tag after left) : Held tag after (readFlags flags left).2 := by
  fun_induction readFlags flags left with
  | case1 _ _ inductionHypothesis | case2 _ _ inductionHypothesis | case3 _ _ inductionHypothesis
  | case4 _ _ inductionHypothesis | case5 _ _ inductionHypothesis =>
    exact inductionHypothesis (held_tail tag after _ _ (by decide) held)
  | case6 => exact held

/-- A precision ends before a colon. -/
theorem held_readPrecision (tag after left : List Char) (held : Held tag after left) :
    Held tag after (readPrecision left).2 := by
  unfold readPrecision
  split
  · exact held_readMeasure tag after _ (held_tail tag after _ _ (by decide) held)
  · exact held

/-- A mark of the size of numbers ends before a colon. -/
theorem held_skipSize (tag after left : List Char) (held : Held tag after left) :
    Held tag after (skipSize left) := by
  unfold skipSize
  split
  · exact held_tail tag after _ _ (by decide) held
  · exact held_tail tag after _ _ (by decide) held
  · exact held_tail tag after _ _ (by decide) held
  · exact held

/-- The letter of a place that starts in a tag is in the tag too, or is the blank or the
colon after it. -/
theorem readLayout_tag (tag after : List Char) :
    ∃ letter rest, (readLayout (tag ++ ' ' :: ':' :: after)).2 = letter :: rest ∧
      (letter = ' ' ∨ letter = ':' ∨
        ∃ inner, letter :: inner <:+ tag ∧ rest = inner ++ ' ' :: ':' :: after) := by
  have start : Held tag after (tag ++ ' ' :: ':' :: after) := Or.inl ⟨tag, List.suffix_rfl, rfl⟩
  have held : Held tag after (readLayout (tag ++ ' ' :: ':' :: after)).2 :=
    held_skipSize _ _ _ (held_readPrecision _ _ _ (held_readMeasure _ _ _
      (held_readFlags _ _ _ {} start)))
  rcases held with ⟨inner, inside, whole⟩ | whole
  · cases inner with
    | nil => exact ⟨' ', ':' :: after, whole, Or.inl rfl⟩
    | cons letter inner =>
      exact ⟨letter, inner ++ ' ' :: ':' :: after, whole, Or.inr (Or.inr ⟨inner, inside, rfl⟩)⟩
  · exact ⟨':', after, whole, Or.inr (Or.inl rfl)⟩

/-- No argument can be filled in at a place whose letter is a blank or a colon. -/
theorem fillPlace_of_foreign (layout : Layout) (letter : Char)
    (foreign : letter = ' ' ∨ letter = ':') (args : List Value) (filled : List Char × List Value) :
    fillPlace layout letter args ≠ .ok filled := by
  intro done
  obtain ⟨cs, rest⟩ := filled
  unfold fillPlace at done
  cases fitted : fit layout args with
  | error reason => simp [fitted, bind, Except.bind] at done
  | ok first =>
    obtain ⟨fitting, args⟩ := first
    cases args with
    | nil => simp [fitted, bind, Except.bind, throw, throwThe, MonadExceptOf.throw] at done
    | cons arg args =>
      have unplaced : place fitting letter arg = .error .malformedPlace := by
        rcases foreign with rfl | rfl <;> rfl
      simp [fitted, unplaced, bind, Except.bind] at done

/-! ## Filling a tagged template -/

/-- A character other than a percent sign stands for itself. -/
theorem parts_cons (c : Char) (rest : List Char) (noPercent : c ≠ '%') :
    parts (c :: rest) = .literal c :: parts rest := by
  rw [parts]
  · rintro rest' rfl
    exact absurd rfl noPercent
  · rintro rest' rfl
    exact absurd rfl noPercent
  · rintro rfl
    exact noPercent rfl

/-- A percent sign that neither a percent sign nor a bracket follows starts a place. -/
theorem parts_place (rest after : List Char) (letter : Char)
    (noPercent : ∀ more, rest ≠ '%' :: more) (noBracket : ∀ more, rest ≠ '(' :: more)
    (read : (readLayout rest).2 = letter :: after) :
    parts ('%' :: rest) = .place (readLayout rest).1 (some letter) :: parts after := by
  rw [parts]
  · split
    · rename_i found
      rw [found] at read
      exact absurd read (by simp)
    · rename_i found
      rw [found] at read ⊢
      rw [List.cons.injEq] at read
      rw [read.1, read.2]
  · exact noPercent
  · exact noBracket

/-- A template after a text without percent signs is filled after it. -/
theorem fillParts_append (cs rest : List Char) (noPercent : '%' ∉ cs) (args : List Value) :
    fillParts (parts (cs ++ rest)) args = (fillParts (parts rest) args).map (cs ++ ·) := by
  induction cs with
  | nil =>
    rw [List.nil_append]
    cases fillParts (parts rest) args <;> rfl
  | cons c cs inductionHypothesis =>
    rw [List.mem_cons, not_or] at noPercent
    rw [List.cons_append, parts_cons c _ (Ne.symm noPercent.1), fillParts,
      inductionHypothesis noPercent.2]
    cases fillParts (parts rest) args <;> rfl

/-- What a text comes to that was filled in for a tag, two colons and a template: either the
tag took arguments that the template needs, or the tag is shown in at most as many characters
as it has, and in fewer if one of them is a percent sign. -/
def Shows (tag template : List Char) (args : List Value) (cs : List Char) : Prop :=
  demand (parts template) < args.length ∨
    ∃ shown text, fillParts (parts template) args = .ok text ∧
      cs = shown ++ ' ' :: ':' :: ':' :: ' ' :: text ∧
      shown.length ≤ tag.length ∧ ('%' ∈ tag → shown.length < tag.length)

/-- A place that starts in a tag ends there, and takes an argument: its letter could otherwise
only be the blank or the colon after the tag. -/
theorem exists_place_in_tag (tag template : List Char) (args : List Value) (cs : List Char)
    (noPercent : ∀ more, tag ≠ '%' :: more) (noBracket : ∀ more, tag ≠ '(' :: more)
    (filled : fillParts (parts ('%' :: (tag ++ ' ' :: ':' :: ':' :: ' ' :: template))) args =
      .ok cs) :
    ∃ inner left later, inner.length ≤ tag.length ∧ left.length < args.length ∧
      fillParts (parts (inner ++ ' ' :: ':' :: ':' :: ' ' :: template)) left = .ok later := by
  obtain ⟨letter, after, read, origin⟩ := readLayout_tag tag (':' :: ' ' :: template)
  have starts : ∀ c, c ≠ ' ' → (∀ more, tag ≠ c :: more) →
      ∀ more, tag ++ ' ' :: ':' :: ':' :: ' ' :: template ≠ c :: more := by
    intro c noBlank absent more whole
    cases tag with
    | nil => exact noBlank (List.cons.inj whole).1.symm
    | cons d tag => exact absent tag (by rw [(List.cons.inj whole).1])
  rw [parts_place _ after letter (starts '%' (by decide) noPercent)
    (starts '(' (by decide) noBracket) read] at filled
  obtain ⟨here, left, later, placed, rest, taken⟩ := exists_of_fillParts_place _ _ _ _ _ filled
  have fewer : left.length < args.length := by
    rw [TemplatePart.demand] at taken
    omega
  rcases origin with blank | colon | ⟨inner, inside, rfl⟩
  · exact absurd placed (fillPlace_of_foreign _ _ (Or.inl blank) _ _)
  · exact absurd placed (fillPlace_of_foreign _ _ (Or.inr colon) _ _)
  · have shorter := inside.length_le
    rw [List.length_cons] at shorter
    exact ⟨inner, left, later, by omega, fewer, rest⟩

/-- Filling a tagged template shows the tag. The induction is on the length of the tag, since
a place in it takes several of its characters. -/
theorem shows_of_fillParts (tag template : List Char) (args : List Value) (cs : List Char)
    (filled : fillParts (parts (tag ++ ' ' :: ':' :: ':' :: ' ' :: template)) args = .ok cs) :
    Shows tag template args cs := by
  induction size : tag.length using Nat.strongRecOn generalizing tag args cs with
  | _ size inductionHypothesis =>
  subst size
  cases tag with
  | nil =>
    have apart := fillParts_append [' ', ':', ':', ' '] template (by decide) args
    rw [List.nil_append] at filled
    rw [show [' ', ':', ':', ' '] ++ template = ' ' :: ':' :: ':' :: ' ' :: template from rfl,
      filled] at apart
    cases result : fillParts (parts template) args with
    | error reason => simp [result, Except.map] at apart
    | ok text =>
      rw [result] at apart
      exact Or.inr ⟨[], text, result, Except.ok.inj apart, by simp, by simp⟩
  | cons c tag =>
    rw [List.cons_append] at filled
    by_cases percent : c = '%'
    · subst percent
      by_cases doubled : ∃ more, tag = '%' :: more
      · obtain ⟨more, rfl⟩ := doubled
        rw [List.cons_append, parts] at filled
        obtain ⟨later, rest, rfl⟩ := exists_of_fillParts_literal _ _ _ _ filled
        have less : more.length < ('%' :: '%' :: more).length := by
          simp only [List.length_cons]
          omega
        rcases inductionHypothesis more.length less more args later rest rfl with
          taken | ⟨shown, text, textFilled, rfl, bound, -⟩
        · exact Or.inl taken
        · exact Or.inr ⟨'%' :: shown, text, textFilled, rfl, by simp only [List.length_cons]; omega,
            by simp only [List.length_cons]; omega⟩
      by_cases bracket : ∃ more, tag = '(' :: more
      · obtain ⟨more, rfl⟩ := bracket
        rw [List.cons_append, parts, fillParts] at filled
        simp at filled
      obtain ⟨inner, left, later, shorter, fewer, rest⟩ := exists_place_in_tag tag template args cs
        (fun more whole => doubled ⟨more, whole⟩) (fun more whole => bracket ⟨more, whole⟩) filled
      have less : inner.length < ('%' :: tag).length := Nat.lt_succ_of_le (by omega)
      rcases inductionHypothesis inner.length less inner left later rest rfl with
        taken | ⟨shown, text, textFilled, -⟩
      · exact Or.inl (Nat.lt_trans taken fewer)
      · have needed := length_of_fillParts _ _ _ textFilled
        exact Or.inl (by omega)
    · rw [parts_cons c _ percent] at filled
      obtain ⟨later, rest, rfl⟩ := exists_of_fillParts_literal _ _ _ _ filled
      rcases inductionHypothesis tag.length (by simp) tag args later rest rfl with
        taken | ⟨shown, text, textFilled, rfl, bound, strict⟩
      · exact Or.inl taken
      · refine Or.inr ⟨c :: shown, text, textFilled, rfl, by simpa using bound, ?_⟩
        intro member
        rcases List.mem_cons.mp member with here | there
        · exact absurd here.symm percent
        · simpa using strict there

end Template

/-! ## Delivery -/

/-- The characters of a tagged template. -/
theorem toList_tagged (tag template : String) :
    (tagged tag template).toList = tag.toList ++ ' ' :: ':' :: ':' :: ' ' :: template.toList := by
  simp [tagged]

/-- A filled template is the text of its filled parts. -/
theorem fill_eq_ok_iff (template text : String) (args : List Value) :
    Template.fill template args = .ok text ↔
      Template.fillParts (Template.parts template.toList) args = .ok text.toList := by
  unfold Template.fill
  cases Template.fillParts (Template.parts template.toList) args with
  | error reason => simp [Except.map]
  | ok cs =>
    simp only [Except.map, Except.ok.injEq]
    constructor
    · intro same
      rw [← same, String.toList_ofList]
    · intro same
      rw [same, String.ofList_toList]

/-- An entry has a text exactly if that is what its template is filled to. -/
theorem ofTemplate_eq_ok_iff (level : LogLevel) (template text : String) (args : List Value) :
    LogEntry.ofTemplate level template args = .ok ⟨level, text⟩ ↔
      Template.message template args = .ok text := by
  unfold LogEntry.ofTemplate
  cases Template.message template args <;> simp [Except.map]

/-- A message with arguments, and a tag before it, is filled to the tag and the filled message
exactly if the tag has no percent sign. -/
theorem fill_tagged_iff (tag template text : String) (args : List Value)
    (filled : Template.fill template args = .ok text) :
    Template.fill (tagged tag template) args = .ok (tagged tag text) ↔ '%' ∉ tag.toList := by
  rw [fill_eq_ok_iff] at filled
  rw [fill_eq_ok_iff, toList_tagged, toList_tagged]
  constructor
  · intro delivered percent
    have needed := Template.length_of_fillParts _ _ _ filled
    rcases Template.shows_of_fillParts _ _ _ _ delivered with
      taken | ⟨shown, rest, restFilled, whole, -, strict⟩
    · omega
    · have same : rest = text.toList := Except.ok.inj (restFilled.symm.trans filled)
      have lengths := congrArg List.length whole
      have fewer := strict percent
      rw [same] at lengths
      simp only [List.length_append, List.length_cons] at lengths
      omega
  · intro noPercent
    have plain : '%' ∉ tag.toList ++ [' ', ':', ':', ' '] := by simpa using noPercent
    have apart := Template.fillParts_append _ template.toList plain args
    rw [filled] at apart
    simpa [Except.map] using apart

/-- A message that can be filled is delivered after its tag exactly if it has no arguments or
its tag has no percent sign. -/
theorem tagged_delivered_iff (level : LogLevel) (tag template text : String)
    (args : List Value) (filled : Template.message template args = .ok text) :
    LogEntry.ofTagged level tag template args = .ok ⟨level, tagged tag text⟩ ↔
      args = [] ∨ '%' ∉ tag.toList := by
  rw [LogEntry.ofTagged, ofTemplate_eq_ok_iff]
  cases args with
  | nil =>
    have same : template = text := Except.ok.inj filled
    simp [Template.message, same]
  | cons arg args =>
    have some := fill_tagged_iff tag template text (arg :: args) filled
    simpa [Template.message] using some

/-- The message of adding a job can be filled. -/
theorem jobMessage_filled :
    Template.message "Added job %r." [.text "report"] = .ok "Added job 'report'." :=
  (ofTemplate_eq_ok_iff .debug _ _ _).mp (by decide +kernel)

/-- A workflow without a percent sign in its name says that a job was added to it. -/
theorem nightly_reports :
    Template.message "Added job %r." [.text "report"] = .ok "Added job 'report'." ∧
      Header.jobAdded { name := "nightly" } "report" =
        .ok ⟨.debug, "<Workflow(name='nightly')> :: Added job 'report'."⟩ := by
  have tag : Header.repr { name := "nightly" } = "<Workflow(name='nightly')>" := by decide +kernel
  refine ⟨jobMessage_filled, ?_⟩
  rw [Header.jobAdded, tag]
  exact (tagged_delivered_iff .debug _ _ _ _ jobMessage_filled).mpr (Or.inr (by decide))

/-! ## Messages that cannot be filled -/

/-- A message that cannot be filled is never logged: it is dropped, or it stops whoever logs it, as
the handlers say. -/
theorem deliver_error [Handlers] (level : LogLevel) (reason : TemplateError) (before : Log) :
    (Logged.deliver level (.error reason)).run.run before =
      (if Handlers.stops level then .error reason.fault else .ok (), before) := by
  rw [Logged.deliver]
  cases Handlers.stops level <;> rfl

/-- A workflow with a percent sign in its name does not say so: its tag is read as a place, which
starts at the percent sign and has a quote for its letter. The message is lost under the usual
handlers, and an error under those that pass it on. -/
theorem percentNamed_fails :
    Template.message "Added job %r." [.text "report"] = .ok "Added job 'report'." ∧
      Header.repr { name := "100%" } = "<Workflow(name='100%')>" ∧
      Header.jobAdded { name := "100%" } "report" = .error .malformedPlace ∧
      ∀ handlers : Handlers, ∀ before,
        (Logged.deliver .debug (Header.jobAdded { name := "100%" } "report")).run.run before =
          (if handlers.stops .debug then .error (.mishap .badValue) else .ok (), before) := by
  have unfilled : Header.jobAdded { name := "100%" } "report" = .error .malformedPlace := by
    decide +kernel
  refine ⟨jobMessage_filled, by decide +kernel, unfilled, fun handlers before => ?_⟩
  rw [unfilled]
  exact deliver_error .debug .malformedPlace before

end Jobflow
