import Jobflow.Number.Scientific
import Jobflow.Value

/-!
# Message templates

A template is a text with places for arguments. A place starts with a percent sign and
ends with a letter that says how its argument is written: `s` as text, `r` and `a` quoted,
`c` as one character, `d` as an integer, `x` and `o` in hexadecimal and octal digits, `f`,
`e` and `g` as a decimal. Between the two may stand flags, a least width and a precision;
a star in place of the last two takes them from an argument. Two percent signs stand for
one. Filling a template takes its arguments in order and needs
exactly as many as its places ask for.
-/

namespace Jobflow

open Number (Binary64)

/-- Why a template cannot be filled. -/
inductive TemplateError
  /-- There are fewer arguments than the places ask for, or more. -/
  | argumentCount
  /-- An argument has no text of the kind its place asks for. -/
  | argumentKind
  /-- An argument is a number too large for its place. -/
  | argumentSize
  /-- A place asks for arguments by name, which are given by position only. -/
  | namedPlace
  /-- A place is not completed, or its letter is unknown. -/
  | malformedPlace
deriving DecidableEq, Repr

/-- A width or precision in a template. -/
inductive Measure
  /-- There is none. -/
  | unset
  /-- It is given by digits. -/
  | given (n : Nat)
  /-- It is the next argument. -/
  | asked
deriving DecidableEq, Repr

/-- The flags of a place. -/
structure Flags where
  /-- Whether the text goes to the left of the width. -/
  leftAligned : Bool := false
  /-- Whether a number is filled up with zeros. -/
  zeroFilled : Bool := false
  /-- What stands before a number that is not negative. -/
  positiveSign : List Char := []
  /-- Whether a hexadecimal or octal number shows its base, and a decimal its point. -/
  alternate : Bool := false
deriving DecidableEq, Repr

/-- The parts of a place before its letter. -/
structure Layout where
  /-- The flags. -/
  flags : Flags := {}
  /-- The least number of characters. -/
  width : Measure := .unset
  /-- The precision: the most characters of a text, or the places of a decimal. -/
  precision : Measure := .unset
deriving DecidableEq, Repr

/-- A layout whose width and precision are known. -/
structure Fitting where
  /-- The flags. -/
  flags : Flags
  /-- The least number of characters. -/
  width : Nat
  /-- The precision. -/
  precision : Option Nat
deriving DecidableEq, Repr

/-- One part of a template. -/
inductive TemplatePart
  /-- Text that stands for itself. -/
  | literal (c : Char)
  /-- A place for an argument; without a letter it is not completed. -/
  | place (layout : Layout) (letter : Option Char)
  /-- A place that names its argument. -/
  | named
deriving DecidableEq, Repr

namespace Template

/-- Read a natural number from the front, as far as there are digits. -/
def readNumber (value : Nat) : List Char → Nat × List Char
  | [] => (value, [])
  | c :: rest =>
    if c.isDigit then readNumber (10 * value + (c.toNat - 0x30)) rest else (value, c :: rest)

/-- Read a width or precision from the front, if there is one. -/
def readMeasure : List Char → Measure × List Char
  | [] => (.unset, [])
  | c :: rest =>
    if c = '*' then (.asked, rest)
    else if c.isDigit then
      let (n, rest) := readNumber 0 (c :: rest)
      (.given n, rest)
    else (.unset, c :: rest)

/-- Read flags from the front. -/
def readFlags (flags : Flags) : List Char → Flags × List Char
  | '-' :: rest => readFlags { flags with leftAligned := true } rest
  | '0' :: rest => readFlags { flags with zeroFilled := true } rest
  | '+' :: rest => readFlags { flags with positiveSign := ['+'] } rest
  | ' ' :: rest =>
    readFlags (if flags.positiveSign.isEmpty then { flags with positiveSign := [' '] } else flags)
      rest
  | '#' :: rest => readFlags { flags with alternate := true } rest
  | rest => (flags, rest)

/-- Read a precision after its point, if there is one. A point on its own stands for zero. -/
def readPrecision : List Char → Measure × List Char
  | '.' :: cs =>
    let (precision, cs) := readMeasure cs
    (if precision = .unset then .given 0 else precision, cs)
  | cs => (.unset, cs)

/-- Skip a mark of the size of numbers, which means nothing. -/
def skipSize : List Char → List Char
  | 'h' :: rest | 'l' :: rest | 'L' :: rest => rest
  | cs => cs

/-- Read what stands between a percent sign and its letter. -/
def readLayout (cs : List Char) : Layout × List Char :=
  let flags := readFlags {} cs
  let width := readMeasure flags.2
  let precision := readPrecision width.2
  (⟨flags.1, width.1, precision.1⟩, skipSize precision.2)

/-- Reading a number never lengthens the text. -/
theorem readNumber_length (value : Nat) (cs : List Char) :
    (readNumber value cs).2.length ≤ cs.length := by
  induction cs generalizing value with
  | nil => simp [readNumber]
  | cons c rest inductionHypothesis =>
    unfold readNumber
    split
    · exact Nat.le_succ_of_le (inductionHypothesis _)
    · exact Nat.le_refl _

/-- Reading flags never lengthens the text. -/
theorem readFlags_length (flags : Flags) (cs : List Char) :
    (readFlags flags cs).2.length ≤ cs.length := by
  fun_induction readFlags flags cs <;> simp_all <;> omega

/-- Reading a width or precision never lengthens the text. -/
theorem readMeasure_length (cs : List Char) : (readMeasure cs).2.length ≤ cs.length := by
  cases cs with
  | nil => simp [readMeasure]
  | cons c rest =>
    by_cases star : c = '*'
    · simp [readMeasure, star]
    · by_cases digit : c.isDigit
      · simpa [readMeasure, star, digit] using readNumber_length 0 (c :: rest)
      · simp [readMeasure, star, digit]

/-- Reading a precision never lengthens the text. -/
theorem readPrecision_length (cs : List Char) : (readPrecision cs).2.length ≤ cs.length := by
  unfold readPrecision
  split
  · rename_i after
    have := readMeasure_length after
    simp only [List.length_cons]
    omega
  · exact Nat.le_refl _

/-- Skipping a mark never lengthens the text. -/
theorem skipSize_length (cs : List Char) : (skipSize cs).length ≤ cs.length := by
  unfold skipSize
  split <;> simp

/-- What follows a layout is no longer than the text it was read from. -/
theorem readLayout_length (cs : List Char) : (readLayout cs).2.length ≤ cs.length := by
  have flags := readFlags_length {} cs
  have width := readMeasure_length (readFlags {} cs).2
  have precision := readPrecision_length (readMeasure (readFlags {} cs).2).2
  have size := skipSize_length (readPrecision (readMeasure (readFlags {} cs).2).2).2
  unfold readLayout
  simp only
  omega

/-- The parts of a template. -/
def parts (cs : List Char) : List TemplatePart :=
  match cs with
  | [] => []
  | '%' :: '%' :: rest => .literal '%' :: parts rest
  | '%' :: '(' :: rest => .named :: parts rest
  | '%' :: rest =>
    match _found : readLayout rest with
    | (layout, []) => [.place layout none]
    | (layout, letter :: after) => .place layout (some letter) :: parts after
  | c :: rest => .literal c :: parts rest
termination_by cs.length
decreasing_by
  · simp only [List.length_cons]; omega
  · simp only [List.length_cons]; omega
  · have bound := readLayout_length rest
    rw [_found] at bound
    simp only [List.length_cons] at bound ⊢
    omega
  · simp

/-- Fill a text up to the width of its place. -/
def pad (fitting : Fitting) (cs : List Char) : List Char :=
  let blanks := List.replicate (fitting.width - cs.length) ' '
  if fitting.flags.leftAligned then cs ++ blanks else blanks ++ cs

/-- A text cut down to its precision and filled up to its width. -/
def padText (fitting : Fitting) (cs : List Char) : List Char :=
  pad fitting (match fitting.precision with
    | some most => cs.take most
    | none => cs)

/-- A number with its sign, filled up to the width of its place. -/
def padNumber (fitting : Fitting) (negative : Bool) (base digits : List Char) : List Char :=
  let sign := (if negative then ['-'] else fitting.flags.positiveSign) ++ base
  if fitting.flags.zeroFilled && !fitting.flags.leftAligned then
    sign ++ List.replicate (fitting.width - sign.length - digits.length) '0' ++ digits
  else pad fitting (sign ++ digits)

/-- The digits of a natural number in a base, with at least as many as the precision. -/
def digitsIn (fitting : Fitting) (base n : Nat) : List Char :=
  let digits := Nat.toDigits base n
  List.replicate (fitting.precision.getD 0 - digits.length) '0' ++ digits

/-- The integer that an argument stands for, toward zero if it may have a fraction. -/
def integerOf (value : Value) (fractions : Bool) : Except TemplateError Int :=
  match value.numeric? with
  | some (.int n) => .ok n
  | some (.float x) =>
    if fractions then
      match x.truncate? with
      | some n => .ok n
      | none => .error (if x = .nan then .malformedPlace else .argumentSize)
    else .error .argumentKind
  | none => .error .argumentKind

/-- The floating point number that an argument stands for. -/
def floatOf (value : Value) : Except TemplateError Binary64 :=
  match value.numeric? with
  | some (.int n) =>
    let x := Binary64.ofInt n
    if x.isFinite then .ok x else .error .argumentSize
  | some (.float x) => .ok x
  | none => .error .argumentKind

/-- The character that an argument stands for: a text of one, or its code point. -/
def charOf (value : Value) : Except TemplateError Char :=
  match value with
  | .text text =>
    match text.toList with
    | [c] => .ok c
    | _ => .error .argumentKind
  | other => do
    let n ← integerOf other false
    if 0 ≤ n ∧ n < 0x110000 then return Char.ofNat n.toNat else throw .argumentSize

/-- A text in which only the characters of ASCII stand for themselves. -/
def asciiOnly (cs : List Char) : List Char :=
  cs.flatMap fun c => if c.toNat < 0x80 then [c] else Text.codePointEscape c.toNat

/-- An integer at a place for one in decimal digits. -/
def decimalInteger (fitting : Fitting) (value : Value) : Except TemplateError (List Char) := do
  let n ← integerOf value true
  return padNumber fitting (decide (n < 0)) [] (digitsIn fitting 10 n.natAbs)

/-- An integer at a place for one in digits of another base. -/
def basedInteger (fitting : Fitting) (letter : Char) (base : Nat) (value : Value) :
    Except TemplateError (List Char) := do
  let n ← integerOf value false
  let mark := if fitting.flags.alternate then ['0', letter] else []
  let digits := digitsIn fitting base n.natAbs
  let digits := if letter = 'X' then digits.map Char.toUpper else digits
  return padNumber fitting (decide (n < 0)) mark digits

/-- The absolute value of a decimal, by the letter of its place in small. -/
def decimalBody (fitting : Fitting) (letter : Char) (num den : Nat) : List Char :=
  let precision := fitting.precision.getD 6
  if letter = 'e' then Number.scientific fitting.flags.alternate precision num den
  else if letter = 'g' then Number.general fitting.flags.alternate precision num den
  else
    let digits := Number.fixed precision num den
    if precision = 0 && fitting.flags.alternate then digits ++ ['.'] else digits

/-- A number at a place for a decimal. -/
def decimal (fitting : Fitting) (letter : Char) (value : Value) :
    Except TemplateError (List Char) := do
  let (negative, body) := (← floatOf value).parts (decimalBody fitting letter.toLower)
  let body := if letter.isUpper then body.map Char.toUpper else body
  return padNumber fitting negative [] body

/-- The text of an argument at its place. -/
def place (fitting : Fitting) (letter : Char) (value : Value) :
    Except TemplateError (List Char) :=
  match letter with
  | 's' => .ok (padText fitting value.str.toList)
  | 'r' => .ok (padText fitting value.repr.toList)
  | 'a' => .ok (padText fitting (asciiOnly value.repr.toList))
  | 'c' => return pad fitting [← charOf value]
  | 'd' | 'i' | 'u' => decimalInteger fitting value
  | 'x' | 'X' => basedInteger fitting letter 16 value
  | 'o' => basedInteger fitting letter 8 value
  | 'e' | 'E' | 'f' | 'F' | 'g' | 'G' => decimal fitting letter value
  | _ => .error .malformedPlace

/-- The value of a width or precision, which must be below a bound when it is taken from an
argument, and the arguments left. -/
def measure (bound : Nat) (args : List Value) :
    Measure → Except TemplateError (Option Int × List Value)
  | .unset => .ok (none, args)
  | .given n => .ok (some n, args)
  | .asked =>
    match args with
    | [] => .error .argumentCount
    | arg :: args =>
      match arg.numeric? with
      | some (.int n) =>
        if n < -(bound : Int) ∨ (bound : Int) ≤ n then .error .argumentSize
        else .ok (some n, args)
      | _ => .error .argumentKind

/-- Take the width and precision of a layout from the arguments where they are asked for.
A negative width puts the text to the left. -/
def fit (layout : Layout) (args : List Value) : Except TemplateError (Fitting × List Value) := do
  let (width, args) ← measure (Nat.pow 2 63) args layout.width
  let (precision, args) ← measure (Nat.pow 2 31) args layout.precision
  let width := width.getD 0
  let flags := { layout.flags with leftAligned := layout.flags.leftAligned || decide (width < 0) }
  return (⟨flags, width.natAbs, precision.map Int.toNat⟩, args)

/-- Fill a place: its text, and the arguments left. -/
def fillPlace (layout : Layout) (letter : Option Char) (args : List Value) :
    Except TemplateError (List Char × List Value) := do
  let (fitting, args) ← fit layout args
  match letter, args with
  | none, _ => throw .malformedPlace
  | some _, [] => throw .argumentCount
  | some letter, arg :: args => return (← place fitting letter arg, args)

/-- Fill the parts of a template from left to right. -/
def fillParts : List TemplatePart → List Value → Except TemplateError (List Char)
  | [], [] => .ok []
  | [], _ :: _ => .error .argumentCount
  | .literal c :: rest, args => return c :: (← fillParts rest args)
  | .named :: _, _ => .error .namedPlace
  | .place layout letter :: rest, args => do
    let (here, args) ← fillPlace layout letter args
    return here ++ (← fillParts rest args)

/-- Fill a template with its arguments. -/
def fill (template : String) (args : List Value) : Except TemplateError String :=
  (fillParts (parts template.toList) args).map String.ofList

/-- A message: the template as it is when there are no arguments, and filled otherwise. -/
def message (template : String) (args : List Value) : Except TemplateError String :=
  if args.isEmpty then .ok template else fill template args

/-- A message whose template can be any value: one that is no text cannot be filled. -/
def messageOf (template : Value) (args : List Value) : Except TemplateError Value :=
  match template with
  | .text text => (message text args).map Value.text
  | other => if args.isEmpty then .ok other else .error .argumentKind

end Template

end Jobflow
