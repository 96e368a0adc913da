import Jobflow.Text.Pattern

/-!
# What plain scalars stand for

A plain scalar is read back as a text unless it looks like a value of another kind: a
truth value, nothing, a number, a time, a merge or value key. Such texts have to be
quoted.
-/

namespace Jobflow.Yaml

open Text Text.Pattern

/-- The plain scalars that stand for truth values, nothing, merge and value keys. -/
def reservedWords : List String :=
  ["yes", "Yes", "YES", "no", "No", "NO", "true", "True", "TRUE", "false", "False", "FALSE",
    "on", "On", "ON", "off", "Off", "OFF", "~", "null", "Null", "NULL", "", "<<", "="]

/-- A decimal digit. -/
def digit : Pattern := range '0' '9'

/-- Decimal digits with underscores. -/
def digits : Pattern := many (either digit (char '_'))

/-- A sign, or none. -/
def sign : Pattern := optional (oneOf "+-")

/-- Sixtieths after a number, in one or more places. -/
def sixtieths : Pattern := Pattern.some (row [char ':', optional (range '0' '5'), digit])

/-- Integers in base two, eight, ten, sixteen and sixty. -/
def integers : Pattern :=
  Pattern.any
    [row [sign, word "0b", Pattern.some (oneOf "01_")],
      row [sign, char '0', Pattern.some (either (range '0' '7') (char '_'))],
      row [sign, either (char '0') (row [range '1' '9', digits])],
      row [sign, word "0x", Pattern.some (Pattern.any
        [digit, range 'a' 'f', range 'A' 'F', char '_'])],
      row [sign, range '1' '9', digits, sixtieths]]

/-- The exponent of a floating point number, which always has a sign. -/
def exponent : Pattern := row [oneOf "eE", oneOf "+-", Pattern.some digit]

/-- Floating point numbers, infinities and the value that is no number. -/
def floats : Pattern :=
  Pattern.any
    [row [sign, digit, digits, char '.', digits, optional exponent],
      row [char '.', digit, digits, optional exponent],
      row [sign, digit, digits, sixtieths, char '.', digits],
      row [sign, char '.', Pattern.any [word "inf", word "Inf", word "INF"]],
      row [char '.', Pattern.any [word "nan", word "NaN", word "NAN"]]]

/-- One or two digits. -/
def shortNumber : Pattern := row [digit, optional digit]

/-- Blanks between the parts of a time. -/
def blanks : Pattern := oneOf " \t"

/-- Dates, and dates with a time of day. -/
def timestamps : Pattern :=
  let year := row [digit, digit, digit, digit]
  Pattern.any
    [row [year, char '-', digit, digit, char '-', digit, digit],
      row [year, char '-', shortNumber, char '-', shortNumber,
        either (oneOf "Tt") (Pattern.some blanks), shortNumber, char ':', digit, digit,
        char ':', digit, digit, optional (row [char '.', many digit]),
        optional (row [many blanks, either (char 'Z')
          (row [oneOf "+-", shortNumber, optional (row [char ':', digit, digit])])])]]

/-- Whether a plain scalar is read back as the text it is. -/
def standsForText (cs : List Char) : Bool :=
  !(reservedWords.contains (String.ofList cs) || integers.accepts cs || floats.accepts cs ||
    timestamps.accepts cs)

example : standsForText "0o17".toList = true ∧ standsForText "017".toList = false ∧
    standsForText "1:30".toList = false := by decide +kernel

end Jobflow.Yaml
