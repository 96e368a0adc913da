import Jobflow.KeyMap
import Jobflow.Proofs.Number.Shortest

/-!
# Laws of mappings by value

A key has a form: what it is compared by. Numbers of all kinds have one form if they are one
rational number, and the value that is no number has none, as it equals nothing. Keys are equal if
they have a form in common, so their equality is symmetric and transitive, and a mapping has for a
key what was given last to an equal one.
-/

namespace Jobflow

open Number (Binary64)
open Number.Binary64 (ratio cast_ratio ratio_pos)

namespace Value

/-! ## Numbers as rational numbers -/

/-- The rational number of a sign, a mantissa and an exponent. -/
def rational (negative : Bool) (mantissa : Nat) (exponent : Int) : ℚ :=
  (if negative then -1 else 1) * (mantissa * 2 ^ exponent)

/-- A natural number with a sign. -/
def signed (negative : Bool) (n : Nat) : Int := if negative then -(n : Int) else n

/-- Numbers with signs are equal if their sizes are, and their signs unless they are zero. -/
theorem signed_eq_iff (negative negative' : Bool) (n n' : Nat) :
    signed negative n = signed negative' n' ↔ n = n' ∧ (negative = negative' ∨ n = 0) := by
  cases negative <;> cases negative' <;> simp [signed] <;> omega

/-- The sign of a product is that of its first factor. -/
theorem signed_mul (negative : Bool) (n factor : Nat) :
    signed negative n * factor = signed negative (n * factor) := by
  cases negative <;> simp [signed]

/-- A finite number as a quotient. -/
theorem rational_eq (negative : Bool) (mantissa : Nat) (exponent : Int) :
    rational negative mantissa exponent =
      (signed negative (ratio mantissa exponent).1 : ℚ) / (ratio mantissa exponent).2 := by
  rw [rational, ← cast_ratio]
  cases negative <;> simp [signed, neg_div]

/-- An integer is a finite number if they are one rational number. -/
theorem isExactly_iff (negative : Bool) (mantissa : Nat) (exponent n : Int) :
    (Binary64.finite negative mantissa exponent).isExactly n = true ↔
      (n : ℚ) = rational negative mantissa exponent := by
  have positive : (0 : ℚ) < (ratio mantissa exponent).2 :=
    Nat.cast_pos.mpr (ratio_pos mantissa exponent)
  rw [rational_eq, eq_div_iff positive.ne', Binary64.isExactly, beq_iff_eq]
  exact_mod_cast Iff.rfl

/-- Finite numbers are equal if they are one rational number. -/
theorem sameNumber_iff (negative negative' : Bool) (mantissa mantissa' : Nat)
    (exponent exponent' : Int) :
    (Binary64.finite negative mantissa exponent).sameNumber
        (.finite negative' mantissa' exponent') = true ↔
      rational negative mantissa exponent = rational negative' mantissa' exponent' := by
  have positive := ratio_pos mantissa exponent
  have positive' := ratio_pos mantissa' exponent'
  have crosswise : (Binary64.finite negative mantissa exponent).sameNumber
        (.finite negative' mantissa' exponent') = true ↔
      signed negative (ratio mantissa exponent).1 * (ratio mantissa' exponent').2 =
        signed negative' (ratio mantissa' exponent').1 * (ratio mantissa exponent).2 := by
    rw [signed_mul, signed_mul, signed_eq_iff, Nat.mul_eq_zero, or_iff_left positive'.ne']
    simp [Binary64.sameNumber]
  rw [crosswise, rational_eq, rational_eq, div_eq_div_iff (Nat.cast_ne_zero.mpr positive.ne')
    (Nat.cast_ne_zero.mpr positive'.ne')]
  exact_mod_cast Iff.rfl

/-! ## Forms -/

/-- What keys are compared by. -/
inductive Form
  /-- Nothing. -/
  | null
  /-- A number. -/
  | number (q : ℚ)
  /-- An infinite number. -/
  | infinite (negative : Bool)
  /-- A text. -/
  | text (s : String)
  /-- The kind and the moment of a date or time. -/
  | moment (moment : Timestamp.Kind × Int)
  /-- The forms of the items of a tuple. -/
  | tuple (items : List Form)
  /-- Which object it is. -/
  | object (identity : Nat)

/-- The form of a number. -/
def Numeric.form? : Numeric → Option Form
  | .int n => some (.number n)
  | .float (.finite negative mantissa exponent) =>
    some (.number (rational negative mantissa exponent))
  | .float (.infinite negative) => some (.infinite negative)
  | .float .nan => none

mutual

/-- The form of a key. -/
def form? : Value → Option Form
  | null => some .null
  | text s => some (.text s)
  | time _ timestamp => some (.moment timestamp.moment)
  | tuple _ items => (forms? items).map .tuple
  | object identity _ => some (.object identity)
  | number => number.numeric?.bind Numeric.form?

/-- The forms of the items of a tuple. -/
def forms? : List Value → Option (List Form)
  | [] => some []
  | item :: rest => do return (← form? item) :: (← forms? rest)

end

/-- Numbers are equal if they have a form in common. -/
theorem Numeric.same_iff (a b : Numeric) :
    a.same b = true ↔ ∃ form, b.form? = some form ∧ a.form? = some form := by
  have exactly (n : Int) (x : Binary64) : x.isExactly n = true ↔
      ∃ form, (Numeric.float x).form? = some form ∧ (Numeric.int n).form? = some form := by
    cases x with
    | finite negative mantissa exponent => simp [isExactly_iff, Numeric.form?]
    | infinite | nan => simp [Binary64.isExactly, Numeric.form?]
  cases a with
  | int n =>
    cases b with
    | int m => simp [Numeric.same, Numeric.form?]
    | float y => exact exactly n y
  | float x =>
    cases b with
    | int m => exact (exactly m x).trans (exists_congr fun form => and_comm)
    | float y =>
      cases x with
      | finite negative mantissa exponent =>
        cases y with
        | finite negative' mantissa' exponent' =>
          rw [Numeric.same, sameNumber_iff]
          simp [Numeric.form?, eq_comm]
        | infinite | nan => simp [Numeric.same, Numeric.form?, Binary64.sameNumber]
      | infinite negative =>
        cases y <;> simp [Numeric.same, Numeric.form?, Binary64.sameNumber]
      | nan => simp [Numeric.same, Numeric.form?, Binary64.sameNumber]

/-- A number among values has the form of the number. -/
theorem form?_of_numeric? {value : Value} {a : Numeric} (number : value.numeric? = some a) :
    value.form? = a.form? := by
  cases value <;> cases number <;> rfl

/-- What is no number has no form of a number. -/
theorem form?_ne_of_numeric? {value : Value} (other : value.numeric? = none) (a : Numeric)
    (form : Form) (number : a.form? = some form) : value.form? ≠ some form := by
  rcases a with n | _ | _ | _ <;> cases number <;> cases value <;> simp_all [form?, numeric?]

/-- A number equals an equal number, and nothing else. -/
theorem same_iff_of_numeric? {key : Value} (other : Value) {a : Numeric}
    (number : key.numeric? = some a) :
    key.same other = true ↔ ∃ form, other.form? = some form ∧ key.form? = some form := by
  rw [form?_of_numeric? number]
  cases otherNumber : other.numeric? with
  | none =>
    have apart : key.same other = false := by
      cases key <;> cases number <;> cases other <;> simp_all [same, numeric?]
    rw [apart]
    refine iff_of_false Bool.false_ne_true ?_
    rintro ⟨form, otherForm, formed⟩
    exact form?_ne_of_numeric? otherNumber a form formed otherForm
  | some b =>
    rw [form?_of_numeric? otherNumber, ← Numeric.same_iff]
    cases key <;> cases number <;> cases other <;> cases otherNumber <;> simp [same, numeric?]

/-- What is no number equals no number. -/
theorem same_iff_of_not_numeric? {key other : Value} {b : Numeric} (foreign : key.numeric? = none)
    (number : other.numeric? = some b) :
    key.same other = true ↔ ∃ form, other.form? = some form ∧ key.form? = some form := by
  have apart : key.same other = false := by
    cases other <;> cases number <;> cases key <;> simp_all [same, numeric?]
  rw [apart, form?_of_numeric? number]
  refine iff_of_false Bool.false_ne_true ?_
  rintro ⟨form, formed, keyForm⟩
  exact form?_ne_of_numeric? foreign b form formed keyForm

mutual

/-- Keys are equal if they have a form in common. -/
theorem same_iff (key other : Value) (isKey : key.isKey = true) (otherKey : other.isKey = true) :
    key.same other = true ↔ ∃ form, other.form? = some form ∧ key.form? = some form := by
  cases key with
  | list | map => cases isKey
  | bool | int | float => exact same_iff_of_numeric? other rfl
  | tuple label items =>
    cases other with
    | list | map => cases otherKey
    | bool | int | float => exact same_iff_of_not_numeric? rfl rfl
    | tuple otherLabel others =>
      rw [same, sameItems_iff items others isKey otherKey]
      simp only [form?, Option.map_eq_some_iff]
      constructor
      · rintro ⟨forms, otherMade, made⟩
        exact ⟨.tuple forms, ⟨forms, otherMade, rfl⟩, forms, made, rfl⟩
      · rintro ⟨_, ⟨forms, otherMade, rfl⟩, forms', made, same⟩
        cases same
        exact ⟨forms, otherMade, made⟩
    | null | text | time | object => simp [same, form?, numeric?]
  | null | text | time | object =>
    cases other with
    | list | map => cases otherKey
    | bool | int | float => exact same_iff_of_not_numeric? rfl rfl
    | null | text | time | object | tuple => simp [same, form?, numeric?, Timestamp.same]

/-- Tuples are equal if their items have forms in common. -/
theorem sameItems_iff (items others : List Value) (areKeys : areKeys items = true)
    (otherKeys : Value.areKeys others = true) :
    sameItems items others = true ↔
      ∃ forms, forms? others = some forms ∧ forms? items = some forms := by
  cases items with
  | nil => cases others <;> simp [sameItems, forms?, Option.bind_eq_some_iff]
  | cons item rest =>
    cases others with
    | nil => simp [sameItems, forms?, Option.bind_eq_some_iff]
    | cons other others =>
      rw [Value.areKeys, Bool.and_eq_true] at areKeys otherKeys
      rw [sameItems, Bool.and_eq_true, same_iff item other areKeys.1 otherKeys.1,
        sameItems_iff rest others areKeys.2 otherKeys.2]
      simp only [forms?, Option.bind_eq_bind, Option.bind_eq_some_iff, Option.pure_def,
        Option.some.injEq]
      constructor
      · rintro ⟨⟨form, otherFormed, formed⟩, forms, otherMade, made⟩
        exact ⟨form :: forms, ⟨form, otherFormed, forms, otherMade, rfl⟩, form, formed, forms, made,
          rfl⟩
      · rintro ⟨_, ⟨form, otherFormed, forms, otherMade, rfl⟩, form', formed, forms', made, same⟩
        cases same
        exact ⟨⟨form, otherFormed, formed⟩, forms, otherMade, made⟩

end

/-- A key is the key of its value. -/
theorem value_of_key? {value : Value} {key : Key} (hashable : value.key? = some key) :
    value = key.value := by
  rw [key?] at hashable
  split at hashable
  · cases hashable
    rfl
  · cases hashable

/-- A value without a key cannot be one. -/
theorem isKey_of_key?_none {value : Value} (unhashable : value.key? = none) :
    value.isKey = false := by
  rw [key?] at unhashable
  split at unhashable
  · cases unhashable
  · rename_i noKey
    exact Bool.eq_false_iff.mpr noKey

end Value

namespace Key

/-- Equality of keys goes both ways. -/
theorem same_symm {key other : Key} (equal : key.same other = true) : other.same key = true := by
  rw [same, Value.same_iff _ _ other.isKey key.isKey]
  obtain ⟨form, otherFormed, formed⟩ := (Value.same_iff _ _ key.isKey other.isKey).mp equal
  exact ⟨form, formed, otherFormed⟩

/-- Keys that are equal to one key are equal. -/
theorem same_trans {key middle other : Key} (equal : key.same middle = true)
    (further : middle.same other = true) : key.same other = true := by
  obtain ⟨form, middleFormed, formed⟩ := (Value.same_iff _ _ key.isKey middle.isKey).mp equal
  obtain ⟨form', otherFormed, middleFormed'⟩ :=
    (Value.same_iff _ _ middle.isKey other.isKey).mp further
  rw [middleFormed] at middleFormed'
  cases middleFormed'
  exact (Value.same_iff _ _ key.isKey other.isKey).mpr ⟨form, otherFormed, formed⟩

/-- A key equals the same keys as its equals do. -/
theorem same_congr {key other : Key} (equal : key.same other = true) (third : Key) :
    third.same key = third.same other :=
  Bool.eq_iff_iff.mpr
    ⟨fun same => same_trans same equal, fun same => same_trans same (same_symm equal)⟩

end Key

/-! ## Look-ups -/

universe u
variable {α : Type u}

/-- The value of a key in entries. -/
def findKey (key : Key) (entries : List (Key × α)) : Option α :=
  (entries.find? fun entry => key.same entry.1).map Prod.snd

/-- An entry of an equal key is found first. -/
theorem findKey_cons (key : Key) (entry : Key × α) (entries : List (Key × α)) :
    findKey key (entry :: entries) =
      if key.same entry.1 then some entry.2 else findKey key entries := by
  rw [findKey, List.find?_cons]
  cases key.same entry.1 <;> rfl

/-- A key that equals no key of the entries has no value. -/
theorem findKey_eq_none {key : Key} {entries : List (Key × α)}
    (apart : ∀ entry ∈ entries, key.same entry.1 = false) : findKey key entries = none := by
  rw [findKey, List.find?_eq_none.mpr fun entry member => by simp [apart entry member]]
  rfl

/-- Inserting gives a value to a key and its equals, and to no others. -/
theorem findKey_insertKey (name key : Key) (value : α) (entries : List (Key × α)) :
    findKey name (insertKey key value entries) =
      if name.same key then some value else findKey name entries := by
  induction entries with
  | nil => exact findKey_cons name (key, value) []
  | cons first rest inductionHypothesis =>
    obtain ⟨other, old⟩ := first
    rw [insertKey]
    split
    · rename_i equal
      rw [findKey_cons, findKey_cons, ← Key.same_congr equal name]
      split <;> rfl
    · rename_i new
      rw [findKey_cons, findKey_cons, inductionHypothesis]
      cases here : name.same other with
      | false => rfl
      | true =>
        have apart : name.same key ≠ true := fun equal =>
          new (Key.same_trans (Key.same_symm equal) here)
        exact (if_neg apart).symm

namespace KeyMap

/-- A key has a value once it is inserted, and its equals have the same one. -/
theorem find?_insert (m : KeyMap α) (key : Key) (value : α) (name : Key) :
    (m.insert key value).find? name = if name.same key then some value else m.find? name :=
  findKey_insertKey name key value m.entries

/-- A mapping inserted into another one decides about its own keys. -/
theorem find?_insertAll (m given : KeyMap α) (name : Key) :
    (m.insertAll given).find? name = (given.find? name).or (m.find? name) := by
  suffices built : ∀ (entries : List (Key × α)) (m : KeyMap α),
      entries.Pairwise (fun earlier later => later.1.same earlier.1 = false) →
        (entries.foldl (fun built entry => built.insert entry.1 entry.2) m).find? name =
          (findKey name entries).or (m.find? name) from built given.entries m given.apart
  intro entries
  induction entries with
  | nil => exact fun m _ => rfl
  | cons entry rest inductionHypothesis =>
    intro m apart
    obtain ⟨later, within⟩ := List.pairwise_cons.mp apart
    rw [List.foldl_cons, inductionHypothesis _ within, find?_insert, findKey_cons]
    cases here : name.same entry.1 with
    | false => rfl
    | true =>
      have none : findKey name rest = none := findKey_eq_none fun other member => by
        rw [Bool.eq_false_iff]
        exact fun there => Bool.eq_false_iff.mp (later other member)
          (Key.same_trans (Key.same_symm there) here)
      rw [none]
      rfl

end KeyMap

end Jobflow
