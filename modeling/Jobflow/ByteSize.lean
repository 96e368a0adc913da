import Jobflow.Fault
import Jobflow.Number.Fixed

/-!
# Sizes in bytes

A number of bytes is written with one decimal place in the largest unit that leaves at
least one of it, units being 1024 apart; the largest unit takes all that is beyond.
-/

namespace Jobflow.ByteSize

open Number (Binary64)

/-- The units of size above the first, each 1024 of the one before. -/
def largerUnits : List String := ["kB", "MB", "GB"]

/-- Move to larger units as long as there is one and the size is at least 1024. -/
def scale (size : Binary64) (name : String) : List String → Binary64 × String
  | [] => (size, name)
  | larger :: rest =>
    if size.atLeast 1024 then scale (size.divNat 1024) larger rest else (size, name)

/-- The text of a size. -/
def text (size : Binary64) : String :=
  let (scaled, name) := scale size "bytes" largerUnits
  scaled.fixed 1 ++ name

/-- The text of a size that is any number; integers beyond the floating point numbers are
too large. -/
def ofValue (size : Value) : Except Mishap String :=
  match size.numeric? with
  | some (.int n) =>
    let x := Binary64.ofInt n
    if x.isFinite then .ok (text x) else .error .tooLarge
  | some (.float x) => .ok (text x)
  | none => .error .wrongShape

/-- The text of a size that is a natural number. -/
def ofNat (size : Nat) : String := text (Binary64.ofInt size)

end Jobflow.ByteSize
