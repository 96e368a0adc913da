import Jobflow.Text.Utf8

/-!
# Zip archives

The bytes of an archive: every entry is stored as it is after a header, and a directory of
all entries follows, with the place of each. Numbers are written with their lowest byte
first.
-/

namespace Jobflow.Zip

/-- The bytes of a number in a field of some width, the lowest one first. -/
def number : (width n : Nat) → List Nat
  | 0, _ => []
  | width + 1, n => n % 256 :: number width (n / 256)

/-- One bit of a checksum. -/
def checksumBit (sum : Nat) : Nat :=
  if sum % 2 = 0 then sum / 2 else (sum / 2) ^^^ 0xedb88320

/-- Take a byte into a checksum. -/
def checksumByte (sum byte : Nat) : Nat := Nat.repeat checksumBit 8 (sum ^^^ byte)

/-- The checksum of some bytes: the remainder by the usual polynomial of degree 32. -/
def checksum (bytes : List Nat) : Nat := bytes.foldl checksumByte 0xffffffff ^^^ 0xffffffff

/-- An entry of an archive. -/
structure Entry where
  /-- The bytes of the name. -/
  name : List Nat
  /-- The bytes of the contents. -/
  contents : List Nat

/-- The name that an entry is stored under: a null character ends it. -/
def storedName (name : String) : String :=
  String.ofList (name.toList.takeWhile fun c => c != '\x00')

/-- The first year that archives count. -/
def firstYear : Nat := 1980

/-- The last year that archives count. -/
def lastYear : Nat := 2107

/-- Whether the length of a name fits into its field. -/
def fits (name : String) : Bool := (Text.Utf8.encode name.toList).length ≤ 0xffff

/-- The fields that an entry has in its header and in the directory: the version needed,
the encoding of the name, the method, the time and date of a beginning, the checksum, the
sizes, and the lengths of the name and of what follows it. -/
def commonFields (entry : Entry) : List Nat :=
  let size := number 4 entry.contents.length
  number 2 20 ++ number 2 0x800 ++ number 2 0 ++ number 2 0 ++ number 2 0x21 ++
    number 4 (checksum entry.contents) ++ size ++ size ++ number 2 entry.name.length ++ number 2 0

/-- An entry with its header. -/
def stored (entry : Entry) : List Nat :=
  number 4 0x04034b50 ++ commonFields entry ++ entry.name ++ entry.contents

/-- The record of an entry in the directory, given the place of its header. -/
def record (entry : Entry) (place : Nat) : List Nat :=
  number 4 0x02014b50 ++ number 2 20 ++ commonFields entry ++ number 2 0 ++ number 2 0 ++
    number 2 0 ++ number 4 0 ++ number 4 place ++ entry.name

/-- The records of entries, the first of which is stored at a place. -/
def records (place : Nat) : List Entry → List Nat
  | [] => []
  | entry :: rest => record entry place ++ records (place + (stored entry).length) rest

/-- The bytes of entries and their directory, without the end of an archive. -/
def unended (entries : List Entry) : List Nat := entries.flatMap stored ++ records 0 entries

/-- The bytes of an archive of entries. -/
def archive (entries : List Entry) : List Nat :=
  let body := entries.flatMap stored
  let directory := records 0 entries
  let count := number 2 entries.length
  unended entries ++ number 4 0x06054b50 ++ number 2 0 ++ number 2 0 ++ count ++ count ++
    number 4 directory.length ++ number 4 body.length ++ number 2 0

/-- An entry by its name and contents. -/
def entryOf (entry : String × List Nat) : Entry := ⟨Text.Utf8.encode entry.1.toList, entry.2⟩

/-- The bytes of an archive, given by the names and contents of its entries. -/
def encode (entries : List (String × List Nat)) : List Nat := archive (entries.map entryOf)

example : checksum ("123456789".toList.map Char.toNat) = 0xcbf43926 := by decide +kernel

end Jobflow.Zip
