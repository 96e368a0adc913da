import Jobflow.Text.Cut
import Jobflow.Text.Hex

/-!
# Hosts in brackets

An address of eight groups of hexadecimal digits stands in brackets inside a URL, because
of its colons. A double colon stands for as many groups of zeros as are missing, at least
one; the last two groups may be four decimal numbers with points between them; and a zone
may follow after a percent sign. Addresses of later kinds start with a `v`.
-/

namespace Jobflow.Server

/-- Whether a text is one of the four decimal numbers of an address: up to 255, without a
zero in front. -/
def isOctet (cs : List Char) : Bool :=
  !cs.isEmpty && cs.all Char.isDigit && cs.length ≤ 3 && (cs == ['0'] || cs.head? != some '0') &&
    cs.foldl (fun value c => 10 * value + (c.toNat - 0x30)) 0 ≤ 255

/-- Whether a text is four decimal numbers with points between them. -/
def isDotted (cs : List Char) : Bool :=
  let octets := Text.splitAll (· == '.') cs
  octets.length == 4 && octets.all isOctet

/-- Whether a text is a group of up to four hexadecimal digits. -/
def isGroup (cs : List Char) : Bool :=
  !cs.isEmpty && cs.length ≤ 4 && cs.all fun c => (Text.hexValue? c).isSome

/-- The number of groups that parts between colons make, of which only the last may be
dotted. -/
def groupCount? (dotted : Bool) : List (List Char) → Option Nat
  | [] => some 0
  | [part] =>
    if isGroup part then some 1 else if dotted && isDotted part then some 2 else none
  | part :: rest =>
    if isGroup part then (groupCount? dotted rest).map (· + 1) else none

/-- The number of groups in a text, which may be empty. -/
def groups? (dotted : Bool) (cs : List Char) : Option Nat :=
  if cs.isEmpty then some 0 else groupCount? dotted (Text.splitAll (· == ':') cs)

/-- Cut a text at its first double colon. -/
def cutGap? : List Char → Option (List Char × List Char)
  | ':' :: ':' :: rest => some ([], rest)
  | c :: rest => (cutGap? rest).map fun (before, after) => (c :: before, after)
  | [] => none

/-- Whether a text is an address of eight groups. -/
def isGrouped (cs : List Char) : Bool :=
  match cutGap? cs with
  | none => groups? true cs == some 8
  | some (before, after) =>
    match groups? false before, groups? true after with
    | some left, some right => left + right ≤ 7
    | _, _ => false

/-- Whether what may follow an address, a zone after a percent sign, is well formed. -/
def isZone : List Char → Bool
  | [] => true
  | _ :: zone => !zone.isEmpty && !zone.contains '%'

/-- Whether a text is an address of a later kind: `v`, a version, a point and more. -/
def isLater (cs : List Char) : Bool :=
  match cs with
  | 'v' :: rest =>
    let version := rest.takeWhile fun c => (Text.hexValue? c).isSome
    !version.isEmpty &&
      (match rest.drop version.length with
        | '.' :: more => !more.isEmpty
        | _ => false)
  | _ => false

/-- Whether a text can stand in brackets. -/
def isBracketed (cs : List Char) : Bool :=
  if cs.head? == some 'v' then isLater cs
  else isGrouped (cs.takeWhile (· != '%')) && isZone (cs.dropWhile (· != '%'))

example : isBracketed "::1".toList ∧ isBracketed "fe80::1%eth0".toList ∧
    isBracketed "::ffff:1.2.3.4".toList ∧ ¬ isBracketed "1.2.3.4".toList := by decide +kernel

end Jobflow.Server
