/-!
# UTF-8

Bytes as text. A character is one byte, or a lead byte and up to three continuation bytes;
overlong forms, surrogates and numbers beyond the last code point are refused. A refusal
tells which bytes are at fault: from the start of the character up to, but not including,
the first byte that does not fit.
-/

namespace Jobflow.Text.Utf8

/-- Why bytes are no text. -/
inductive Reason
  /-- A byte that starts no character. -/
  | startByte
  /-- A byte that does not continue the character. -/
  | continuationByte
  /-- The bytes end within a character. -/
  | endOfData
deriving DecidableEq, Repr

/-- Bytes that are no text: where they start, how many they are, and why. -/
structure Failure where
  /-- The offset of the first byte at fault. -/
  start : Nat
  /-- The number of bytes at fault. -/
  length : Nat
  /-- The value of the first byte at fault. -/
  byte : Nat
  /-- Why they are no text. -/
  reason : Reason
deriving DecidableEq, Repr

/-- What a lead byte asks for: the value it contributes, the number of continuation bytes,
and the bounds of the first of them. -/
def lead? (b : Nat) : Option (Nat × Nat × Nat × Nat) :=
  if 0xc2 ≤ b ∧ b ≤ 0xdf then some (b - 0xc0, 1, 0x80, 0xbf)
  else if b = 0xe0 then some (0, 2, 0xa0, 0xbf)
  else if b = 0xed then some (0xd, 2, 0x80, 0x9f)
  else if 0xe1 ≤ b ∧ b ≤ 0xef then some (b - 0xe0, 2, 0x80, 0xbf)
  else if b = 0xf0 then some (0, 3, 0x90, 0xbf)
  else if 0xf1 ≤ b ∧ b ≤ 0xf3 then some (b - 0xf0, 3, 0x80, 0xbf)
  else if b = 0xf4 then some (4, 3, 0x80, 0x8f)
  else none

/-- Read continuation bytes: the code point and what follows, or the number of bytes that
fit and why the next one does not. -/
def continuation (value : Nat) : (count low high : Nat) → List Nat → (fit : Nat) →
    Except (Nat × Reason) (Nat × List Nat)
  | 0, _, _, bytes, _ => .ok (value, bytes)
  | _ + 1, _, _, [], fit => .error (fit, .endOfData)
  | count + 1, low, high, b :: bytes, fit =>
    if low ≤ b ∧ b ≤ high then
      continuation (value * 64 + (b - 0x80)) count 0x80 0xbf bytes (fit + 1)
    else .error (fit, .continuationByte)

/-- Read bytes as text, from an offset on. A step per byte is enough. -/
def decodeFrom : (steps offset : Nat) → List Nat → Except Failure (List Char)
  | 0, _, _ => .ok []
  | _ + 1, _, [] => .ok []
  | steps + 1, offset, b :: bytes =>
    if b < 0x80 then return Char.ofNat b :: (← decodeFrom steps (offset + 1) bytes)
    else
      match lead? b with
      | none => .error ⟨offset, 1, b, .startByte⟩
      | some (value, count, low, high) =>
        match continuation value count low high bytes 1 with
        | .ok (codePoint, rest) =>
          return Char.ofNat codePoint :: (← decodeFrom steps (offset + count + 1) rest)
        | .error (fit, reason) => .error ⟨offset, fit, b, reason⟩

/-- Read bytes as text. -/
def decode (bytes : List Nat) : Except Failure (List Char) :=
  decodeFrom bytes.length 0 bytes

/-- Whether a failure is the first half of a surrogate, which counts as missing bytes as long
as its third byte is not there. -/
def Failure.isSurrogate (failure : Failure) (bytes : List Nat) : Bool :=
  failure.reason == .continuationByte && failure.length == 1 && failure.byte == 0xed &&
    (bytes[failure.start + 1]?).any fun b => 0xa0 ≤ b && b ≤ 0xbf

/-- The offset of the byte that shows a failure, which may be where the bytes end. -/
def Failure.shownAt (failure : Failure) (bytes : List Nat) : Nat :=
  match failure.reason with
  | .startByte => failure.start
  | .continuationByte =>
    failure.start + failure.length + (if failure.isSurrogate bytes then 1 else 0)
  | .endOfData => failure.start + failure.length

/-- The characters at the start of bytes, up to the first bytes that are no text. -/
def decodeSome (bytes : List Nat) : List Char :=
  match decode bytes with
  | .ok cs => cs
  | .error failure => (decode (bytes.take failure.start)).toOption.getD []

/-- The characters that are read before a failure shows, when bytes are read in blocks of a
size: those of the blocks before the one with the byte that shows it. -/
def decodeBlocks (size : Nat) (failure : Failure) (bytes : List Nat) : List Char :=
  let shown := failure.shownAt bytes
  decodeSome (if shown < bytes.length then bytes.take (shown / size * size) else bytes)

/-- The bytes of a code point. -/
def encodeChar (c : Char) : List Nat :=
  let n := c.toNat
  if n < 0x80 then [n]
  else if n < 0x800 then [0xc0 + n / 64, 0x80 + n % 64]
  else if n < 0x10000 then [0xe0 + n / 4096, 0x80 + n / 64 % 64, 0x80 + n % 64]
  else [0xf0 + n / 262144, 0x80 + n / 4096 % 64, 0x80 + n / 64 % 64, 0x80 + n % 64]

/-- The bytes of a text. -/
def encode (cs : List Char) : List Nat := cs.flatMap encodeChar

example : decode (encode ['a', 'é', '😀']) = .ok ['a', 'é', '😀'] := by rfl

end Jobflow.Text.Utf8
