/-!
# UTF-8

Bytes read as UTF-8, one byte at a time.  Reading fails at the first byte that no well-formed text
can have in its place.  A failure names how many bytes before it are well formed and how long the
ill-formed sequence is, or that the bytes end inside a character.
-/

set_option autoImplicit false

namespace LayeredConfig.Text

structure Utf8Failure where
  /-- The number of well-formed bytes before the failure. -/
  start : Nat
  /-- The length of the ill-formed sequence; `none` when the bytes end inside a character. -/
  length : Option Nat
  deriving DecidableEq, Repr

def Utf8Failure.message (failure : Utf8Failure) : String :=
  match failure.length with
  | some length =>
      s!"invalid utf-8 sequence of {length} bytes from index {failure.start}"
  | none => s!"incomplete utf-8 byte sequence from index {failure.start}"

structure PartialChar where
  /-- The bits read so far. -/
  code : Nat
  /-- The number of bytes read so far. -/
  size : Nat
  /-- The number of bytes still owed after the next one. -/
  owed : Nat
  /-- The least value of the next byte. -/
  low : Nat
  /-- The greatest value of the next byte. -/
  high : Nat
  deriving DecidableEq, Repr

inductive Lead where
  | complete (c : Char)
  | more (begun : PartialChar)
  | illFormed
  deriving DecidableEq, Repr

/-- The role of a byte between characters.  The bounds on the second byte exclude overlong forms,
surrogates and code points above `0x10FFFF`. -/
def lead (byte : UInt8) : Lead :=
  let b := byte.toNat
  if b < 0x80 then .complete (Char.ofNat b)
  else if b < 0xC2 then .illFormed
  else if b < 0xE0 then .more ⟨b - 0xC0, 1, 0, 0x80, 0xBF⟩
  else if b = 0xE0 then .more ⟨0, 1, 1, 0xA0, 0xBF⟩
  else if b = 0xED then .more ⟨0xD, 1, 1, 0x80, 0x9F⟩
  else if b < 0xF0 then .more ⟨b - 0xE0, 1, 1, 0x80, 0xBF⟩
  else if b = 0xF0 then .more ⟨0, 1, 2, 0x90, 0xBF⟩
  else if b < 0xF4 then .more ⟨b - 0xF0, 1, 2, 0x80, 0xBF⟩
  else if b = 0xF4 then .more ⟨4, 1, 2, 0x80, 0x8F⟩
  else .illFormed

/-- A byte after the first one of a character; `none` when it cannot stand there. -/
def PartialChar.next (begun : PartialChar) (byte : UInt8) : Option (PartialChar ⊕ Char) :=
  let b := byte.toNat
  if begun.low ≤ b ∧ b ≤ begun.high then
    let code := begun.code * 64 + (b - 0x80)
    match begun.owed with
    | 0 => some (.inr (Char.ofNat code))
    | owed + 1 => some (.inl ⟨code, begun.size + 1, owed, 0x80, 0xBF⟩)
  else none

/-- Reads bytes from a place between characters, or inside one; `start` counts the bytes of the
whole characters before it. -/
def decodeFrom (start : Nat) : Option PartialChar → List UInt8 → Except Utf8Failure (List Char)
  | none, [] => .ok []
  | some _, [] => .error ⟨start, none⟩
  | none, byte :: rest =>
      match lead byte with
      | .complete c => (decodeFrom (start + 1) none rest).map (c :: ·)
      | .more begun => decodeFrom start (some begun) rest
      | .illFormed => .error ⟨start, some 1⟩
  | some begun, byte :: rest =>
      match begun.next byte with
      | some (.inl more) => decodeFrom start (some more) rest
      | some (.inr c) => (decodeFrom (start + begun.size + 1) none rest).map (c :: ·)
      | none => .error ⟨start, some begun.size⟩

def decode (bytes : List UInt8) : Except Utf8Failure (List Char) :=
  decodeFrom 0 none bytes

def replacement : Char := '\uFFFD'

/-- Reads bytes and puts the replacement character for each longest ill-formed sequence. -/
def decodeLossyFrom : Option PartialChar → List UInt8 → List Char
  | none, [] => []
  | some _, [] => [replacement]
  | none, byte :: rest =>
      match lead byte with
      | .complete c => c :: decodeLossyFrom none rest
      | .more begun => decodeLossyFrom (some begun) rest
      | .illFormed => replacement :: decodeLossyFrom none rest
  | some begun, byte :: rest =>
      match begun.next byte with
      | some (.inl more) => decodeLossyFrom (some more) rest
      | some (.inr c) => c :: decodeLossyFrom none rest
      | none =>
          match lead byte with
          | .complete c => replacement :: c :: decodeLossyFrom none rest
          | .more begun => replacement :: decodeLossyFrom (some begun) rest
          | .illFormed => replacement :: replacement :: decodeLossyFrom none rest

def decodeLossy (bytes : List UInt8) : String :=
  String.ofList (decodeLossyFrom none bytes)

def encode (text : List Char) : List UInt8 :=
  text.flatMap String.utf8EncodeChar

def bytesOf (text : String) : List UInt8 :=
  encode text.toList

def decodeText (bytes : List UInt8) : Except Utf8Failure String :=
  (decode bytes).map String.ofList

end LayeredConfig.Text
