import LayeredConfig.Decimal.Numeral
import LayeredConfig.Text.Utf8

/-!
# Percent-encoding

Characters that may not stand in a part of a URL are written as the bytes of their UTF-8 form, each
as `%` and two hexadecimal digits in upper case.  What is encoded already stays as it is.
-/

set_option autoImplicit false

namespace LayeredConfig.Url

def upperHexDigit (n : Nat) : Char :=
  if n < 10 then Char.ofNat ('0'.toNat + n) else Char.ofNat ('A'.toNat + (n - 10))

def percentByte (byte : UInt8) : List Char :=
  ['%', upperHexDigit (byte.toNat / 16), upperHexDigit (byte.toNat % 16)]

/-- A control character, a character outside of ASCII, or one of some more. -/
def isEncoded (more : List Char) (c : Char) : Bool :=
  c.toNat < 0x20 || 0x7F ≤ c.toNat || more.contains c

def percentChar (more : List Char) (c : Char) : List Char :=
  if isEncoded more c then (String.utf8EncodeChar c).flatMap percentByte else [c]

def percentEncode (more : List Char) (text : List Char) : List Char :=
  text.flatMap (percentChar more)

def pathEncoded : List Char := [' ', '"', '<', '>', '\x60', '#', '?', '{', '}']

def queryEncoded : List Char := [' ', '"', '<', '>', '#']

/-- The characters of ASCII that are encoded in a query of a special scheme. -/
def specialQueryEncoded : List Char := '\'' :: queryEncoded

/-- The characters of ASCII that are encoded in the name and password of a user. -/
def userEncoded : List Char :=
  pathEncoded ++ ['/', ':', ';', '=', '@', '[', '\\', ']', '^', '|']

/-- The bytes of a text in which escapes stand for bytes; a mark without two hexadecimal digits
stands for itself. -/
def percentDecode : List Char → List UInt8
  | [] => []
  | '%' :: a :: b :: after =>
      match Decimal.natural? 16 [a, b] with
      | some byte => UInt8.ofNat byte :: percentDecode after
      | none => String.utf8EncodeChar '%' ++ percentDecode (a :: b :: after)
  | c :: rest => String.utf8EncodeChar c ++ percentDecode rest

end LayeredConfig.Url
