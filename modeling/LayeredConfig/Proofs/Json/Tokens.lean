import LayeredConfig.Json.Parser
import LayeredConfig.Json.Printer
import Mathlib.Tactic.SplitIfs

/-!
# Strings and integers in JSON text

What the printer writes for a string or an integer is read back by the reader, which stops right
after it.  A string ends at its closing quote.  An integer ends where no digit, fraction or exponent
follows, and nothing of this kind can follow a value.
-/

set_option autoImplicit false

namespace LayeredConfig

/-! ## Digits -/

namespace Decimal

theorem digitValue?_of_isDigit {c : Char} (digit : c.isDigit = true) :
    digitValue? 10 c = some (c.toNat - '0'.toNat) := by
  have bounds := Char.isDigit_iff_toNat.mp digit
  have within : '0' ≤ c ∧ c ≤ '9' := bounds
  have below : c.toNat - '0'.toNat < 10 := by
    have upper : c.toNat ≤ 57 := bounds.2
    have zero : '0'.toNat = 48 := rfl
    omega
  simp only [digitValue?, if_pos within, Option.filter_some, below, decide_true, ↓reduceIte]

theorem digitsFrom?_of_isDigit {digits : List Char}
    (allDigits : ∀ c ∈ digits, c.isDigit = true) (start : Nat) :
    digitsFrom? 10 start digits = some (Nat.ofDigitChars 10 digits start) := by
  induction digits generalizing start with
  | nil => rfl
  | cons c digits ih =>
      obtain ⟨digit, later⟩ := List.forall_mem_cons.mp allDigits
      rw [digitsFrom?, digitValue?_of_isDigit digit, Nat.ofDigitChars_cons, Nat.mul_comm 10 start]
      exact ih later _

theorem isDigit_of_mem_toDigits {n : Nat} : ∀ c ∈ Nat.toDigits 10 n, c.isDigit = true :=
  fun _ => Nat.isDigit_of_mem_toDigits (by decide) (by decide)

theorem digitsFrom?_toDigits (n : Nat) : digitsFrom? 10 0 (Nat.toDigits 10 n) = some n := by
  rw [digitsFrom?_of_isDigit isDigit_of_mem_toDigits, Nat.ofDigitChars_ten_toDigits]

theorem head?_toDigits_ne_zero {n : Nat} (positive : 0 < n) :
    (Nat.toDigits 10 n).head? ≠ some '0' := by
  induction n using Nat.strongRecOn with
  | ind n ih =>
      by_cases small : n < 10
      · rw [Nat.toDigits_of_lt_base small]
        have digits : ∀ m < 10, 0 < m → some m.digitChar ≠ some '0' := by decide
        exact digits n small positive
      · obtain ⟨c, more, digits⟩ := List.exists_cons_of_ne_nil (@Nat.toDigits_ne_nil (n / 10) 10)
        have starts := ih (n / 10) (by omega) (by omega)
        rw [digits] at starts
        rw [Nat.toDigits_of_base_le (by decide) (Nat.not_lt.mp small), digits]
        exact starts

/-- The digits of a number start with zero only if there is no other digit. -/
theorem toDigits_eq_zero_cons {n : Nat} {more : List Char}
    (leading : Nat.toDigits 10 n = '0' :: more) : more = [] := by
  cases n with
  | zero => exact (List.cons.inj leading).2.symm
  | succ n =>
      have starts := head?_toDigits_ne_zero (Nat.succ_pos n)
      rw [leading] at starts
      exact absurd rfl starts

end Decimal

namespace Json

/-! ## Strings -/

theorem readString_quote (rest : List Char) : readString ('"' :: rest) = some ([], rest) := by
  rw [readString.eq_def]
  simp

theorem readString_plain {c : Char} (inside : c ≠ '"') (whole : c ≠ '\\')
    (visible : ¬ c.toNat < 0x20) (rest : List Char) :
    readString (c :: rest) = consChar c (readString rest) := by
  rw [readString.eq_def]
  simp [inside, whole, visible]

theorem readString_short {escaped c : Char} (short : shortEscape? escaped = some c)
    (rest : List Char) :
    readString ('\\' :: escaped :: rest) = consChar c (readString rest) := by
  have noUnit : escaped ≠ 'u' := by
    rintro rfl
    cases short
  rw [readString.eq_def]
  simp [noUnit, short]

theorem readString_unit {a b c d : Char} {n : Nat} (unit : unit? a b c d = some n)
    (single : n < 0xD800) (rest : List Char) :
    readString ('\\' :: 'u' :: a :: b :: c :: d :: rest) =
      consChar (Char.ofNat n) (readString rest) := by
  have noHigh : ¬ (0xD800 ≤ n ∧ n ≤ 0xDBFF) := by omega
  have noLow : ¬ (0xDC00 ≤ n ∧ n ≤ 0xDFFF) := by omega
  rw [readString.eq_def]
  simp only [↓reduceIte, unit, noHigh, noLow]
  rfl

theorem unit?_lowerHexDigit :
    ∀ n < 0x20, unit? '0' '0' (lowerHexDigit (n / 16)) (lowerHexDigit (n % 16)) = some n := by
  decide

/-- A character is read back from its escape, whichever of the escapes it has. -/
theorem readString_escapeChar (c : Char) (rest : List Char) :
    readString (escapeChar c ++ rest) = consChar c (readString rest) := by
  unfold escapeChar
  split_ifs with quote backslash newline ret tab back feed control
  · subst quote
    exact readString_short rfl rest
  · subst backslash
    exact readString_short rfl rest
  · subst newline
    exact readString_short rfl rest
  · subst ret
    exact readString_short rfl rest
  · subst tab
    exact readString_short rfl rest
  · subst back
    exact readString_short rfl rest
  · subst feed
    exact readString_short rfl rest
  · have unit := unit?_lowerHexDigit c.toNat control
    have read := readString_unit unit (Nat.lt_trans control (by decide)) rest
    rwa [Char.ofNat_toNat] at read
  · exact readString_plain quote backslash control rest

/-- A string is read up to the quote after its escaped characters. -/
theorem readString_escape (text rest : List Char) :
    readString (escape text ++ '"' :: rest) = some (text, rest) := by
  induction text with
  | nil => exact readString_quote rest
  | cons c text ih =>
      have split : escape (c :: text) = escapeChar c ++ escape text := List.flatMap_cons ..
      rw [split, List.append_assoc, readString_escapeChar, ih]
      rfl

/-! ## Integers -/

/-- What can stand after a value: nothing, a comma, or the end of an array or of an object. -/
inductive Follows : List Char → Prop where
  | nothing : Follows []
  | comma (rest : List Char) : Follows (',' :: rest)
  | bracket (rest : List Char) : Follows (']' :: rest)
  | brace (rest : List Char) : Follows ('}' :: rest)

section Integers

variable {rest : List Char} (follows : Follows rest)

include follows

theorem readWhole_toDigits (n : Nat) :
    readWhole (Nat.toDigits 10 n ++ rest) = some (Nat.toDigits 10 n, rest) := by
  have ends : rest.takeWhile Char.isDigit = [] := by cases follows <;> rfl
  have stays : rest.dropWhile Char.isDigit = rest := by cases follows <;> rfl
  have digits : readDigits (Nat.toDigits 10 n ++ rest) = some (Nat.toDigits 10 n, rest) := by
    simp only [readDigits, List.takeWhile_append_of_pos Decimal.isDigit_of_mem_toDigits,
      List.dropWhile_append_of_pos Decimal.isDigit_of_mem_toDigits, ends, stays, List.append_nil,
      List.isEmpty_eq_false_iff.mpr Nat.toDigits_ne_nil, Bool.false_eq_true, ↓reduceIte]
  rw [readWhole, digits]
  split
  · rename_i next more tail leading
    have none := Decimal.toDigits_eq_zero_cons (Prod.mk.inj (Option.some.inj leading)).1
    cases none
  · rfl

theorem readNumber_toDigits (n : Nat) :
    readNumber (Nat.toDigits 10 n ++ rest) = some (⟨false, Nat.toDigits 10 n, none, none⟩, rest) ∧
      readNumber ('-' :: (Nat.toDigits 10 n ++ rest)) =
        some (⟨true, Nat.toDigits 10 n, none, none⟩, rest) := by
  have noFraction : readFraction rest = some (none, rest) := by cases follows <;> rfl
  have noExponent : readExponent rest = some (none, rest) := by cases follows <;> rfl
  have read := readWhole_toDigits follows n
  constructor
  · have unsigned : ∀ text, Nat.toDigits 10 n ++ rest ≠ '-' :: text := by
      intro text signed
      obtain ⟨c, more, digits⟩ := List.exists_cons_of_ne_nil (@Nat.toDigits_ne_nil n 10)
      have digit : c.isDigit = true :=
        Decimal.isDigit_of_mem_toDigits c (digits ▸ List.mem_cons_self ..)
      rw [digits] at signed
      rw [(List.cons.inj signed).1] at digit
      cases digit
    unfold readNumber
    split
    rename_i negative text opened
    split at opened
    · rename_i more signed
      exact absurd signed (unsigned more)
    · cases opened
      simp only [read, noFraction, noExponent]
  · simp only [readNumber, read, noFraction, noExponent]

theorem readNumber_ofInt (n : Int) :
    readNumber (Decimal.ofInt n ++ rest) =
      some (⟨decide (n < 0), Nat.toDigits 10 n.natAbs, none, none⟩, rest) := by
  obtain ⟨unsigned, signed⟩ := readNumber_toDigits follows n.natAbs
  by_cases negative : n < 0
  · rw [Decimal.ofInt, if_pos negative, decide_eq_true negative]
    exact signed
  · rw [Decimal.ofInt, if_neg negative, decide_eq_false negative]
    exact unsigned

end Integers

/-- Every integer of 64 bits is the value of its own digits. -/
theorem value?_toDigits (n : Int64) :
    NumberText.value? ⟨decide (n.toInt < 0), Nat.toDigits 10 n.toInt.natAbs, none, none⟩ =
      some (.integer n) := by
  have lower := Int64.le_toInt n
  have upper := Int64.toInt_lt n
  have limit : Nat.pow 2 63 = 9223372036854775808 := rfl
  simp only [NumberText.value?, Decimal.digitsFrom?_toDigits, Option.getD_some, limit]
  by_cases negative : n.toInt < 0
  · have notZero : n.toInt.natAbs ≠ 0 := by omega
    have within : n.toInt.natAbs ≤ 9223372036854775808 := by omega
    have back : -(n.toInt.natAbs : Int) = n.toInt := by omega
    simp only [negative, decide_true, ↓reduceIte, notZero, within, back, Int64.ofInt_toInt]
  · have within : n.toInt.natAbs < 9223372036854775808 := by omega
    have back : (n.toInt.natAbs : Int) = n.toInt := by omega
    simp only [negative, decide_false, Bool.false_eq_true, ↓reduceIte, within]
    rw [← Int64.ofInt_eq_ofNat, back, Int64.ofInt_toInt]

end Json

end LayeredConfig
