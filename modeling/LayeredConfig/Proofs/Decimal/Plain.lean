import LayeredConfig.Decimal.Notation
import Mathlib.Tactic.SplitIfs

/-!
# The characters of the plain notation

The plain notation of a number is never empty.  For a finite number it holds digits and a point
behind the sign, so no number looks like the text of an array.
-/

set_option autoImplicit false

namespace LayeredConfig.Decimal

/-! ## Shortest digits -/

theorem isDigit_of_mem_ofScaled {candidate : Nat} {grid : Int} :
    ∀ c ∈ (Digits.ofScaled candidate grid).digits, c.isDigit = true := by
  intro c member
  have inDigits : c ∈ Nat.toDigits 10 candidate :=
    List.mem_reverse.mp ((List.dropWhile_sublist _).subset (List.mem_reverse.mp member))
  exact Nat.isDigit_of_mem_toDigits (by decide) (by decide) inDigits

theorem isDigit_of_mem_shortest {tie : Tie} {significand : Nat} {exponent : Int} :
    ∀ c ∈ (shortest tie significand exponent).digits, c.isDigit = true := by
  unfold shortest
  simp only
  generalize found : List.findSome? _ (List.range maxDigits) = number
  cases number with
  | none =>
      intro c member
      obtain rfl := List.mem_singleton.mp member
      rfl
  | some number =>
      obtain ⟨count, -, scaled⟩ := List.exists_of_findSome?_eq_some found
      obtain ⟨candidate, -, rfl⟩ := Option.map_eq_some_iff.mp scaled
      exact isDigit_of_mem_ofScaled

/-! ## Notation -/

/-- A character of a number in positional notation. -/
def Positional (c : Char) : Prop :=
  c.isDigit = true ∨ c = '.'

theorem positional_of_mem {number : Digits} (digits : ∀ c ∈ number.digits, c.isDigit = true) :
    ∀ c ∈ number.positional [], Positional c := by
  have zeros : ∀ count, ∀ c ∈ List.replicate count '0', Positional c := by
    intro count c member
    rw [List.eq_of_mem_replicate member]
    exact .inl rfl
  intro c member
  unfold Digits.positional at member
  simp only at member
  split_ifs at member with below whole
  · rcases List.mem_cons.mp member with rfl | member
    · exact .inl rfl
    · rcases List.mem_cons.mp member with rfl | member
      · exact .inr rfl
      · exact (List.mem_append.mp member).elim (zeros _ c) fun inDigits => .inl (digits c inDigits)
  · rw [List.append_nil] at member
    exact (List.mem_append.mp member).elim (fun inDigits => .inl (digits c inDigits)) (zeros _ c)
  · rcases List.mem_append.mp member with front | back
    · exact .inl (digits c (List.mem_of_mem_take front))
    · rcases List.mem_cons.mp back with rfl | back
      · exact .inr rfl
      · exact .inl (digits c (List.mem_of_mem_drop back))

theorem positional_ne_nil (number : Digits) : number.positional [] ≠ [] := by
  unfold Digits.positional
  simp only
  split_ifs with below whole
  · exact List.cons_ne_nil _ _
  · intro empty
    rw [List.append_nil, List.append_eq_nil_iff, List.replicate_eq_nil_iff] at empty
    obtain ⟨noDigits, noZeros⟩ := empty
    rw [noDigits, List.length_nil] at noZeros
    omega
  · exact List.append_ne_nil_of_right_ne_nil _ (List.cons_ne_nil _ _)

/-- The plain notation starts with a character, and never with a bracket. -/
theorem exists_plain (x : Binary64) : ∃ c more, plain x = c :: more ∧ c ≠ '[' := by
  have signs : ∀ negative {text : List Char}, (∃ c more, text = c :: more ∧ c ≠ '[') →
      ∃ c more, signed negative text = c :: more ∧ c ≠ '[' := by
    intro negative text starts
    cases negative with
    | true => exact ⟨_, _, rfl, by decide⟩
    | false => exact starts
  cases x with
  | nan => exact ⟨_, _, rfl, by decide⟩
  | infinite negative => exact signs negative ⟨_, _, rfl, by decide⟩
  | finite negative significand exponent =>
      apply signs
      split_ifs with zero
      · exact ⟨_, _, rfl, by decide⟩
      · obtain ⟨c, more, text⟩ := List.exists_cons_of_ne_nil
          (positional_ne_nil (shortest .up significand exponent))
        refine ⟨c, more, text, ?_⟩
        rintro rfl
        have inText : '[' ∈ (shortest .up significand exponent).positional [] :=
          text ▸ List.mem_cons_self ..
        rcases positional_of_mem isDigit_of_mem_shortest _ inText with digit | point
        · cases digit
        · cases point

end LayeredConfig.Decimal
