/-!
# Number — rounding a quotient

The two ways a quotient of natural numbers is rounded to the nearest integer: ties to the even
neighbour, for printing, and ties away from zero, for turning a measurement into a count.
-/

namespace HardwareReport.Number

/-- The integer nearest to `num / den`; a tie goes to the even neighbour. -/
def roundHalfEven (num den : Nat) : Nat :=
  let quotient := num / den
  let twice := 2 * (num % den)
  if twice < den then quotient
  else if den < twice then quotient + 1
  else if quotient % 2 = 0 then quotient else quotient + 1

/-- The integer nearest to `num / den`; a tie goes to the greater neighbour. -/
def roundHalfUp (num den : Nat) : Nat :=
  (2 * num + den) / (2 * den)

/-- Rounding to even moves a quotient by half a unit at most. -/
theorem roundHalfEven_near {num den : Nat} (hDen : 0 < den) :
    2 * num ≤ 2 * den * roundHalfEven num den + den ∧
      2 * den * roundHalfEven num den ≤ 2 * num + den := by
  have hDiv := Nat.div_add_mod num den
  have hMod := Nat.mod_lt num hDen
  have hCases : roundHalfEven num den = num / den ∧ 2 * (num % den) ≤ den ∨
      roundHalfEven num den = num / den + 1 ∧ den ≤ 2 * (num % den) := by
    unfold roundHalfEven
    grind
  have hAssoc : 2 * den * (num / den) = 2 * (den * (num / den)) := by grind
  rcases hCases with ⟨hEq, hLe⟩ | ⟨hEq, hLe⟩
  · rw [hEq]
    omega
  · rw [hEq, Nat.mul_add, hAssoc]
    omega

end HardwareReport.Number
