/-!
# Rounding a quotient to the nearest whole number

A tie goes to the even neighbour. `roundDiv_near` says that the result is within half a unit of
the quotient, and even where it is just half a unit off.
-/

namespace QueryDraft

/-- The whole number nearest to `num / den`, the even one of two that are equally near. -/
def roundDiv (num den : Nat) : Nat :=
  let q := num / den
  let r := num % den
  if 2 * r < den then q
  else if den < 2 * r then q + 1
  else if q % 2 = 0 then q else q + 1

/-- A small remainder leaves the quotient and a large one takes the next, half of the denominator
whichever of the two is even. -/
theorem roundDiv_cases (num den : Nat) :
    (roundDiv num den = num / den
        ∧ (2 * (num % den) < den ∨ 2 * (num % den) = den ∧ num / den % 2 = 0))
      ∨ (roundDiv num den = num / den + 1
        ∧ (den < 2 * (num % den) ∨ 2 * (num % den) = den ∧ num / den % 2 = 1)) := by
  unfold roundDiv
  dsimp only
  split
  · exact .inl ⟨rfl, by omega⟩
  · split
    · exact .inr ⟨rfl, by omega⟩
    · split
      · exact .inl ⟨rfl, by omega⟩
      · exact .inr ⟨rfl, by omega⟩

/-- The rounded quotient is within half a unit of the quotient, and even where it is half a unit
off. -/
theorem roundDiv_near (num den : Nat) (h : 0 < den) :
    2 * num ≤ 2 * (roundDiv num den * den) + den
      ∧ 2 * (roundDiv num den * den) ≤ 2 * num + den
      ∧ (2 * num = 2 * (roundDiv num den * den) + den
          ∨ 2 * (roundDiv num den * den) = 2 * num + den → roundDiv num den % 2 = 0) := by
  have hnum := Nat.div_add_mod' num den
  have hless := Nat.mod_lt num h
  have hnext : (num / den + 1) * den = num / den * den + den := Nat.succ_mul ..
  rcases roundDiv_cases num den with ⟨hround, hr⟩ | ⟨hround, hr⟩ <;> rw [hround] <;> omega

end QueryDraft
