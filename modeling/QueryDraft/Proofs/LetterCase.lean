import QueryDraft.Text.Case

/-!
# Letters in another case

Of the characters up to `z` the upper-case mapping changes the letters from `a` to `z` alone, and
the lower-case mapping those from `A` to `Z`. So a letter and its capital have the same upper case
(`upperChar_toUpper`) and the same lower case (`lowerChar_toUpper`).
-/

namespace QueryDraft.Text

section Table

variable {shifts : List (Nat × Nat × Nat × Int)} {expansions : List (Nat × List Nat)} {n : Nat}

theorem mapCodePoint_eq_self (hs : ∀ row ∈ shifts, n < row.1 ∨ row.2.1 < n)
    (he : ∀ e ∈ expansions, n < e.1) : mapCodePoint shifts expansions n = [n] := by
  unfold mapCodePoint
  split
  case h_1 first last step shift hfound =>
    have houtside : n < first ∨ last < n := hs _ (List.mem_of_find?_eq_some hfound)
    have hinside := List.find?_some hfound
    simp only [Bool.and_eq_true, decide_eq_true_eq] at hinside
    omega
  case h_2 =>
    have hnone : expansions.find? (·.1 == n) = none := by
      refine List.find?_eq_none.2 fun e hmem => ?_
      have hlt := he e hmem
      simp only [beq_iff_eq]
      omega
    rw [hnone]
    rfl

theorem mapCodePoint_first {first last : Nat} {shift : Int} (hfirst : first ≤ n)
    (hlast : n ≤ last) : mapCodePoint ((first, last, 1, shift) :: shifts) expansions n =
      [((n : Int) + shift).toNat] := by
  simp [mapCodePoint, hfirst, hlast, Nat.mod_one]

end Table

/-- The code points of the letters from `a` to `z`. -/
def IsSmall (n : Nat) : Prop := 0x61 ≤ n ∧ n ≤ 0x7a

instance (n : Nat) : Decidable (IsSmall n) := inferInstanceAs (Decidable (_ ∧ _))

/-- The code points of the letters from `A` to `Z`. -/
def IsCapital (n : Nat) : Prop := 0x41 ≤ n ∧ n ≤ 0x5a

instance (n : Nat) : Decidable (IsCapital n) := inferInstanceAs (Decidable (_ ∧ _))

theorem IsSmall.isCapital {n : Nat} (h : IsSmall n) : IsCapital (n - 0x20) := by
  obtain ⟨hfirst, hlast⟩ := h
  constructor <;> omega

theorem toNat_toUpper (c : Char) :
    c.toUpper.toNat = if IsSmall c.toNat then c.toNat - 0x20 else c.toNat := by
  have hletter : ('a'.val ≤ c.val ∧ c.val ≤ 'z'.val) ↔ IsSmall c.toNat := by
    simp only [UInt32.le_iff_toNat_le]
    rfl
  unfold Char.toUpper
  split
  case isTrue h =>
    have hsmall := hletter.1 h
    have hshift : ('A'.val - 'a'.val).toNat = 2 ^ 32 - 0x20 := by decide
    rw [if_pos hsmall]
    simp only [IsSmall, Char.toNat, UInt32.toNat_add] at hsmall ⊢
    omega
  case isFalse h => rw [if_neg (mt hletter.2 h)]

/-- Only letters have two cases here. -/
theorem eq_of_toUpper_eq {c d : Char} (h : d.toUpper = c.toUpper) (hsmall : ¬ IsSmall d.toNat)
    (hcapital : ¬ IsCapital d.toNat) : d = c := by
  have hcode := congrArg Char.toNat h
  rw [toNat_toUpper, toNat_toUpper, if_neg hsmall] at hcode
  refine Char.toNat_inj.1 (hcode.trans (if_neg fun hc => hcapital ?_))
  rw [if_pos hc] at hcode
  exact hcode ▸ hc.isCapital

variable {n : Nat}

theorem upper_of_lt (h : n < 0x61) : mapCodePoint upperShifts upperExpansions n = [n] := by
  have hs : ∀ row ∈ upperShifts, 0x61 ≤ row.1 := by decide +kernel
  have he : ∀ e ∈ upperExpansions, 0x61 ≤ e.1 := by decide +kernel
  exact mapCodePoint_eq_self (fun row hrow => .inl (Nat.lt_of_lt_of_le h (hs row hrow)))
    fun e hmem => Nat.lt_of_lt_of_le h (he e hmem)

theorem upper_of_isSmall (h : IsSmall n) :
    mapCodePoint upperShifts upperExpansions n = [n - 0x20] := by
  have hcode : ((n : Int) + -32).toNat = n - 0x20 := by omega
  rw [upperShifts, mapCodePoint_first h.1 h.2, hcode]

theorem upperChar_toUpper (c : Char) : upperChar c.toUpper = upperChar c := by
  rw [upperChar, upperChar, toNat_toUpper]
  split
  case isTrue h =>
    have hlast := h.isCapital.2
    rw [upper_of_isSmall h, upper_of_lt (by omega)]
  case isFalse => rfl

theorem lower_of_isSmall (h : IsSmall n) :
    mapCodePoint lowerShifts lowerExpansions n = [n] := by
  have hs : ∀ row ∈ lowerShifts, 0x7b ≤ row.1 ∨ row.2.1 < 0x61 := by decide +kernel
  have he : ∀ e ∈ lowerExpansions, 0x7b ≤ e.1 := by decide +kernel
  obtain ⟨hfirst, hlast⟩ := h
  refine mapCodePoint_eq_self (fun row hrow => ?_) fun e hmem => ?_
  · have := hs row hrow
    omega
  · have := he e hmem
    omega

theorem lower_of_isCapital (h : IsCapital n) :
    mapCodePoint lowerShifts lowerExpansions n = [n + 0x20] := by
  have hcode : ((n : Int) + 32).toNat = n + 0x20 := by omega
  rw [lowerShifts, mapCodePoint_first h.1 h.2, hcode]

theorem lowerChar_toUpper (c : Char) : lowerChar c.toUpper = lowerChar c := by
  rw [lowerChar, lowerChar, toNat_toUpper]
  split
  case isTrue h =>
    have hle : 0x20 ≤ c.toNat := Nat.le_trans (by decide) h.1
    rw [lower_of_isCapital h.isCapital, lower_of_isSmall h, Nat.sub_add_cancel hle]
  case isFalse => rfl

end QueryDraft.Text
