import Mathlib.Algebra.Order.Field.Power
import Mathlib.Data.Rat.Cast.Order
import Mathlib.Tactic.Linarith
import Mathlib.Tactic.NormNum
import Mathlib.Tactic.Positivity
import Mathlib.Tactic.Ring
import QueryDraft.Value.Order

/-!
# Rounding keeps the order

The number nearest to a ratio is a significand of at most 53 binary digits with an exponent, and the
exponent is the one of the ratio's own size (`isUnit_unitExponent`). A larger ratio has the larger
exponent, or the same exponent and the larger significand. So whatever lies below the number nearest
to a ratio lies below the number nearest to a larger one (`Number.lt_ofRatio_mono`).
-/

namespace QueryDraft

/-! ## Whole numbers -/

theorem roundDiv_mono {num num' : Nat} (den : Nat) (h : num ≤ num') :
    roundDiv num den ≤ roundDiv num' den := by
  have hdiv := Nat.div_le_div_right (c := den) h
  -- where the quotients agree, the larger numerator has the larger remainder
  have hmod : num / den = num' / den → num % den ≤ num' % den := by
    intro heq
    have hnum := Nat.div_add_mod num den
    have hnum' := Nat.div_add_mod num' den
    rw [heq] at hnum
    omega
  rcases roundDiv_cases num den with ⟨hm, hr⟩ | ⟨hm, hr⟩ <;>
    rcases roundDiv_cases num' den with ⟨hm', hr'⟩ | ⟨hm', hr'⟩ <;> omega

theorem roundDiv_mul (k : Nat) {den : Nat} (h : 0 < den) : roundDiv (k * den) den = k := by
  simp [roundDiv, Nat.mul_mod_left, Nat.mul_div_cancel _ h, h]

namespace Binary64

/-! ## The exponent -/

/-- Scaling both sides of a ratio up is scaling it by a power of two. -/
theorem shift_lt_iff (e : Int) (num den k : Nat) :
    num * Nat.pow 2 (-e).toNat < den * Nat.pow 2 e.toNat * k ↔ (num : ℚ) < den * 2 ^ e * k := by
  have hpow : (2 : ℚ) ^ e.toNat = 2 ^ e * 2 ^ (-e).toNat := by
    rw [← zpow_natCast, ← zpow_natCast, ← zpow_add₀ (by norm_num)]
    congr 1
    omega
  have hpos : (0 : ℚ) < 2 ^ (-e).toNat := by positivity
  rw [← Nat.cast_lt (α := ℚ)]
  push_cast [Nat.pow_eq]
  have hshift : (den : ℚ) * (2 ^ e * 2 ^ (-e).toNat) * k = den * 2 ^ e * k * 2 ^ (-e).toNat := by
    ring
  rw [hpow, hshift, mul_lt_mul_iff_of_pos_right hpos]

section Unit

variable {num den : Nat}

theorem log2_bounds {n : Nat} (hn : 0 < n) :
    (2 : ℚ) ^ (n.log2 : Int) ≤ n ∧ (n : ℚ) < 2 ^ ((n.log2 : Int) + 1) := by
  refine ⟨?_, ?_⟩
  · rw [zpow_natCast]
    exact_mod_cast Nat.log2_self_le hn.ne'
  · have hlt : n < 2 ^ (n.log2 + 1) := Nat.lt_log2_self
    rw [← Nat.cast_succ, zpow_natCast]
    exact_mod_cast hlt

/-- An exponent under which a ratio has at most 53 binary digits before the point, and exactly 53 of
them unless it is the least exponent of the format. -/
structure IsUnit (num den : Nat) (e : Int) : Prop where
  lt : (num : ℚ) < den * 2 ^ (e + 53)
  le : -1074 < e → (den : ℚ) * 2 ^ (e + 52) ≤ num

theorem two_zpow_mono {e e' : Int} (h : e ≤ e') : (2 : ℚ) ^ e ≤ 2 ^ e' :=
  zpow_le_zpow_right₀ (by norm_num) h

theorem two_zpow_add (e e' : Int) : (2 : ℚ) ^ (e + e') = 2 ^ e * 2 ^ e' :=
  zpow_add₀ (by norm_num) e e'

theorem isUnit_max {e : Int} (h : IsUnit num den e) : IsUnit num den (max e (-1074)) := by
  refine ⟨h.lt.trans_le ?_, fun he => ?_⟩
  · have hle : (2 : ℚ) ^ (e + 53) ≤ 2 ^ (max e (-1074) + 53) := two_zpow_mono (by omega)
    gcongr
  · have hmax : max e (-1074) = e := by omega
    rw [hmax] at he ⊢
    exact h.le he

theorem isUnit_unitExponent (hnum : 0 < num) (hden : 0 < den) :
    IsUnit num den (unitExponent num den) := by
  obtain ⟨hnum₁, hnum₂⟩ := log2_bounds hnum
  obtain ⟨hden₁, hden₂⟩ := log2_bounds hden
  unfold unitExponent
  dsimp only
  refine isUnit_max ?_
  generalize he : (num.log2 : Int) - den.log2 - 52 = e
  have htest : num * Nat.pow 2 (-e).toNat < den * Nat.pow 2 e.toNat * Nat.pow 2 52
      ↔ (num : ℚ) < den * 2 ^ (e + 52) := by
    rw [shift_lt_iff, two_zpow_add, mul_assoc]
    norm_num
  simp only [htest]
  split_ifs with hshort
  · refine ⟨by rwa [show e - 1 + 53 = e + 52 by ring], fun _ => ?_⟩
    calc (den : ℚ) * 2 ^ (e - 1 + 52)
        ≤ 2 ^ ((den.log2 : Int) + 1) * 2 ^ (e - 1 + 52) := by gcongr
      _ = 2 ^ (num.log2 : Int) := by
        rw [← two_zpow_add]
        congr 1
        omega
      _ ≤ num := hnum₁
  · refine ⟨?_, fun _ => not_lt.1 hshort⟩
    calc (num : ℚ) < 2 ^ ((num.log2 : Int) + 1) := hnum₂
      _ = 2 ^ (den.log2 : Int) * 2 ^ (e + 53) := by
        rw [← two_zpow_add]
        congr 1
        omega
      _ ≤ den * 2 ^ (e + 53) := by gcongr

/-- A larger ratio has no smaller unit. -/
theorem IsUnit.mono {num' : Nat} {e e' : Int} (hden : 0 < den) (h : IsUnit num den e)
    (h' : IsUnit num' den e') (hnum : num ≤ num') (he' : -1074 ≤ e') : e ≤ e' := by
  by_contra hlt
  have hden' : (0 : ℚ) < den := by exact_mod_cast hden
  have hle : (2 : ℚ) ^ (e' + 53) ≤ 2 ^ (e + 52) := two_zpow_mono (by omega)
  have hcast : (num : ℚ) ≤ num' := by exact_mod_cast hnum
  have hchain : (num' : ℚ) < num := by
    calc (num' : ℚ) < den * 2 ^ (e' + 53) := h'.lt
      _ ≤ den * 2 ^ (e + 52) := by gcongr
      _ ≤ num := h.le (by omega)
  exact absurd hchain (not_lt.2 hcast)

/-! ## The significand -/

/-- The digits of the number nearest to a ratio, its unit taken for one. -/
def significand (num den : Nat) : Nat :=
  let e := unitExponent num den
  roundDiv (num * Nat.pow 2 (-e).toNat) (den * Nat.pow 2 e.toNat)

theorem significand_le (hnum : 0 < num) (hden : 0 < den) : significand num den ≤ 2 ^ 53 := by
  have hunit := (isUnit_unitExponent hnum hden).lt
  unfold significand
  dsimp only
  generalize unitExponent num den = e at hunit
  have hpos : 0 < den * Nat.pow 2 e.toNat := Nat.mul_pos hden (Nat.pow_pos (by decide))
  have hlt : num * Nat.pow 2 (-e).toNat < den * Nat.pow 2 e.toNat * 2 ^ 53 := by
    rw [shift_lt_iff]
    rw [two_zpow_add, ← mul_assoc] at hunit
    exact_mod_cast hunit
  calc roundDiv (num * Nat.pow 2 (-e).toNat) (den * Nat.pow 2 e.toNat)
      ≤ roundDiv (2 ^ 53 * (den * Nat.pow 2 e.toNat)) (den * Nat.pow 2 e.toNat) :=
        roundDiv_mono _ (by rw [Nat.mul_comm (2 ^ 53)]; exact hlt.le)
    _ = 2 ^ 53 := roundDiv_mul _ hpos

theorem le_significand (hnum : 0 < num) (hden : 0 < den) (h : -1074 < unitExponent num den) :
    2 ^ 52 ≤ significand num den := by
  have hunit := (isUnit_unitExponent hnum hden).le h
  unfold significand
  dsimp only
  generalize unitExponent num den = e at hunit
  have hpos : 0 < den * Nat.pow 2 e.toNat := Nat.mul_pos hden (Nat.pow_pos (by decide))
  have hle : den * Nat.pow 2 e.toNat * 2 ^ 52 ≤ num * Nat.pow 2 (-e).toNat := by
    rw [← not_lt, shift_lt_iff, not_lt]
    rw [two_zpow_add, ← mul_assoc] at hunit
    exact_mod_cast hunit
  calc 2 ^ 52 = roundDiv (2 ^ 52 * (den * Nat.pow 2 e.toNat)) (den * Nat.pow 2 e.toNat) :=
        (roundDiv_mul _ hpos).symm
    _ ≤ roundDiv (num * Nat.pow 2 (-e).toNat) (den * Nat.pow 2 e.toNat) :=
        roundDiv_mono _ (by rw [Nat.mul_comm (2 ^ 52)]; exact hle)

/-- The size of the number nearest to a ratio, as long as the format holds it. -/
def rounded (num den : Nat) : ℚ := significand num den * 2 ^ unitExponent num den

theorem neg1074_le_unitExponent (num den : Nat) : -1074 ≤ unitExponent num den :=
  le_max_right _ _

theorem rounded_mono {num' : Nat} (hnum : 0 < num) (hden : 0 < den) (h : num ≤ num') :
    rounded num den ≤ rounded num' den := by
  have hnum' : 0 < num' := hnum.trans_le h
  have hle : unitExponent num den ≤ unitExponent num' den :=
    (isUnit_unitExponent hnum hden).mono hden (isUnit_unitExponent hnum' hden) h
      (neg1074_le_unitExponent _ _)
  unfold rounded
  rcases hle.lt_or_eq with hlt | heq
  · -- the smaller ratio fills at most the digits that the larger one has at least
    have hup : (significand num den : ℚ) ≤ 2 ^ (53 : Int) := by
      exact_mod_cast significand_le hnum hden
    have hlow : (2 : ℚ) ^ (52 : Int) ≤ significand num' den := by
      exact_mod_cast le_significand hnum' hden
        ((neg1074_le_unitExponent num den).trans_lt hlt)
    calc (significand num den : ℚ) * 2 ^ unitExponent num den
        ≤ 2 ^ (53 : Int) * 2 ^ unitExponent num den := by gcongr
      _ = 2 ^ (53 + unitExponent num den) := (two_zpow_add _ _).symm
      _ ≤ 2 ^ (52 + unitExponent num' den) := two_zpow_mono (by omega)
      _ = 2 ^ (52 : Int) * 2 ^ unitExponent num' den := two_zpow_add _ _
      _ ≤ significand num' den * 2 ^ unitExponent num' den := by gcongr
  · have hsignificand : significand num den ≤ significand num' den := by
      unfold significand
      dsimp only
      rw [heq]
      exact roundDiv_mono _ (Nat.mul_le_mul_right _ h)
    rw [heq]
    gcongr

end Unit

/-! ## The place of a rounded ratio -/

variable {num num' den : Nat}

/-- What a rounded ratio reaches is a matter of its size, as it has no more than 53 digits. -/
theorem pow_le_iff (hnum : 0 < num) (hden : 0 < den) {k : Nat} (hk : 53 < k) :
    Nat.pow 2 k ≤ significand num den * Nat.pow 2 (unitExponent num den).toNat
      ↔ (2 : ℚ) ^ k ≤ rounded num den := by
  have hle := significand_le hnum hden
  unfold rounded
  generalize unitExponent num den = e
  generalize significand num den = m at hle
  rcases Int.le_total 0 e with he | he
  · obtain ⟨n, rfl⟩ := Int.eq_ofNat_of_zero_le he
    simp only [Int.toNat_natCast, zpow_natCast, Nat.pow_eq]
    exact_mod_cast Iff.rfl
  · -- below an exponent of zero the digits stay before the point
    have hcast : (m : ℚ) ≤ 2 ^ 53 := by exact_mod_cast hle
    have hone : (2 : ℚ) ^ e ≤ 1 := by
      rw [← zpow_zero (2 : ℚ)]
      exact two_zpow_mono he
    have hsmall : (m : ℚ) * 2 ^ e < 2 ^ k := by
      calc (m : ℚ) * 2 ^ e ≤ 2 ^ 53 * 1 := by gcongr
        _ = 2 ^ 53 := mul_one _
        _ < 2 ^ k := pow_lt_pow_right₀ (by norm_num) hk
    have htoNat : e.toNat = 0 := by omega
    rw [htoNat]
    refine iff_of_false (not_le.2 ?_) (not_le.2 hsmall)
    calc m * Nat.pow 2 0 = m := Nat.mul_one m
      _ ≤ 2 ^ 53 := hle
      _ < Nat.pow 2 k := Nat.pow_lt_pow_right (by decide) hk

/-- Where the number nearest to a ratio lies. -/
theorem place_ofRatio (hnum : 0 < num) (hden : 0 < den) :
    (∃ x : Dyadic, (Number.float (.ofRatio false num den)).place? = some (.at x)
        ∧ x.toRat = rounded num den ∧ rounded num den < 2 ^ 1024)
      ∨ ((Number.float (.ofRatio false num den)).place? = some .above
        ∧ 2 ^ 1024 ≤ rounded num den) := by
  -- the end of the format is taken as it is, not as the number of 309 digits that it stands for
  obtain ⟨k, hk, hratio⟩ : ∃ k, k = 1024 ∧ ofRatio false num den
      = if significand num den = 0 then .finite 0
        else if Nat.pow 2 k ≤ significand num den * Nat.pow 2 (unitExponent num den).toNat
        then .infinity false
        else .finite (Dyadic.ofIntWithPrec (significand num den) (-unitExponent num den)) :=
    ⟨1024, rfl, rfl⟩
  have hlimit := pow_le_iff hnum hden (k := k) (by omega)
  rw [← hk, hratio]
  by_cases hzero : significand num den = 0
  · have hrounded : rounded num den = 0 := by rw [rounded, hzero, Nat.cast_zero, zero_mul]
    rw [if_pos hzero, hrounded]
    exact .inl ⟨0, rfl, Dyadic.toRat_zero, by positivity⟩
  · rw [if_neg hzero]
    rcases lt_or_ge (rounded num den) (2 ^ k) with hsmall | hlarge
    · rw [if_neg (mt hlimit.1 (not_le.2 hsmall))]
      refine .inl ⟨_, rfl, ?_, hsmall⟩
      rw [Dyadic.toRat_ofIntWithPrec_eq_mul_two_pow, neg_neg, rounded, Int.cast_natCast]
    · rw [if_pos (hlimit.2 hlarge)]
      exact .inr ⟨rfl, hlarge⟩

end Binary64

/-! ## What lies below -/

theorem Place.lt_at_mono {p : Place} {x y : Dyadic} (h : x ≤ y) (hp : p.lt (.at x)) :
    p.lt (.at y) := by
  cases p with
  | below => rfl
  | «at» z =>
    rw [Place.lt, decide_eq_true_iff, ← Dyadic.toRat_lt_toRat_iff] at hp ⊢
    exact hp.trans_le (Dyadic.toRat_le_toRat_iff.2 h)
  | above => exact hp

theorem Place.lt_above_of_lt {p q : Place} (hp : p.lt q) : p.lt .above := by
  cases p with
  | below => rfl
  | «at» z => rfl
  | above => exact hp

namespace Number

theorem toRat_ofInt (n : Int) : (Dyadic.ofInt n).toRat = n := Dyadic.toRat_intCast n

theorem isNegative_int (n : Int) : (Number.int n).isNegative = decide (n < 0) := by
  show decide (Dyadic.ofInt n < Dyadic.ofInt 0) = decide (n < 0)
  rw [decide_eq_decide, ← Dyadic.toRat_lt_toRat_iff, toRat_ofInt, toRat_ofInt]
  exact Int.cast_lt

/-- What lies below a whole number lies below a larger one. -/
theorem lt_int_mono {a : Number} {n n' : Int} (h : n ≤ n') (ha : a.lt (.int n)) :
    a.lt (.int n') := by
  have hle : Dyadic.ofInt n ≤ Dyadic.ofInt n' := by
    rw [← Dyadic.toRat_le_toRat_iff, toRat_ofInt, toRat_ofInt]
    exact Int.cast_le.2 h
  unfold lt at ha ⊢
  cases hp : a.place? with
  | none => simp [hp] at ha
  | some p =>
    rw [hp] at ha
    exact Place.lt_at_mono hle ha

/-- What lies below the number nearest to a ratio lies below the one nearest to a larger ratio. -/
theorem lt_ofRatio_mono {a : Number} {num num' den : Nat} (hnum : 0 < num) (hden : 0 < den)
    (h : num ≤ num') (ha : a.lt (.float (.ofRatio false num den))) :
    a.lt (.float (.ofRatio false num' den)) := by
  have hmono := Binary64.rounded_mono hnum hden h
  unfold lt at ha ⊢
  cases hp : a.place? with
  | none => simp [hp] at ha
  | some p =>
    rcases Binary64.place_ofRatio hnum hden with ⟨x, hx, hxsize, -⟩ | ⟨hx, hlarge⟩ <;>
      rcases Binary64.place_ofRatio (hnum.trans_le h) hden with ⟨y, hy, hysize, hsmall⟩ | ⟨hy, -⟩
    · rw [hp, hx] at ha
      rw [hy]
      refine Place.lt_at_mono ?_ ha
      rwa [← Dyadic.toRat_le_toRat_iff, hxsize, hysize]
    · rw [hp, hx] at ha
      rw [hy]
      exact Place.lt_above_of_lt ha
    · -- a number that overflows has no larger one that does not
      exact absurd (hlarge.trans hmono) (not_le.2 hsmall)
    · rw [hp, hx] at ha
      rw [hy]
      exact ha

end Number

/-- Numbers among values are compared as numbers. -/
theorem Value.less?_of_number {v w : Value} {a b : Number} (hv : v.number? = some a)
    (hw : w.number? = some b) : v.less? w = some (a.lt b) := by
  cases v <;> simp [number?] at hv <;> cases w <;> simp [number?] at hw <;> subst hv hw <;>
    simp [less?, number?]

end QueryDraft
