import Mathlib.Algebra.Order.Field.Basic
import Mathlib.Data.Rat.Cast.Order
import Mathlib.Tactic.Linarith
import Mathlib.Tactic.NormNum
import Mathlib.Tactic.Ring
import QueryDraft.Proofs.ReportOrder

/-!
# The cost of a statement, step by step

Counted in halves the cost of a draft is a whole number (`costHalves`), which a small limit turns
into quarters (`costQuarters_eq`). Rounded to tenths, one quarter more is always at least one tenth
more (`tenths_lt`), and one whole more is exactly ten tenths more (`tenths_add_whole`). So what a
call adds to the parts of a draft is seen in the rounded cost, and a whole that it adds is seen
exactly (`cost_of_calls`).
-/

namespace QueryDraft

/-! ## Rounding -/

/-- Whether a whole number is nearest to a number, the even one of two that are equally near. -/
def NearestEven (x : ℚ) (n : ℕ) : Prop := |x - n| ≤ 1 / 2 ∧ (|x - n| = 1 / 2 → Even n)

theorem nearestEven_roundDiv (num : ℕ) {den : ℕ} (hden : 0 < den) :
    NearestEven (num / den) (roundDiv num den) := by
  have hpos : (0 : ℚ) < den := by exact_mod_cast hden
  obtain ⟨hlow, hhigh, htie⟩ := roundDiv_near num den hden
  generalize roundDiv num den = n at *
  -- the distance is compared with a half after both are multiplied by the denominator
  have hdist : ((num : ℚ) / den - n) * den = num - n * den := by
    rw [sub_mul, div_mul_cancel₀ _ hpos.ne']
  unfold NearestEven
  generalize (num : ℚ) / den - n = x at *
  have hlow' : (2 : ℚ) * num ≤ 2 * (n * den) + den := by exact_mod_cast hlow
  have hhigh' : (2 : ℚ) * (n * den) ≤ 2 * num + den := by exact_mod_cast hhigh
  refine ⟨abs_le.2 ⟨le_of_mul_le_mul_right ?_ hpos, le_of_mul_le_mul_right ?_ hpos⟩, fun hx => ?_⟩
  · linarith
  · linarith
  · refine Nat.even_iff.2 (htie ?_)
    rcases (abs_eq (by norm_num)).1 hx with rfl | rfl
    · left
      exact_mod_cast show (2 : ℚ) * num = 2 * (n * den) + den by linarith
    · right
      exact_mod_cast show (2 : ℚ) * (n * den) = 2 * num + den by linarith

/-- The tenths of a number of quarters, a tie going to the even one. -/
def tenths (quarters : ℕ) : ℕ := roundDiv (10 * quarters) 4

/-- The tenths of the four residues: a quarter is cut off to two tenths, three quarters are rounded
up to eight. -/
theorem tenths_eq (n : ℕ) :
    (n % 4 = 0 ∧ tenths n = 10 * (n / 4)) ∨ (n % 4 = 1 ∧ tenths n = 10 * (n / 4) + 2)
      ∨ (n % 4 = 2 ∧ tenths n = 10 * (n / 4) + 5) ∨ (n % 4 = 3 ∧ tenths n = 10 * (n / 4) + 8) := by
  unfold tenths roundDiv
  dsimp only
  split_ifs <;> omega

theorem tenths_lt {m n : ℕ} (h : m < n) : tenths m < tenths n := by
  rcases tenths_eq m with ⟨hm, hm'⟩ | ⟨hm, hm'⟩ | ⟨hm, hm'⟩ | ⟨hm, hm'⟩ <;>
    rcases tenths_eq n with ⟨hn, hn'⟩ | ⟨hn, hn'⟩ | ⟨hn, hn'⟩ | ⟨hn, hn'⟩ <;> omega

theorem tenths_add_whole (n : ℕ) : tenths (n + 4) = tenths n + 10 := by
  rcases tenths_eq n with ⟨hn, hn'⟩ | ⟨hn, hn'⟩ | ⟨hn, hn'⟩ | ⟨hn, hn'⟩ <;>
    rcases tenths_eq (n + 4) with ⟨hm, hm'⟩ | ⟨hm, hm'⟩ | ⟨hm, hm'⟩ | ⟨hm, hm'⟩ <;> omega

/-- Rounding to tenths changes quarters by nothing or by half a tenth. -/
theorem tenths_near (n : ℕ) :
    (tenths n : ℚ) / 10 = n / 4 ∨ |(tenths n : ℚ) / 10 - n / 4| = 1 / 20 := by
  have hn : (n : ℚ) = 4 * (n / 4 : ℕ) + (n % 4 : ℕ) := by exact_mod_cast (Nat.div_add_mod n 4).symm
  rcases tenths_eq n with ⟨hr, h⟩ | ⟨hr, h⟩ | ⟨hr, h⟩ | ⟨hr, h⟩ <;> rw [h, hn, hr] <;> push_cast
  · left; ring
  · right; ring_nf; norm_num
  · left; ring
  · right; ring_nf; norm_num

end QueryDraft

namespace QueryDraft.Sql

namespace Draft

/-! ## The cost and its parts -/

/-- The cost of grouping by names, in halves. -/
def groupHalves (names : List String) : ℕ := if names.isEmpty then 0 else 4

/-- The cost in halves, a small limit left out. -/
def costHalves (d : Draft) : ℕ :=
  2 + 4 * d.joins.length + d.conditions.length + 3 * d.orderBy.length + groupHalves d.groupBy

/-- The cost before it is rounded. -/
def exactCost (d : Draft) : ℚ :=
  let full : ℚ := 1 + 2 * d.joins.length + d.conditions.length / 2 + 3 * d.orderBy.length / 2
    + if d.groupBy = [] then 0 else 2
  if ∃ n ∈ d.limit, n < 100 then full / 2 else full

/-- The cost that is given out, as an exact number. -/
def estimate (d : Draft) : ℚ := d.costTenths / 10

theorem hasSmallLimit_iff (d : Draft) : d.hasSmallLimit = true ↔ ∃ n ∈ d.limit, n < 100 := by
  unfold hasSmallLimit
  cases d.limit <;> simp

theorem costQuarters_eq (d : Draft) :
    d.costQuarters = if d.hasSmallLimit then d.costHalves else 2 * d.costHalves := by
  unfold costQuarters costHalves groupHalves
  dsimp only
  split_ifs <;> omega

theorem exactCost_eq (d : Draft) : d.exactCost = d.costQuarters / 4 := by
  have hgroup : d.groupBy.isEmpty = true ↔ d.groupBy = [] := List.isEmpty_iff
  rw [costQuarters_eq]
  unfold exactCost costHalves groupHalves
  dsimp only
  simp only [← hasSmallLimit_iff, hgroup]
  split_ifs <;> push_cast <;> ring

theorem estimate_eq (d : Draft) : d.estimate = tenths d.costQuarters / 10 := rfl

theorem estimate_lt_iff {d d' : Draft} :
    d.estimate < d'.estimate ↔ d.costTenths < d'.costTenths := by
  unfold estimate
  rw [div_lt_div_iff_of_pos_right (by norm_num)]
  exact Nat.cast_lt

theorem costHalves_pos (d : Draft) : 0 < d.costHalves := by
  unfold costHalves
  omega

theorem half_le_estimate (d : Draft) : 1 / 2 ≤ d.estimate := by
  have hquarters := two_le_costQuarters d
  have htenths : 5 ≤ d.costTenths := by
    show 5 ≤ tenths d.costQuarters
    rcases tenths_eq d.costQuarters with ⟨hr, h⟩ | ⟨hr, h⟩ | ⟨hr, h⟩ | ⟨hr, h⟩ <;> omega
  have hcast : (5 : ℚ) ≤ d.costTenths := by exact_mod_cast htenths
  unfold estimate
  linarith

/-! ## Drafts under the same limit -/

/-- What a small limit leaves of a part of the cost. -/
def discounted (d : Draft) (part : ℚ) : ℚ := if d.hasSmallLimit then part / 2 else part

section SameLimit

variable {d d' : Draft} (hlimit : d'.hasSmallLimit = d.hasSmallLimit)
include hlimit

theorem estimate_eq_of_costHalves (h : d'.costHalves = d.costHalves) :
    d'.estimate = d.estimate := by
  rw [estimate_eq, estimate_eq, costQuarters_eq, costQuarters_eq, hlimit, h]

theorem estimate_lt_of_costHalves (h : d.costHalves < d'.costHalves) :
    d.estimate < d'.estimate := by
  refine estimate_lt_iff.2 (tenths_lt ?_)
  rw [costQuarters_eq, costQuarters_eq, hlimit]
  split_ifs <;> omega

/-- Two wholes more, of which a small limit leaves one, are seen exactly. -/
theorem estimate_add_two (h : d'.costHalves = d.costHalves + 4) :
    d'.estimate = d.estimate + d.discounted 2 := by
  rw [estimate_eq, estimate_eq, costQuarters_eq, costQuarters_eq, hlimit, h]
  unfold discounted
  split_ifs with hsmall
  · rw [tenths_add_whole]
    push_cast
    ring
  · have hquarters : 2 * (d.costHalves + 4) = 2 * d.costHalves + 4 + 4 := by ring
    rw [hquarters, tenths_add_whole, tenths_add_whole]
    push_cast
    ring

end SameLimit

/-- A limit that is small lowers the cost of what it is put on. -/
theorem estimate_lt_of_small {d d' : Draft} (h : d'.costHalves = d.costHalves)
    (hlarge : d.hasSmallLimit = false) (hsmall : d'.hasSmallLimit = true) :
    d'.estimate < d.estimate := by
  have hpos := costHalves_pos d
  refine estimate_lt_iff.2 (tenths_lt ?_)
  rw [costQuarters_eq, costQuarters_eq, if_pos hsmall, if_neg (by simp [hlarge]), h]
  omega

end Draft

/-! ## What a call does to the cost -/

/-- What a call does to the cost of the draft that it is made on. -/
def Call.CostStep (d d' : Draft) : Call → Prop
  | .join .. => d'.estimate = d.estimate + d.discounted 2
  | .condition .. | .orderBy .. => d.estimate < d'.estimate
  | .groupBy _ =>
    (d.groupBy = [] → d'.groupBy ≠ [] → d'.estimate = d.estimate + d.discounted 2)
      ∧ (d.groupBy ≠ [] ∨ d'.groupBy = [] → d'.estimate = d.estimate)
  | .limit count => ∃ n, count.int? = some n ∧ d'.limit = some n
      ∧ (n < 100 → d.hasSmallLimit = false → d'.estimate < d.estimate)
      ∧ (100 ≤ n → d.hasSmallLimit = true → d.estimate < d'.estimate)
      ∧ ((n < 100 ↔ d.hasSmallLimit = true) → d'.estimate = d.estimate)
  | .select _ | .table _ | .having .. | .offset _ | .insert .. | .update .. | .delete _ =>
    d'.estimate = d.estimate

namespace Draft

theorem costStep_groupBy (d : Draft) (names : List String) (fields : Value) :
    (Call.groupBy fields).CostStep d (d.edit (.groupBy names)) := by
  refine ⟨fun hd hd' => ?_, fun h => ?_⟩
  · refine estimate_add_two rfl ?_
    have hnames : names ≠ [] := by simpa [edit, hd] using hd'
    simp [costHalves, groupHalves, edit, hd, hnames]
  · refine estimate_eq_of_costHalves rfl ?_
    have hgroup : groupHalves (d.groupBy ++ names) = groupHalves d.groupBy := by
      rcases h with h | h
      · simp [groupHalves, h]
      · obtain ⟨hd, hnames⟩ := List.append_eq_nil_iff.1 h
        rw [hd, hnames, List.append_nil]
    simp only [costHalves, edit, hgroup]

theorem costStep_limit (d : Draft) {count : Value} {n : Int} (hn : count.int? = some n) :
    (Call.limit count).CostStep d (d.edit (.limit n)) := by
  have hhalves : (d.edit (.limit n)).costHalves = d.costHalves := rfl
  have hsmall : (d.edit (.limit n)).hasSmallLimit = decide (n < 100) := rfl
  refine ⟨n, hn, rfl, fun hlt hd => ?_, fun hle hd => ?_, fun hiff => ?_⟩
  · exact estimate_lt_of_small hhalves hd (by rw [hsmall, decide_eq_true hlt])
  · exact estimate_lt_of_small hhalves.symm (by rw [hsmall, decide_eq_false (by omega)]) hd
  · refine estimate_eq_of_costHalves ?_ hhalves
    rw [hsmall, Bool.eq_iff_iff, decide_eq_true_iff, hiff]

theorem int?_of_requireCount {slot : CountSlot} {v : Value} {n : Int}
    (h : requireCount slot v = .ok n) : v.int? = some n := by
  unfold requireCount at h
  split at h
  · simp at h
  · rename_i m hm
    split_ifs at h
    · simp at h
    · exact (Except.ok.inj h) ▸ hm

theorem costStep_call {d d' : Draft} {c : Call} (h : d.call c = .ok d') : c.CostStep d d' := by
  obtain ⟨e, he, rfl⟩ := map_eq_ok.1 h
  cases c with
  | join t on kind =>
    simp only [Call.check, bind_eq_ok, pure_eq_ok] at he
    obtain ⟨j, -, rfl⟩ := he
    refine estimate_add_two rfl ?_
    simp only [costHalves, edit, List.length_append, List.length_singleton]
    ring
  | condition connector field second third =>
    obtain ⟨condition, rfl⟩ : ∃ condition, e = .condition condition := by
      cases third <;> simp only [Call.check, bind_eq_ok, pure_eq_ok] at he
      all_goals
        obtain ⟨condition, -, rfl⟩ := he
        exact ⟨condition, rfl⟩
    refine estimate_lt_of_costHalves rfl ?_
    simp only [costHalves, edit, List.length_append, List.length_singleton]
    omega
  | orderBy field direction =>
    simp only [Call.check, bind_eq_ok, pure_eq_ok] at he
    obtain ⟨name, -, dir, -, rfl⟩ := he
    refine estimate_lt_of_costHalves rfl ?_
    simp only [costHalves, edit, List.length_append, List.length_singleton]
    omega
  | groupBy fields =>
    simp only [Call.check, bind_eq_ok, pure_eq_ok] at he
    obtain ⟨names, -, rfl⟩ := he
    exact costStep_groupBy d names fields
  | limit count =>
    simp only [Call.check, bind_eq_ok, pure_eq_ok] at he
    obtain ⟨n, hn, rfl⟩ := he
    exact costStep_limit d (int?_of_requireCount hn)
  | insert t values | update t values =>
    simp only [Call.check, bind_eq_ok, pure_eq_ok] at he
    obtain ⟨name, -, columns, -, rfl⟩ := he
    rfl
  | select _ | table _ | having _ _ _ | offset _ | delete _ =>
    simp only [Call.check, bind_eq_ok, pure_eq_ok] at he
    obtain ⟨a, -, rfl⟩ := he
    rfl

/-- The cost is the exact one rounded to tenths, a tie going to the even one, so the two differ by
nothing or by half a tenth, and it is at least a half. A join and the first names to group by raise
it by two, or by one under a small limit; a condition and an ordering raise it, a limit below one
hundred that is put where none was lowers it, and whatever is not counted leaves it as it was. -/
theorem cost_of_calls :
    (∀ d : Draft,
      (∃ n : ℕ, d.cost = .ofRatio false n 10 ∧ d.estimate = n / 10
        ∧ NearestEven (10 * d.exactCost) n)
      ∧ (d.estimate = d.exactCost ∨ |d.estimate - d.exactCost| = 1 / 20)
      ∧ 1 / 2 ≤ d.estimate)
    ∧ ∀ (d d' : Draft) (c : Call), d.call c = .ok d' → c.CostStep d d' := by
  refine ⟨fun d => ⟨⟨d.costTenths, rfl, rfl, ?_⟩, ?_, half_le_estimate d⟩,
    fun d d' c h => costStep_call h⟩
  · have hcost : 10 * d.exactCost = (10 * d.costQuarters : ℕ) / (4 : ℕ) := by
      rw [exactCost_eq]
      push_cast
      ring
    rw [hcost]
    exact nearestEven_roundDiv _ (by decide)
  · rw [exactCost_eq]
    exact tenths_near d.costQuarters

/-- A limit of zero on a draft with a condition, and a join that is added to it. -/
theorem cost_of_calls_of_limit_zero :
    let d : Draft := Draft.run {} [.table (.text "users"),
      .condition .and (.text "age") (.text ">") (some (.int 30))]
    let d₀ := d.run [.limit (.int 0)]
    let d₁ := d₀.run [.join (.text "roles") (.text "roles.id = users.role")]
    d₀.estimate < d.estimate ∧ d₁.estimate = d₀.estimate + 1 ∧ d₁.estimate = 9 / 5 := by
  intro d d₀ d₁
  have hlimit : d.call (.limit (.int 0)) = .ok d₀ := rfl
  have hjoin : d₀.call (.join (.text "roles") (.text "roles.id = users.role")) = .ok d₁ := rfl
  obtain ⟨-, hstep⟩ := cost_of_calls
  obtain ⟨n, hn, -, hlower, -⟩ := hstep _ _ _ hlimit
  obtain rfl : 0 = n := Option.some.inj hn
  have hsmall : d₁.hasSmallLimit = true := rfl
  have hhalves : d₁.costHalves = 7 := rfl
  refine ⟨hlower (by decide) rfl, ?_, ?_⟩
  · have hraised : d₁.estimate = d₀.estimate + d₀.discounted 2 := hstep _ _ _ hjoin
    have hsmall₀ : d₀.hasSmallLimit = true := rfl
    rw [hraised, discounted, if_pos hsmall₀]
    norm_num
  · have htenths : tenths 7 = 18 := rfl
    rw [estimate_eq, costQuarters_eq, if_pos hsmall, hhalves, htenths]
    norm_num

end Draft

end QueryDraft.Sql
