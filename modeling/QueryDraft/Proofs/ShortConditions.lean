import QueryDraft.Proofs.Checks
import QueryDraft.Proofs.Spellings

/-!
# Conditions with one argument after the field

`namesNullCheck` decides whether the argument of a short condition is a null check, and
`Operator.parse` then reads which one. Both see the same spellings (`namesNullCheck_iff`), so a
short condition whose argument is not an operator word never fails on it: it is a null check
(`short_nullCheck`) or an equality with it (`short_value`).
-/

namespace QueryDraft.Sql

namespace Condition

variable {v w field : Value} {connector : Connector} {f : String} {o : Operator}

theorem namesNullCheck_iff :
    namesNullCheck v ↔ ∃ o : Operator, o.isNullCheck ∧ v.text?.bind Operator.ofText? = some o := by
  unfold namesNullCheck
  cases v.text? with
  | none => simp
  | some s =>
    simp only [Option.bind_some, Operator.ofText?_eq_some_iff, Bool.or_eq_true, beq_iff_eq]
    constructor
    · rintro (h | h)
      · exact ⟨.isNull, rfl, h⟩
      · exact ⟨.isNotNull, rfl, h⟩
    · rintro ⟨o, ho, h⟩
      cases o <;> simp_all [Operator.isNullCheck]

theorem make_of_fitValue (hf : requireText .conditionField field = .ok f)
    (hfit : fitValue o v = .ok w) : make field o v connector = .ok ⟨f, o, w, connector⟩ := by
  rw [make, hf, ok_bind, hfit]
  rfl

theorem fitValue_nullCheck (ho : o.isNullCheck) : fitValue o .null = .ok .null := by
  cases o <;> first | rfl | contradiction

theorem compare_nullCheck (hf : requireText .conditionField field = .ok f)
    (ho : o.isNullCheck) (hw : Operator.parse w = .ok o) :
    compare field w .null connector = .ok ⟨f, o, .null, connector⟩ := by
  rw [compare, hw, ok_bind]
  exact make_of_fitValue hf (fitValue_nullCheck ho)

theorem compare_eq (hf : requireText .conditionField field = .ok f)
    (hw : Operator.parse w = .ok .eq) :
    compare field w v connector = .ok ⟨f, .eq, normalize v, connector⟩ := by
  rw [compare, hw, ok_bind]
  exact make_of_fitValue hf rfl

theorem short_operator (o : Operator) :
    short field (.word (.operator o)) connector =
      compare field (.word (.operator o)) .null connector := rfl

theorem short_nullCheck (hf : requireText .conditionField field = .ok f)
    (ho : o.isNullCheck) (hv : v.text?.bind Operator.ofText? = some o) :
    short field v connector = .ok ⟨f, o, .null, connector⟩ := by
  have hparse : Operator.parse v = .ok o := Operator.parse_eq_ok_iff.2 hv
  have hnames : namesNullCheck v := namesNullCheck_iff.2 ⟨o, ho, hv⟩
  unfold short
  split
  case h_1 p =>
    obtain rfl : p = o := by simpa [Operator.parse] using hparse
    exact make_of_fitValue hf (fitValue_nullCheck ho)
  case h_2 =>
    rw [if_pos hnames, hparse, ok_bind]
    exact make_of_fitValue hf (fitValue_nullCheck ho)

theorem short_value (hf : requireText .conditionField field = .ok f)
    (hv : ∀ o, v ≠ .word (.operator o)) (hnames : ¬ namesNullCheck v) :
    short field v connector = .ok ⟨f, .eq, normalize v, connector⟩ := by
  unfold short
  split
  case h_1 p => exact absurd rfl (hv p)
  case h_2 =>
    rw [if_neg hnames]
    exact make_of_fitValue hf rfl

theorem exists_short (hf : requireText .conditionField field = .ok f)
    (hv : ∀ o, v ≠ .word (.operator o)) : ∃ c, short field v connector = .ok c := by
  by_cases hnames : namesNullCheck v
  · obtain ⟨o, ho, hread⟩ := namesNullCheck_iff.1 hnames
    exact ⟨_, short_nullCheck hf ho hread⟩
  · exact ⟨_, short_value hf hv hnames⟩

theorem short_eq_nullCheck_iff (hf : requireText .conditionField field = .ok f)
    (hv : ∀ o, v ≠ .word (.operator o)) (ho : o.isNullCheck) (hw : Operator.parse w = .ok o) :
    short field v connector = compare field w .null connector ↔
      v.text?.bind Operator.ofText? = some o := by
  rw [compare_nullCheck hf ho hw]
  constructor
  · intro h
    by_cases hnames : namesNullCheck v
    · obtain ⟨p, hp, hread⟩ := namesNullCheck_iff.1 hnames
      rw [short_nullCheck hf hp hread] at h
      obtain rfl : p = o := by simpa using h
      exact hread
    · rw [short_value hf hv hnames] at h
      obtain rfl : Operator.eq = o := (Condition.mk.inj (Except.ok.inj h)).2.1
      contradiction
  · exact short_nullCheck hf ho

theorem short_eq_equality_iff (hf : requireText .conditionField field = .ok f)
    (hv : ∀ o, v ≠ .word (.operator o)) (hw : Operator.parse w = .ok .eq) :
    short field v connector = compare field w v connector ↔ ¬ namesNullCheck v := by
  rw [compare_eq hf hw]
  constructor
  · intro h hnames
    obtain ⟨p, hp, hread⟩ := namesNullCheck_iff.1 hnames
    rw [short_nullCheck hf hp hread] at h
    obtain rfl : p = .eq := (Condition.mk.inj (Except.ok.inj h)).2.1
    contradiction
  · exact short_value hf hv

end Condition

namespace Draft

variable (d : Draft) {connector : Connector} {field v w x : Value}

theorem exists_call_short_iff :
    (∃ d', d.call (.condition connector field v) = .ok d') ↔
      ∃ c, Condition.short field v connector = .ok c := by
  simp only [call, Call.check, exists_map_eq_ok, exists_bind_eq_ok]
  simp

theorem call_short_eq_iff :
    d.call (.condition connector field v) = d.call (.condition connector field w (some x)) ↔
      Condition.short field v connector = Condition.compare field w x connector := by
  simp only [call, Call.check]
  cases Condition.short field v connector <;> cases Condition.compare field w x connector <;>
    simp [edit]

/-- A short condition is the call with an operator word and no value, with the null check that its
argument spells, or with equality. -/
theorem call_short (connector : Connector) (hfield : field.trimmed?.isSome) (v : Value) :
    let short := d.call (.condition connector field v)
    let long := fun operator value => d.call (.condition connector field operator (some value))
    (∀ o, v = .word (.operator o) → short = long v .null) ∧
    ((∀ o, v ≠ .word (.operator o)) →
      (∃ d', short = .ok d') ∧
      (∀ (o : Operator) (operator : Value), o.isNullCheck → Operator.parse operator = .ok o →
        (short = long operator .null ↔
          ∃ s, v.text? = some s ∧ Text.upper (Text.collapse s) = o.text)) ∧
      ∀ operator, Operator.parse operator = .ok .eq →
        (short = long operator v ↔ ¬ ∃ (o : Operator) (s : String), o.isNullCheck ∧
          v.text? = some s ∧ Text.upper (Text.collapse s) = o.text)) := by
  intro short long
  have hspelled : ∀ o : Operator, (∃ s, v.text? = some s ∧ Text.upper (Text.collapse s) = o.text) ↔
      v.text?.bind Operator.ofText? = some o := fun o => by
    simp only [Option.bind_eq_some_iff, Operator.ofText?_eq_some_iff, canonical]
  obtain ⟨f, hf⟩ := Option.isSome_iff_exists.1 hfield
  replace hf : requireText .conditionField field = .ok f := requireText_eq_ok.2 hf
  refine ⟨?_, fun hv => ⟨?_, fun o w ho hw => ?_, fun w hw => ?_⟩⟩
  · rintro o rfl
    exact d.call_short_eq_iff.2 (Condition.short_operator o)
  · exact d.exists_call_short_iff.2 (Condition.exists_short hf hv)
  · rw [d.call_short_eq_iff, Condition.short_eq_nullCheck_iff hf hv ho hw, hspelled]
  · rw [d.call_short_eq_iff, Condition.short_eq_equality_iff hf hv hw,
      Condition.namesNullCheck_iff]
    simp only [exists_and_left, hspelled]

theorem call_short_null_or_text :
    let d : Draft := {}
    let status := Value.text " status "
    d.call (.condition .or status (.text "iS\u2003nULL")) =
      d.call (.condition .or status (.text "IS NULL") (some .null)) ∧
    d.call (.condition .and status (.text "NOT NULL")) =
      d.call (.condition .and status (.text "=") (some (.text "NOT NULL"))) := by
  intro d status
  have hfield : status.trimmed?.isSome := by decide +kernel
  have hparse : ∀ o : Operator, Operator.parse (.text o.text) = .ok o := fun o => by
    rw [Operator.parse_eq_ok_iff, Value.text?, Option.bind_some, Operator.ofText?_text]
  constructor
  · obtain ⟨-, hnull, -⟩ := (d.call_short .or hfield (.text "iS\u2003nULL")).2 (by simp)
    have hcanonical : Text.upper (Text.collapse "iS\u2003nULL") = Operator.isNull.text := by
      decide +kernel
    exact (hnull .isNull _ rfl (hparse .isNull)).2 ⟨_, rfl, hcanonical⟩
  · obtain ⟨-, -, hequality⟩ := (d.call_short .and hfield (.text "NOT NULL")).2 (by simp)
    refine (hequality _ (hparse .eq)).2 ?_
    rintro ⟨o, s, ho, hs, hcanonical⟩
    obtain rfl := Option.some.inj hs
    rw [← canonical, canonical_eq_self (by decide +kernel) (by decide)] at hcanonical
    cases o <;> simp [Operator.isNullCheck, Operator.text] at ho hcanonical

end Draft

end QueryDraft.Sql
