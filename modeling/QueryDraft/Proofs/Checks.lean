import QueryDraft.Proofs.Outcome
import QueryDraft.Proofs.Trim
import QueryDraft.Search.Part

/-!
# What the checks let through

A text that a check lets through is trimmed, alone or as a member of a collection, and a count is
not negative. Texts that were let through are let through again as they are
(`requireCollection_textTuple`). Bounds are made only where one is set.
-/

namespace QueryDraft

open Text (IsTrimmed)

theorem isTrimmed_of_text? {v : Value} {s : String} (h : v.text?.bind Text.nonBlank? = some s) :
    IsTrimmed s := by
  obtain ⟨t, -, ht⟩ := Option.bind_eq_some_iff.1 h
  exact Text.isTrimmed_of_nonBlank? ht

/-- The text that a value comes to when it is trimmed, if it is a text that is not blank. -/
def Value.trimmed? (v : Value) : Option String := v.text?.bind Text.nonBlank?

theorem requireText_eq_ok {slot : TextSlot} {v : Value} {s : String} :
    requireText slot v = .ok s ↔ v.trimmed? = some s := by
  unfold requireText Value.trimmed?
  cases v.text?.bind Text.nonBlank? <;> simp

theorem isTrimmed_of_requireText {slot : TextSlot} {v : Value} {s : String}
    (h : requireText slot v = .ok s) : IsTrimmed s :=
  isTrimmed_of_text? (requireText_eq_ok.1 h)

theorem isTrimmed_of_requireTexts {slot : TextSlot} {v : Value} {ss : List String}
    (h : requireTexts slot v = .ok ss) : ∀ s ∈ ss, IsTrimmed s := by
  unfold requireTexts at h
  split at h
  · simp only [bind_eq_ok, pure_eq_ok] at h
    obtain ⟨s, hs, rfl⟩ := h
    simpa using isTrimmed_of_requireText hs
  · split at h
    · exact forall_mem_of_mapM (fun _ _ => isTrimmed_of_requireText) h
    · simp at h

theorem requireCount_eq_ok {slot : CountSlot} {v : Value} {n : Int} :
    requireCount slot v = .ok n ↔ v.int? = some n ∧ 0 ≤ n := by
  unfold requireCount
  cases hv : v.int? with
  | none => simp
  | some m =>
    dsimp only
    split_ifs with hneg
    · simp only [refuse_ne_ok, false_iff, Option.some.injEq, not_and]
      omega
    · simp only [Except.ok.injEq, Option.some.injEq]
      omega

theorem nonneg_of_requireCount {slot : CountSlot} {v : Value} {n : Int}
    (h : requireCount slot v = .ok n) : 0 ≤ n :=
  (requireCount_eq_ok.1 h).2

theorem requireMember_eq_ok {slot : TextsSlot} {v : Value} {s : String} :
    requireMember slot v = .ok s ↔ v.text?.bind Text.nonBlank? = some s := by
  unfold requireMember
  cases v.text?.bind Text.nonBlank? <;> simp

theorem isTrimmed_of_requireMember {slot : TextsSlot} {v : Value} {s : String}
    (h : requireMember slot v = .ok s) : IsTrimmed s :=
  isTrimmed_of_text? (requireMember_eq_ok.1 h)

theorem isTrimmed_of_requireCollection {slot : TextsSlot} {v : Value} {ss : List String}
    (h : requireCollection slot v = .ok ss) : ∀ s ∈ ss, IsTrimmed s := by
  unfold requireCollection at h
  have hone : (do return [← requireMember slot v]) = Except.ok ss → ∀ s ∈ ss, IsTrimmed s := by
    intro h
    simp only [bind_eq_ok, pure_eq_ok] at h
    obtain ⟨s, hs, rfl⟩ := h
    simpa using isTrimmed_of_requireMember hs
  split at h
  · exact hone h
  · exact hone h
  · simp_all
  · simp at h
  · split at h
    · exact forall_mem_of_mapM (fun _ _ => isTrimmed_of_requireMember) h
    · simp at h

theorem mapM_text?_text (names : List String) :
    (names.map Value.text).mapM Value.text? = some names := by
  induction names with
  | nil => rfl
  | cons name names ih =>
    rw [List.map_cons, List.mapM_cons, ih]
    rfl

/-- Texts that passed once pass again as they are. -/
theorem requireCollection_textTuple {slot : TextsSlot} {ss : List String}
    (h : ∀ s ∈ ss, IsTrimmed s) : requireCollection slot (.textTuple ss) = .ok ss := by
  have hmem : ∀ v ∈ ss.map Value.text, requireMember slot v = .ok (v.text?.getD "") := by
    intro v hv
    obtain ⟨s, hs, rfl⟩ := List.mem_map.1 hv
    exact requireMember_eq_ok.2 (h s hs).nonBlank?
  show (ss.map Value.text).mapM (requireMember slot) = .ok ss
  rw [mapM_ok hmem, List.map_map]
  exact congrArg _ (List.map_id ss)

theorem Bounds.isEmpty_of_make {gte gt lte lt : Value} {b : Bounds}
    (h : make gte gt lte lt = .ok b) : b.isEmpty = false := by
  simp only [make] at h
  split_ifs at h with hempty
  · simp at h
  · obtain rfl := Except.ok.inj h
    simpa using hempty

theorem Aggregation.makeTerms_eq_ok {field size : Value} {a : Aggregation} :
    makeTerms field size = .ok a
      ↔ ∃ n, size.number? = some n ∧ n.isNegative = false ∧ .terms field size = a := by
  unfold makeTerms
  cases size.number? with
  | none => simp
  | some n => cases hn : n.isNegative <;> simp [hn]

theorem Highlight.make_eq_ok {fields pre post size : Value} {h : Highlight} :
    make fields pre post size = .ok h ↔
      requireCollection .highlightFields fields = .ok h.fields ∧ h.fields ≠ []
        ∧ pre.items? = some h.preTags ∧ post.items? = some h.postTags ∧ size = h.fragmentSize := by
  obtain ⟨names, preTags, postTags, fragmentSize⟩ := h
  simp only [make, bind_eq_ok]
  constructor
  · rintro ⟨names', hnames, hmake⟩
    split at hmake
    · rename_i pre' post' hpre hpost
      split_ifs at hmake with hempty
      · simp at hmake
      · obtain ⟨rfl, rfl, rfl, rfl⟩ := Highlight.mk.inj (pure_eq_ok.1 hmake)
        exact ⟨hnames, by simpa using hempty, hpre, hpost, rfl⟩
    · simp at hmake
  · rintro ⟨hnames, hne, hpre, hpost, rfl⟩
    exact ⟨names, hnames, by simp [hpre, hpost, hne]⟩

end QueryDraft
