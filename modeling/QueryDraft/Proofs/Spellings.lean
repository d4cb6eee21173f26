import QueryDraft.Proofs.Outcome
import QueryDraft.Proofs.Respelling
import QueryDraft.Search.Draft
import QueryDraft.Sql.Draft

/-!
# Spellings for words

Each vocabulary brings a text into a normal form and looks for the word whose text that is. The
text of a word is its own normal form, so a parser returns a word exactly if the value is a text
with that normal form (`Operator.parse_eq_ok_iff`). A spelling of a word has the same normal form as
the word: wherever a call takes a word, it takes a spelling of it with the same outcome
(`spelling_for_word`).
-/

namespace QueryDraft

/-- A value is a text that spells a word. -/
def Value.Spells (gap : Char → Bool) (v : Value) (word : String) : Prop :=
  ∃ s, v.text? = some s ∧ SpellsIn gap word s

theorem find?_text_eq_some_iff {α : Type} {words : List α} {text : α → String}
    (hfind : ∀ w, words.find? (fun u => text u == text w) = some w) {t : String} {w : α} :
    words.find? (fun u => text u == t) = some w ↔ t = text w := by
  constructor
  · intro h
    have hsame := List.find?_some h
    exact (beq_iff_eq.1 hsame).symm
  · rintro rfl
    exact hfind w

theorem canonical_eq_self {t : String} (hcollapse : Text.collapse t = t)
    (hupper : t.toList.all (·.toNat < 0x61)) : canonical t = t := by
  rw [canonical, hcollapse, Text.upper_eq_self hupper]

variable {v : Value} {s : String}

namespace Operator

variable {o : Operator}

theorem canonical_text (o : Operator) : canonical o.text = o.text := by
  apply canonical_eq_self <;> cases o <;> decide +kernel

theorem ofText?_eq_some_iff : ofText? s = some o ↔ canonical s = o.text :=
  find?_text_eq_some_iff fun o => by cases o <;> rfl

@[simp] theorem ofText?_text (o : Operator) : ofText? o.text = some o :=
  ofText?_eq_some_iff.2 (canonical_text o)

theorem parse_eq_ok_iff : parse v = .ok o ↔ v.text?.bind ofText? = some o := by
  unfold parse
  split
  · simp [Value.text?, Word.text]
  · cases v.text?.bind ofText? <;> simp

theorem parse_of_spells (h : v.Spells Text.isBlank o.text) : parse v = .ok o := by
  obtain ⟨s, hs, hspells⟩ := h
  rw [parse_eq_ok_iff, hs, Option.bind_some, ofText?_eq_some_iff, hspells.canonical_eq,
    canonical_text]

end Operator

namespace JoinKind

variable {k : JoinKind}

theorem canonical_text (k : JoinKind) : canonical k.text = k.text := by
  apply canonical_eq_self <;> cases k <;> decide +kernel

theorem ofText?_eq_some_iff : ofText? s = some k ↔
    canonical (s.map fun c => if c = '_' then ' ' else c) = k.text :=
  find?_text_eq_some_iff fun k => by cases k <;> rfl

@[simp] theorem ofText?_text (k : JoinKind) : ofText? k.text = some k := by
  have hspaces : (k.text.map fun c => if c = '_' then ' ' else c) = k.text := by
    cases k <;> decide +kernel
  rw [ofText?_eq_some_iff, hspaces, canonical_text]

theorem parse_eq_ok_iff : parse v = .ok k ↔ v.text?.bind ofText? = some k := by
  unfold parse
  split
  · simp [Value.text?, Word.text]
  · cases v.text?.bind ofText? <;> simp

theorem parse_of_spells (h : v.Spells Text.isGap k.text) : parse v = .ok k := by
  obtain ⟨s, hs, hspells⟩ := h
  have hline : '_' ∉ k.text.toList := by cases k <;> decide
  rw [parse_eq_ok_iff, hs, Option.bind_some, ofText?_eq_some_iff,
    (hspells.underscoresToSpaces hline).canonical_eq, canonical_text]

end JoinKind

namespace Direction

variable {d : Direction}

theorem upper_text (d : Direction) : Text.upper d.text = d.text := by
  apply Text.upper_eq_self
  cases d <;> decide

theorem ofText?_eq_some_iff : ofText? s = some d ↔ Text.upper (Text.trim s) = d.text :=
  find?_text_eq_some_iff fun d => by cases d <;> rfl

@[simp] theorem ofText?_text (d : Direction) : ofText? d.text = some d := by
  have htrim : Text.trim d.text = d.text := by cases d <;> decide +kernel
  rw [ofText?_eq_some_iff, htrim, upper_text]

theorem parse_eq_ok_iff : parse v = .ok d ↔ v.text?.bind ofText? = some d := by
  unfold parse
  split
  · simp [Value.text?, Word.text]
  · cases v.text?.bind ofText? <;> simp

theorem parse_of_spells (h : v.Spells Text.isBlank d.text) : parse v = .ok d := by
  obtain ⟨s, hs, hspells⟩ := h
  have hsame := hspells.map_toUpper_trim (by cases d <;> decide) (by cases d <;> decide)
  rw [parse_eq_ok_iff, hs, Option.bind_some, ofText?_eq_some_iff, Text.upper_congr hsame,
    upper_text]

end Direction

namespace SortOrder

variable {o : SortOrder}

theorem lower_text (o : SortOrder) : Text.lower o.text = o.text := by
  apply Text.lower_eq_self
  cases o <;> decide

theorem ofText?_eq_some_iff : ofText? s = some o ↔ Text.lower (Text.trim s) = o.text :=
  find?_text_eq_some_iff fun o => by cases o <;> rfl

@[simp] theorem ofText?_text (o : SortOrder) : ofText? o.text = some o := by
  have htrim : Text.trim o.text = o.text := by cases o <;> decide +kernel
  rw [ofText?_eq_some_iff, htrim, lower_text]

theorem parse_eq_ok_iff : parse v = .ok o ↔ v.text?.bind ofText? = some o := by
  unfold parse
  split
  · simp [Value.text?, Word.text]
  · cases v.text?.bind ofText? <;> simp

theorem parse_of_spells (h : v.Spells Text.isBlank o.text) : parse v = .ok o := by
  obtain ⟨s, hs, hspells⟩ := h
  have hsame := hspells.map_toUpper_trim (by cases o <;> decide) (by cases o <;> decide)
  have hsigma : 'Σ' ∉ o.text.toList := by cases o <;> decide
  rw [parse_eq_ok_iff, hs, Option.bind_some, ofText?_eq_some_iff, Text.lower_congr hsame hsigma,
    lower_text]

end SortOrder

/-! ## Calls -/

theorem Sql.Condition.compare_congr {v w : Value} (h : Operator.parse v = Operator.parse w)
    (field value : Value) (connector : Connector) :
    compare field v value connector = compare field w value connector := by
  rw [compare, compare, h]

theorem Sql.Join.make_congr {v w : Value} (h : JoinKind.parse v = JoinKind.parse w)
    (table on : Value) : make table on v = make table on w := by
  rw [make, make, h]

/-- A spelling does what the word does: of an operator in a condition and a group condition, of a
join kind, which may have underscores in it, of a direction and of a sort order. -/
theorem spelling_for_word :
    (∀ (d : Sql.Draft) (o : Operator) (v : Value), v.Spells Text.isBlank o.text →
      ∀ field value : Value,
        (∀ connector, d.call (.condition connector field v (some value)) =
          d.call (.condition connector field (.word (.operator o)) (some value))) ∧
        d.call (.having field v value) = d.call (.having field (.word (.operator o)) value)) ∧
    (∀ (d : Sql.Draft) (k : JoinKind) (v : Value), v.Spells Text.isGap k.text →
      ∀ table on : Value,
        d.call (.join table on v) = d.call (.join table on (.word (.joinKind k)))) ∧
    (∀ (d : Sql.Draft) (r : Direction) (v : Value), v.Spells Text.isBlank r.text →
      ∀ field : Value,
        d.call (.orderBy field v) = d.call (.orderBy field (.word (.direction r)))) ∧
    (∀ (d : Search.Draft) (o : SortOrder) (v : Value), v.Spells Text.isBlank o.text →
      ∀ field : Value,
        d.call (.sort field v) = d.call (.sort field (.word (.sortOrder o)))) := by
  refine ⟨fun d o v h field value => ?_, fun d k v h table on => ?_, fun d r v h field => ?_,
    fun d o v h field => ?_⟩
  · have hparse : Operator.parse v = Operator.parse (.word (.operator o)) :=
      Operator.parse_of_spells h
    constructor
    · intro connector
      simp only [Sql.Draft.call, Sql.Call.check, Sql.Condition.compare_congr hparse]
    · simp only [Sql.Draft.call, Sql.Call.check, Sql.Condition.compare_congr hparse]
  · have hparse : JoinKind.parse v = JoinKind.parse (.word (.joinKind k)) :=
      JoinKind.parse_of_spells h
    simp only [Sql.Draft.call, Sql.Call.check, Sql.Join.make_congr hparse]
  · have hparse : Direction.parse v = Direction.parse (.word (.direction r)) :=
      Direction.parse_of_spells h
    simp only [Sql.Draft.call, Sql.Call.check, hparse]
  · have hparse : SortOrder.parse v = SortOrder.parse (.word (.sortOrder o)) :=
      SortOrder.parse_of_spells h
    simp only [Search.Draft.call, Search.Call.check, hparse]

open Text.Respells in
theorem spelling_for_word_mixed :
    let d : Sql.Draft := {}
    let status := Value.text "status"
    d.call (.condition .or status (.text "\u2003nOt\t in ") (some (.list [.int 1]))) =
      d.call (.condition .or status (.word (.operator .notIn)) (some (.list [.int 1]))) ∧
    d.call (.having status (.text "\u2003nOt\t in ") .null) =
      d.call (.having status (.word (.operator .notIn)) .null) ∧
    d.call (.join (.text "orders") (.text "a = b") (.text "full_ \u00a0_Outer")) =
      d.call (.join (.text "orders") (.text "a = b") (.word (.joinKind .fullOuter))) ∧
    d.call (.orderBy status (.text " dEsc\n")) =
      d.call (.orderBy status (.word (.direction .desc))) ∧
    Search.Draft.call {} (.sort status (.text "\x1fAsC")) =
      Search.Draft.call {} (.sort status (.word (.sortOrder .asc))) := by
  have hnotIn : (Value.text "\u2003nOt\t in ").Spells Text.isBlank Operator.notIn.text := by
    refine ⟨_, rfl, ['\u2003'], ['n', 'O', 't', '\t', ' ', 'i', 'n'], [' '], by decide, by decide,
      by decide, ?_⟩
    refine .letter (by decide) (by decide) <| .letter (by decide) (by decide) <|
      .letter (by decide) (by decide) <| .space (by decide : ['\t', ' '] ≠ []) (by decide) ?_
    exact (iff_of_single_word (by decide)).2 (by decide)
  have hfullOuter :
      (Value.text "full_ \u00a0_Outer").Spells Text.isGap JoinKind.fullOuter.text := by
    refine ⟨_, rfl, [], "full_ \u00a0_Outer".toList, [], by decide, by decide, by decide, ?_⟩
    refine .letter (by decide) (by decide) <| .letter (by decide) (by decide) <|
      .letter (by decide) (by decide) <| .letter (by decide) (by decide) <|
      .space (by decide : ['_', ' ', '\u00a0', '_'] ≠ []) (by decide) ?_
    exact (iff_of_single_word (by decide)).2 (by decide)
  have hdesc : (Value.text " dEsc\n").Spells Text.isBlank Direction.desc.text :=
    ⟨_, rfl, [' '], ['d', 'E', 's', 'c'], ['\n'], by decide, by decide, by decide,
      (iff_of_single_word (by decide)).2 (by decide)⟩
  have hasc : (Value.text "\x1fAsC").Spells Text.isBlank SortOrder.asc.text :=
    ⟨_, rfl, ['\x1f'], ['A', 's', 'C'], [], by decide, by decide, by decide,
      (iff_of_single_word (by decide)).2 (by decide)⟩
  obtain ⟨hcondition, hjoin, horder, hsort⟩ := spelling_for_word
  exact ⟨(hcondition _ _ _ hnotIn _ _).1 _, (hcondition _ _ _ hnotIn _ _).2,
    hjoin _ _ _ hfullOuter _ _, horder _ _ _ hdesc _, hsort _ _ _ hasc _⟩

end QueryDraft
