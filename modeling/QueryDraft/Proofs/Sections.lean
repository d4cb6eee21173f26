import QueryDraft.Config.Definition
import QueryDraft.Proofs.Outcome

/-!
# What the readers of sections let through

A reader of one value succeeds exactly when the value is of the kind that it wants, and then gives
what the value is (`expect_eq_ok` and its instances); a reader of a binding succeeds exactly when
the name is bound (`require_eq_ok`). A list is read item by item, each under a key of its own
(`places_eq_ok`).
-/

namespace QueryDraft.Config

variable {α β : Type} {es : Entries} {key name : String} {v w : Value}

theorem expect_eq_ok {wanted : SettingKind} {view : Value → Option α} {a : α} :
    expect wanted view key v = .ok a ↔ view v = some a := by
  unfold expect
  cases view v <;> simp

theorem expectText_eq_ok {s : String} : expectText key v = .ok s ↔ v.text? = some s :=
  expect_eq_ok

theorem expectSpelling_eq_ok : expectSpelling key v = .ok w ↔ (∃ s, v.text? = some s) ∧ v = w := by
  simp only [expectSpelling, bind_eq_ok, pure_eq_ok, expectText_eq_ok, exists_and_right]

theorem expectBool_eq_ok {b : Bool} : expectBool key v = .ok b ↔ v = .bool b := by
  rw [expectBool, expect_eq_ok]
  cases v <;> simp [View.bool?]

theorem expectInt_eq_ok {n : Int} : expectInt key v = .ok n ↔ v = .int n := by
  rw [expectInt, expect_eq_ok]
  cases v <;> simp [Value.int?]

theorem expectMapping_eq_ok : expectMapping key v = .ok es ↔ v = .map es := by
  rw [expectMapping, expect_eq_ok]
  cases v <;> simp [Value.entries?]

theorem expectList_eq_ok {vs : List Value} : expectList key v = .ok vs ↔ v = .list vs := by
  rw [expectList, expect_eq_ok]
  cases v <;> simp [View.list?]

theorem require_eq_ok {full : String} :
    require es name full = .ok v ↔ Entries.get? es name = some v := by
  unfold require
  cases Entries.get? es name <;> simp

theorem requireTextAt_eq_ok {s : String} :
    requireTextAt es key name = .ok s ↔ ∃ v, Entries.get? es name = some v ∧ v.text? = some s := by
  simp [requireTextAt, bind_eq_ok, require_eq_ok, expectText_eq_ok]

/-- Where each item that is read gives what a function makes of something, the items together give
the image of a list. -/
theorem exists_map_of_places {read : String → Value → Outcome α} {f : β → α}
    {P : Value → β → Prop} (hread : ∀ k v a, read k v = .ok a → ∃ b, a = f b ∧ P v b) :
    ∀ {index : Nat} {vs : List Value} {as : List α}, places read key index vs = .ok as →
      ∃ bs, as = bs.map f ∧ List.Forall₂ P vs bs
  | _, [], as, h => by
    obtain rfl := Except.ok.inj h
    exact ⟨[], rfl, .nil⟩
  | index, v :: vs, as, h => by
    simp only [places, bind_eq_ok, pure_eq_ok] at h
    obtain ⟨a, ha, rest, hrest, rfl⟩ := h
    obtain ⟨b, rfl, hb⟩ := hread _ _ _ ha
    obtain ⟨bs, rfl, hbs⟩ := exists_map_of_places hread hrest
    exact ⟨b :: bs, rfl, .cons hb hbs⟩

theorem forall₂_of_places {read : String → Value → Outcome α} {P : Value → α → Prop}
    (hread : ∀ k v a, read k v = .ok a → P v a) {index : Nat} {vs : List Value} {as : List α}
    (h : places read key index vs = .ok as) : List.Forall₂ P vs as := by
  obtain ⟨bs, rfl, hbs⟩ :=
    exists_map_of_places (f := id) (fun k v a ha => ⟨a, rfl, hread k v a ha⟩) h
  rwa [List.map_id]

/-- Each item is read under its own key. -/
theorem places_eq_ok {read : String → Value → Outcome α} :
    ∀ {index : Nat} {vs : List Value} {as : List α}, places read key index vs = .ok as ↔
      List.Forall₂ (fun v a => read (itemKey key v.2) v.1 = .ok a) (vs.zipIdx index) as
  | _, [], as => by simp [places, eq_comm]
  | index, v :: vs, as => by
    simp only [places, bind_eq_ok, pure_eq_ok, places_eq_ok, List.zipIdx_cons]
    constructor
    · rintro ⟨a, ha, rest, hrest, rfl⟩
      exact .cons ha hrest
    · rintro (_ | ⟨ha, hrest⟩)
      exact ⟨_, ha, _, hrest, rfl⟩

theorem forall_mem_of_places {read : String → Value → Outcome α} {P : α → Prop}
    (hread : ∀ k v a, read k v = .ok a → P a) {index : Nat} {vs : List Value} {as : List α}
    (h : places read key index vs = .ok as) : ∀ a ∈ as, P a :=
  forall_mem_of_forall₂ (places_eq_ok.1 h) fun _ _ ha => hread _ _ _ ha

/-- What a reader makes of items of a kind, of which all items are. -/
theorem forall_mem_of_places_of {read : String → Value → Outcome α} {Q : Value → Prop}
    {P : α → Prop} (hread : ∀ k v a, Q v → read k v = .ok a → P a) {index : Nat} {vs : List Value}
    {as : List α} (hvs : ∀ v ∈ vs, Q v) (h : places read key index vs = .ok as) :
    ∀ a ∈ as, P a :=
  forall_mem_of_forall₂_of (places_eq_ok.1 h)
    (fun v hv => hvs v.1 (List.fst_mem_of_mem_zipIdx hv)) fun _ _ => hread _ _ _

namespace Definition

/-- The key in front of a refusal does not touch what is read. -/
theorem under_eq_ok {o : Outcome α} {a : α} : under key o = .ok a ↔ o = .ok a := by
  rcases o with x | b
  · cases x <;> simp [under]
  · simp [under]

end Definition

end QueryDraft.Config
