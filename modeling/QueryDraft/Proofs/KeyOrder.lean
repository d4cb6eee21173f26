import Mathlib.Data.List.Induction
import Mathlib.Data.Prod.Lex
import Mathlib.Data.Rat.Cast.Order
import Mathlib.Data.String.Basic
import Mathlib.Order.WithBot
import QueryDraft.Config.Section
import QueryDraft.Proofs.NumberOrder
import QueryDraft.Proofs.Overlay
import QueryDraft.Search.Part

/-!
# Mappings whose entries stand in another order

Which entry is found under a key does not depend on the order of the entries, if the keys are told
apart (`Permuted.get?_eq`). What a mapping is refused for does not either: the keys that are listed
are sorted first. Keys of one sort lie in a line, so one order is all that they can be sorted into
(`mergeSort_eq`), and keys that cannot be compared fail in every order (`sorted?_eq`).
-/

namespace QueryDraft

/-! ## Sorting -/

section Sorting

variable {α κ : Type} [LinearOrder κ]

theorem pairwise_mergeSort_of (f : α → κ) {le : α → α → Bool} {l : List α}
    (hle : ∀ a ∈ l, ∀ b ∈ l, le a b = decide (f a ≤ f b)) :
    (l.mergeSort le).Pairwise fun a b => f a ≤ f b := by
  have hsorted : ((l.map f).mergeSort fun a b => decide (a ≤ b)).Pairwise
      fun a b => decide (a ≤ b) := by
    refine List.pairwise_mergeSort (fun a b c hab hbc => ?_) (fun a b => ?_) _
    · rw [decide_eq_true_iff] at hab hbc ⊢
      exact hab.trans hbc
    · rw [Bool.or_eq_true, decide_eq_true_iff, decide_eq_true_iff]
      exact le_total a b
  rw [← List.map_mergeSort hle, List.pairwise_map] at hsorted
  exact hsorted.imp of_decide_eq_true

/-- Things that a line tells apart are sorted into one list, whatever order they are in. -/
theorem mergeSort_eq (f : α → κ) {le : α → α → Bool} {l l' : List α} (h : l.Perm l')
    (hle : ∀ a ∈ l, ∀ b ∈ l, le a b = decide (f a ≤ f b))
    (hinj : ∀ a ∈ l, ∀ b ∈ l, f a = f b → a = b) : l.mergeSort le = l'.mergeSort le := by
  have hle' : ∀ a ∈ l', ∀ b ∈ l', le a b = decide (f a ≤ f b) := fun a ha b hb =>
    hle a (h.mem_iff.2 ha) b (h.mem_iff.2 hb)
  refine List.Perm.eq_of_pairwise (fun a b ha hb hab hba => ?_) (pairwise_mergeSort_of f hle)
    (pairwise_mergeSort_of f hle')
    ((List.mergeSort_perm _ _).trans (h.trans (List.mergeSort_perm _ _).symm))
  rw [List.mem_mergeSort] at ha hb
  exact hinj a ha b (h.mem_iff.2 hb) (le_antisymm hab hba)

end Sorting

/-! ## The order of keys -/

namespace Value

/-- The sorts of keys that definitions are written with: texts, numbers, truths, days, and none. -/
def IsPlainKey : Value → Prop
  | .null | .bool _ | .int _ | .float _ | .text _ | .word _ | .date _ => True
  | _ => False

end Value

/-- A place as a point of a line with two ends. -/
def Place.point : Place → WithBot (WithTop ℚ)
  | .below => ⊥
  | .at x => ((x.toRat : WithTop ℚ) : WithBot (WithTop ℚ))
  | .above => ((⊤ : WithTop ℚ) : WithBot (WithTop ℚ))

theorem Place.lt_iff (p q : Place) : p.lt q = true ↔ p.point < q.point := by
  have htop (x : ℚ) : ((x : WithTop ℚ) : WithBot (WithTop ℚ)) < ⊤ :=
    WithBot.coe_lt_coe.2 (WithTop.coe_lt_top x)
  cases p <;> cases q <;> simp [Place.lt, Place.point, Dyadic.toRat_lt_toRat_iff, htop]

theorem Place.point_injective {p q : Place} (h : p.point = q.point) : p = q := by
  cases p <;> cases q <;> simp_all [Place.point, Dyadic.toRat_inj]

/-- A day as a point of a line. -/
def Date.point (d : Date) : ℕ ×ₗ ℕ ×ₗ ℕ := toLex (d.year, toLex (d.month, d.day))

theorem Date.lt_iff (a b : Date) : a.lt b = true ↔ a.point < b.point := by
  simp [Date.lt, Date.point, Prod.Lex.lt_iff]

theorem Date.point_injective {a b : Date} (h : a.point = b.point) : a = b := by
  cases a
  cases b
  simpa [Date.point] using h

namespace Value

variable {v w : Value}

theorem key?_of_number {a : Number} {p : Place} (hv : v.number? = some a) (hp : a.place? = some p) :
    v.key? = some [.number p] := by
  cases v with
  | bool b =>
    obtain rfl := Option.some.inj hv
    cases b <;> exact congrArg (fun p => some [KeyToken.number p]) (Option.some.inj hp)
  | int n =>
    obtain rfl := Option.some.inj hv
    obtain rfl := Option.some.inj hp
    rfl
  | float x =>
    obtain rfl := Option.some.inj hv
    rw [key?, hp]
    rfl
  | _ => simp [number?] at hv

theorem key?_of_text {s : String} (h : v.text? = some s) : v.key? = some [.text s] := by
  cases v <;> simp_all [text?, key?]

theorem less?_of_text {s t : String} (hv : v.text? = some s) (hw : w.text? = some t) :
    v.less? w = some (decide (s < t)) := by
  cases v <;> simp [text?] at hv <;> cases w <;> simp [text?] at hw <;> subst hv hw <;>
    simp [less?, number?, text?]

theorem sort_of_less? (hv : v.IsPlainKey) (h : (v.less? v).isSome) :
    v.number?.isSome ∨ v.text?.isSome ∨ ∃ d, v = .date d := by
  cases v <;> simp_all [IsPlainKey, less?, number?, text?]

/-- Names that have an order are of one sort. -/
theorem same_sort_of_less? (hv : v.IsPlainKey) (h : (v.less? w).isSome) :
    (v.number?.isSome → w.number?.isSome) ∧ (v.text?.isSome → w.text?.isSome)
      ∧ ((∃ d, v = .date d) → ∃ d, w = .date d) := by
  cases v <;> cases w <;> simp_all [IsPlainKey, less?, number?, text?]

section Line

variable {κ : Type} [LinearOrder κ] {vs vs' : List Value}

theorem mergeSort_less?_eq (f : Value → κ) (h : vs.Perm vs') (hnodup : (vs.map key?).Nodup)
    (hless : ∀ v ∈ vs, ∀ w ∈ vs, v.less? w = some (decide (f v < f w)))
    (hkey : ∀ v ∈ vs, ∀ w ∈ vs, f v = f w → v.key? = w.key?) :
    (vs.mergeSort fun v w => w.less? v != some true)
      = vs'.mergeSort fun v w => w.less? v != some true := by
  refine mergeSort_eq f h (fun v hv w hw => ?_) fun v hv w hw hvw => ?_
  · rw [hless w hw v hv, Bool.eq_iff_iff, decide_eq_true_iff, ← not_lt]
    simp
  · exact List.inj_on_of_nodup_map hnodup hv hw (hkey v hv w hw hvw)

theorem mergeSort_numbers_eq (h : vs.Perm vs') (hnodup : (vs.map key?).Nodup)
    (hvs : ∀ v ∈ vs, v.number?.isSome) (hself : ∀ v ∈ vs, v.key?.isSome) :
    (vs.mergeSort fun v w => w.less? v != some true)
      = vs'.mergeSort fun v w => w.less? v != some true := by
  have hplace : ∀ v ∈ vs, ∃ a p, v.number? = some a ∧ a.place? = some p := by
    intro v hv
    obtain ⟨a, ha⟩ := Option.isSome_iff_exists.1 (hvs v hv)
    cases hp : a.place? with
    | some p => exact ⟨a, p, ha, hp⟩
    | none =>
      -- only what is no number lies nowhere, and it is no key
      have hkey := hself v hv
      cases v <;> simp [number?] at ha <;> subst ha <;> simp_all [key?, Number.place?]
  let f (v : Value) : WithBot (WithTop ℚ) :=
    ((v.number?.bind Number.place?).map Place.point).getD ⊥
  have hf {v : Value} {a : Number} {p : Place} (ha : v.number? = some a) (hp : a.place? = some p) :
      f v = p.point := by simp [f, ha, hp]
  refine mergeSort_less?_eq f h hnodup (fun v hv w hw => ?_) fun v hv w hw hvw => ?_
  · obtain ⟨a, p, ha, hp⟩ := hplace v hv
    obtain ⟨b, q, hb, hq⟩ := hplace w hw
    rw [less?_of_number ha hb, Number.lt, hp, hq, hf ha hp, hf hb hq]
    congr 1
    rw [Bool.eq_iff_iff, decide_eq_true_iff, Place.lt_iff]
  · obtain ⟨a, p, ha, hp⟩ := hplace v hv
    obtain ⟨b, q, hb, hq⟩ := hplace w hw
    rw [hf ha hp, hf hb hq] at hvw
    rw [key?_of_number ha hp, key?_of_number hb hq, Place.point_injective hvw]

theorem mergeSort_texts_eq (h : vs.Perm vs') (hnodup : (vs.map key?).Nodup)
    (hvs : ∀ v ∈ vs, v.text?.isSome) :
    (vs.mergeSort fun v w => w.less? v != some true)
      = vs'.mergeSort fun v w => w.less? v != some true := by
  have htext : ∀ v ∈ vs, v.text? = some (v.text?.getD "") := by
    intro v hv
    obtain ⟨s, hs⟩ := Option.isSome_iff_exists.1 (hvs v hv)
    rw [hs, Option.getD_some]
  refine mergeSort_less?_eq (fun v => v.text?.getD "") h hnodup (fun v hv w hw => ?_)
    fun v hv w hw hvw => ?_
  · exact less?_of_text (htext v hv) (htext w hw)
  · rw [key?_of_text (htext v hv), key?_of_text (htext w hw), hvw]

theorem mergeSort_dates_eq (h : vs.Perm vs') (hnodup : (vs.map key?).Nodup)
    (hvs : ∀ v ∈ vs, ∃ d, v = .date d) :
    (vs.mergeSort fun v w => w.less? v != some true)
      = vs'.mergeSort fun v w => w.less? v != some true := by
  have : Nonempty Date := ⟨⟨1, 1, 1⟩⟩
  choose! day hday using hvs
  refine mergeSort_less?_eq (fun v => (day v).point) h hnodup (fun v hv w hw => ?_)
    fun v hv w hw hvw => ?_
  · have hless : (Value.date (day v)).less? (.date (day w)) = some ((day v).lt (day w)) := rfl
    rw [← hday v hv, ← hday w hw] at hless
    rw [hless, Bool.eq_iff_iff.2 ((Date.lt_iff _ _).trans decide_eq_true_iff.symm)]
  · rw [hday v hv, hday w hw, Date.point_injective hvw]

end Line

/-- Names that are told apart come to one list in order, or to none, whatever order they are in. -/
theorem sorted?_eq {vs vs' : List Value} (h : vs.Perm vs') (hnodup : (vs.map key?).Nodup)
    (hnames : ∀ v ∈ vs, v.IsPlainKey) (hself : ∀ v ∈ vs, v.key?.isSome) :
    sorted? vs = sorted? vs' := by
  have hall : (vs.all fun v => vs.all fun w => (v.less? w).isSome)
      = vs'.all fun v => vs'.all fun w => (v.less? w).isSome := by
    rw [Bool.eq_iff_iff]
    simp only [List.all_eq_true, h.mem_iff]
  unfold sorted?
  rw [← h.length_eq, ← hall]
  by_cases hlen : vs.length ≤ 1
  · rw [if_pos hlen, if_pos hlen]
    rcases vs with _ | ⟨v, _ | ⟨w, vs⟩⟩
    · rw [h.nil_eq]
    · rw [List.singleton_perm.1 h]
    · simp at hlen
  · rw [if_neg hlen, if_neg hlen]
    by_cases hless : vs.all fun v => vs.all fun w => (v.less? w).isSome
    · rw [if_pos hless, if_pos hless]
      simp only [List.all_eq_true] at hless
      obtain ⟨v, hv⟩ : ∃ v, v ∈ vs := List.exists_mem_of_ne_nil _ (by rintro rfl; simp at hlen)
      have hsame := fun w hw => same_sort_of_less? (hnames v hv) (hless v hv w hw)
      rcases sort_of_less? (hnames v hv) (hless v hv v hv) with hsort | hsort | hsort
      · rw [mergeSort_numbers_eq h hnodup (fun w hw => (hsame w hw).1 hsort) hself]
      · rw [mergeSort_texts_eq h hnodup fun w hw => (hsame w hw).2.1 hsort]
      · rw [mergeSort_dates_eq h hnodup fun w hw => (hsame w hw).2.2 hsort]
    · rw [if_neg hless, if_neg hless]

end Value

/-! ## Keys that have no meaning -/

namespace Config

theorem distinct_append_singleton (ts : List String) (t : String) :
    distinct (ts ++ [t]) = if t ∈ distinct ts then distinct ts else distinct ts ++ [t] := by
  simp [distinct, List.foldl_append]

theorem mem_distinct {ts : List String} {t : String} : t ∈ distinct ts ↔ t ∈ ts := by
  induction ts using List.reverseRecOn with
  | nil => rfl
  | append_singleton ts s ih =>
    rw [distinct_append_singleton, List.mem_append, List.mem_singleton, ← ih]
    split_ifs with hs
    · exact ⟨.inl, fun h => h.elim id fun h => h ▸ hs⟩
    · rw [List.mem_append, List.mem_singleton]

theorem nodup_distinct (ts : List String) : (distinct ts).Nodup := by
  induction ts using List.reverseRecOn with
  | nil => exact List.nodup_nil
  | append_singleton ts s ih =>
    rw [distinct_append_singleton]
    split_ifs with hs
    · exact ih
    · exact List.nodup_append.2 ⟨ih, by simp, by rintro a ha b hb rfl; simp_all⟩

theorem distinct_eq_self {ts : List String} (h : ts.Nodup) : distinct ts = ts := by
  induction ts using List.reverseRecOn with
  | nil => rfl
  | append_singleton ts t ih =>
    obtain ⟨hts, -, hne⟩ := List.nodup_append.1 h
    have ht : t ∉ distinct ts := fun hmem =>
      hne t (mem_distinct.1 hmem) t (List.mem_singleton_self t) rfl
    rw [distinct_append_singleton, if_neg ht, ih hts]

theorem distinct_eq_eraseDups (ts : List String) : distinct ts = ts.eraseDups := by
  induction ts using List.reverseRecOn with
  | nil => rfl
  | append_singleton ts t ih =>
    rw [distinct_append_singleton, List.eraseDups_append, ← ih]
    by_cases ht : t ∈ ts <;> simp [mem_distinct, List.removeAll, List.eraseDups_cons, ht]

theorem excess_eq {ts ts' : List String} (h : ts.Perm ts') (allowed : List String) :
    excess ts allowed = excess ts' allowed := by
  have hdistinct : (distinct (ts.filter fun t => !allowed.contains t)).Perm
      (distinct (ts'.filter fun t => !allowed.contains t)) := by
    refine (List.perm_ext_iff_of_nodup (nodup_distinct _) (nodup_distinct _)).2 fun t => ?_
    rw [mem_distinct, mem_distinct, (h.filter _).mem_iff]
  refine mergeSort_eq id hdistinct (fun a _ b _ => ?_) fun a _ b _ hab => hab
  rw [Bool.eq_iff_iff, Bool.not_eq_true', decide_eq_false_iff_not, decide_eq_true_iff, not_lt]
  exact Iff.rfl

theorem rejectKeys_eq {es es' : Entries} (h : (Entries.keys es).Perm (Entries.keys es'))
    (allowed : List String) (key : String) :
    rejectKeys es allowed key = rejectKeys es' allowed key := by
  rw [rejectKeys, rejectKeys, excess_eq (h.map _)]

end Config

/-! ## Entries in another order -/

namespace Entries

/-- Whether entries are other ones in another order. They have names as keys, which are told
apart. -/
structure Permuted (es es' : Entries) : Prop where
  keyed : Keyed es
  names : ∀ e ∈ es, e.1.IsPlainKey
  perm : es.Perm es'

variable {es es' : Entries}

theorem find?_eq_some_iff (h : Keyed es) {key : Key} {v : Value} :
    find? es key = some v ↔ ∃ e ∈ es, e.1.key? = some key ∧ e.2 = v := by
  refine ⟨exists_mem_of_find?, ?_⟩
  rintro ⟨e, he, hkey, rfl⟩
  obtain ⟨key', hkey', hfind⟩ := h.find?_of_mem e he
  obtain rfl : key = key' := by simpa [hkey] using hkey'
  exact hfind

namespace Permuted

theorem keyed' (h : Permuted es es') : Keyed es' :=
  ⟨fun e he => h.keyed.self e (h.perm.mem_iff.2 he), (h.perm.map _).nodup_iff.1 h.keyed.nodup⟩

theorem find?_eq (h : Permuted es es') (key : Key) : find? es key = find? es' key := by
  ext v
  rw [find?_eq_some_iff h.keyed, find?_eq_some_iff h.keyed']
  simp only [h.perm.mem_iff]

theorem get?_eq (h : Permuted es es') (name : String) : get? es name = get? es' name :=
  h.find?_eq _

theorem getD_eq (h : Permuted es es') (name : String) : getD es name = getD es' name := by
  rw [getD, getD, h.get?_eq]

theorem getOr_eq (h : Permuted es es') (name : String) (default : Value) :
    Config.getOr es name default = Config.getOr es' name default := by
  rw [Config.getOr, Config.getOr, h.get?_eq]

theorem require_eq (h : Permuted es es') (name key : String) :
    Config.require es name key = Config.require es' name key := by
  rw [Config.require, Config.require, h.get?_eq]

theorem requireTextAt_eq (h : Permuted es es') (key name : String) :
    Config.requireTextAt es key name = Config.requireTextAt es' key name := by
  rw [Config.requireTextAt, Config.requireTextAt, h.require_eq]

theorem keys_perm (h : Permuted es es') : (keys es).Perm (keys es') := h.perm.map _

theorem rejectKeys_eq (h : Permuted es es') (allowed : List String) (key : String) :
    Config.rejectKeys es allowed key = Config.rejectKeys es' allowed key :=
  Config.rejectKeys_eq h.keys_perm allowed key

theorem rejectUnknown_eq (h : Permuted es es') (names : List String)
    (refusal : List Value → Refusal) :
    rejectUnknown es names refusal = rejectUnknown es' names refusal := by
  have hperm : (unknownKeys es names).Perm (unknownKeys es' names) := h.keys_perm.filter _
  have hsub : (unknownKeys es names).Sublist (keys es) := List.filter_sublist
  have hmem : ∀ k ∈ unknownKeys es names, ∃ e ∈ es, e.1 = k := fun k hk =>
    List.mem_map.1 (hsub.subset hk)
  have hnodup : ((unknownKeys es names).map Value.key?).Nodup := by
    refine (hsub.map Value.key?).nodup ?_
    rw [keys, List.map_map]
    exact h.keyed.nodup
  have hsorted := Value.sorted?_eq hperm hnodup
    (fun k hk => by obtain ⟨e, he, rfl⟩ := hmem k hk; exact h.names e he)
    (fun k hk => by obtain ⟨e, he, rfl⟩ := hmem k hk; exact h.keyed.self e he)
  unfold rejectUnknown
  cases hes : unknownKeys es names with
  | nil =>
    rw [hes] at hperm
    rw [hperm.nil_eq]
  | cons k ks =>
    cases hes' : unknownKeys es' names with
    | nil =>
      rw [hes, hes'] at hperm
      exact absurd hperm.eq_nil (List.cons_ne_nil k ks)
    | cons k' ks' =>
      rw [hes, hes'] at hsorted
      dsimp only
      rw [hsorted]

end Permuted

theorem permuted_ofTexts {fields fields' : List (String × Value)} (h : fields.Perm fields')
    (hnodup : (fields.map (·.1)).Nodup) : (ofTexts fields).Permuted (ofTexts fields') where
  keyed := by
    refine ⟨fun e he => ?_, ?_⟩
    · obtain ⟨f, -, rfl⟩ := List.mem_map.1 he
      rfl
    · have hkeys : (ofTexts fields).map (·.1.key?)
          = (fields.map (·.1)).map fun name => some [KeyToken.text name] := by
        simp [ofTexts, Value.key?]
      rw [hkeys]
      exact hnodup.map fun s t hst => by simpa using hst
  names := by
    intro e he
    obtain ⟨f, -, rfl⟩ := List.mem_map.1 he
    trivial
  perm := h.map _

end Entries

end QueryDraft
