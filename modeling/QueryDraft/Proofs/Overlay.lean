import Mathlib.Data.List.Nodup
import QueryDraft.Config.Layers
import QueryDraft.Proofs.Fields
import QueryDraft.Proofs.Outcome

/-!
# Laws of layers

A mapping whose keys are told apart is its keys in order together with what each is bound to
(`Entries.ext_find?`). The keys of two layers are those of the lower one and then those that only
the upper one has (`keys_overlayEntries`), and a key is bound to what the upper layer binds it to,
laid over what it was bound to below (`find?_overlayEntries`). The laws of layers are read off these
two equations, by induction on the depth of the mappings.

A layer over itself changes nothing and neither does a layer that is laid a second time. Which of
three layers are put together first makes no difference if they agree on where mappings are
(`overlay_assoc`): a lower mapping would otherwise come back under an upper one, though something
that is no mapping stands between the two.
-/

namespace QueryDraft

namespace Entries

/-- Entries whose keys equal themselves and differ from each other. -/
structure Keyed (es : Entries) : Prop where
  self : ∀ e ∈ es, e.1.key?.isSome
  nodup : (es.map (·.1.key?)).Nodup

variable {base es es' : Entries} {k v : Value} {key : Key}

theorem find?_cons (k v : Value) (es : Entries) (key : Key) :
    find? ((k, v) :: es) key = if k.key? = some key then some v else find? es key := by
  simp only [find?, List.find?_cons]
  split_ifs with h
  · simp [h]
  · have hne : (k.key? == some key) = false := by simpa using h
    rw [hne]

theorem find?_eq_none : find? es key = none ↔ ∀ e ∈ es, e.1.key? ≠ some key := by
  simp [find?]

namespace Keyed

theorem nil : Keyed [] := ⟨by simp, List.nodup_nil⟩

theorem of_cons (h : Keyed ((k, v) :: es)) :
    ∃ key, k.key? = some key ∧ find? es key = none ∧ Keyed es := by
  obtain ⟨key, hkey⟩ := Option.isSome_iff_exists.1 (h.self _ (List.mem_cons_self ..))
  have hnodup := h.nodup
  rw [List.map_cons, List.nodup_cons, hkey] at hnodup
  refine ⟨key, hkey, find?_eq_none.2 fun e he hek => hnodup.1 ?_,
    fun e he => h.self e (List.mem_cons_of_mem _ he), hnodup.2⟩
  exact List.mem_map.2 ⟨e, he, hek⟩

theorem find?_of_mem : ∀ {es : Entries}, Keyed es → ∀ e ∈ es, ∃ key, e.1.key? = some key
    ∧ find? es key = some e.2
  | (k, v) :: es, h, e, he => by
    obtain ⟨key, hkey, hnone, hes⟩ := h.of_cons
    rcases List.mem_cons.1 he with rfl | he
    · exact ⟨key, hkey, by rw [find?_cons, if_pos hkey]⟩
    · obtain ⟨key', hkey', hfind⟩ := find?_of_mem hes e he
      refine ⟨key', hkey', ?_⟩
      rw [find?_cons, if_neg, hfind]
      rw [hkey]
      rintro ⟨⟩
      simp [hnone] at hfind

theorem binding?_of_mem (h : Keyed es) {e : Value × Value} (he : e ∈ es) :
    Value.binding? es e.1 = some e.2 := by
  obtain ⟨key, hkey, hfind⟩ := h.find?_of_mem e he
  rw [Value.binding?, hkey, Option.bind_some, hfind]

end Keyed

/-- The keys in their order and what they are bound to make a mapping. -/
theorem ext_find? : ∀ {es es' : Entries}, Keyed es → keys es = keys es' →
    (∀ key, find? es key = find? es' key) → es = es'
  | [], [], _, _, _ => rfl
  | (k, v) :: es, (k', v') :: es', h, hkeys, hfind => by
    obtain ⟨hk, hrest⟩ := List.cons.inj hkeys
    obtain rfl : k = k' := hk
    obtain ⟨key, hkey, hnone, hes⟩ := h.of_cons
    simp only [find?_cons] at hfind
    have hv := hfind key
    rw [if_pos hkey, if_pos hkey] at hv
    obtain rfl := Option.some.inj hv
    -- below its head neither list has the key of the head again
    have hnone' : find? es' key = none := by
      rw [find?_eq_none] at hnone ⊢
      intro e he hek
      obtain ⟨e', he', hee'⟩ := List.mem_map.1 (hrest ▸ List.mem_map_of_mem he : e.1 ∈ es.map (·.1))
      exact hnone e' he' (hee' ▸ hek)
    refine congrArg _ (ext_find? hes hrest fun key' => ?_)
    by_cases hkk : k.key? = some key'
    · obtain rfl : key = key' := by simpa [hkey] using hkk
      rw [hnone, hnone']
    · simpa [hkk] using hfind key'

theorem sameKey_iff (hk : k.key? = some key) (k' : Value) :
    k.sameKey k' = true ↔ k'.key? = some key := by
  rw [Value.sameKey, hk, Option.isSome_some, Bool.true_and, beq_iff_eq]
  exact eq_comm

theorem find?_insert (hk : k.key? = some key) (es : Entries) (v : Value) (key' : Key) :
    find? (insert es k v) key' = if key = key' then some v else find? es key' := by
  induction es with
  | nil => simp [insert, find?_cons, hk]
  | cons e es ih =>
    obtain ⟨k', v'⟩ := e
    rw [insert]
    by_cases hsame : k'.key? = some key
    · rw [if_pos ((sameKey_iff hk k').2 hsame), find?_cons, find?_cons, hsame]
      by_cases hkey : key = key' <;> simp [hkey]
    · rw [if_neg (by rwa [sameKey_iff hk]), find?_cons, find?_cons, ih]
      by_cases hkey : key = key'
      · simp [← hkey, hsame]
      · simp [hkey]

theorem keys_insert (hk : k.key? = some key) (es : Entries) (v : Value) :
    keys (insert es k v) = if (find? es key).isSome then keys es else keys es ++ [k] := by
  induction es with
  | nil => rfl
  | cons e es ih =>
    obtain ⟨k', v'⟩ := e
    rw [insert, find?_cons]
    by_cases hsame : k'.key? = some key
    · rw [if_pos ((sameKey_iff hk k').2 hsame), if_pos hsame]
      rfl
    · rw [if_neg (by rwa [sameKey_iff hk]), if_neg hsame]
      have hcons : keys ((k', v') :: insert es k v) = k' :: keys (insert es k v) := rfl
      rw [hcons, ih]
      split_ifs <;> rfl

end Entries

theorem Value.isSome_entries? {v : Value} : v.entries?.isSome ↔ ∃ es, v = .map es := by
  cases v <;> simp [Value.entries?]

theorem Value.map_or_plain (v : Value) : (∃ es, v = .map es) ∨ v.entries? = none := by
  rw [← Value.isSome_entries?, ← Option.not_isSome_iff_eq_none]
  exact em _

/-- Mappings with keys that are told apart, also where a mapping is bound in another. -/
inductive Value.Keyed : Value → Prop
  | plain {v : Value} (h : v.entries? = none) : Keyed v
  | map {es : Entries} (hkeys : Entries.Keyed es) (hvalues : ∀ e ∈ es, Keyed e.2) :
    Keyed (.map es)

theorem Value.Keyed.of_map {es : Entries} (h : (Value.map es).Keyed) :
    Entries.Keyed es ∧ ∀ e ∈ es, e.2.Keyed := by
  cases h with
  | plain h => simp [Value.entries?] at h
  | map hkeys hvalues => exact ⟨hkeys, hvalues⟩

/-- What a path of keys leads to, each key being looked up where the keys before it lead. -/
def Value.at? : Value → List Key → Option Value
  | v, [] => some v
  | .map es, key :: path => (Entries.find? es key).bind fun v => v.at? path
  | _, _ :: _ => none

/-- No path of keys leads to a mapping in one value and to something else in the other. -/
def Value.Agree (v w : Value) : Prop :=
  ∀ path x y, v.at? path = some x → w.at? path = some y → (x.entries?.isSome ↔ y.entries?.isSome)

theorem Value.agree_plain {v w : Value} (hv : v.entries? = none) (hw : w.entries? = none) :
    v.Agree w
  | [], x, y, hx, hy => by
    obtain rfl := Option.some.inj hx
    obtain rfl := Option.some.inj hy
    simp [hv, hw]
  | key :: path, x, y, hx, hy => by
    cases v <;> simp_all [Value.at?, Value.entries?]

theorem Value.agree_map {es es' : Entries} (h : ∀ e ∈ es, ∀ e' ∈ es', e.1.key? = e'.1.key? →
    e.2.Agree e'.2) : (Value.map es).Agree (.map es')
  | [], x, y, hx, hy => by
    obtain rfl := Option.some.inj hx
    obtain rfl := Option.some.inj hy
    rfl
  | key :: path, x, y, hx, hy => by
    rw [Value.at?] at hx hy
    obtain ⟨v, hv, hx⟩ := Option.bind_eq_some_iff.1 hx
    obtain ⟨w, hw, hy⟩ := Option.bind_eq_some_iff.1 hy
    obtain ⟨e, he, hk, rfl⟩ := Entries.exists_mem_of_find? hv
    obtain ⟨e', he', hk', rfl⟩ := Entries.exists_mem_of_find? hw
    exact h e he e' he' (hk.trans hk'.symm) path x y hx hy

theorem Value.Agree.exists_map {es : Entries} {w : Value} (h : (Value.map es).Agree w) :
    ∃ es', w = .map es' := by
  have hsome : w.entries?.isSome := (h [] _ w rfl rfl).1 rfl
  cases w <;> simp_all [Value.entries?]

theorem Value.Agree.at_key {es es' : Entries} {key : Key} {v w : Value}
    (h : Value.Agree (.map es) (.map es')) (hv : Entries.find? es key = some v)
    (hw : Entries.find? es' key = some w) : v.Agree w := by
  intro path x y hx hy
  refine h (key :: path) x y ?_ ?_
  · rw [Value.at?, hv, Option.bind_some, hx]
  · rw [Value.at?, hw, Option.bind_some, hy]

namespace Config

/-- What a key is bound to when a value is laid over what it was bound to. -/
def laidOver (below : Option Value) (v : Value) : Value :=
  match below with
  | some old => overlay old v
  | none => v

variable {base es : Entries} {a b c o v w : Value} {key : Key}

theorem overlay_plain (below : Value) (h : v.entries? = none) : overlay below v = v := by
  cases v <;> simp_all [overlay, Value.entries?]

theorem overlay_of_plain (h : v.entries? = none) (w : Value) : overlay v w = w := by
  cases w with
  | map es => cases v <;> simp_all [overlay, Value.entries?]
  | _ => exact overlay_plain v rfl

theorem overlay_map (base es : Entries) :
    overlay (.map base) (.map es) = .map (overlayEntries base es) := by
  rw [overlay]

/-! ## Two layers -/

theorem overlayEntries_cons {k : Value} (hk : k.key? = some key) (base es : Entries) (v : Value) :
    overlayEntries base ((k, v) :: es)
      = overlayEntries (Entries.insert base k (laidOver (Entries.find? base key) v)) es := by
  rw [overlayEntries, hk]
  rfl

theorem find?_overlayEntries (h : Entries.Keyed es) (base : Entries) (key : Key) :
    Entries.find? (overlayEntries base es) key
      = match Entries.find? es key with
        | some v => some (laidOver (Entries.find? base key) v)
        | none => Entries.find? base key := by
  induction es generalizing base with
  | nil => rfl
  | cons e es ih =>
    obtain ⟨k, v⟩ := e
    obtain ⟨key₀, hk, hnone, hes⟩ := h.of_cons
    rw [overlayEntries_cons hk, ih hes, Entries.find?_cons, Entries.find?_insert hk, hk]
    by_cases hkey : key₀ = key
    · subst hkey
      simp [hnone]
    · simp [hkey]

/-- The keys of the lower layer in its order, then those that only the upper one has in its. -/
theorem keys_overlayEntries (h : Entries.Keyed es) (base : Entries) :
    Entries.keys (overlayEntries base es)
      = Entries.keys base ++ (Entries.keys es).filter fun k => (Value.binding? base k).isNone := by
  induction es generalizing base with
  | nil => simp [overlayEntries, Entries.keys]
  | cons e es ih =>
    obtain ⟨k, v⟩ := e
    obtain ⟨key₀, hk, hnone, hes⟩ := h.of_cons
    have hcons : Entries.keys ((k, v) :: es) = k :: Entries.keys es := rfl
    -- no later key is the one that is put in, so the later ones are as new as before
    have hfilter : ((Entries.keys es).filter fun k' => (Value.binding?
          (Entries.insert base k (laidOver (Entries.find? base key₀) v)) k').isNone)
        = (Entries.keys es).filter fun k' => (Value.binding? base k').isNone := by
      refine List.filter_congr fun k' hk' => ?_
      obtain ⟨e, he, rfl⟩ := List.mem_map.1 hk'
      obtain ⟨key', hkey', -⟩ := hes.find?_of_mem e he
      have hne : key₀ ≠ key' := by
        rintro rfl
        exact Entries.find?_eq_none.1 hnone e he hkey'
      simp [Value.binding?, hkey', Entries.find?_insert hk, hne]
    rw [overlayEntries_cons hk, ih hes, Entries.keys_insert hk, hfilter, hcons, List.filter_cons]
    cases hbase : Entries.find? base key₀ <;> simp [Value.binding?, hk, hbase]

/-- Nothing follows the keys of the lower layer if it has all those of the upper one. -/
theorem keys_overlayEntries_of_bound (h : Entries.Keyed es)
    (hbound : ∀ e ∈ es, (Value.binding? base e.1).isSome) :
    Entries.keys (overlayEntries base es) = Entries.keys base := by
  rw [keys_overlayEntries h, List.filter_eq_nil_iff.2, List.append_nil]
  intro k hk
  obtain ⟨e, he, rfl⟩ := List.mem_map.1 hk
  simpa [Option.isSome_iff_ne_none] using hbound e he

theorem isNone_binding?_overlayEntries (h : Entries.Keyed es) (base : Entries) (k : Value) :
    (Value.binding? (overlayEntries base es) k).isNone
      = ((Value.binding? base k).isNone && (Value.binding? es k).isNone) := by
  cases hk : k.key? with
  | none => simp [Value.binding?, hk]
  | some key =>
    simp only [Value.binding?, hk, Option.bind_some, find?_overlayEntries h]
    cases Entries.find? es key <;> simp

theorem keyed_overlayEntries (hbase : Entries.Keyed base) (hes : Entries.Keyed es) :
    Entries.Keyed (overlayEntries base es) := by
  have hkeys := keys_overlayEntries hes base
  constructor
  · intro e he
    have hmem : e.1 ∈ Entries.keys (overlayEntries base es) := List.mem_map_of_mem he
    rw [hkeys, List.mem_append, List.mem_filter] at hmem
    rcases hmem with hmem | ⟨hmem, -⟩
    · obtain ⟨e', he', hk⟩ := List.mem_map.1 hmem
      exact hk ▸ hbase.self e' he'
    · obtain ⟨e', he', hk⟩ := List.mem_map.1 hmem
      exact hk ▸ hes.self e' he'
  · have hmap : (overlayEntries base es).map (·.1.key?)
        = (Entries.keys (overlayEntries base es)).map Value.key? := by
      rw [Entries.keys, List.map_map]
      rfl
    have hmaps : ∀ es : Entries, (Entries.keys es).map Value.key? = es.map (·.1.key?) := by
      intro es
      rw [Entries.keys, List.map_map]
      rfl
    rw [hmap, hkeys, List.map_append]
    refine List.Nodup.append (hmaps base ▸ hbase.nodup)
      ((hmaps es ▸ hes.nodup).sublist (List.filter_sublist.map _)) ?_
    rintro key? hk hk'
    obtain ⟨k, hmem, rfl⟩ := List.mem_map.1 hk
    obtain ⟨e, he, rfl⟩ := List.mem_map.1 hmem
    obtain ⟨k', hmem', hkk⟩ := List.mem_map.1 hk'
    obtain ⟨key, hkey, hfind⟩ := hbase.find?_of_mem e he
    have hnew := (List.mem_filter.1 hmem').2
    simp [Value.binding?, hkk, hkey, hfind] at hnew

/-- A value over itself is the value. -/
theorem overlay_self (h : v.Keyed) : overlay v v = v := by
  induction h with
  | plain h => exact overlay_plain _ h
  | @map es hes _ ih =>
    rw [overlay_map]
    refine congrArg _ (Entries.ext_find? (keyed_overlayEntries hes hes) ?_ fun key => ?_)
    · exact keys_overlayEntries_of_bound hes fun e he => by simp [hes.binding?_of_mem he]
    · rw [find?_overlayEntries hes]
      cases hfind : Entries.find? es key with
      | none => rfl
      | some w =>
        obtain ⟨e, he, -, rfl⟩ := Entries.exists_mem_of_find? hfind
        exact congrArg some (ih e he)

/-- A layer that is laid over a value a second time changes nothing more. -/
theorem overlay_overlay_same (ho : o.Keyed) :
    ∀ {b : Value}, b.Keyed → overlay (overlay b o) o = overlay b o := by
  induction ho with
  | plain h =>
    intro b _
    rw [overlay_plain _ h, overlay_plain _ h]
  | @map es hes hvalues ih =>
    intro b hb
    cases hb with
    | plain hplain => rw [overlay_of_plain hplain, overlay_self (.map hes hvalues)]
    | @map base hbase hbelow =>
      have hall := keyed_overlayEntries hbase hes
      rw [overlay_map, overlay_map]
      refine congrArg _ (Entries.ext_find? (keyed_overlayEntries hall hes) ?_ fun key => ?_)
      · refine keys_overlayEntries_of_bound hes fun e he => ?_
        rw [← Option.not_isNone, isNone_binding?_overlayEntries hes, hes.binding?_of_mem he]
        simp
      · rw [find?_overlayEntries hes, find?_overlayEntries hes]
        cases habove : Entries.find? es key with
        | none => rfl
        | some v =>
          obtain ⟨e, he, -, rfl⟩ := Entries.exists_mem_of_find? habove
          refine congrArg some ?_
          show overlay _ _ = _
          cases hold : Entries.find? base key with
          | none => exact overlay_self (hvalues e he)
          | some old =>
            obtain ⟨e', he', -, rfl⟩ := Entries.exists_mem_of_find? hold
            exact ih e he (hbelow e' he')

/-- Of three layers that agree on where mappings are, the upper two may be put together first. -/
theorem overlay_assoc (ha : a.Keyed) : ∀ {b c : Value}, b.Keyed → c.Keyed →
    a.Agree b → b.Agree c → a.Agree c → overlay (overlay a b) c = overlay a (overlay b c) := by
  induction ha with
  | plain hplain =>
    intro b c _ _ _ _ _
    rw [overlay_of_plain hplain, overlay_of_plain hplain]
  | @map es hes hvalues ih =>
    intro b c hb hc hab hbc hac
    -- at the empty path the three agree, so they are mappings
    obtain ⟨es₁, rfl⟩ := hab.exists_map
    obtain ⟨es₂, rfl⟩ := hac.exists_map
    obtain ⟨hes₁, hvalues₁⟩ := hb.of_map
    obtain ⟨hes₂, hvalues₂⟩ := hc.of_map
    have hlower := keyed_overlayEntries hes hes₁
    have hupper := keyed_overlayEntries hes₁ hes₂
    rw [overlay_map, overlay_map, overlay_map, overlay_map]
    refine congrArg _ (Entries.ext_find? (keyed_overlayEntries hlower hes₂) ?_ fun key => ?_)
    · rw [keys_overlayEntries hes₂, keys_overlayEntries hes₁, keys_overlayEntries hupper,
        keys_overlayEntries hes₂, List.filter_append, List.filter_filter, List.append_assoc]
      simp only [isNone_binding?_overlayEntries hes₁]
    · rw [find?_overlayEntries hes₂, find?_overlayEntries hes₁, find?_overlayEntries hupper,
        find?_overlayEntries hes₂]
      -- unless all three layers have the key, two of the four steps do nothing
      cases hx : Entries.find? es₂ key with
      | none => rfl
      | some x => cases hw : Entries.find? es₁ key with
        | none => rfl
        | some w => cases hv : Entries.find? es key with
          | none => rfl
          | some v =>
            obtain ⟨e, he, -, rfl⟩ := Entries.exists_mem_of_find? hv
            obtain ⟨e₁, he₁, -, rfl⟩ := Entries.exists_mem_of_find? hw
            obtain ⟨e₂, he₂, -, rfl⟩ := Entries.exists_mem_of_find? hx
            exact congrArg some (ih e he (hvalues₁ e₁ he₁) (hvalues₂ e₂ he₂)
              (hab.at_key hv hw) (hbc.at_key hw hx) (hac.at_key hv hx))

/-! ## Loading -/

theorem merge_map (base es : Entries) :
    merge (.map base) (.map es) = .ok (.map (overlayEntries base es)) := rfl

theorem keyed_of_root (h : v.Keyed) (hroot : root v = .ok es) : (Value.map es).Keyed := by
  cases v with
  | map es' => exact Except.ok.inj hroot ▸ h
  | _ =>
    simp only [root] at hroot
    split_ifs at hroot
    all_goals exact Except.ok.inj hroot ▸ .map .nil (by simp)

theorem root_of_not_isTruthy (h : v.isTruthy = false) : root v = .ok [] := by
  cases v <;> simp_all [root, Value.isTruthy]

/-- What layers are taken for. A text over itself, and an override that is empty over a text, are
loaded as the text alone is, with one result or one error. Laying a layer once more changes nothing,
and of three layers in which a path leads to a mapping in all or in none, the lower two or the upper
two may be put together first; in both cases the order of the keys is the same as well. -/
theorem loadLayered_and_merge (readDocument : String → Outcome Value)
    (hread : ∀ text v, readDocument text = .ok v → v.Keyed) :
    (∀ text, loadLayered readDocument text text = loadText readDocument text)
      ∧ (∀ text override v, readDocument override = .ok v → v.isTruthy = false →
        loadLayered readDocument text override = loadText readDocument text)
      ∧ (∀ b o : Entries, (Value.map b).Keyed → (Value.map o).Keyed →
        merge (.map b) (.map o) >>= (merge · (.map o)) = merge (.map b) (.map o))
      ∧ ∀ a b c : Entries, (Value.map a).Keyed → (Value.map b).Keyed → (Value.map c).Keyed →
        (Value.map a).Agree (.map b) → (Value.map b).Agree (.map c) → (Value.map a).Agree (.map c) →
        merge (.map a) (.map b) >>= (merge · (.map c))
          = merge (.map b) (.map c) >>= (merge (.map a) ·) := by
  refine ⟨fun text => ?_, fun text override v hv hempty => ?_, fun b o hb ho => ?_,
    fun a b c ha hb hc hab hbc hac => ?_⟩
  · rw [loadLayered, loadText, rootOfText]
    cases hdocument : readDocument text with
    | error e => rfl
    | ok v =>
      simp only [ok_bind]
      cases hroot : root v with
      | error e => rfl
      | ok es =>
        have hself := overlay_self (keyed_of_root (hread text v hdocument) hroot)
        rw [ok_bind, ok_bind, ok_bind, ← overlay_map, hself]
  · have hnone : rootOfText readDocument override = .ok [] := by
      rw [rootOfText, hv, ok_bind, root_of_not_isTruthy hempty]
    rw [loadLayered, loadText, hnone]
    rfl
  · rw [merge_map, ok_bind, merge_map, ← overlay_map, ← overlay_map, overlay_overlay_same ho hb]
  · rw [merge_map, ok_bind, merge_map, merge_map, ok_bind, merge_map, ← overlay_map, ← overlay_map,
      ← overlay_map, ← overlay_map, overlay_assoc ha hb hc hab hbc hac]

/-- A document over itself and under `{}`, and layers that share a section in which one has a key
that the next one replaces. -/
theorem loadLayered_and_merge_of_sections :
    let readDocument : String → Outcome Value := fun text =>
      if text = "" then .ok .null
      else if text = "\x7b\x7d" then .ok (.map [])
      else .ok (.map [(.text "queries", .list [.map [(.text "name", .text text),
        (.text "type", .text "search")]])])
    let layer (level : String) (rest : Entries) : Entries :=
      (.text "log", .map [(.text "level", .text level)]) :: rest
    let base := layer "INFO" [(.text "output", .null)]
    let middle := layer "DEBUG" [(.bool true, .int 1)]
    let top := layer "ERROR" [(.text "output", .list [])]
    loadLayered readDocument "all" "all" = loadText readDocument "all"
      ∧ loadLayered readDocument "all" "" = loadText readDocument "all"
      ∧ loadLayered readDocument "all" "\x7b\x7d" = loadText readDocument "all"
      ∧ (∃ s, loadText readDocument "all" = .ok s)
      ∧ merge (.map base) (.map middle) >>= (merge · (.map middle))
        = .ok (.map (layer "DEBUG" [(.text "output", .null), (.bool true, .int 1)]))
      ∧ merge (.map middle) (.map top) >>= (merge (.map base) ·)
        = .ok (.map (layer "ERROR" [(.text "output", .list []), (.bool true, .int 1)])) := by
  intro readDocument layer base middle top
  have hsection : ∀ level, (Value.map [(.text "level", .text level)]).Keyed := fun level =>
    .map ⟨by simp [Value.key?], by simp⟩ (by simpa using .plain rfl)
  have hread : ∀ text v, readDocument text = .ok v → v.Keyed := by
    intro text v h
    simp only [readDocument] at h
    split_ifs at h <;> obtain rfl := Except.ok.inj h
    · exact .plain rfl
    · exact .map .nil (by simp)
    · exact .map ⟨by simp [Value.key?], by simp⟩ (by simpa using .plain rfl)
  have hkeyed : ∀ level k v, k.key?.isSome → k.key? ≠ some [.text "log"] → v.entries? = none →
      (Value.map (layer level [(k, v)])).Keyed := by
    intro level k v hk hne hv
    refine .map ⟨by simpa [layer] using ⟨rfl, hk⟩, ?_⟩ ?_
    · simpa [layer, Value.key?] using hne.symm
    · simpa [layer] using ⟨hsection level, .plain hv⟩
  have hagree : ∀ level level' k k' v v', k.key? ≠ some [.text "log"] →
      k'.key? ≠ some [.text "log"] → v.entries? = none → v'.entries? = none →
      (Value.map (layer level [(k, v)])).Agree (.map (layer level' [(k', v')])) := by
    intro level level' k k' v v' hk hk' hv hv'
    have hlevel : (Value.map [(.text "level", .text level)]).Agree
        (.map [(.text "level", .text level')]) :=
      Value.agree_map (by simpa using Value.agree_plain rfl rfl)
    refine Value.agree_map fun e he e' he' hsame => ?_
    simp only [layer, List.mem_cons, List.not_mem_nil, or_false] at he he'
    rcases he with rfl | rfl <;> rcases he' with rfl | rfl
    · exact hlevel
    · exact absurd hsame.symm hk'
    · exact absurd hsame hk
    · exact Value.agree_plain hv hv'
  have hbase : (Value.map base).Keyed := hkeyed _ _ _ rfl (by decide) rfl
  have hmiddle : (Value.map middle).Keyed := hkeyed _ _ _ rfl (by decide) rfl
  have htop : (Value.map top).Keyed := hkeyed _ _ _ rfl (by decide) rfl
  obtain ⟨hself, hempty, htwice, hassoc⟩ := loadLayered_and_merge readDocument hread
  refine ⟨hself "all", hempty "all" "" _ rfl rfl, hempty "all" "\x7b\x7d" _ rfl rfl, ?_, ?_, ?_⟩
  · exact ⟨_, by with_unfolding_all rfl⟩
  · rw [htwice base middle hbase hmiddle]
    with_unfolding_all rfl
  · rw [← hassoc base middle top hbase hmiddle htop
      (hagree _ _ _ _ _ _ (by decide) (by decide) rfl rfl)
      (hagree _ _ _ _ _ _ (by decide) (by decide) rfl rfl)
      (hagree _ _ _ _ _ _ (by decide) (by decide) rfl rfl)]
    with_unfolding_all rfl

end Config

end QueryDraft
