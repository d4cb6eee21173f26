import QueryDraft.Proofs.Overlay

/-!
# Layers path by path

What a path of keys leads to in a layer over another is settled by where the path ends in the upper
layer. If it ends there at a value, the value is laid over what the path leads to below
(`at?_overlay_of_some`). If it ends nowhere, the path is the one of the lower layer, unless it comes
past something in the upper layer that is no mapping, which hides all that is below it
(`at?_overlay_of_none`).
-/

namespace QueryDraft

namespace Value

/-- Nothing but mappings stands on the way of a path, its end left out. -/
def LetsThrough (v : Value) (path : List Key) : Prop :=
  ∀ way w, way <+: path → way ≠ path → v.at? way = some w → w.entries?.isSome

/-- The entries that a path leads to, none if it does not lead to a mapping. -/
def entriesAt (v : Value) (path : List Key) : Entries := ((v.at? path).bind entries?).getD []

variable {v w : Value} {es : Entries} {key : Key} {path : List Key}

theorem at?_map_cons (es : Entries) (key : Key) (path : List Key) :
    (Value.map es).at? (key :: path) = (Entries.find? es key).bind (·.at? path) := rfl

theorem at?_plain_cons (h : v.entries? = none) (key : Key) (path : List Key) :
    v.at? (key :: path) = none := by
  cases v <;> simp_all [at?, entries?]

theorem not_letsThrough_plain (h : v.entries? = none) (key : Key) (path : List Key) :
    ¬v.LetsThrough (key :: path) := by
  intro hway
  simpa [h] using hway [] v List.nil_prefix (by simp) rfl

theorem letsThrough_of_find?_eq_none (h : Entries.find? es key = none) :
    (Value.map es).LetsThrough (key :: path) := by
  rintro (_ | ⟨key', way⟩) w hprefix - hw
  · obtain rfl := Option.some.inj hw
    rfl
  · obtain ⟨rfl, -⟩ := List.cons_prefix_cons.1 hprefix
    simp [at?_map_cons, h] at hw

theorem letsThrough_cons (h : Entries.find? es key = some v) :
    (Value.map es).LetsThrough (key :: path) ↔ v.LetsThrough path := by
  constructor
  · intro hthrough way w hprefix hne hw
    refine hthrough (key :: way) w (List.cons_prefix_cons.2 ⟨rfl, hprefix⟩) (by simpa using hne) ?_
    rw [at?_map_cons, h, Option.bind_some, hw]
  · rintro hthrough (_ | ⟨key', way⟩) w hprefix hne hw
    · obtain rfl := Option.some.inj hw
      rfl
    · obtain ⟨rfl, hway⟩ := List.cons_prefix_cons.1 hprefix
      rw [at?_map_cons, h, Option.bind_some] at hw
      exact hthrough way w hway (by simpa using hne) hw

theorem Keyed.of_find? (h : (Value.map es).Keyed) (hfind : Entries.find? es key = some v) :
    v.Keyed := by
  obtain ⟨e, he, -, rfl⟩ := Entries.exists_mem_of_find? hfind
  exact h.of_map.2 e he

theorem Keyed.of_at? : ∀ {v : Value} {path : List Key}, v.Keyed → v.at? path = some w → w.Keyed
  | v, [], hv, h => Option.some.inj h ▸ hv
  | .map es, key :: path, hv, h => by
    rw [at?_map_cons] at h
    obtain ⟨x, hx, h⟩ := Option.bind_eq_some_iff.1 h
    exact (hv.of_find? hx).of_at? h

end Value

namespace Config

variable {below above v w : Value}

theorem at?_overlay_of_some : ∀ {below above : Value} {path : List Key}, above.Keyed →
    above.at? path = some w → (overlay below above).at? path = some (laidOver (below.at? path) w)
  | below, above, [], _, h => by
    obtain rfl := Option.some.inj h
    rfl
  | below, above, key :: path, habove, h => by
    rcases above.map_or_plain with ⟨es, rfl⟩ | hplain
    · rw [Value.at?_map_cons] at h
      obtain ⟨v, hv, h⟩ := Option.bind_eq_some_iff.1 h
      rcases below.map_or_plain with ⟨base, rfl⟩ | hplain
      · rw [overlay_map, Value.at?_map_cons, Value.at?_map_cons,
          find?_overlayEntries habove.of_map.1, hv, Option.bind_some]
        cases Entries.find? base key with
        | none => exact h
        | some old => exact at?_overlay_of_some (habove.of_find? hv) h
      · rw [overlay_of_plain hplain, Value.at?_plain_cons hplain, Value.at?_map_cons, hv,
          Option.bind_some, h]
        rfl
    · simp [Value.at?_plain_cons hplain] at h

/-- Where the upper layer has nothing, the lower one is seen unless the upper one hides it. -/
theorem at?_overlay_of_none : ∀ {below above : Value} {path : List Key}, above.Keyed →
    above.at? path = none →
    ((overlay below above).at? path = some w ↔ below.at? path = some w ∧ above.LetsThrough path)
  | below, above, [], _, h => by simp [Value.at?] at h
  | below, above, key :: path, habove, h => by
    rcases above.map_or_plain with ⟨es, rfl⟩ | hplain
    · rcases below.map_or_plain with ⟨base, rfl⟩ | hplain
      · rw [overlay_map, Value.at?_map_cons, Value.at?_map_cons,
          find?_overlayEntries habove.of_map.1]
        cases hv : Entries.find? es key with
        | none => exact (and_iff_left (Value.letsThrough_of_find?_eq_none hv)).symm
        | some v =>
          rw [Value.at?_map_cons, hv, Option.bind_some] at h
          rw [Value.letsThrough_cons hv]
          cases Entries.find? base key with
          | none => simp [laidOver, h]
          | some old => exact at?_overlay_of_none (habove.of_find? hv) h
      · rw [overlay_of_plain hplain, h, Value.at?_plain_cons hplain]
        simp
    · rw [overlay_plain _ hplain, h]
      simp [Value.not_letsThrough_plain hplain]

/-- What the upper layer binds a path to, or the lower one, where the upper one has nothing and
hides nothing. -/
theorem at?_overlay_eq_some {path : List Key} (habove : above.Keyed) :
    (overlay below above).at? path = some v
      ↔ (∃ w, above.at? path = some w ∧ laidOver (below.at? path) w = v)
        ∨ below.at? path = some v ∧ above.at? path = none ∧ above.LetsThrough path := by
  cases hw : above.at? path with
  | some w =>
    rw [at?_overlay_of_some habove hw]
    simp
  | none =>
    rw [at?_overlay_of_none habove hw]
    simp

theorem laidOver_plain (below : Option Value) (h : w.entries? = none) : laidOver below w = w := by
  cases below with
  | none => rfl
  | some old => exact overlay_plain old h

theorem entries?_laidOver (below : Option Value) (w : Value) :
    (laidOver below w).entries?.isSome = w.entries?.isSome := by
  rcases w.map_or_plain with ⟨es, rfl⟩ | hplain
  · cases below with
    | none => rfl
    | some old =>
      rcases old.map_or_plain with ⟨base, rfl⟩ | hold
      · rw [laidOver, overlay_map]
        rfl
      · rw [laidOver, overlay_of_plain hold]
  · rw [laidOver_plain below hplain]

theorem keys_laidOver {below : Option Value} {es es' : Entries} (hes : Entries.Keyed es)
    (h : laidOver below (.map es) = .map es') :
    Entries.keys es' = Entries.keys ((below.bind Value.entries?).getD [])
      ++ (Entries.keys es).filter fun k =>
        (Value.binding? ((below.bind Value.entries?).getD []) k).isNone := by
  -- a mapping that is laid over none has its own keys
  have hself : Entries.keys es = Entries.keys []
      ++ (Entries.keys es).filter fun k => (Value.binding? [] k).isNone := by
    have hnone (k : Value) : Value.binding? [] k = none := by
      cases hk : k.key? <;> simp [Value.binding?, hk, Entries.find?]
    simp [hnone, Entries.keys]
  cases below with
  | none => exact Value.map.inj h ▸ hself
  | some old =>
    rcases old.map_or_plain with ⟨base, rfl⟩ | hplain
    · rw [laidOver, overlay_map] at h
      exact Value.map.inj h ▸ keys_overlayEntries hes base
    · rw [laidOver, overlay_of_plain hplain] at h
      rw [Option.bind_some, hplain]
      exact Value.map.inj h ▸ hself

theorem exists_map_of_laidOver {below : Option Value} {es : Entries}
    (h : laidOver below w = .map es) : ∃ es₂, w = .map es₂ := by
  rw [← Value.isSome_entries?, ← entries?_laidOver below, h]
  rfl

/-! ## The law of layers -/

section Law

variable {path : List Key} (habove : above.Keyed)
include habove

theorem at?_overlay_eq_plain (hv : v.entries? = none) :
    (overlay below above).at? path = some v
      ↔ above.at? path = some v
        ∨ below.at? path = some v ∧ above.at? path = none ∧ above.LetsThrough path := by
  rw [at?_overlay_eq_some habove]
  refine or_congr_left ⟨?_, fun h => ⟨v, h, laidOver_plain _ hv⟩⟩
  rintro ⟨w, hw, rfl⟩
  -- a mapping that is laid over something is one still
  have hplain : w.entries? = none := by
    rw [← Option.not_isSome_iff_eq_none, entries?_laidOver] at hv
    rwa [← Option.not_isSome_iff_eq_none]
  rw [laidOver_plain _ hplain, hw]

theorem exists_at?_overlay_eq_map :
    (∃ es, (overlay below above).at? path = some (.map es))
      ↔ (∃ es, above.at? path = some (.map es))
        ∨ (∃ es, below.at? path = some (.map es)) ∧ above.at? path = none
          ∧ above.LetsThrough path := by
  simp only [at?_overlay_eq_some habove]
  rw [exists_or]
  refine or_congr ⟨?_, ?_⟩ exists_and_right
  · rintro ⟨es, w, hw, h⟩
    obtain ⟨es₂, rfl⟩ := exists_map_of_laidOver h
    exact ⟨es₂, hw⟩
  · rintro ⟨es₂, hes₂⟩
    have hsome := entries?_laidOver (below.at? path) (.map es₂)
    obtain ⟨es, h⟩ := Value.isSome_entries?.1 hsome
    exact ⟨es, .map es₂, hes₂, h⟩

theorem keys_of_at?_overlay {es : Entries} (h : (overlay below above).at? path = some (.map es)) :
    Entries.keys es = Entries.keys (below.entriesAt path)
      ++ (Entries.keys (above.entriesAt path)).filter fun k =>
        (Value.binding? (below.entriesAt path) k).isNone := by
  rcases (at?_overlay_eq_some habove).1 h with ⟨w, hw, h⟩ | ⟨hbelow, hnone, -⟩
  · obtain ⟨es₂, rfl⟩ := exists_map_of_laidOver h
    have hkeys := keys_laidOver (habove.of_at? hw).of_map.1 h
    simpa [Value.entriesAt, hw, Value.entries?] using hkeys
  · simp [Value.entriesAt, hbelow, hnone, Value.entries?, Entries.keys]

end Law

/-- Laid over each other, two mappings give a mapping. A path leads in it to something that is no
mapping, such as a list, exactly if it leads to that in the upper one, or in the lower one while it
leads nowhere in the upper one and comes past nothing there but mappings; and to some mapping on the
same terms. A mapping that it leads to has the keys of the lower one in its order, and then the new
keys of the upper one in its. -/
theorem merge_binds (b o : Entries) (ho : (Value.map o).Keyed) :
    ∃ es, merge (.map b) (.map o) = .ok (.map es)
      ∧ (∀ path v, v.entries? = none → ((Value.map es).at? path = some v ↔
          (Value.map o).at? path = some v
            ∨ (Value.map b).at? path = some v ∧ (Value.map o).at? path = none
              ∧ (Value.map o).LetsThrough path))
      ∧ (∀ path, (∃ es', (Value.map es).at? path = some (.map es')) ↔
          (∃ es', (Value.map o).at? path = some (.map es'))
            ∨ (∃ es', (Value.map b).at? path = some (.map es')) ∧ (Value.map o).at? path = none
              ∧ (Value.map o).LetsThrough path)
      ∧ ∀ path es', (Value.map es).at? path = some (.map es') →
          Entries.keys es' = Entries.keys ((Value.map b).entriesAt path)
            ++ (Entries.keys ((Value.map o).entriesAt path)).filter fun k =>
              (Value.binding? ((Value.map b).entriesAt path) k).isNone := by
  refine ⟨overlayEntries b o, merge_map b o, ?_⟩
  rw [← overlay_map]
  exact ⟨fun path v hv => at?_overlay_eq_plain ho hv, fun path => exists_at?_overlay_eq_map ho,
    fun path es' h => keys_of_at?_overlay ho h⟩

/-- A mapping over a mapping, a list over a list and a text over a mapping, and what three paths
lead to: a path past the text leads nowhere. -/
theorem merge_binds_of_sections :
    let base : Entries := [(.text "log", .map [(.text "level", .text "INFO"),
      (.text "file", .text "a")]), (.text "queries", .list [.int 1, .int 2]),
      (.text "output", .map [(.text "format", .text "text")])]
    let above : Entries := [(.text "output", .text "json"), (.text "queries", .list [.int 3]),
      (.text "log", .map [(.text "color", .bool true), (.text "level", .text "DEBUG")])]
    ∃ es, merge (.map base) (.map above) = .ok (.map es)
      ∧ (Value.map es).at? [[.text "log"], [.text "file"]] = some (.text "a")
      ∧ (Value.map es).at? [[.text "queries"]] = some (.list [.int 3])
      ∧ (Value.map es).at? [[.text "output"], [.text "format"]] ≠ some (.text "text")
      ∧ ∃ es', (Value.map es).at? [[.text "log"]] = some (.map es')
        ∧ Entries.keys es' = [.text "level", .text "file", .text "color"] := by
  intro base above
  have hlog : (Value.map [(.text "color", .bool true), (.text "level", .text "DEBUG")]).Keyed :=
    .map ⟨by simp [Value.key?], by simp [Value.key?]⟩ (by simpa using ⟨.plain rfl, .plain rfl⟩)
  have habove : (Value.map above).Keyed :=
    .map ⟨by simp [above, Value.key?], by simp [above, Value.key?]⟩
      (by simpa [above] using ⟨.plain rfl, .plain rfl, hlog⟩)
  obtain ⟨es, hes, hplain, hmap, hkeys⟩ := merge_binds base above habove
  refine ⟨es, hes, ?_, ?_, ?_, ?_⟩
  · refine (hplain _ _ rfl).2 (.inr ⟨by rfl, by rfl, Value.letsThrough_cons (by rfl) |>.2 ?_⟩)
    exact Value.letsThrough_of_find?_eq_none (by rfl)
  · exact (hplain _ _ rfl).2 (.inl rfl)
  · rw [Ne, hplain _ _ rfl]
    rintro (h | ⟨-, -, h⟩)
    · cases h
    · have hentries := h [[.text "output"]] (.text "json") (by decide) (by decide) rfl
      cases hentries
  · obtain ⟨es', hes'⟩ := (hmap [[.text "log"]]).2 (.inl ⟨_, rfl⟩)
    exact ⟨es', hes', hkeys _ _ hes'⟩

end Config

end QueryDraft
