import QueryDraft.Proofs.KeyOrder
import QueryDraft.Proofs.SearchDefinition

/-!
# Highlights by three routes

A mapping of options is made into a highlight in three ways: its options are handed to the rule for
highlights, the mapping is, or a definition holds it (`Highlight.Made`). All routes give the same
fields and the same size of fragments. Each has its own rule for tags (`Route.tags`): the first
takes the items of whatever it is given, so that a single text comes apart; the second trims each
tag; the third keeps each tag as it stands. So two routes agree exactly where the tags leave their
rules no choice (`routes_agree_iff`).
-/

namespace QueryDraft

/-! ## Texts as data -/

theorem Value.key?_eq_text {w : Value} {s : String} :
    w.key? = some [.text s] ↔ w.text? = some s := by
  cases w <;> simp [key?, text?]

theorem Value.same_of_text {v w : Value} {s : String} (hv : v.text? = some s) :
    v.same w = true ↔ w.text? = some s := by
  have hkey := key?_of_text hv
  have hsame : v.same w = v.sameKey w := by
    cases v <;> simp [text?] at hv <;> rw [Value.same] <;> simp
  rw [hsame, sameKey, hkey, ← key?_eq_text, Option.isSome_some, Bool.true_and, beq_iff_eq]
  exact eq_comm

theorem sameItems_of_texts {vs : List Value} (hvs : ∀ v ∈ vs, v.text?.isSome) {ws : List Value} :
    sameItems vs ws = true ↔ vs.map Value.text? = ws.map Value.text? := by
  induction vs generalizing ws with
  | nil => cases ws <;> simp [sameItems]
  | cons v vs ih =>
    obtain ⟨hv, hvs⟩ := List.forall_mem_cons.1 hvs
    obtain ⟨s, hs⟩ := Option.isSome_iff_exists.1 hv
    cases ws with
    | nil => simp [sameItems]
    | cons w ws =>
      rw [sameItems, Bool.and_eq_true, Value.same_of_text hs, ih hvs, List.map_cons, List.map_cons,
        List.cons.injEq, hs, eq_comm (a := w.text?)]

/-! ## Tags -/

/-- The tags that a value is meant to give: a text is one tag. -/
def Value.tags (v : Value) : List Value :=
  match v.text? with
  | some _ => [v]
  | none => v.items?.getD []

/-- Whether going through the items of a value gives its tags, as a text of one character does. -/
def Value.IsWhole (v : Value) : Prop := ∀ s, v.text? = some s → s.length = 1

/-- Whether each tag that a value gives has no white space at either end. -/
def Value.HasTrimmedTags (v : Value) : Prop := ∀ w ∈ v.tags, w.trimmed? = w.text?

theorem tags_of_text {v : Value} {s : String} (h : v.text? = some s) : v.tags = [v] := by
  rw [Value.tags, h]

theorem tags_of_items {v : Value} {vs : List Value} (h : v.text? = none)
    (hvs : v.items? = some vs) : v.tags = vs := by
  rw [Value.tags, h, hvs, Option.getD_some]

theorem requireCollection_tags {slot : TextsSlot} {v : Value} {ss : List String}
    (h : requireCollection slot v = .ok ss) : v.tags.map Value.trimmed? = ss.map some := by
  have hmembers {vs : List Value} (h : vs.mapM (requireMember slot) = .ok ss) :
      vs.map Value.trimmed? = ss.map some :=
    map_eq_map_of_forall₂ (mapM_eq_ok.1 h) fun _ _ => requireMember_eq_ok.1
  have hone (h : (do return [← requireMember slot v]) = Except.ok ss) :
      [v].map Value.trimmed? = ss.map some := by
    refine hmembers ?_
    rwa [List.mapM_cons, List.mapM_nil]
  cases v with
  | text s | word w => exact hone h
  | list vs | tuple vs | set vs => exact hmembers h
  | bytes bs =>
    cases bs with
    | nil =>
      obtain rfl := Except.ok.inj h
      rfl
    | cons b bs => cases h
  | _ => cases h

theorem expectTexts_tags {key : String} {v : Value} {ss : List String}
    (h : Config.expectTexts key v = .ok ss) : v.tags.map Value.text? = ss.map some := by
  unfold Config.expectTexts at h
  split at h
  · rename_i s hs
    obtain rfl := Except.ok.inj h
    rw [tags_of_text hs, List.map_singleton, hs, List.map_singleton]
  · obtain ⟨vs, hvs, h⟩ := bind_eq_ok.1 h
    obtain rfl := Config.expectList_eq_ok.1 hvs
    exact map_eq_map_of_forall₂ (Config.forall₂_of_places (P := fun v s => v.text? = some s)
      (fun _ _ _ => Config.expectText_eq_ok.1) h) fun _ _ hs => hs

theorem expectSpellings_tags {key : String} {v : Value} {ts : List Value}
    (h : Config.expectSpellings key v = .ok ts) : ts = v.tags ∧ ∀ t ∈ ts, t.text?.isSome := by
  unfold Config.expectSpellings at h
  split at h
  · rename_i s hs
    obtain rfl := Except.ok.inj h
    exact ⟨(tags_of_text hs).symm, by simp [hs]⟩
  · obtain ⟨vs, hvs, h⟩ := bind_eq_ok.1 h
    obtain rfl := Config.expectList_eq_ok.1 hvs
    have hts := Config.forall₂_of_places (P := fun v w => (∃ s, v.text? = some s) ∧ v = w)
      (fun _ _ _ => Config.expectSpelling_eq_ok.1) h
    have heq := map_eq_map_of_forall₂ (f := id) (g := id) hts fun _ _ hw => hw.2
    rw [List.map_id, List.map_id] at heq
    refine ⟨heq.symm, forall_mem_of_forall₂ hts ?_⟩
    rintro v _ ⟨⟨s, hs⟩, rfl⟩
    rw [hs]
    rfl

/-! ## Routes -/

/-- The ways in which a mapping of options is made into a highlight. -/
inductive Route where
  | options | mapping | definition
  deriving DecidableEq

/-- The tags that a route takes from a value. -/
def Route.Takes : Route → Value → List Value → Prop
  | .options, v, ts => v.items? = some ts
  | .mapping, v, ts => ∃ ss : List String, v.tags.map Value.trimmed? = ss.map some
    ∧ ts = ss.map Value.text
  | .definition, v, ts => ts = v.tags ∧ ∀ t ∈ ts, t.text?.isSome

/-- Whether two routes take the same tags from a value, as the value decides. -/
def Route.AgreeOn : Route → Route → Value → Prop
  | .options, .mapping, v | .mapping, .options, v => v.IsWhole ∧ v.HasTrimmedTags
  | .options, .definition, v | .definition, .options, v => v.IsWhole
  | .mapping, .definition, v | .definition, .mapping, v => v.HasTrimmedTags
  | _, _, _ => True

section Takes

variable {v : Value} {ts ts' : List Value}

theorem items_of_text {s : String} (hs : v.text? = some s) (h : v.items? = some ts) :
    ts = Value.characters s := by
  cases v <;> simp_all [Value.text?, Value.items?]

/-- Going through the items of a text gives it back only if it has one character. -/
theorem isWhole_of_map_eq {f g : Value → Option String} (h : v.items? = some ts)
    (heq : ts.map f = v.tags.map g) : v.IsWhole := by
  intro s hs
  have hlength := congrArg List.length heq
  rw [List.length_map, List.length_map, tags_of_text hs, items_of_text hs h, Value.characters,
    List.length_map] at hlength
  exact String.length_toList.symm.trans hlength

theorem items_eq_tags_iff (h : v.items? = some ts) :
    ts.map Value.text? = v.tags.map Value.text? ↔ v.IsWhole := by
  refine ⟨isWhole_of_map_eq h, fun hwhole => ?_⟩
  cases hv : v.text? with
  | none => rw [tags_of_items hv h]
  | some s =>
    obtain ⟨c, hc⟩ := List.length_eq_one_iff.1 (String.length_toList.trans (hwhole s hv))
    have hs : c.toString = s := by
      rw [← String.toList_inj, hc]
      exact String.toList_singleton c
    rw [tags_of_text hv, List.map_singleton, hv, items_of_text hv h, Value.characters, hc,
      List.map_singleton, List.map_singleton, hs, Value.text?]

theorem trimmed_eq_tags_iff :
    v.tags.map Value.trimmed? = v.tags.map Value.text? ↔ v.HasTrimmedTags :=
  List.map_inj_left

theorem items_eq_trimmed_iff (h : v.items? = some ts) :
    ts.map Value.text? = v.tags.map Value.trimmed? ↔ v.IsWhole ∧ v.HasTrimmedTags := by
  constructor
  · intro heq
    have hwhole := isWhole_of_map_eq h heq
    refine ⟨hwhole, trimmed_eq_tags_iff.1 ?_⟩
    rw [← heq, (items_eq_tags_iff h).2 hwhole]
  · rintro ⟨hwhole, htrimmed⟩
    rw [(items_eq_tags_iff h).2 hwhole, trimmed_eq_tags_iff.2 htrimmed]

theorem texts_of_mapping (h : Route.mapping.Takes v ts) :
    ts.map Value.text? = v.tags.map Value.trimmed? := by
  obtain ⟨ss, hss, rfl⟩ := h
  rw [hss, List.map_map]
  rfl

/-- Different routes take the same tags exactly where the value leaves them no choice. -/
theorem agreeOn_iff {r r' : Route} (hne : r ≠ r') (h : r.Takes v ts) (h' : r'.Takes v ts') :
    ts.map Value.text? = ts'.map Value.text? ↔ r.AgreeOn r' v := by
  cases r with
  | options => cases r' with
    | options => exact absurd rfl hne
    | mapping =>
      rw [texts_of_mapping h']
      exact items_eq_trimmed_iff h
    | definition =>
      rw [h'.1]
      exact items_eq_tags_iff h
  | mapping =>
    rw [texts_of_mapping h]
    cases r' with
    | options => exact eq_comm.trans (items_eq_trimmed_iff h')
    | mapping => exact absurd rfl hne
    | definition =>
      rw [h'.1]
      exact trimmed_eq_tags_iff
  | definition =>
    rw [h.1]
    cases r' with
    | options => exact eq_comm.trans (items_eq_tags_iff h')
    | mapping =>
      rw [texts_of_mapping h']
      exact eq_comm.trans trimmed_eq_tags_iff
    | definition => exact absurd rfl hne

theorem Route.Takes.texts_tags {r : Route} (hr : r ≠ .options) (h : r.Takes v ts) :
    ∀ t ∈ v.tags, t.text?.isSome := by
  cases r with
  | options => exact absurd rfl hr
  | mapping =>
    intro t ht
    obtain ⟨ss, hss, -⟩ := h
    have htrimmed : t.trimmed? ∈ ss.map some := hss ▸ List.mem_map_of_mem ht
    obtain ⟨s, -, hs⟩ := List.mem_map.1 htrimmed
    obtain ⟨u, hu, -⟩ := Option.bind_eq_some_iff.1 hs.symm
    rw [hu]
    rfl
  | definition => exact h.1 ▸ h.2

/-- A route takes texts if another one takes tags from the value as well. -/
theorem texts_of_takes {r r' : Route} (hne : r ≠ r') (h : r.Takes v ts) (h' : r'.Takes v ts') :
    ∀ t ∈ ts, t.text?.isSome := by
  cases r with
  | options =>
    have htags := h'.texts_tags hne.symm
    cases hv : v.text? with
    | none => rwa [tags_of_items hv h] at htags
    | some s =>
      rw [items_of_text hv h, Value.characters]
      simp [Value.text?]
  | mapping =>
    obtain ⟨ss, -, rfl⟩ := h
    simp [Value.text?]
  | definition => exact h.2

theorem Route.Takes.unique {r : Route} (h : r.Takes v ts) (h' : r.Takes v ts') : ts = ts' := by
  cases r with
  | options => exact Option.some.inj (h.symm.trans h')
  | mapping =>
    obtain ⟨ss, hss, rfl⟩ := h
    obtain ⟨ss', hss', rfl⟩ := h'
    rw [List.map_injective_iff.2 (Option.some_injective _) (hss.symm.trans hss')]
  | definition => exact h.1.trans h'.1.symm

end Takes

namespace Config.Search

/-- The highlight of a definition is the one that its own part describes. -/
theorem options_of_read {key query : String} {entries es : Entries} {d : QueryDraft.Search.Draft}
    {h : Highlight} (hread : Definition.read key (.map entries) = .ok ⟨query, .search d⟩)
    (hes : Entries.get? entries "highlight" = some (.map es)) (hh : d.highlight = some h) :
    ∃ key, readHighlightOptions key es = .ok h := by
  obtain ⟨as, has, rfl⟩ := edits_of_read hread
  simp only [edits, bind_eq_ok, pure_eq_ok] at has
  obtain ⟨index, -, ⟨⟩, -, query, -, bool, -, filter, -, ranges, -, sort, -, size, -, start, -,
    source, -, aggs, -, highlight, hhighlight, rfl⟩ := has
  obtain ⟨a, ha, rfl⟩ := exists_of_optional hhighlight hes
  simp only [readHighlight, bind_eq_ok, pure_eq_ok, expectMapping_eq_ok] at ha
  obtain ⟨_, ⟨⟩, spec, hspec, rfl⟩ := ha
  rw [List.foldl_append] at hh
  exact ⟨_, Option.some.inj hh ▸ hspec⟩

end Config.Search

namespace Highlight

/-- What a mapping of options binds to the name of tags, no tags if it binds nothing. -/
def tagsAt (es : Entries) (name : String) : Value := (Entries.get? es name).getD (.tuple [])

/-- The highlights that are made of a mapping of options, by each route. -/
inductive Made (es : Entries) : Route → Highlight → Prop
  | options {h : Highlight} (hmake : make (Entries.getD es "fields") (tagsAt es "pre_tags")
    (tagsAt es "post_tags") (Entries.getD es "fragment_size") = .ok h) : Made es .options h
  | mapping {h : Highlight} (hcoerce : coerce (.map es) = .ok h) : Made es .mapping h
  | definition {key query : String} {entries : Entries} {d : Search.Draft} {h : Highlight}
    (hes : Entries.get? entries "highlight" = some (.map es))
    (hread : Config.Definition.read key (.map entries) = .ok ⟨query, .search d⟩)
    (hh : d.highlight = some h) : Made es .definition h

/-- Whether a size of fragments is one that a mapping may set. -/
def IsSize (v : Value) : Prop := v = .null ∨ ∃ n, v = .int n

theorem IsSize.same_self {v : Value} (h : IsSize v) : v.same v = true := by
  rcases h with rfl | ⟨n, rfl⟩
  · rfl
  · rw [Value.same] <;> simp [Value.sameKey, Value.key?]

/-- What a route makes of the options of a mapping. -/
structure Reflects (es : Entries) (r : Route) (h : Highlight) : Prop where
  fields : (fieldsOf (Entries.getD es "fields")).tags.map Value.trimmed? = h.fields.map some
  preTags : r.Takes (tagsAt es "pre_tags") h.preTags
  postTags : r.Takes (tagsAt es "post_tags") h.postTags
  size : h.fragmentSize = Entries.getD es "fragment_size"
  isSize : r ≠ .options → IsSize h.fragmentSize

theorem reflects_of_options {es : Entries} {h : Highlight}
    (hmake : make (Entries.getD es "fields") (tagsAt es "pre_tags") (tagsAt es "post_tags")
      (Entries.getD es "fragment_size") = .ok h) : Reflects es .options h := by
  obtain ⟨hfields, -, hpre, hpost, hsize⟩ := make_eq_ok.1 hmake
  refine ⟨?_, hpre, hpost, hsize.symm, fun hne => absurd rfl hne⟩
  rw [← requireCollection_tags hfields]
  -- a mapping is no collection of fields for this rule
  cases hv : Entries.getD es "fields" with
  | map fields => simp [hv, requireCollection, Value.collection?] at hfields
  | _ => rfl

theorem takes_of_requireCollection {slot : TextsSlot} {v : Value} {ss : List String}
    {ts : List Value} (h : requireCollection slot v = .ok ss)
    (hts : (Value.textTuple ss).items? = some ts) : Route.mapping.Takes v ts :=
  ⟨ss, requireCollection_tags h, (Option.some.inj hts).symm⟩

theorem reflects_of_mapping {es : Entries} {h : Highlight} (hcoerce : coerce (.map es) = .ok h) :
    Reflects es .mapping h := by
  simp only [coerce, ofValue?, check_bind_eq_ok] at hcoerce
  obtain ⟨-, hcoerce⟩ := hcoerce
  split_ifs at hcoerce
  · simp [refuse] at hcoerce
  · rename_i hset
    simp only [bind_eq_ok] at hcoerce
    obtain ⟨pre, hpre, post, hpost, hmake⟩ := hcoerce
    obtain ⟨hfields, -, hpre', hpost', hsize⟩ := make_eq_ok.1 hmake
    have hisSize : IsSize (Entries.getD es "fragment_size") := by
      revert hset
      cases Entries.getD es "fragment_size" <;> simp [IsSize, Value.isNull, Value.int?]
    refine ⟨?_, takes_of_requireCollection hpre hpre', takes_of_requireCollection hpost hpost',
      hsize.symm, fun _ => hsize ▸ hisSize⟩
    rw [← requireCollection_tags hfields, Entries.getD]
    cases Entries.get? es "fields" <;> rfl

/-- Names that were read as texts are checked as fields. -/
theorem fields_of_expectTexts {key : String} {v : Value} {ss names : List String}
    (h : Config.expectTexts key v = .ok ss)
    (hnames : requireCollection .highlightFields (.textTuple ss) = .ok names) :
    v.tags.map Value.trimmed? = names.map some := by
  have htrimmed : Value.trimmed? = fun v => v.text?.bind Text.nonBlank? := rfl
  have htexts := expectTexts_tags h
  calc v.tags.map Value.trimmed?
      = (v.tags.map Value.text?).map (·.bind Text.nonBlank?) := by rw [List.map_map, htrimmed]; rfl
    _ = (Value.textTuple ss).tags.map Value.trimmed? := by
        rw [htexts, List.map_map, tags_of_items (v := .textTuple ss) rfl rfl, List.map_map]
        rfl
    _ = names.map some := requireCollection_tags hnames

theorem takes_of_expectSpellings {es : Entries} {key name : String} {ts ts' : List Value}
    (h : Config.expectSpellings key (Config.getOr es name (.list [])) = .ok ts)
    (hts : (Value.tuple ts).items? = some ts') : Route.definition.Takes (tagsAt es name) ts' := by
  obtain rfl : ts = ts' := Option.some.inj hts
  obtain ⟨heq, htexts⟩ := expectSpellings_tags h
  refine ⟨heq.trans ?_, htexts⟩
  rw [Config.getOr, tagsAt]
  cases Entries.get? es name <;> rfl

theorem reflects_of_options_read {key : String} {es : Entries} {h : Highlight}
    (hread : Config.Search.readHighlightOptions key es = .ok h) : Reflects es .definition h := by
  simp only [Config.Search.readHighlightOptions, bind_eq_ok, Config.require_eq_ok] at hread
  obtain ⟨⟨⟩, -, listed, hlisted, ss, hss, pre, hpre, post, hpost, hread⟩ := hread
  obtain ⟨size, hsize, hisSize, hmake⟩ : ∃ size, size = Entries.getD es "fragment_size"
      ∧ IsSize size ∧ Highlight.make (.textTuple ss) (.tuple pre) (.tuple post) size = .ok h := by
    have hget : Config.getOr es "fragment_size" .null = Entries.getD es "fragment_size" := rfl
    rw [hget] at hread
    split at hread
    · rename_i hnull
      exact ⟨.null, hnull.symm, .inl rfl, hread⟩
    · obtain ⟨size, hsize, hmake⟩ := bind_eq_ok.1 hread
      obtain ⟨n, hn, rfl⟩ := map_eq_ok.1 hsize
      rw [Config.expectInt_eq_ok] at hn
      exact ⟨_, hn.symm, .inr ⟨n, rfl⟩, hmake⟩
  obtain ⟨hfields, -, hpre', hpost', hsize'⟩ := make_eq_ok.1 hmake
  refine ⟨?_, takes_of_expectSpellings hpre hpre', takes_of_expectSpellings hpost hpost',
    hsize'.symm.trans hsize, fun _ => hsize' ▸ hisSize⟩
  rw [← fields_of_expectTexts hss hfields, Entries.getD, hlisted]
  cases listed <;> rfl

theorem Made.reflects {es : Entries} {r : Route} {h : Highlight} (hmade : Made es r h) :
    Reflects es r h := by
  cases hmade with
  | options hmake => exact reflects_of_options hmake
  | mapping hcoerce => exact reflects_of_mapping hcoerce
  | definition hes hread hh =>
    obtain ⟨_, hoptions⟩ := Config.Search.options_of_read hread hes hh
    exact reflects_of_options_read hoptions

theorem same_iff {h h' : Highlight} (hfields : h.fields = h'.fields)
    (hpre : ∀ t ∈ h.preTags, t.text?.isSome) (hpost : ∀ t ∈ h.postTags, t.text?.isSome)
    (hsize : h.fragmentSize = h'.fragmentSize) (hisSize : IsSize h.fragmentSize) :
    h.toValue.same h'.toValue = true ↔
      h.preTags.map Value.text? = h'.preTags.map Value.text?
        ∧ h.postTags.map Value.text? = h'.postTags.map Value.text? := by
  have hnames : (Value.textTuple h.fields).same (.textTuple h'.fields) = true := by
    rw [← hfields, Value.textTuple, Value.same]
    exact (sameItems_of_texts (by simp [Value.text?])).2 rfl
  have hsame : h.fragmentSize.same h'.fragmentSize = true := hsize ▸ hisSize.same_self
  simp [toValue, Value.same, sameItems, hnames, hsame, sameItems_of_texts hpre,
    sameItems_of_texts hpost]

theorem Reflects.fields_eq {es : Entries} {r r' : Route} {h h' : Highlight} (hr : Reflects es r h)
    (hr' : Reflects es r' h') : h.fields = h'.fields :=
  List.map_injective_iff.2 (Option.some_injective _) (hr.fields.symm.trans hr'.fields)

/-- The highlights that different routes make of one mapping of options have the same fields and the
same size of fragments. They are equal as data exactly where the two routes agree on the tags on
both sides: with the items of a value no text comes apart, and of tags that are trimmed or kept none
has white space at its ends. A route alone makes one highlight at most. -/
theorem routes_agree_iff (es : Entries) {r r' : Route} {h h' : Highlight} (hr : Made es r h)
    (hr' : Made es r' h') :
    h.fields = h'.fields ∧ h.fragmentSize = h'.fragmentSize
      ∧ (r = r' → h = h')
      ∧ (r ≠ r' → (h.toValue.same h'.toValue = true ↔
        r.AgreeOn r' (tagsAt es "pre_tags") ∧ r.AgreeOn r' (tagsAt es "post_tags"))) := by
  have hreflects := hr.reflects
  have hreflects' := hr'.reflects
  have hfields : h.fields = h'.fields := hreflects.fields_eq hreflects'
  have hsize : h.fragmentSize = h'.fragmentSize := hreflects.size.trans hreflects'.size.symm
  refine ⟨hfields, hsize, ?_, fun hne => ?_⟩
  · rintro rfl
    have hpre := hreflects.preTags.unique hreflects'.preTags
    have hpost := hreflects.postTags.unique hreflects'.postTags
    cases h
    cases h'
    simp_all
  · have hisSize : IsSize h.fragmentSize := by
      -- one of two different routes checks the size
      by_cases hoptions : r = .options
      · exact hsize ▸ hreflects'.isSize fun hoptions' => hne (hoptions.trans hoptions'.symm)
      · exact hreflects.isSize hoptions
    rw [same_iff hfields (texts_of_takes hne hreflects.preTags hreflects'.preTags)
      (texts_of_takes hne hreflects.postTags hreflects'.postTags) hsize hisSize,
      agreeOn_iff hne hreflects.preTags hreflects'.preTags,
      agreeOn_iff hne hreflects.postTags hreflects'.postTags]

/-- The definition of a search with a highlight and nothing else. -/
def definitionOf (es : Entries) : Entries :=
  [(.text "name", .text "q"), (.text "type", .text "search"), (.text "highlight", .map es)]

theorem made_of_definition {es : Entries} {h : Highlight}
    (hread : Config.Definition.read "queries[0]" (.map (definitionOf es))
      = .ok ⟨"q", .search { highlight := some h }⟩) : Made es .definition h :=
  .definition rfl hread rfl

/-- Tags that are listed and trimmed are the same by all routes. -/
theorem routes_agree_of_listed :
    let tags (name : String) := Value.list [.text name]
    let es : Entries := [(.text "fields", .list [.text " title "]), (.text "pre_tags", tags "<em>"),
      (.text "post_tags", tags "</em>"), (.text "fragment_size", .int 80)]
    ∃ h h' h'', Made es .options h ∧ Made es .mapping h' ∧ Made es .definition h''
      ∧ h.toValue.same h'.toValue = true ∧ h'.toValue.same h''.toValue = true
      ∧ h.toValue.same h''.toValue = true := by
  intro tags es
  let h : Highlight := ⟨["title"], [.text "<em>"], [.text "</em>"], .int 80⟩
  have hoptions : Made es .options h := .options (by with_unfolding_all rfl)
  have hmapping : Made es .mapping h := .mapping (by with_unfolding_all rfl)
  have hdefinition : Made es .definition h := made_of_definition (by with_unfolding_all rfl)
  have hwhole (name : String) : (tags name).IsWhole := by
    intro s hs
    cases hs
  have htrimmed {name : String} (hname : (Value.text name).trimmed? = some name) :
      (tags name).HasTrimmedTags := List.forall_mem_singleton.2 hname
  have hem : (tags "<em>").HasTrimmedTags := htrimmed (by decide +kernel)
  have hem' : (tags "</em>").HasTrimmedTags := htrimmed (by decide +kernel)
  refine ⟨h, h, h, hoptions, hmapping, hdefinition, ?_, ?_, ?_⟩
  · exact ((routes_agree_iff es hoptions hmapping).2.2.2 (by decide)).2
      ⟨⟨hwhole _, hem⟩, hwhole _, hem'⟩
  · exact ((routes_agree_iff es hmapping hdefinition).2.2.2 (by decide)).2 ⟨hem, hem'⟩
  · exact ((routes_agree_iff es hoptions hdefinition).2.2.2 (by decide)).2 ⟨hwhole _, hwhole _⟩

/-- A single tag comes apart where options are handed over one by one, and is trimmed where a
mapping is handed over. -/
theorem routes_differ_on_tags :
    let options (pre : Value) : Entries :=
      [(.text "fields", .list [.text "title"]), (.text "pre_tags", pre)]
    let em := options (.text "<em>")
    let padded := options (.list [.text "<em> "])
    (∃ h h' h'', Made em .options h ∧ Made em .mapping h' ∧ Made em .definition h''
        ∧ h.preTags = [.text "<", .text "e", .text "m", .text ">"]
        ∧ h'.preTags = [.text "<em>"] ∧ h''.preTags = [.text "<em>"]
        ∧ h.toValue.same h'.toValue = false ∧ h.toValue.same h''.toValue = false)
      ∧ ∃ h' h'', Made padded .mapping h' ∧ Made padded .definition h''
        ∧ h'.preTags = [.text "<em>"] ∧ h''.preTags = [.text "<em> "]
        ∧ h'.toValue.same h''.toValue = false := by
  intro options em padded
  let apart : Highlight := ⟨["title"], Value.characters "<em>", [], .null⟩
  let whole : Highlight := ⟨["title"], [.text "<em>"], [], .null⟩
  let kept : Highlight := ⟨["title"], [.text "<em> "], [], .null⟩
  refine ⟨⟨apart, whole, whole, .options ?_, .mapping ?_, made_of_definition ?_, rfl, rfl, rfl, ?_,
    ?_⟩, whole, kept, .mapping ?_, made_of_definition ?_, rfl, rfl, ?_⟩
  all_goals with_unfolding_all rfl

end Highlight

end QueryDraft
