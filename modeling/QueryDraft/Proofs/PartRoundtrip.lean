import QueryDraft.Proofs.HighlightRoutes
import QueryDraft.Proofs.ReadingSteps
import QueryDraft.Proofs.RequestDocument
import QueryDraft.Proofs.SearchInv

/-!
# Highlights and aggregations and their documents

A highlight that a value describes, rather than being one, has trimmed fields and tags
(`Highlight.Described`), so nothing is trimmed off a second time when it is read from its document.
The fields stand there as keys, each of them once; without the repetitions the highlight is
described again, and now it comes back as it is. An aggregation comes back as it is from the first
time on.
-/

namespace QueryDraft

open Document Entries
open Text (IsTrimmed)

/-! ## Highlights -/

namespace Highlight

/-- Trimmed tags, as texts. -/
def AreTags (ts : List Value) : Prop :=
  ∃ ss : List String, (∀ s ∈ ss, IsTrimmed s) ∧ ts = ss.map .text

/-- What a highlight holds that was made of the names of fields or of a mapping of options. -/
structure Described (h : Highlight) : Prop where
  hasFields : h.HasFields
  preTags : AreTags h.preTags
  postTags : AreTags h.postTags
  isSize : IsSize h.fragmentSize

variable {v : Value} {h : Highlight}

theorem areTags_of_takes {ts : List Value} (hts : Route.mapping.Takes v ts) : AreTags ts := by
  obtain ⟨ss, hss, rfl⟩ := hts
  refine ⟨ss, fun s hs => ?_, rfl⟩
  have hmem : some s ∈ v.tags.map Value.trimmed? := hss ▸ List.mem_map_of_mem hs
  obtain ⟨w, -, hw⟩ := List.mem_map.1 hmem
  exact isTrimmed_of_text? hw

theorem coerce_eq_make (hv : ofValue? v = none) (hmap : ∀ es, v ≠ .map es) :
    coerce v = make v (.tuple []) (.tuple []) .null := by
  unfold coerce
  split <;> simp_all

theorem described_of_coerce (hv : ofValue? v = none) (hcoerce : coerce v = .ok h) :
    h.Described := by
  by_cases hmap : ∃ es, v = .map es
  · obtain ⟨es, rfl⟩ := hmap
    have hmade : (Value.map es).IsMade := ⟨nofun, nofun⟩
    have hreflects := reflects_of_mapping hcoerce
    exact ⟨hasFields_of_coerce hmade hcoerce, areTags_of_takes hreflects.preTags,
      areTags_of_takes hreflects.postTags, hreflects.isSize (by decide)⟩
  · rw [coerce_eq_make hv fun es hes => hmap ⟨es, hes⟩] at hcoerce
    obtain ⟨-, -, hpre, hpost, hsize⟩ := make_eq_ok.1 hcoerce
    have hnone : AreTags [] := ⟨[], by simp, rfl⟩
    exact ⟨hasFields_of_make hcoerce, Option.some.inj hpre ▸ hnone, Option.some.inj hpost ▸ hnone,
      .inl hsize.symm⟩

theorem Described.withoutRepeats (hd : h.Described) : h.withoutRepeats.Described := by
  obtain ⟨⟨hne, htrimmed⟩, hpre, hpost, hsize⟩ := hd
  refine ⟨⟨?_, fun s hs => htrimmed s (Config.mem_distinct.1 hs)⟩, hpre, hpost, hsize⟩
  obtain ⟨s, hs⟩ := List.exists_mem_of_ne_nil _ hne
  exact List.ne_nil_of_mem (Config.mem_distinct.2 hs)

theorem withoutRepeats_withoutRepeats (h : Highlight) :
    h.withoutRepeats.withoutRepeats = h.withoutRepeats :=
  congrArg (fun fields => { h with fields })
    (Config.distinct_eq_self (Config.nodup_distinct h.fields))

theorem IsSize.isCount (hv : IsSize v) : (!v.isNull && v.int?.isNone) = false := by
  rcases hv with rfl | ⟨n, rfl⟩ <;> rfl

/-- Tags are read again from what is written for them, none from nothing. -/
theorem requireCollection_unlessEmpty {slot : TextsSlot} {ss : List String}
    (hss : ∀ s ∈ ss, IsTrimmed s) :
    requireCollection slot ((unlessEmpty .list (ss.map .text)).getD (.tuple [])) = .ok ss := by
  rcases ss with _ | ⟨s, ss⟩
  · rfl
  · exact requireCollection_textTuple hss

theorem get?_parts (h : Highlight) :
    let es := ofTexts (present h.parts)
    get? es "fields" = some (ofFields ((Config.distinct h.fields).map fun name => (name, .map [])))
      ∧ get? es "pre_tags" = unlessEmpty .list h.preTags
      ∧ get? es "post_tags" = unlessEmpty .list h.postTags
      ∧ get? es "fragment_size" = unlessNull h.fragmentSize := by
  have hnone (name : String) : get? (ofTexts (present [])) name = none := rfl
  simp [parts, get?_present_cons, hnone]

theorem fieldsOf_ofFields (names : List String) (v : Value) :
    fieldsOf (ofFields (names.map fun name => (name, v))) = .textTuple names := by
  rw [ofFields_eq, fieldsOf, keys_ofTexts, List.map_map]
  rfl

/-- A highlight that was described is read from its document, each of its fields once. -/
theorem coerce_document (hd : h.Described) : coerce h.document = .ok h.withoutRepeats := by
  obtain ⟨hne, htrimmed⟩ := hd.withoutRepeats.hasFields
  obtain ⟨-, ⟨pre, hpre, hpreTags⟩, ⟨post, hpost, hpostTags⟩, hsize⟩ := hd
  obtain ⟨hfields, hpreAt, hpostAt, hsizeAt⟩ := h.get?_parts
  have hnames : ∀ e ∈ present h.parts, e.1 ∈ names := fun e he => name_mem_of_mem_present he
  have hsizeOf : getD (ofTexts (present h.parts)) "fragment_size" = h.fragmentSize := by
    rw [getD, hsizeAt]
    cases h.fragmentSize <;> rfl
  have hread : coerce h.document = make (.textTuple h.withoutRepeats.fields) (.textTuple pre)
      (.textTuple post) h.fragmentSize := by
    rw [document_eq, ofFields_eq]
    simp only [coerce, ofValue?, rejectUnknown_ofTexts hnames, ok_bind, hsizeOf, hsize.isCount,
      hfields, Option.getD_some, fieldsOf_ofFields, hpreAt, hpreTags, hpostAt, hpostTags,
      requireCollection_unlessEmpty hpre, requireCollection_unlessEmpty hpost]
    rfl
  rw [hread]
  exact make_eq_ok.2 ⟨requireCollection_textTuple htrimmed, hne, congrArg some hpreTags.symm,
    congrArg some hpostTags.symm, rfl⟩

end Highlight

/-! ## Aggregations -/

/-- A text that is not empty. -/
def Value.IsNonempty (v : Value) : Prop := ∃ s, v.text? = some s ∧ s ≠ ""

theorem Value.IsNonempty.isTruthy {v : Value} (h : v.IsNonempty) : v.isTruthy := by
  obtain ⟨s, hs, hne⟩ := h
  cases v <;> simp_all [text?, Value.isTruthy]

namespace Aggregation

/-- The aggregations whose field is a text that is not empty, as is the interval of a histogram; the
size of an aggregation by terms is one that its rule takes. -/
inductive Described : Aggregation → Prop
  | avg {field : Value} (hfield : field.IsNonempty) : Described (.avg field)
  | sum {field : Value} (hfield : field.IsNonempty) : Described (.sum field)
  | terms {field size : Value} {a : Aggregation} (hfield : field.IsNonempty)
    (hmake : makeTerms field size = .ok a) : Described a
  | dateHistogram {field interval : Value} (hfield : field.IsNonempty)
    (hinterval : interval.IsNonempty) : Described (.dateHistogram field interval)

theorem aggregationDocument_toValue (a : Aggregation) :
    a.toValue.aggregationDocument = .ok a.document := by
  cases a <;> rfl

theorem ofDocument_document {a : Aggregation} (h : a.Described) :
    ofDocument a.document = .ok a := by
  cases h with
  | @avg field hfield =>
    have hread : (getD (ofTexts [("field", field)]) "field").isTruthy := hfield.isTruthy
    exact ofDocument_avg hread rfl
  | @sum field hfield =>
    have hread : (getD (ofTexts [("field", field)]) "field").isTruthy := hfield.isTruthy
    exact ofDocument_sum hread rfl
  | @terms field size _ hfield hmake =>
    obtain rfl := eq_of_makeTerms hmake
    have hread : (getD (ofTexts [("field", field), ("size", size)]) "field").isTruthy :=
      hfield.isTruthy
    exact (ofDocument_terms hread rfl).trans hmake
  | @dateHistogram field interval hfield hinterval =>
    have hread : (getD (ofTexts [("field", field), ("calendar_interval", interval)])
      "field").isTruthy := hfield.isTruthy
    exact (ofDocument_dateHistogram hread rfl).trans (if_pos hinterval.isTruthy)

end Aggregation

/-- A highlight that some value describes, rather than being one, is written as a document from
which it is read again with each field once, in the place where it was named first. Written and read
a second time, that one stays as it is. An aggregation whose field, and interval, are texts with
something in them and whose size its rule takes is read from its document as it was. -/
theorem reading_returns :
    (∀ (v : Value) (h : Highlight), Highlight.ofValue? v = none → Highlight.coerce v = .ok h →
      let kept : Highlight := { h with fields := h.fields.eraseDups }
      (h.toValue.highlightDocument >>= Highlight.coerce) = .ok kept
        ∧ (kept.toValue.highlightDocument >>= Highlight.coerce) = .ok kept)
      ∧ ∀ a : Aggregation, a.Described →
        (a.toValue.aggregationDocument >>= Aggregation.ofDocument) = .ok a := by
  refine ⟨fun v h hv hcoerce => ?_, fun a ha => ?_⟩
  · have hd := Highlight.described_of_coerce hv hcoerce
    intro kept
    have hkept : kept = h.withoutRepeats :=
      congrArg (fun fields => { h with fields }) (Config.distinct_eq_eraseDups h.fields).symm
    rw [hkept, h.highlightDocument_toValue, h.withoutRepeats.highlightDocument_toValue, ok_bind,
      ok_bind, Highlight.coerce_document hd, Highlight.coerce_document hd.withoutRepeats,
      h.withoutRepeats_withoutRepeats]
    exact ⟨rfl, rfl⟩
  · rw [a.aggregationDocument_toValue, ok_bind]
    exact Aggregation.ofDocument_document ha

/-- A field that is named again with white space around it is written once, and a size may be a
truth. -/
theorem reading_returns_padded :
    let v : Value := .map [(.text "fields", .list [.text "title", .text "body", .text " title\t"]),
      (.text "pre_tags", .text "<em> "), (.text "fragment_size", .int 0)]
    let h : Highlight := ⟨["title", "body", "title"], [.text "<em>"], [], .int 0⟩
    let kept : Highlight := ⟨["title", "body"], [.text "<em>"], [], .int 0⟩
    let a := Aggregation.terms (.text " ") (.bool true)
    Highlight.coerce v = .ok h
      ∧ (h.toValue.highlightDocument >>= Highlight.coerce) = .ok kept
      ∧ (kept.toValue.highlightDocument >>= Highlight.coerce) = .ok kept
      ∧ (a.toValue.aggregationDocument >>= Aggregation.ofDocument) = .ok a := by
  intro v h kept a
  obtain ⟨hhighlights, haggregations⟩ := reading_returns
  have hcoerce : Highlight.coerce v = .ok h := by with_unfolding_all rfl
  obtain ⟨honce, hagain⟩ := hhighlights v h rfl hcoerce
  have hfield : (Value.text " ").IsNonempty := ⟨" ", rfl, by decide⟩
  have hmake : Aggregation.makeTerms (.text " ") (.bool true) = .ok a := by with_unfolding_all rfl
  exact ⟨hcoerce, honce, hagain, haggregations a (.terms hfield hmake)⟩

end QueryDraft
