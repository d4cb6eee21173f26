import QueryDraft.Proofs.NumberOrder
import QueryDraft.Proofs.QueryReport
import QueryDraft.Proofs.SearchSlots
import QueryDraft.Proofs.SettingsRead
import QueryDraft.Proofs.StatementBuild

/-!
# Reports along the steps of a draft

On a built query every rule comes to a truth (`statementFindings`, `searchFindings`), and a report
is read off these truths. A step on a draft moves all of them in one direction: what costs more
keeps the notes and adds to them, what narrows a query adds none (`report_of_step`). Reports are
compared by their notes as lists and by how bad their ratings are (`Report.Within`).
-/

namespace QueryDraft

/-! ## Numbers among values -/

theorem Value.less_of_number {v w : Value} {a b : Number} (hv : v.number? = some a)
    (hw : w.number? = some b) : v.less w = .ok (a.lt b) := by
  rw [less, less?_of_number hv hw]

theorem Value.same_int (n m : Int) : (Value.int n).same (.int m) = decide (n = m) := by
  have hinj : Dyadic.ofInt n = Dyadic.ofInt m ↔ n = m := by
    rw [← Dyadic.toRat_inj]
    show (n : Dyadic).toRat = (m : Dyadic).toRat ↔ n = m
    rw [Dyadic.toRat_intCast, Dyadic.toRat_intCast]
    exact Int.cast_inj
  rw [Value.same, Bool.eq_iff_iff] <;> simp [Value.sameKey, Value.key?, hinj]

namespace Analysis

/-- What stands for limits: the numbers that are found under their names. -/
structure Limits (t : Value) (maxCost large sorted : Number) : Prop where
  maxCost : ∃ v, t.field "max_cost" = .ok v ∧ v.number? = some maxCost
  large : ∃ v, t.field "large_result_size" = .ok v ∧ v.number? = some large
  sorted : ∃ v, t.field "sort_required_size" = .ok v ∧ v.number? = some sorted

theorem Thresholds.limits (t : Thresholds) :
    Limits t.toValue (.float t.maxCost) (.int t.largeResultSize) (.int t.sortRequiredSize) :=
  ⟨⟨_, rfl, rfl⟩, ⟨_, rfl, rfl⟩, ⟨_, rfl, rfl⟩⟩

/-! ## Reports that hold each other -/

/-- Whether a report holds no more than another: its notes stand among the notes of the other, and
its rating is no worse. -/
structure Report.Within (r r' : Report) : Prop where
  notes : r.notes.Sublist r'.notes
  rating : r.rating.severity ≤ r'.rating.severity

theorem severity_worst (a b : Rating) : (a.worst b).severity = max a.severity b.severity := by
  cases a <;> cases b <;> rfl

/-- A rating is as bad as the worst note. -/
theorem le_severity_foldl {k : ℕ} : ∀ {notes : List Note} {rating : Rating},
    k ≤ (notes.foldl (fun rating note => rating.worst note.rating) rating).severity
      ↔ k ≤ rating.severity ∨ ∃ note ∈ notes, k ≤ note.rating.severity
  | [], rating => by simp
  | note :: notes, rating => by
    rw [List.foldl_cons, le_severity_foldl, severity_worst, le_max_iff]
    simp only [List.mem_cons, exists_eq_or_imp, or_assoc]

theorem severity_foldl_mono {notes notes' : List Note} (h : notes.Sublist notes')
    (rating : Rating) :
    (notes.foldl (fun rating note => rating.worst note.rating) rating).severity
      ≤ (notes'.foldl (fun rating note => rating.worst note.rating) rating).severity := by
  refine le_severity_foldl.2 ?_
  rcases le_severity_foldl.1 le_rfl with hle | ⟨note, hmem, hle⟩
  · exact .inl hle
  · exact .inr ⟨note, h.subset hmem, hle⟩

theorem within_ofNotes {notes notes' : List Note} (h : notes.Sublist notes') :
    (Report.ofNotes notes).Within (.ofNotes notes') :=
  ⟨h, severity_foldl_mono h .good⟩

/-! ## Findings -/

/-- Notes, each with whether its rule holds. -/
abbrev Findings := List (Note × Bool)

/-- The notes whose rules hold. -/
def Findings.notes (fs : Findings) : List Note := (fs.filter (·.2)).map (·.1)

theorem follow_findings (fs : Findings) :
    follow (fs.map fun f => (f.1, .ok f.2)) = .ok (.ofNotes fs.notes) := by
  have htriggered : triggered (fs.map fun f => (f.1, .ok f.2)) = .ok fs.notes := by
    induction fs with
    | nil => rfl
    | cons f fs ih =>
      obtain ⟨note, holds⟩ := f
      rw [List.map_cons, triggered, ok_bind, ih]
      cases holds <;> rfl
  rw [follow, htriggered, map_ok]

theorem sublist_notes {fs gs : Findings}
    (h : List.Forall₂ (fun f g => f.1 = g.1 ∧ (f.2 → g.2)) fs gs) :
    fs.notes.Sublist gs.notes := by
  induction h with
  | nil => exact .slnil
  | @cons f g fs gs hfg _ ih =>
    obtain ⟨note, holds⟩ := f
    obtain ⟨note', holds'⟩ := g
    obtain ⟨rfl, hholds⟩ := hfg
    cases holds
    · cases holds'
      · exact ih
      · exact ih.cons _
    · cases holds'
      · simp at hholds
      · exact ih.cons_cons _

theorem finding_mono {p q : Prop} [Decidable p] [Decidable q] (note : Note) (h : p → q) :
    (note, decide p).1 = (note, decide q).1 ∧ ((note, decide p).2 → (note, decide q).2) :=
  ⟨rfl, fun hp => decide_eq_true (h (of_decide_eq_true hp))⟩

variable {t : Value} {maxCost large sorted : Number}

theorem both_ok (a b : Bool) : both (.ok a) (.ok b) = .ok (a && b) := by
  cases a <;> rfl

/-! ## What is found in a statement -/

theorem isSelection_statement (s : Sql.Statement) :
    isSelection s.toValue = .ok (s.verb = .select) := by
  have hkind : s.toValue.field "kind" = .ok (.word (.verb s.verb)) := rfl
  rw [isSelection, hkind, ok_bind]
  cases s.verb <;> rfl

theorem changesRows_statement (s : Sql.Statement) :
    changesRows s.toValue = .ok (decide (s.verb = .update ∨ s.verb = .delete)) := by
  have hkind : s.toValue.field "kind" = .ok (.word (.verb s.verb)) := rfl
  rw [changesRows, hkind, ok_bind]
  cases s.verb <;> rfl

theorem hasNoConditions_statement (s : Sql.Statement) :
    hasNoConditions s.toValue = .ok (s.whereCount = 0) := by
  have hcount : s.toValue.field "where_count" = .ok (.int s.whereCount) := rfl
  have hsame : (Value.int s.whereCount).same (.int 0) = decide (s.whereCount = 0) := by
    rw [Value.same_int]
    simp
  rw [hasNoConditions, hcount, ok_bind, hsame]
  rfl

/-- What the rules find in a statement. -/
def statementFindings (s : Sql.Statement) (maxCost : Number) : Findings :=
  [(.selectAll, s.verb = .select ∧ "*" ∈ s.projection),
    (.highCost, maxCost.lt (.float s.cost)),
    (.unbounded, s.verb = .select ∧ s.limit = none ∧ s.whereCount = 0),
    (.allRows, (s.verb = .update ∨ s.verb = .delete) ∧ s.whereCount = 0)]

theorem report_statement (ht : Limits t maxCost large sorted) (s : Sql.Statement) :
    report s.toValue t = .ok (.ofNotes (statementFindings s maxCost).notes) := by
  obtain ⟨v, hv, hnumber⟩ := ht.maxCost
  have hless : v.less (.float s.cost) = .ok (maxCost.lt (.float s.cost)) :=
    Value.less_of_number hnumber rfl
  have hprojection : s.toValue.field "projection" = .ok (.textTuple s.projection) := rfl
  have hcost : s.toValue.field "estimated_cost" = .ok (.float s.cost) := rfl
  have hlimit : (do return (← s.toValue.field "limit").isNull) = .ok (decide (s.limit = none)) := by
    show Except.ok (Value.ofOption Value.int s.limit).isNull = _
    cases s.limit <;> rfl
  have hrules : statementRules s.toValue t
      = (statementFindings s maxCost).map fun f => (f.1, .ok f.2) := by
    simp [statementRules, statementFindings, isSelection_statement, changesRows_statement,
      hasNoConditions_statement, hprojection, hcost, hlimit, hv, both_ok,
      Value.holds_textTuple, hless]
  show follow (statementRules s.toValue t) = _
  rw [hrules, follow_findings]

/-! ## What is found in a search -/

theorem pageSize_request (r : Search.Request) :
    pageSize r.toValue = .ok (.int (r.size.getD 0)) := by
  have hsize : r.toValue.field "size" = .ok (.ofOption .int r.size) := rfl
  rw [pageSize, hsize, ok_bind]
  cases r.size with
  | none => rfl
  | some n =>
    by_cases hn : n = 0
    · subst hn
      rfl
    · simp [Value.ofOption, Value.isTruthy, hn]

theorem isTruthy_tuple (vs : List Value) : (Value.tuple vs).isTruthy = decide (vs ≠ []) := by
  cases vs <;> rfl

/-- What the rules find in a search. -/
def searchFindings (r : Search.Request) (large sorted : Number) : Findings :=
  [(.pagination, large.lt (.int (r.size.getD 0))),
    (.sorting, r.sort = [] ∧ sorted.lt (.int (r.size.getD 0))),
    (.filters, isMatchAll r.predicate.toValue ∧ r.filters = [])]

theorem report_search (ht : Limits t maxCost large sorted) (r : Search.Request) :
    report r.toValue t = .ok (.ofNotes (searchFindings r large sorted).notes) := by
  obtain ⟨v, hv, hlarge⟩ := ht.large
  obtain ⟨w, hw, hsorted⟩ := ht.sorted
  have hless {v : Value} {a : Number} (h : v.number? = some a) :
      v.less (.int (r.size.getD 0)) = .ok (a.lt (.int (r.size.getD 0))) :=
    Value.less_of_number h rfl
  have hsort : r.toValue.field "sort" = .ok (.tuple (r.sort.map Search.SortField.toValue)) := rfl
  have hpredicate : r.toValue.field "predicate" = .ok r.predicate.toValue := rfl
  have hfilters : r.toValue.field "filters" = .ok (Search.predicateTuple r.filters) := rfl
  have hrules : searchRules r.toValue t
      = (searchFindings r large sorted).map fun f => (f.1, .ok f.2) := by
    simp [searchRules, searchFindings, pageSize_request, hsort, hpredicate, hfilters, hv, hw,
      both_ok, hless hlarge, hless hsorted, isTruthy_tuple, Search.predicateTuple]
  show follow (searchRules r.toValue t) = _
  rw [hrules, follow_findings]

end Analysis

/-! ## The cost of a draft -/

namespace Sql.Draft

theorem two_le_costQuarters (d : Draft) : 2 ≤ d.costQuarters := by
  unfold costQuarters
  dsimp only
  split_ifs <;> omega

theorem costQuarters_mono {d d' : Draft} (hlimit : d'.limit = d.limit)
    (hgroup : d'.groupBy = d.groupBy) (hconditions : d'.conditions = d.conditions)
    (hjoins : d.joins.length ≤ d'.joins.length) (horder : d.orderBy.length ≤ d'.orderBy.length) :
    d.costQuarters ≤ d'.costQuarters := by
  unfold costQuarters hasSmallLimit
  rw [hlimit, hgroup, hconditions]
  by_cases hsmall : d.limit.any (· < 100)
  · rw [if_pos hsmall, if_pos hsmall]
    exact Nat.div_le_div_right (by omega)
  · rw [if_neg hsmall, if_neg hsmall]
    omega

theorem costQuarters_limit_le (d : Draft) (n : Int) (hlimit : d.limit = none) :
    (d.edit (.limit n)).costQuarters ≤ d.costQuarters := by
  have hnone : d.hasSmallLimit = false := by rw [hasSmallLimit, hlimit]; rfl
  unfold costQuarters
  rw [hnone, if_neg Bool.false_ne_true]
  by_cases hsmall : (d.edit (.limit n)).hasSmallLimit
  · rw [if_pos hsmall]
    exact Nat.div_le_self _ 2
  · rw [if_neg hsmall]
    exact le_rfl

/-- A limit that is above one cost is above another that is no higher. -/
theorem lt_cost_mono {d d' : Draft} {limit : Number} (h : d.costQuarters ≤ d'.costQuarters)
    (hlimit : limit.lt (.float d.cost)) : limit.lt (.float d'.cost) := by
  have hpos : 0 < d.costTenths := by
    have htwo := two_le_costQuarters d
    calc 0 < roundDiv (10 * 2) 4 := by decide
      _ ≤ roundDiv (10 * d.costQuarters) 4 := roundDiv_mono 4 (by omega)
  exact Number.lt_ofRatio_mono hpos (by decide) (roundDiv_mono 4 (by omega)) hlimit

end Sql.Draft

namespace Analysis

variable {t : Value} {maxCost large sorted : Number}

/-- The report on what a draft builds to. -/
def Reports (d : QueryDraft.Draft) (t : Value) (r : Report) : Prop :=
  ∃ q note, d.build = .ok (q, note) ∧ report q.toValue t = .ok r

theorem Reports.unique {d : QueryDraft.Draft} {r r' : Report} (h : Reports d t r)
    (h' : Reports d t r') : r = r' := by
  obtain ⟨q, note, hbuild, hr⟩ := h
  obtain ⟨q', note', hbuild', hr'⟩ := h'
  obtain ⟨rfl, rfl⟩ := Prod.mk.inj (Except.ok.inj (hbuild.symm.trans hbuild'))
  exact Except.ok.inj (hr.symm.trans hr')

section Statement

variable {d : Sql.Draft}

theorem reports_statement (ht : Limits t maxCost large sorted) (hd : d.WellFormed)
    (hbuild : ∃ s, d.build = .ok s) :
    Reports (.statement d) t (.ofNotes (statementFindings d.statement maxCost).notes) := by
  obtain ⟨s, hs⟩ := hbuild
  obtain rfl := Sql.Draft.eq_statement_of_build hd hs
  refine ⟨.statement d.statement, d.buildNote d.statement, ?_, report_statement ht d.statement⟩
  rw [Draft.build, hs]
  rfl

theorem notes_of_reports (ht : Limits t maxCost large sorted) (hd : d.WellFormed) {r : Report}
    (h : Reports (.statement d) t r) :
    r.notes = (statementFindings d.statement maxCost).notes := by
  have hbuild : ∃ s, d.build = .ok s := by
    obtain ⟨q, note, hq, -⟩ := h
    obtain ⟨s, hs, -⟩ := bind_eq_ok.1 hq
    exact ⟨s, hs⟩
  rw [h.unique (reports_statement ht hd hbuild)]
  rfl

/-- A draft that costs no less, and is otherwise the same to the rules, has no fewer notes. -/
theorem within_of_cost {d' : Sql.Draft} (hverb : d'.verb = d.verb)
    (hprojection : d'.projection = d.projection) (hlimit : d'.limit = d.limit)
    (hconditions : d'.conditions = d.conditions) (h : d.costQuarters ≤ d'.costQuarters) :
    (Report.ofNotes (statementFindings d.statement maxCost).notes).Within
      (.ofNotes (statementFindings d'.statement maxCost).notes) := by
  refine within_ofNotes (sublist_notes ?_)
  simp only [statementFindings, Sql.Draft.statement, hverb, hprojection, hlimit, hconditions]
  exact .cons ⟨rfl, id⟩ (.cons ⟨rfl, Sql.Draft.lt_cost_mono h⟩ (.cons ⟨rfl, id⟩
    (.cons ⟨rfl, id⟩ .nil)))

theorem reports_join (ht : Limits t maxCost large sorted) (hd : d.WellFormed)
    (hbuild : ∃ s, d.build = .ok s) (hverb : d.verb = .select) {table condition kind : Value}
    {d' : Sql.Draft} (h : d.call (.join table condition kind) = .ok d') :
    ∃ r', Reports (.statement d') t r'
      ∧ (Report.ofNotes (statementFindings d.statement maxCost).notes).Within r' := by
  obtain ⟨e, he, rfl⟩ := map_eq_ok.1 h
  have hd' : (d.edit e).WellFormed := hd.edit (Sql.check_wellFormed he)
  simp only [Sql.Call.check, bind_eq_ok, pure_eq_ok] at he
  obtain ⟨j, -, rfl⟩ := he
  have hbuild' : ∃ s, (d.edit (.join j)).build = .ok s := by
    rw [Sql.Draft.build_ok_iff hd] at hbuild
    rw [Sql.Draft.build_ok_iff hd', Sql.Draft.unsupported_eq_nil_iff]
    -- a selection takes every clause that callers put into it
    simpa [Sql.Draft.edit, hverb] using ⟨hbuild.1, hbuild.2.1 hverb⟩
  have hcost : d.costQuarters ≤ (d.edit (.join j)).costQuarters :=
    Sql.Draft.costQuarters_mono rfl rfl rfl (by simp [Sql.Draft.edit]) le_rfl
  exact ⟨_, reports_statement ht hd' hbuild', within_of_cost rfl rfl rfl rfl hcost⟩

theorem reports_orderBy (ht : Limits t maxCost large sorted) (hd : d.WellFormed)
    {field direction : Value} {d' : Sql.Draft} (h : d.call (.orderBy field direction) = .ok d')
    (hbuild' : ∃ s, d'.build = .ok s) :
    ∃ r', Reports (.statement d') t r'
      ∧ (Report.ofNotes (statementFindings d.statement maxCost).notes).Within r' := by
  obtain ⟨e, he, rfl⟩ := map_eq_ok.1 h
  have hd' : (d.edit e).WellFormed := hd.edit (Sql.check_wellFormed he)
  simp only [Sql.Call.check, bind_eq_ok, pure_eq_ok] at he
  obtain ⟨name, -, dir, -, rfl⟩ := he
  have hcost : d.costQuarters ≤ (d.edit (.orderBy ⟨name, dir⟩)).costQuarters :=
    Sql.Draft.costQuarters_mono rfl rfl rfl le_rfl (by simp [Sql.Draft.edit])
  exact ⟨_, reports_statement ht hd' hbuild', within_of_cost rfl rfl rfl rfl hcost⟩

theorem reports_limit (ht : Limits t maxCost large sorted) (hd : d.WellFormed)
    (hbuild : ∃ s, d.build = .ok s) (hverb : d.verb ≠ .insert) (hlimit : d.limit = none)
    {count : Value} {d' : Sql.Draft} (h : d.call (.limit count) = .ok d') :
    ∃ r', Reports (.statement d') t r'
      ∧ r'.Within (.ofNotes (statementFindings d.statement maxCost).notes) := by
  obtain ⟨e, he, rfl⟩ := map_eq_ok.1 h
  have hd' : (d.edit e).WellFormed := hd.edit (Sql.check_wellFormed he)
  simp only [Sql.Call.check, bind_eq_ok, pure_eq_ok] at he
  obtain ⟨n, -, rfl⟩ := he
  have hbuild' : ∃ s, (d.edit (.limit n)).build = .ok s := by
    rw [Sql.Draft.build_ok_iff hd, Sql.Draft.unsupported_eq_nil_iff] at hbuild
    rw [Sql.Draft.build_ok_iff hd', Sql.Draft.unsupported_eq_nil_iff]
    exact ⟨hbuild.1, hbuild.2.1, fun hinsert => absurd hinsert hverb, hbuild.2.2.2⟩
  have hcost := d.costQuarters_limit_le n hlimit
  refine ⟨_, reports_statement ht hd' hbuild', within_ofNotes (sublist_notes ?_)⟩
  simp only [statementFindings, Sql.Draft.statement]
  exact .cons ⟨rfl, id⟩ (.cons ⟨rfl, Sql.Draft.lt_cost_mono hcost⟩ (.cons ⟨rfl, by
    simp [Sql.Draft.edit]⟩ (.cons ⟨rfl, id⟩ .nil)))

end Statement

/-- A note that carries the worst rating decides. -/
theorem rating_ofNotes_eq_poor {notes : List Note} :
    (Report.ofNotes notes).rating = .poor ↔ ∃ note ∈ notes, note.rating = .poor := by
  have hpoor (rating : Rating) : rating = .poor ↔ 2 ≤ rating.severity := by
    cases rating <;> simp [Rating.severity]
  simp only [hpoor]
  refine le_severity_foldl.trans (or_iff_right ?_)
  decide

theorem mem_notes {fs : Findings} {note : Note} : note ∈ fs.notes ↔ (note, true) ∈ fs := by
  simp [Findings.notes]

section Search

variable {d : Search.Draft}

theorem reports_search (ht : Limits t maxCost large sorted) (d : Search.Draft) :
    Reports (.search d) t (.ofNotes (searchFindings d.build large sorted).notes) :=
  ⟨.search d.build, d.buildNote, rfl, report_search ht d.build⟩

/-- Building wraps a predicate that there are filters for, so only a bare one is looked at. -/
theorem isMatchAll_finalPredicate (d : Search.Draft) :
    isMatchAll d.finalPredicate.toValue = true ∧ d.filters = []
      ↔ d.predicate = .matchAll ∧ d.filters = [] := by
  refine and_congr_left fun hfilters => ?_
  rw [Search.Draft.finalPredicate, hfilters, List.isEmpty_nil, if_pos rfl]
  cases d.predicate <;> simp [Predicate.toValue, isMatchAll]

/-- A draft that sorts and filters no less, for a page of the same size, has no more notes. -/
theorem within_of_narrowed {d d' : Search.Draft} (hsize : d'.size = d.size)
    (hpredicate : d'.predicate = d.predicate) (hsort : d'.sort = [] → d.sort = [])
    (hfilters : d'.filters = [] → d.filters = []) :
    (Report.ofNotes (searchFindings d'.build large sorted).notes).Within
      (.ofNotes (searchFindings d.build large sorted).notes) := by
  refine within_ofNotes (sublist_notes (.cons ⟨rfl, ?_⟩ (.cons (finding_mono _ ?_)
    (.cons (finding_mono _ ?_) .nil))))
  · simp only [Search.Draft.build, hsize]
    exact id
  · simp only [Search.Draft.build, hsize]
    exact And.imp_left hsort
  · simp only [Search.Draft.build, isMatchAll_finalPredicate, hpredicate]
    exact And.imp_right hfilters

theorem within_of_size {d d' : Search.Draft} (hsize : d.size.getD 0 ≤ d'.size.getD 0)
    (hpredicate : d'.predicate = d.predicate) (hsort : d'.sort = d.sort)
    (hfilters : d'.filters = d.filters) :
    (Report.ofNotes (searchFindings d.build large sorted).notes).Within
      (.ofNotes (searchFindings d'.build large sorted).notes) := by
  refine within_ofNotes (sublist_notes (.cons ⟨rfl, Number.lt_int_mono hsize⟩
    (.cons (finding_mono _ ?_) (.cons (finding_mono _ ?_) .nil))))
  · simp only [Search.Draft.build, hsort]
    exact And.imp_right (Number.lt_int_mono hsize)
  · simp only [Search.Draft.build, isMatchAll_finalPredicate, hpredicate]
    exact And.imp_right hfilters.trans

theorem reports_narrowing (ht : Limits t maxCost large sorted) {c : Search.Call}
    (hc : c.slot = .filters ∨ c.slot = .sort) {d' : Search.Draft} (h : d.call c = .ok d') :
    ∃ r', Reports (.search d') t r'
      ∧ r'.Within (.ofNotes (searchFindings d.build large sorted).notes) := by
  obtain ⟨e, he, rfl⟩ := map_eq_ok.1 h
  rw [← Search.slot_of_check he] at hc
  refine ⟨_, reports_search ht _, ?_⟩
  cases e with
  | filter p => exact within_of_narrowed rfl rfl id (by simp [Search.Draft.edit])
  | sort o => exact within_of_narrowed rfl rfl (by simp [Search.Draft.edit]) id
  | _ => simp [Search.Edit.slot] at hc

theorem reports_size (ht : Limits t maxCost large sorted) {count : Value} {d' : Search.Draft}
    (h : d.call (.size count) = .ok d') (hsize : d.size.getD 0 ≤ d'.size.getD 0) :
    ∃ r', Reports (.search d') t r'
      ∧ (Report.ofNotes (searchFindings d.build large sorted).notes).Within r' := by
  obtain ⟨e, he, rfl⟩ := map_eq_ok.1 h
  simp only [Search.Call.check, bind_eq_ok, pure_eq_ok] at he
  obtain ⟨n, -, rfl⟩ := he
  exact ⟨_, reports_search ht _, within_of_size hsize rfl rfl rfl⟩

theorem filters_mem_notes (d : Search.Draft) :
    Note.filters ∈ (searchFindings d.build large sorted).notes
      ↔ d.predicate = .matchAll ∧ d.filters = [] := by
  have hnotes : Note.filters ∈ (searchFindings d.build large sorted).notes
      ↔ decide (isMatchAll d.finalPredicate.toValue ∧ d.filters = []) = true := by
    rw [mem_notes]
    simp only [searchFindings, Search.Draft.build, List.mem_cons, Prod.mk.injEq, reduceCtorEq,
      false_and, false_or, true_and, List.not_mem_nil, or_false]
    exact eq_comm
  rw [hnotes, decide_eq_true_iff, isMatchAll_finalPredicate]

end Search

/-- What one more step does to the report on a draft, under any limits. A statement that callers
reach and that builds loses no note by a join of a selection or by an ordering that it can take, and
gains none by a first limit; one that changes or deletes rows without conditions is rated poor. A
search gains no note by filters and orderings and loses none by a larger size, and is told to
filter exactly while it matches everything. -/
theorem report_of_step (ht : Limits t maxCost large sorted) :
    (∀ calls : List Sql.Call, let d := Sql.Draft.run {} calls; (∃ s, d.build = .ok s) →
      ∃ r, Reports (.statement d) t r
        ∧ (d.verb = .select → ∀ table condition kind d',
          d.call (.join table condition kind) = .ok d' →
            ∃ r', Reports (.statement d') t r' ∧ r.Within r')
        ∧ (∀ field direction d', d.call (.orderBy field direction) = .ok d' →
          (∃ s, d'.build = .ok s) → ∃ r', Reports (.statement d') t r' ∧ r.Within r')
        ∧ (d.verb ≠ .insert → d.limit = none → ∀ count d', d.call (.limit count) = .ok d' →
          ∃ r', Reports (.statement d') t r' ∧ r'.Within r)
        ∧ (d.verb = .update ∨ d.verb = .delete → d.conditions = [] → r.rating = .poor))
      ∧ ∀ d : Search.Draft, ∃ r, Reports (.search d) t r
        ∧ (∀ c d', c.slot = .filters ∨ c.slot = .sort → d.call c = .ok d' →
          ∃ r', Reports (.search d') t r' ∧ r'.Within r)
        ∧ (∀ count d', d.call (.size count) = .ok d' → d.size.getD 0 ≤ d'.size.getD 0 →
          ∃ r', Reports (.search d') t r' ∧ r.Within r')
        ∧ (.filters ∈ r.notes ↔ d.predicate = .matchAll ∧ d.filters = []) := by
  constructor
  · intro calls d hbuild
    have hd : d.WellFormed := Sql.Draft.wellFormed_run calls
    refine ⟨_, reports_statement ht hd hbuild, ?_, ?_, ?_, ?_⟩
    · intro hverb table condition kind d' h
      exact reports_join ht hd hbuild hverb h
    · intro field direction d' h hbuild'
      exact reports_orderBy ht hd h hbuild'
    · intro hverb hlimit count d' h
      exact reports_limit ht hd hbuild hverb hlimit h
    · intro hverb hconditions
      have hall : Note.allRows ∈ (statementFindings d.statement maxCost).notes := by
        rw [mem_notes]
        simp [statementFindings, Sql.Draft.statement, hverb, hconditions]
      exact rating_ofNotes_eq_poor.2 ⟨_, hall, rfl⟩
  · intro d
    refine ⟨_, reports_search ht d, ?_, ?_, filters_mem_notes d⟩
    · intro c d' hc h
      exact reports_narrowing ht hc h
    · intro count d' h hsize
      exact reports_size ht h hsize

/-- Under the usual limits a join takes a selection over the cost that is noted. -/
theorem report_of_costly_join :
    let d := Sql.Draft.run {} [.select (.list [.text "id"]), .table (.text "users"),
      .orderBy (.text "age") (.text "asc"), .orderBy (.text "id") (.text "DESC")]
    let join : Sql.Call := .join (.text "orders") (.text "users.id = orders.uid") (.text "left")
    ∃ d' r r', d.call join = .ok d' ∧ Reports (.statement d) ({} : Thresholds).toValue r
      ∧ Reports (.statement d') ({} : Thresholds).toValue r' ∧ r.Within r'
      ∧ r.notes = [.unbounded] ∧ r'.notes = [.highCost, .unbounded] := by
  intro d join
  have hd : d.WellFormed := Sql.Draft.wellFormed_run _
  have hbuild : ∃ s, d.build = .ok s := ⟨d.statement, by rw [Sql.Draft.build_eq hd]; rfl⟩
  have ht := Thresholds.limits {}
  obtain ⟨r, hr, hstep, -⟩ := (report_of_step ht).1 _ hbuild
  let notes (d : Sql.Draft) :=
    (statementFindings d.statement (.float ({} : Thresholds).maxCost)).notes
  have hnotes' : (d.call join).toOption.map notes = some [.highCost, .unbounded] := by
    decide +kernel
  cases hd' : d.call join with
  | error e => simp [hd', Except.toOption] at hnotes'
  | ok d' =>
    have hwf' : d'.WellFormed := by
      have h := hd.call join
      rwa [hd'] at h
    obtain ⟨r', hr', hwithin⟩ := hstep rfl _ _ _ d' hd'
    refine ⟨d', r, r', rfl, hr, hr', hwithin, ?_, ?_⟩
    · rw [notes_of_reports ht hd hr]
      decide +kernel
    · rw [notes_of_reports ht hwf' hr']
      rw [hd'] at hnotes'
      exact Option.some.inj hnotes'

end Analysis

end QueryDraft
