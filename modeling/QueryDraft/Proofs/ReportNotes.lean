import QueryDraft.Proofs.KeyOrder
import QueryDraft.Proofs.ReportOrder

/-!
# Notes, ratings and limits

Whatever a query holds, a report on it comes from rules that all came to a truth
(`follow_eq_ok`), so its notes are those of the rules that hold, in the order of the rules. A
rating is as bad as the worst of the notes (`le_severity_foldl`), and so the notes tell it
(`Report.OfStatement`, `Report.OfSearch`). A limit that is raised lets a rule hold only where it
held before (`Eases`): higher limits take notes away and add none (`report_notes`).
-/

namespace QueryDraft

/-! ## Limits that are raised -/

/-- Whether a number is at most another. What is not a number is at most nothing. -/
def Number.AtMost (a b : Number) : Prop :=
  ∃ p q, a.place? = some p ∧ b.place? = some q ∧ p.point ≤ q.point

theorem Number.lt_of_atMost {a b c : Number} (h : a.AtMost b) (hlt : b.lt c = true) :
    a.lt c = true := by
  obtain ⟨p, q, hp, hq, hle⟩ := h
  unfold lt at hlt ⊢
  rw [hq] at hlt
  rw [hp]
  cases hc : c.place? with
  | none => simp [hc] at hlt
  | some place =>
    simp only [hc, Place.lt_iff] at hlt ⊢
    exact hle.trans_lt hlt

/-- What is compared with a number has to be a number as well. -/
theorem Value.less?_of_number_left {v w : Value} {a : Number} (hv : v.number? = some a) :
    v.less? w = w.number?.map a.lt := by
  cases v <;> simp only [number?, Option.some.injEq, reduceCtorEq] at hv <;> subst hv <;>
    cases w <;> simp [less?, number?, text?]

namespace Analysis

/-- Whether one test comes to a truth wherever another does, and holds only where that one holds. -/
def Eases (x y : Outcome Bool) : Prop := ∀ b, x = .ok b → ∃ b', y = .ok b' ∧ (b' → b)

namespace Eases

theorem refl (x : Outcome Bool) : Eases x x := fun b hb => ⟨b, hb, id⟩

theorem bind {α : Type} (x : Outcome α) {f g : α → Outcome Bool} (h : ∀ a, Eases (f a) (g a)) :
    Eases (x >>= f) (x >>= g) := by
  intro b hb
  obtain ⟨a, rfl, hb⟩ := bind_eq_ok.1 hb
  exact h a b hb

theorem both (first : Outcome Bool) {x y : Outcome Bool} (h : Eases x y) :
    Eases (both first x) (both first y) := by
  refine bind first fun b => ?_
  cases b
  · exact refl _
  · exact h

/-- A limit that is raised is exceeded by less. -/
theorem less {v v' : Value} {a a' : Number} (hv : v.number? = some a) (hv' : v'.number? = some a')
    (h : a.AtMost a') (w : Value) : Eases (v.less w) (v'.less w) := by
  intro b hb
  unfold Value.less at hb ⊢
  rw [Value.less?_of_number_left hv] at hb
  rw [Value.less?_of_number_left hv']
  cases hw : w.number? with
  | none => simp [hw] at hb
  | some c =>
    simp only [hw, Option.map_some, Except.ok.injEq] at hb
    subst hb
    exact ⟨_, rfl, Number.lt_of_atMost h⟩

end Eases

section Limits

variable {t t' : Value} {maxCost maxCost' large large' sorted sorted' : Number}

theorem eases_statementRules (ht : Limits t maxCost large sorted)
    (ht' : Limits t' maxCost' large' sorted') (h : maxCost.AtMost maxCost') (q : Value) :
    List.Forall₂ (fun rule rule' => rule.1 = rule'.1 ∧ Eases rule.2 rule'.2)
      (statementRules q t) (statementRules q t') := by
  obtain ⟨v, hv, hnumber⟩ := ht.maxCost
  obtain ⟨v', hv', hnumber'⟩ := ht'.maxCost
  simp only [statementRules, hv, hv', ok_bind]
  have hcost := Eases.bind (q.field "estimated_cost") fun cost =>
    Eases.less hnumber hnumber' h cost
  exact .cons ⟨rfl, .refl _⟩ (.cons ⟨rfl, hcost⟩ (.cons ⟨rfl, .refl _⟩ (.cons ⟨rfl, .refl _⟩ .nil)))

theorem eases_searchRules (ht : Limits t maxCost large sorted)
    (ht' : Limits t' maxCost' large' sorted') (hlarge : large.AtMost large')
    (hsorted : sorted.AtMost sorted') (q : Value) :
    List.Forall₂ (fun rule rule' => rule.1 = rule'.1 ∧ Eases rule.2 rule'.2)
      (searchRules q t) (searchRules q t') := by
  obtain ⟨v, hv, hnumber⟩ := ht.large
  obtain ⟨v', hv', hnumber'⟩ := ht'.large
  obtain ⟨w, hw, hnumber₂⟩ := ht.sorted
  obtain ⟨w', hw', hnumber₂'⟩ := ht'.sorted
  simp only [searchRules, hv, hv', hw, hw', ok_bind]
  have hpage := Eases.bind (pageSize q) fun size => Eases.less hnumber hnumber' hlarge size
  have hsort := Eases.bind (pageSize q) fun size => Eases.less hnumber₂ hnumber₂' hsorted size
  exact .cons ⟨rfl, hpage⟩ (.cons ⟨rfl, hsort.both _⟩ (.cons ⟨rfl, .refl _⟩ .nil))

end Limits

/-! ## Notes of rules -/

/-- Rules lead to a report where they all come to a truth. -/
theorem follow_eq_ok {r : Report} : ∀ {rules : List Rule}, follow rules = .ok r ↔
    ∃ fs : Findings, rules = fs.map (fun f => (f.1, .ok f.2)) ∧ r = .ofNotes fs.notes := by
  have hfollow {notes : List Note} : ∀ {rules : List Rule}, triggered rules = .ok notes →
      ∃ fs : Findings, rules = fs.map (fun f => (f.1, .ok f.2)) ∧ notes = fs.notes := by
    intro rules
    induction rules generalizing notes with
    | nil =>
      intro h
      exact ⟨[], rfl, (Except.ok.inj h).symm⟩
    | cons rule rules ih =>
      intro h
      obtain ⟨holds, hrule, h⟩ := bind_eq_ok.1 h
      obtain ⟨rest, hrest, h⟩ := bind_eq_ok.1 h
      obtain ⟨fs, rfl, rfl⟩ := ih hrest
      refine ⟨(rule.1, holds) :: fs, by simp [← hrule], ?_⟩
      rw [← pure_eq_ok.1 h]
      cases holds <;> rfl
  intro rules
  constructor
  · intro h
    obtain ⟨notes, hnotes, rfl⟩ := map_eq_ok.1 h
    obtain ⟨fs, hrules, rfl⟩ := hfollow hnotes
    exact ⟨fs, hrules, rfl⟩
  · rintro ⟨fs, rfl, rfl⟩
    exact follow_findings fs

/-- Rules that are eased still lead to a report, and it holds no more. -/
theorem follow_eases {rules rules' : List Rule} {r : Report}
    (h : List.Forall₂ (fun rule rule' => rule.1 = rule'.1 ∧ Eases rule.2 rule'.2) rules rules')
    (hr : follow rules = .ok r) : ∃ r', follow rules' = .ok r' ∧ r'.Within r := by
  obtain ⟨fs, rfl, rfl⟩ := follow_eq_ok.1 hr
  have hfs : ∃ gs : Findings, rules' = gs.map (fun g => (g.1, .ok g.2))
      ∧ List.Forall₂ (fun g f => g.1 = f.1 ∧ (g.2 → f.2)) gs fs := by
    clear hr
    induction fs generalizing rules' with
    | nil =>
      cases h
      exact ⟨[], rfl, .nil⟩
    | cons f fs ih =>
      cases h with
      | @cons _ rule' _ _ hrule hrules =>
        obtain ⟨gs, rfl, hgs⟩ := ih hrules
        obtain ⟨holds, hholds, hle⟩ := hrule.2 f.2 rfl
        have hrule' : rule' = (f.1, .ok holds) := Prod.ext hrule.1.symm hholds
        exact ⟨(f.1, holds) :: gs, by rw [hrule', List.map_cons], .cons ⟨rfl, hle⟩ hgs⟩
  obtain ⟨gs, rfl, hgs⟩ := hfs
  exact ⟨_, follow_findings gs, within_ofNotes (sublist_notes hgs)⟩

theorem eq_ofNotes {r : Report} {rules : List Rule} (h : follow rules = .ok r) :
    r = .ofNotes r.notes := by
  obtain ⟨fs, -, rfl⟩ := follow_eq_ok.1 h
  rfl

theorem sublist_map_fst {r : Report} {rules : List Rule} (h : follow rules = .ok r) :
    r.notes.Sublist (rules.map (·.1)) := by
  obtain ⟨fs, rfl, rfl⟩ := follow_eq_ok.1 h
  rw [List.map_map]
  exact List.filter_sublist.map _

/-- The notes are those of the rules that hold. -/
theorem mem_notes_of_follow {r : Report} {rules : List Rule} (h : follow rules = .ok r)
    (note : Note) : note ∈ r.notes ↔ (note, .ok true) ∈ rules := by
  obtain ⟨fs, rfl, rfl⟩ := follow_eq_ok.1 h
  simp [Report.ofNotes, mem_notes]

/-! ## Ratings that notes lead to -/

theorem rating_ofNotes_eq_good {notes : List Note} :
    (Report.ofNotes notes).rating = .good ↔ ∀ note ∈ notes, note.rating = .good := by
  have hgood (rating : Rating) : rating = .good ↔ ¬1 ≤ rating.severity := by
    cases rating <;> simp [Rating.severity]
  simp only [hgood]
  refine (not_congr (le_severity_foldl.trans (or_iff_right ?_))).trans (by simp)
  decide

theorem rating_eq_fair_iff (rating : Rating) :
    rating = .fair ↔ rating ≠ .poor ∧ rating ≠ .good := by
  cases rating <;> simp

/-- The order of the rules for statements. -/
def statementOrder : List Note := [.selectAll, .highCost, .unbounded, .allRows]

/-- The order of the rules for searches. -/
def searchOrder : List Note := [.pagination, .sorting, .filters]

/-- What holds between the notes and the rating of a report on a statement. -/
structure Report.OfStatement (r : Report) : Prop where
  order : r.notes.Sublist statementOrder
  texts : (r.notes.map Note.text).Nodup
  poor : r.rating = .poor
    ↔ Note.selectAll ∈ r.notes ∨ Note.highCost ∈ r.notes ∨ Note.allRows ∈ r.notes
  fair : r.rating = .fair ↔ r.notes = [.unbounded]
  good : r.rating = .good ↔ r.notes = []

/-- What holds between the notes and the rating of a report on a search. -/
structure Report.OfSearch (r : Report) : Prop where
  order : r.notes.Sublist searchOrder
  texts : (r.notes.map Note.text).Nodup
  fair : r.rating = .fair ↔ Note.pagination ∈ r.notes
  good : r.rating = .good ↔ Note.pagination ∉ r.notes
  poor : r.rating ≠ .poor

theorem nodup_texts {notes order : List Note} (h : notes.Sublist order)
    (horder : (order.map Note.text).Nodup) : (notes.map Note.text).Nodup :=
  (h.map Note.text).nodup horder

theorem ofStatement_ofNotes {notes : List Note} (h : notes.Sublist statementOrder) :
    (Report.ofNotes notes).OfStatement := by
  have hpoor : (Report.ofNotes notes).rating = .poor
      ↔ Note.selectAll ∈ notes ∨ Note.highCost ∈ notes ∨ Note.allRows ∈ notes := by
    rw [rating_ofNotes_eq_poor]
    constructor
    · rintro ⟨note, hmem, hnote⟩
      cases note <;> simp_all [Note.rating]
    · rintro (hmem | hmem | hmem) <;> exact ⟨_, hmem, rfl⟩
  have hgood : (Report.ofNotes notes).rating = .good ↔ notes = [] := by
    rw [rating_ofNotes_eq_good]
    constructor
    · intro hall
      refine List.eq_nil_iff_forall_not_mem.2 fun note hmem => ?_
      have hnote := h.subset hmem
      have hrating := hall note hmem
      -- no note on a statement is rated well
      cases note <;> simp [statementOrder, Note.rating] at hnote hrating
    · rintro rfl
      simp
  have hfair : (Report.ofNotes notes).rating = .fair ↔ notes = [.unbounded] := by
    rw [rating_eq_fair_iff, ne_eq, ne_eq, hpoor, hgood]
    constructor
    · rintro ⟨hno, hsome⟩
      have hall : ∀ note ∈ notes, decide (note = .unbounded) = true := by
        intro note hmem
        have hnote := h.subset hmem
        cases note <;> simp_all [statementOrder]
      have hsub := h.filter fun note => decide (note = .unbounded)
      rw [List.filter_eq_self.2 hall] at hsub
      exact (List.sublist_singleton.1 hsub).resolve_left hsome
    · rintro rfl
      simp
  exact ⟨h, nodup_texts h (by decide +kernel), hpoor, hfair, hgood⟩

theorem ofSearch_ofNotes {notes : List Note} (h : notes.Sublist searchOrder) :
    (Report.ofNotes notes).OfSearch := by
  have hpoor : (Report.ofNotes notes).rating ≠ .poor := by
    rw [ne_eq, rating_ofNotes_eq_poor]
    rintro ⟨note, hmem, hnote⟩
    have hnote' := h.subset hmem
    cases note <;> simp [searchOrder, Note.rating] at hnote hnote'
  have hgood : (Report.ofNotes notes).rating = .good ↔ Note.pagination ∉ notes := by
    rw [rating_ofNotes_eq_good]
    constructor
    · intro hall hmem
      exact absurd (hall _ hmem) (by decide)
    · intro hno note hmem
      have hnote := h.subset hmem
      cases note <;> simp_all [searchOrder, Note.rating]
  have hfair : (Report.ofNotes notes).rating = .fair ↔ Note.pagination ∈ notes := by
    rw [rating_eq_fair_iff, ne_eq _ Rating.good, hgood, not_not]
    exact and_iff_right hpoor
  exact ⟨h, nodup_texts h (by decide +kernel), hfair, hgood, hpoor⟩

/-! ## Reports on whatever is handed in -/

section Report

variable {t t' : Value} {maxCost maxCost' large large' sorted sorted' : Number}

/-- What the rules find in a built query. -/
def findings (q : Query) (maxCost large sorted : Number) : Findings :=
  match q with
  | .statement s => statementFindings s maxCost
  | .search r => searchFindings r large sorted

theorem report_query (ht : Limits t maxCost large sorted) (q : Query) :
    report q.toValue t = .ok (.ofNotes (findings q maxCost large sorted).notes) := by
  cases q with
  | statement s => exact report_statement ht s
  | search r => exact report_search ht r

theorem report_eases (ht : Limits t maxCost large sorted)
    (ht' : Limits t' maxCost' large' sorted') (hcost : maxCost.AtMost maxCost')
    (hlarge : large.AtMost large') (hsorted : sorted.AtMost sorted') {q : Value} {r : Report}
    (h : report q t = .ok r) : ∃ r', report q t' = .ok r' ∧ r'.Within r := by
  unfold report at h ⊢
  split at h
  · exact follow_eases (eases_statementRules ht ht' hcost _) h
  · exact follow_eases (eases_searchRules ht ht' hlarge hsorted _) h
  · cases h

/-- Whatever was put together and whatever the limits, the notes of a report are those of the rules
that hold, each once and in the order of the rules, and the rating says what the worst note says.
Every built query has a report under limits that are numbers. Where no limit is lowered, a query
that had a report has one that holds no more. -/
theorem report_notes (t : Value) :
    (∀ fields r, let q := Value.part .statement fields
      report q t = .ok r →
        r.OfStatement ∧ ∀ note, note ∈ r.notes ↔ (note, .ok true) ∈ statementRules q t)
      ∧ (∀ fields r, let q := Value.part .request fields
        report q t = .ok r →
          r.OfSearch ∧ ∀ note, note ∈ r.notes ↔ (note, .ok true) ∈ searchRules q t)
      ∧ ∀ maxCost large sorted, Limits t maxCost large sorted →
        (∀ q : Query, ∃ r, report q.toValue t = .ok r
          ∧ r.notes = (findings q maxCost large sorted).notes)
        ∧ ∀ t' maxCost' large' sorted', Limits t' maxCost' large' sorted' →
          maxCost.AtMost maxCost' → large.AtMost large' → sorted.AtMost sorted' →
          ∀ q r, report q t = .ok r → ∃ r', report q t' = .ok r' ∧ r'.Within r := by
  refine ⟨?_, ?_, ?_⟩
  · intro fields r q h
    have hnotes := ofStatement_ofNotes (sublist_map_fst h)
    rw [← eq_ofNotes h] at hnotes
    exact ⟨hnotes, mem_notes_of_follow h⟩
  · intro fields r q h
    have hnotes := ofSearch_ofNotes (sublist_map_fst h)
    rw [← eq_ofNotes h] at hnotes
    exact ⟨hnotes, mem_notes_of_follow h⟩
  · intro maxCost large sorted ht
    refine ⟨fun q => ⟨_, report_query ht q, rfl⟩, ?_⟩
    intro t' maxCost' large' sorted' ht' hcost hlarge hsorted q r h
    exact report_eases ht ht' hcost hlarge hsorted h

/-- A higher limit on the cost takes the worst note from a selection, which is rated better. -/
theorem report_notes_of_costly_selection :
    let d := Sql.Draft.run {} [.select (.list [.text "id"]), .table (.text "users"),
      .join (.text "orders") (.text "users.id = orders.uid") (.text "left"),
      .orderBy (.text "age") (.text "asc"), .orderBy (.text "id") (.text "DESC")]
    let raised : Thresholds := { maxCost := .finite (Dyadic.ofInt 100) }
    ∃ r r', report d.statement.toValue ({} : Thresholds).toValue = .ok r
      ∧ report d.statement.toValue raised.toValue = .ok r' ∧ r'.Within r
      ∧ r.notes = [.highCost, .unbounded] ∧ r.rating = .poor
      ∧ r'.notes = [.unbounded] ∧ r'.rating = .fair := by
  intro d raised
  have ht := Thresholds.limits {}
  obtain ⟨hstatement, -, hlimits⟩ := report_notes ({} : Thresholds).toValue
  obtain ⟨hbuilt, hraised⟩ := hlimits _ _ _ ht
  obtain ⟨r, hr, hnotes⟩ := hbuilt (.statement d.statement)
  have hcost : (Number.float ({} : Thresholds).maxCost).AtMost (.float raised.maxCost) := by
    have hle : Dyadic.ofInt 5 ≤ Dyadic.ofInt 100 := by decide
    exact ⟨_, _, rfl, rfl, WithBot.coe_le_coe.2 (WithTop.coe_le_coe.2
      (Dyadic.toRat_le_toRat_iff.2 hle))⟩
  obtain ⟨r', hr', hwithin⟩ := hraised _ _ _ _ raised.limits hcost ⟨_, _, rfl, rfl, le_rfl⟩
    ⟨_, _, rfl, rfl, le_rfl⟩ _ r hr
  have hfound : r.notes = [.highCost, .unbounded] := by
    rw [hnotes]
    decide +kernel
  have hfound' : r'.notes = [.unbounded] := by
    obtain rfl := Except.ok.inj ((report_statement raised.limits d.statement).symm.trans hr')
    decide +kernel
  refine ⟨r, r', hr, hr', hwithin, hfound, ?_, hfound', ?_⟩
  · exact (hstatement _ r hr).1.poor.2 (by simp [hfound])
  · exact ((report_notes raised.toValue).1 _ r' hr').1.fair.2 hfound'

end Report

end Analysis

end QueryDraft
