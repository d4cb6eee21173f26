import QueryDraft.Proofs.StatementInline

/-!
# Which drafts build

After any run of calls a draft builds to a statement or is refused, and nothing else can happen
(`build_run`). It is refused for its table first, then for its projection, then for the clauses that
its verb does not take; these are all named, in the order of their texts (`mem_unsupported`,
`pairwise_unsupported`).
-/

namespace QueryDraft

/-- The clauses that a verb takes, of those that callers put into a draft. -/
def Verb.takes : Verb → List String
  | .select =>
    ["SELECT", "JOIN", "WHERE", "GROUP BY", "HAVING", "ORDER BY", "LIMIT", "OFFSET"]
  | .insert => []
  | .update | .delete => ["WHERE", "ORDER BY", "LIMIT"]

namespace Sql

/-- The clauses that callers have put into a draft. A limit or offset of zero is one. -/
inductive Draft.Carries (d : Draft) : String → Prop
  | projection (h : d.projection ≠ []) : Carries d "SELECT"
  | joins (h : d.joins ≠ []) : Carries d "JOIN"
  | conditions (h : d.conditions ≠ []) : Carries d "WHERE"
  | groupBy (h : d.groupBy ≠ []) : Carries d "GROUP BY"
  | having (h : d.having ≠ []) : Carries d "HAVING"
  | orderBy (h : d.orderBy ≠ []) : Carries d "ORDER BY"
  | limit (h : d.limit ≠ none) : Carries d "LIMIT"
  | offset (h : d.offset ≠ none) : Carries d "OFFSET"

namespace Clause

theorem mem_all (c : Clause) : c ∈ all := by
  cases c <;> decide

theorem pairwise_all : (all.map text).Pairwise (· < ·) := by
  decide

/-- Whether callers put a clause into a draft, rather than the verb. -/
def ofCaller : Clause → Bool
  | .set | .values => false
  | _ => true

theorem allowed_iff {c : Clause} (h : c.ofCaller) (v : Verb) :
    allowed v c = true ↔ c.text ∈ v.takes := by
  cases c <;> simp [ofCaller] at h <;> cases v <;> decide

end Clause

namespace Draft

theorem carries_iff {d : Draft} {name : String} :
    d.Carries name ↔ ∃ c : Clause, c.ofCaller ∧ d.uses c ∧ c.text = name := by
  constructor
  · rintro (h | h | h | h | h | h | h | h)
    · exact ⟨.select, rfl, by simpa [uses] using h, rfl⟩
    · exact ⟨.join, rfl, by simpa [uses] using h, rfl⟩
    · exact ⟨.condition, rfl, by simpa [uses] using h, rfl⟩
    · exact ⟨.groupBy, rfl, by simpa [uses] using h, rfl⟩
    · exact ⟨.having, rfl, by simpa [uses] using h, rfl⟩
    · exact ⟨.orderBy, rfl, by simpa [uses] using h, rfl⟩
    · exact ⟨.limit, rfl, by simpa [uses, Option.isSome_iff_ne_none] using h, rfl⟩
    · exact ⟨.offset, rfl, by simpa [uses, Option.isSome_iff_ne_none] using h, rfl⟩
  · rintro ⟨c, hc, hu, rfl⟩
    cases c <;> simp [Clause.ofCaller] at hc <;>
      simp only [uses, Bool.not_eq_true', List.isEmpty_eq_false_iff, Option.isSome_iff_ne_none]
        at hu
    · exact .groupBy hu
    · exact .having hu
    · exact .joins hu
    · exact .limit hu
    · exact .offset hu
    · exact .orderBy hu
    · exact .projection hu
    · exact .conditions hu

/-- The clause that a verb brings along is one that it takes. -/
theorem allowed_of_uses {d : Draft} {c : Clause} (h : c.ofCaller = false) (hu : d.uses c) :
    Clause.allowed d.verb c := by
  cases c <;> simp [Clause.ofCaller] at h <;> simp [uses] at hu <;> simp [hu, Clause.allowed]

theorem mem_unsupported {d : Draft} {name : String} :
    name ∈ d.unsupported.map Clause.text ↔ d.Carries name ∧ name ∉ d.verb.takes := by
  simp only [unsupported, List.mem_map, List.mem_filter, Clause.mem_all, true_and,
    Bool.and_eq_true, Bool.not_eq_true']
  constructor
  · rintro ⟨c, ⟨hu, ha⟩, rfl⟩
    have hc : c.ofCaller := by
      by_contra hc
      simp [allowed_of_uses (by simpa using hc) hu] at ha
    refine ⟨carries_iff.2 ⟨c, hc, hu, rfl⟩, ?_⟩
    rw [← Clause.allowed_iff hc]
    simp [ha]
  · rintro ⟨hcarries, htakes⟩
    obtain ⟨c, hc, hu, rfl⟩ := carries_iff.1 hcarries
    rw [← Clause.allowed_iff hc] at htakes
    exact ⟨c, ⟨hu, by simpa using htakes⟩, rfl⟩

theorem pairwise_unsupported (d : Draft) : (d.unsupported.map Clause.text).Pairwise (· < ·) :=
  Clause.pairwise_all.sublist (List.filter_sublist.map _)

theorem unsupported_eq_nil_iff {d : Draft} : d.unsupported = [] ↔
    (d.verb = .insert → d.projection = [] ∧ d.joins = [] ∧ d.conditions = [] ∧ d.groupBy = []
        ∧ d.having = [] ∧ d.orderBy = [] ∧ d.limit = none ∧ d.offset = none)
      ∧ (d.verb = .update ∨ d.verb = .delete → d.projection = [] ∧ d.joins = []
        ∧ d.groupBy = [] ∧ d.having = [] ∧ d.offset = none) := by
  cases hv : d.verb with
  | select => simp [unsupported, Clause.all, uses, Clause.allowed, hv]
  | insert | update | delete =>
    simp [unsupported, Clause.all, uses, Clause.allowed, hv]
    tauto

theorem build_ok_iff {d : Draft} (h : d.WellFormed) : (∃ s, d.build = .ok s) ↔
    d.table ≠ "" ∧ (d.verb = .select → d.projection ≠ []) ∧ d.unsupported = [] := by
  rw [build_eq h]
  split_ifs with htable hprojection hunsupported
  · simp [htable]
  · simp [hprojection]
  · simp [hunsupported]
  · push Not at hprojection hunsupported
    simpa [htable, hunsupported] using hprojection

/-- What building does after any run of calls: it gives a statement or is refused, it gives one
exactly when the table is set and the verb takes what the draft holds, and of several reasons for a
refusal the table comes first, then the projection, then all the clauses that the verb does not
take, named in the order of their code points. -/
theorem build_run (calls : List Call) :
    let d := Draft.run {} calls
    ((∃ s, d.build = .ok s) ∨ ∃ r, d.build = refuse r)
      ∧ ((∃ s, d.build = .ok s) ↔ d.table ≠ ""
        ∧ (d.verb = .select → d.projection ≠ [])
        ∧ (d.verb = .insert → d.projection = [] ∧ d.joins = [] ∧ d.conditions = []
          ∧ d.groupBy = [] ∧ d.having = [] ∧ d.orderBy = [] ∧ d.limit = none ∧ d.offset = none)
        ∧ (d.verb = .update ∨ d.verb = .delete → d.projection = [] ∧ d.joins = []
          ∧ d.groupBy = [] ∧ d.having = [] ∧ d.offset = none))
      ∧ (d.table = "" → d.build = refuse .missingTable)
      ∧ (d.table ≠ "" → d.verb = .select → d.projection = [] →
        d.build = refuse .missingProjection)
      ∧ (d.table ≠ "" → ¬ (d.verb = .select ∧ d.projection = []) →
        (∃ name, d.Carries name ∧ name ∉ d.verb.takes) →
        ∃ names, d.build = refuse (.unsupportedClauses d.verb names)
          ∧ (Refusal.unsupportedClauses d.verb names).message
            = d.verb.text ++ " does not support: " ++ ", ".intercalate names
          ∧ names.Pairwise (· < ·)
          ∧ ∀ name, name ∈ names ↔ d.Carries name ∧ name ∉ d.verb.takes) := by
  intro d
  have hd : d.WellFormed := wellFormed_run calls
  refine ⟨?_, ?_, fun htable => ?_, fun htable hverb hprojection => ?_, ?_⟩
  · rw [build_eq hd]
    split_ifs
    · exact .inr ⟨_, rfl⟩
    · exact .inr ⟨_, rfl⟩
    · exact .inr ⟨_, rfl⟩
    · exact .inl ⟨_, rfl⟩
  · rw [build_ok_iff hd, unsupported_eq_nil_iff]
  · rw [build_eq hd, if_pos htable]
  · rw [build_eq hd, if_neg htable, if_pos ⟨hverb, hprojection⟩]
  · rintro htable hprojection ⟨name, hname⟩
    have hne : d.unsupported ≠ [] := by
      rw [← mem_unsupported] at hname
      rintro hnil
      simp [hnil] at hname
    refine ⟨d.unsupported.map Clause.text, ?_, rfl, pairwise_unsupported d,
      fun _ => mem_unsupported⟩
    rw [build_eq hd, if_neg htable, if_neg hprojection, if_pos hne]

end Draft

end Sql

end QueryDraft
