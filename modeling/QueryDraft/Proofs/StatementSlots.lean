import QueryDraft.Analysis
import QueryDraft.Proofs.Outcome

/-!
# What a call writes

A draft has eleven slots, and each call writes some of them (`Call.slots`). An edit leaves every
other slot as it was (`content_edit_of_notMem`), and what it puts into a slot it makes of that slot
alone (`content_edit_congr`). So a slot holds after a run what it would hold if only the calls that
write it had been made (`content_run`), and two runs that agree on these calls, slot by slot, end in
one draft, however the calls on different slots are mixed (`run_order`).
-/

namespace QueryDraft.Sql

/-- The slots of a draft. -/
inductive Slot where
  | verb | projection | table | joins | conditions | groupBy | having | orderBy | limit | offset
  | assignments
  deriving DecidableEq

/-- What a slot holds. -/
def Slot.Content : Slot → Type
  | .verb => Verb
  | .projection | .groupBy => List String
  | .table => String
  | .joins => List Join
  | .conditions | .having => List Condition
  | .orderBy => List OrderEntry
  | .limit | .offset => Option Int
  | .assignments => List (String × Value)

/-- What a draft holds in a slot. -/
def Draft.content (d : Draft) : (s : Slot) → s.Content
  | .verb => d.verb
  | .projection => d.projection
  | .table => d.table
  | .joins => d.joins
  | .conditions => d.conditions
  | .groupBy => d.groupBy
  | .having => d.having
  | .orderBy => d.orderBy
  | .limit => d.limit
  | .offset => d.offset
  | .assignments => d.assignments

/-- The slots that a call writes when it succeeds. -/
def Call.slots : Call → List Slot
  | .select _ => [.verb, .projection]
  | .table _ => [.table]
  | .join .. => [.joins]
  | .condition .. => [.conditions]
  | .orderBy .. => [.orderBy]
  | .groupBy _ => [.groupBy]
  | .having .. => [.having]
  | .limit _ => [.limit]
  | .offset _ => [.offset]
  | .insert .. | .update .. => [.verb, .table, .assignments]
  | .delete _ => [.verb, .table]

/-- The slots that an edit writes. -/
def Edit.slots : Edit → List Slot
  | .project _ => [.verb, .projection]
  | .table _ => [.table]
  | .join _ => [.joins]
  | .condition _ => [.conditions]
  | .groupBy _ => [.groupBy]
  | .having _ => [.having]
  | .orderBy _ => [.orderBy]
  | .limit _ => [.limit]
  | .offset _ => [.offset]
  | .insert .. | .update .. => [.verb, .table, .assignments]
  | .delete _ => [.verb, .table]

/-- Whether a call writes a slot; one that fails writes none. -/
def Call.writes (c : Call) (s : Slot) : Bool := c.check.isOk && c.slots.contains s

/-- A call writes the slots of the edit that it makes. -/
theorem slots_of_check {c : Call} {e : Edit} (h : c.check = .ok e) : e.slots = c.slots := by
  cases c with
  | condition k field second third =>
    cases third <;> simp only [Call.check, bind_eq_ok, pure_eq_ok] at h
    all_goals
      obtain ⟨c, -, rfl⟩ := h
      rfl
  | orderBy field direction =>
    simp only [Call.check, bind_eq_ok, pure_eq_ok] at h
    obtain ⟨name, -, dir, -, rfl⟩ := h
    rfl
  | insert t values | update t values =>
    simp only [Call.check, bind_eq_ok, pure_eq_ok] at h
    obtain ⟨name, -, columns, -, rfl⟩ := h
    rfl
  | _ =>
    simp only [Call.check, bind_eq_ok, pure_eq_ok] at h
    obtain ⟨a, -, rfl⟩ := h
    rfl

namespace Draft

/-- A draft is what its slots hold. -/
theorem ext_content {d d' : Draft} (h : ∀ s, d.content s = d'.content s) : d = d' := by
  obtain ⟨verb, projection, table, joins, conditions, groupBy, having', orderBy, limit, offset,
    assignments⟩ := d
  obtain rfl : verb = _ := h .verb
  obtain rfl : projection = _ := h .projection
  obtain rfl : table = _ := h .table
  obtain rfl : joins = _ := h .joins
  obtain rfl : conditions = _ := h .conditions
  obtain rfl : groupBy = _ := h .groupBy
  obtain rfl : having' = _ := h .having
  obtain rfl : orderBy = _ := h .orderBy
  obtain rfl : limit = _ := h .limit
  obtain rfl : offset = _ := h .offset
  obtain rfl : assignments = _ := h .assignments
  rfl

/-! ## The steps -/

theorem content_edit_of_notMem {e : Edit} {s : Slot} (h : s ∉ e.slots) (d : Draft) :
    (d.edit e).content s = d.content s := by
  cases e <;> cases s <;> first | rfl | simp [Edit.slots] at h

/-- An edit makes what it puts into a slot of nothing but what the slot held. -/
theorem content_edit_congr (e : Edit) {s : Slot} {d d' : Draft} (h : d.content s = d'.content s) :
    (d.edit e).content s = (d'.edit e).content s := by
  by_cases hs : s ∈ e.slots
  · cases e with
    | project names =>
      obtain rfl | rfl : s = .verb ∨ s = .projection := by simpa [Edit.slots] using hs
      · rfl
      · exact congrArg (fun ns : List String => if names = ["*"] then names else ns ++ names) h
    | join j =>
      obtain rfl := List.mem_singleton.1 hs
      exact congrArg (fun js : List Join => js ++ [j]) h
    | condition c | having c =>
      obtain rfl := List.mem_singleton.1 hs
      exact congrArg (fun cs : List Condition => cs ++ [c]) h
    | groupBy names =>
      obtain rfl := List.mem_singleton.1 hs
      exact congrArg (fun ns : List String => ns ++ names) h
    | orderBy o =>
      obtain rfl := List.mem_singleton.1 hs
      exact congrArg (fun os : List OrderEntry => os ++ [o]) h
    | table name | limit n | offset n =>
      obtain rfl := List.mem_singleton.1 hs
      rfl
    | insert name columns | update name columns =>
      obtain rfl | rfl | rfl : s = .verb ∨ s = .table ∨ s = .assignments := by
        simpa [Edit.slots] using hs
      all_goals rfl
    | delete name =>
      obtain rfl | rfl : s = .verb ∨ s = .table := by simpa [Edit.slots] using hs
      all_goals rfl
  · rw [content_edit_of_notMem hs, content_edit_of_notMem hs, h]

theorem run_cons_of_ok {d : Draft} {c : Call} {e : Edit} (h : c.check = .ok e) (calls : List Call) :
    d.run (c :: calls) = (d.edit e).run calls := by
  simp [run, call, h, Except.toOption]

theorem run_cons_of_error {d : Draft} {c : Call} {x : Error} (h : c.check = .error x)
    (calls : List Call) : d.run (c :: calls) = d.run calls := by
  simp [run, call, h, Except.toOption]

/-- A slot depends on the calls that write it and on nothing else. -/
theorem content_run {s : Slot} :
    ∀ (calls : List Call) {d d' : Draft}, d.content s = d'.content s →
      (d.run calls).content s = (d'.run (calls.filter (·.writes s))).content s
  | [], _, _, h => h
  | c :: calls, d, d', h => by
    rcases hc : c.check with x | e
    · have hw : c.writes s = false := by simp [Call.writes, hc, Except.isOk, Except.toBool]
      rw [run_cons_of_error hc, List.filter_cons_of_neg (by simp [hw])]
      exact content_run calls h
    · rw [run_cons_of_ok hc]
      by_cases hs : s ∈ c.slots
      · have hw : c.writes s = true := by simp [Call.writes, hc, hs, Except.isOk, Except.toBool]
        rw [List.filter_cons_of_pos (by simp [hw]), run_cons_of_ok hc]
        exact content_run calls (content_edit_congr e h)
      · have hw : c.writes s = false := by simp [Call.writes, hs]
        rw [List.filter_cons_of_neg (by simp [hw])]
        rw [← slots_of_check hc] at hs
        exact content_run calls ((content_edit_of_notMem hs d).trans h)

/-- The order of calls. Whether a call fails, and how, is settled by the call and not by the draft
that it is made on. Two runs whose calls on each slot are the same, in the same order and without
those that fail, end in one draft, so it builds to the same statement or is refused for the same
reason, and the analysis of what is built is the same. -/
theorem run_order (d : Draft) :
    (∀ (c : Call) (d' : Draft), ((∃ r, d.call c = .ok r) ↔ ∃ r, d'.call c = .ok r)
        ∧ ∀ x, d.call c = .error x ↔ d'.call c = .error x)
      ∧ ∀ calls calls' : List Call,
        (∀ s : Slot, calls.filter (·.writes s) = calls'.filter (·.writes s)) →
          d.run calls = d.run calls'
            ∧ (d.run calls).build = (d.run calls').build
            ∧ ∀ t : Analysis.Thresholds,
              (d.run calls).build >>= (fun s => Analysis.report s.toValue t.toValue)
                = (d.run calls').build >>= fun s => Analysis.report s.toValue t.toValue := by
  refine ⟨fun c d' => ?_, fun calls calls' h => ?_⟩
  · unfold call
    rcases c.check with x | e
    · exact ⟨by simp, fun _ => Iff.rfl⟩
    · exact ⟨by simp, by simp⟩
  · have hrun : d.run calls = d.run calls' := by
      refine ext_content fun s => ?_
      rw [content_run calls rfl, h s, ← content_run calls' rfl]
    exact ⟨hrun, by rw [hrun], fun t => by rw [hrun]⟩

/-- A change of the verb between conditions, and a limit that is refused. -/
theorem run_order_of_mixed_calls :
    let condition := Call.condition .and (.text "age") (.text ">") (some (.int 30))
    let calls : List Call := [.table (.text "users"), condition, .limit (.int (-1)),
      .update (.text "people") (.map [(.text "name", .text "Ann")]), .limit (.int 5)]
    let calls' : List Call := [.limit (.int 5), .table (.text "users"),
      .update (.text "people") (.map [(.text "name", .text "Ann")]), condition]
    (∀ s : Slot, calls.filter (·.writes s) = calls'.filter (·.writes s))
      ∧ Draft.run {} calls = Draft.run {} calls' := by
  intro condition calls calls'
  have h : ∀ s : Slot, calls.filter (·.writes s) = calls'.filter (·.writes s) := by
    intro s
    cases s <;> rfl
  exact ⟨h, ((run_order {}).2 calls calls' h).1⟩

end Draft

end QueryDraft.Sql
