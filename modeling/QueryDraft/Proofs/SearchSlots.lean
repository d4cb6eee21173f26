import Mathlib.Data.List.Induction
import QueryDraft.Proofs.Outcome
import QueryDraft.Search.Request

/-!
# What a session leaves in each slot

A session on a draft of a search is made in turns: a call on the draft, or a `bool` predicate that
is composed in a sub-draft, its clauses being filled in any order. A turn that succeeds puts one
thing into one slot of the draft, so a session comes to a list for each slot (`entered`). The draft
at the end is read off these lists alone (`run_calls`): the last item where a slot has room for one,
all items where it collects them. How turns on different slots are mixed leaves no trace.
-/

namespace QueryDraft.Search

/-- The slots of a draft. -/
inductive Slot where
  | index | predicate | filters | sort | size | start | source | highlight | aggregations
  deriving DecidableEq

/-- What is put into a slot at a time. -/
def Slot.Item : Slot → Type
  | .index => String
  | .predicate | .filters => Predicate
  | .sort => SortField
  | .size | .start => Int
  | .source => List String
  | .highlight => Highlight
  | .aggregations => String × Aggregation

/-- The slot that a call writes when it succeeds. -/
def Call.slot : Call → Slot
  | .index _ => .index
  | .query _ | .matchAll | .matching .. | .phrase .. | .multiMatch .. | .term .. | .terms ..
  | .range .. => .predicate
  | .filter .. | .filterRange .. => .filters
  | .sort .. => .sort
  | .size _ => .size
  | .start _ => .start
  | .source _ => .source
  | .highlight _ => .highlight
  | .aggregate .. | .avg .. | .sum .. | .termsAggregation .. | .dateHistogram .. => .aggregations

/-- The slot that an edit writes. -/
def Edit.slot : Edit → Slot
  | .index _ => .index
  | .predicate _ => .predicate
  | .filter _ => .filters
  | .sort _ => .sort
  | .size _ => .size
  | .start _ => .start
  | .source _ => .source
  | .highlight _ => .highlight
  | .aggregate .. => .aggregations

/-- What an edit puts into a slot. -/
def Edit.item? : Edit → (s : Slot) → Option s.Item
  | .index name, .index => some name
  | .predicate p, .predicate => some p
  | .filter p, .filters => some p
  | .sort o, .sort => some o
  | .size count, .size => some count
  | .start offset, .start => some offset
  | .source fields, .source => some fields
  | .highlight h, .highlight => some h
  | .aggregate name a, .aggregations => some (name, a)
  | _, _ => none

/-! ## Turns -/

/-- A turn of a session: a call on the draft, or a sub-draft that is opened, given values for its
clauses, and done. -/
inductive Turn where
  | call (c : Call)
  | compose (given : List (BoolClause × Value))

/-- The predicates that a clause is given, in order. What is no predicate is refused. -/
def members (clause : BoolClause) (given : List (BoolClause × Value)) : List Predicate :=
  (given.filter fun g => g.1 = clause).filterMap fun g => Predicate.ofValue? g.2

/-- The `bool` predicate that is composed of what its clauses are given. -/
def composed (given : List (BoolClause × Value)) : Predicate :=
  .bool (predicateTuple (members .must given)) (predicateTuple (members .mustNot given))
    (predicateTuple (members .should given)) (predicateTuple (members .filter given))

namespace Turn

/-- The calls of a turn in a session. -/
def calls : Turn → List SessionCall
  | .call c => [.draft c]
  | .compose given => .openBool :: given.map (fun (clause, v) => .clause clause v) ++ [.done]

/-- The edit that a turn makes, none if its call fails. -/
def edit? : Turn → Option Edit
  | .call c => c.check.toOption
  | .compose given => some (.predicate (composed given))

end Turn

/-- What turns put into a slot, in order. -/
def entered (turns : List Turn) (s : Slot) : List s.Item :=
  turns.filterMap fun t => t.edit?.bind fun e => e.item? s

/-- The draft with what was put into its slots: the last item counts where there is room for one,
filters and orderings are kept in order, and a repeated name replaces its aggregation. -/
def Draft.ofItems (items : (s : Slot) → List s.Item) : Draft where
  index := (items .index).getLast?
  predicate := (items .predicate).getLast?.getD .matchAll
  filters := items .filters
  sort := items .sort
  size := (items .size).getLast?
  start := (items .start).getLast?
  aggregations := (items .aggregations).foldl (fun named e => putNamed named e.1 e.2) []
  highlight := (items .highlight).getLast?
  source := (items .source).getLast?

/-! ## The steps -/

/-- A call writes the slot of the edit that it makes. -/
theorem slot_of_check {c : Call} {e : Edit} (h : c.check = .ok e) : e.slot = c.slot := by
  cases c with
  | matchAll => exact Except.ok.inj h ▸ rfl
  | sort field order =>
    simp only [Call.check, bind_eq_ok, pure_eq_ok] at h
    obtain ⟨name, -, o, -, rfl⟩ := h
    rfl
  | terms field values | aggregate name spec =>
    simp only [Call.check, bind_eq_ok, pure_eq_ok] at h
    obtain ⟨a, -, b, -, rfl⟩ := h
    rfl
  | avg name field | sum name field =>
    simp only [Call.check, aggregateAs, bind_eq_ok, pure_eq_ok] at h
    obtain ⟨field, -, name, -, rfl⟩ := h
    rfl
  | termsAggregation name field size =>
    simp only [Call.check, aggregateAs, bind_eq_ok, pure_eq_ok] at h
    obtain ⟨field, -, count, -, a, -, name, -, rfl⟩ := h
    rfl
  | dateHistogram name field interval =>
    simp only [Call.check, aggregateAs, bind_eq_ok, pure_eq_ok] at h
    obtain ⟨interval, -, field, -, name, -, rfl⟩ := h
    rfl
  | _ =>
    simp only [Call.check, bind_eq_ok, pure_eq_ok] at h
    obtain ⟨a, -, rfl⟩ := h
    rfl

theorem isSome_item?_iff (e : Edit) (s : Slot) : (e.item? s).isSome ↔ s = e.slot := by
  cases e <;> cases s <;> first | exact ⟨fun _ => rfl, fun _ => rfl⟩ | exact ⟨nofun, nofun⟩

theorem edit_ofItems (items : (s : Slot) → List s.Item) (e : Edit) :
    (Draft.ofItems items).edit e
      = .ofItems fun s => items s ++ (e.item? s).toList := by
  cases e <;> simp [Draft.ofItems, Draft.edit, Edit.item?] <;> rfl

theorem foldl_edit (es : List Edit) :
    es.foldl Draft.edit {} = .ofItems fun s => es.filterMap (·.item? s) := by
  induction es using List.reverseRecOn with
  | nil => rfl
  | append_singleton es e ih =>
    simp only [List.foldl_append, List.foldl_cons, List.foldl_nil, ih, edit_ofItems,
      List.filterMap_append]
    rfl

theorem run_append (s : Session) (calls calls' : List SessionCall) :
    s.run (calls ++ calls') = (s.run calls).run calls' := by
  simp [Session.run]

/-- Predicates go to the ends of their clauses; what is no predicate goes nowhere. -/
theorem run_clauses (given : List (BoolClause × Value)) (b : BoolDraft) :
    Session.run (.bool b) (given.map fun (clause, v) => .clause clause v)
      = .bool ⟨b.parent, b.must ++ members .must given, b.mustNot ++ members .mustNot given,
        b.should ++ members .should given, b.filter ++ members .filter given⟩ := by
  induction given generalizing b with
  | nil => simp [Session.run, members]
  | cons g given ih =>
    obtain ⟨clause, v⟩ := g
    rw [List.map_cons, ← List.singleton_append, run_append]
    cases hv : Predicate.ofValue? v with
    | none =>
      -- the call fails, and `members` leaves the value out as well
      have hcall : Session.run (.bool b) [.clause clause v] = .bool b := by
        simp [Session.run, Session.call, BoolDraft.call, Predicate.ensure, hv]
        rfl
      rw [hcall, ih]
      cases clause <;> simp [members, hv]
    | some p =>
      have hcall : Session.run (.bool b) [.clause clause v] = .bool (b.add clause p) := by
        simp [Session.run, Session.call, BoolDraft.call, Predicate.ensure, hv]
        rfl
      rw [hcall, ih]
      cases clause <;> simp [members, hv, BoolDraft.add]

theorem run_compose (given : List (BoolClause × Value)) (d : Draft) :
    Session.run (.draft d) (Turn.compose given).calls
      = .draft { d with predicate := composed given } := by
  have hopen : Session.run (.draft d) [.openBool] = .bool ⟨d, [], [], [], []⟩ := rfl
  rw [Turn.calls, List.cons_append, ← List.singleton_append, run_append, hopen, run_append,
    run_clauses]
  rfl

theorem run_turn (t : Turn) (d : Draft) :
    Session.run (.draft d) t.calls = .draft (t.edit?.toList.foldl Draft.edit d) := by
  cases t with
  | compose given => exact run_compose given d
  | call c =>
    simp only [Turn.calls, Turn.edit?, Session.run, Session.call, Draft.call, List.foldl_cons,
      List.foldl_nil]
    cases c.check <;> rfl

theorem run_calls (turns : List Turn) :
    Session.run (.draft {}) (turns.flatMap Turn.calls) = .draft (.ofItems (entered turns)) := by
  have hrun : ∀ d, Session.run (.draft d) (turns.flatMap Turn.calls)
      = .draft ((turns.filterMap Turn.edit?).foldl Draft.edit d) := by
    induction turns with
    | nil => intro d; rfl
    | cons t turns ih =>
      intro d
      rw [List.flatMap_cons, run_append, run_turn, ih]
      cases ht : t.edit? <;> simp [ht]
  rw [hrun, foldl_edit]
  simp only [List.filterMap_filterMap]
  rfl

/-- What a session leaves, whatever its turns are. A call that succeeds writes its own slot only. A
composed predicate has the members of each clause in their order and leaves the other slots as they
were when the sub-draft was opened. At the end the last primary predicate counts, filters and
orderings are all there in their order, and of the rest the last counts. Sessions that put the same
into each slot, in the same order, end in one draft. Building wraps the primary predicate, whatever
it is, exactly if there are filters. -/
theorem run_turns (turns : List Turn) :
    (∀ (c : Call) (e : Edit), c.check = .ok e → ∀ s, (e.item? s).isSome ↔ s = c.slot)
      ∧ (∀ (d : Draft) (given : List (BoolClause × Value)),
        Session.run (.draft d) (Turn.compose given).calls
          = .draft { d with predicate := composed given })
      ∧ ∃ d : Draft, Session.run (.draft {}) (turns.flatMap Turn.calls) = .draft d
        ∧ d.predicate = (entered turns .predicate).getLast?.getD .matchAll
        ∧ d.filters = entered turns .filters
        ∧ d.sort = entered turns .sort
        ∧ d.size = (entered turns .size).getLast?
        ∧ d.start = (entered turns .start).getLast?
        ∧ d.index = (entered turns .index).getLast?
        ∧ d.source = (entered turns .source).getLast?
        ∧ d.highlight = (entered turns .highlight).getLast?
        ∧ (d.filters = [] → d.build.predicate = d.predicate)
        ∧ (d.filters ≠ [] → d.build.predicate = .bool (predicateTuple [d.predicate]) (.tuple [])
          (.tuple []) (predicateTuple d.filters))
        ∧ ∀ turns' : List Turn, (∀ s, entered turns s = entered turns' s) →
          Session.run (.draft {}) (turns'.flatMap Turn.calls) = .draft d := by
  refine ⟨fun c e h s => ?_, fun d given => run_compose given d, .ofItems (entered turns),
    run_calls turns, rfl, rfl, rfl, rfl, rfl, rfl, rfl, rfl, fun h => ?_, fun h => ?_,
    fun turns' h => ?_⟩
  · rw [isSome_item?_iff, slot_of_check h]
  · simp [Draft.build, Draft.finalPredicate, h]
  · simp [Draft.build, Draft.finalPredicate, h]
  · rw [run_calls, funext h]

/-- A composed predicate that filters wrap, with calls that fail and a clause that is given no
predicate. -/
theorem run_turns_of_composed :
    let title := Predicate.matching (.text "title") (.text "lean")
    let draft := Predicate.term (.text "draft") (.bool true)
    let compose := Turn.compose [(.mustNot, draft.toValue), (.must, .text "title"),
      (.must, title.toValue)]
    let stock := Turn.call (.filter (.text " stock ") (.list [.int 1]))
    let turns : List Turn := [.call (.size (.int 5)), stock, .call .matchAll, compose,
      .call (.size (.int (-1))), .call (.size (.int 0))]
    let turns' : List Turn := [.call .matchAll, .call (.index (.text " ")), compose,
      .call (.size (.int 5)), .call (.size (.int 0)), stock]
    ∃ d : Draft, Session.run (.draft {}) (turns.flatMap Turn.calls) = .draft d
      ∧ Session.run (.draft {}) (turns'.flatMap Turn.calls) = .draft d
      ∧ d.size = some 0 ∧ d.index = none
      ∧ d.build.predicate = .bool
        (predicateTuple [.bool (predicateTuple [title]) (predicateTuple [draft]) (.tuple [])
          (.tuple [])])
        (.tuple []) (.tuple []) (predicateTuple [.terms (.text "stock") [.int 1]]) := by
  intro title draft compose stock turns turns'
  obtain ⟨-, -, d, hd, hpredicate, hfilters, -, hsize, -, hindex, -, -, -, hbuild, hturns⟩ :=
    run_turns turns
  have hsame : ∀ s, entered turns s = entered turns' s := by
    intro s
    cases s <;> rfl
  have hne : d.filters ≠ [] := by
    rw [hfilters]
    exact List.cons_ne_nil _ _
  refine ⟨d, hd, hturns turns' hsame, hsize, hindex, ?_⟩
  rw [hbuild hne, hpredicate, hfilters]
  rfl

end QueryDraft.Search
