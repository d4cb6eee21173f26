import QueryDraft.Proofs.Sections
import QueryDraft.Proofs.StatementInline
import QueryDraft.Proofs.StatementSlots

/-!
# Statements from definitions

A definition is read into edits that checked calls make (`Made`), so its draft satisfies the
invariant. The entries of `where` and `having` become the conditions of the draft one by one, each
with the operator that it spells out or else equality (`Describes`). The one verb that writes comes
after them (`Writes`), and the values that it is given become the columns. What the statement then
has for values is read off the definition (`read_parameters`).
-/

namespace QueryDraft.Sql

theorem requireText_text {slot : TextSlot} {s t : String} (h : requireText slot (.text s) = .ok t) :
    t = Text.trim s :=
  (Text.nonBlank?_eq_some.1 (requireText_eq_ok.1 h)).1.symm

theorem fitValue_normalize {o : Operator} {v w : Value} (h : fitValue o (normalize v) = .ok w) :
    w = normalize v := by
  have hlist : ∀ vs, (normalize v).sequence? = some vs → normalize v = .tuple vs := by
    intro vs hvs
    cases v <;> simp [normalize, Value.sequence?] at hvs ⊢ <;> exact hvs
  cases o
  case isNull | isNotNull =>
    simp only [fitValue] at h
    split_ifs at h with hnull
    · obtain rfl := Except.ok.inj h
      revert hnull
      cases normalize v <;> simp [Value.isNull]
    · simp at h
  case isIn | notIn =>
    simp only [fitValue] at h
    split at h
    · simp at h
    · simp at h
    · rename_i hvs
      rw [hlist _ hvs, Except.ok.inj h]
  case between =>
    simp only [fitValue] at h
    split at h
    · simp at h
    · rename_i hvs
      rw [hlist _ hvs, Except.ok.inj h]
    · simp at h
  all_goals exact (Except.ok.inj h).symm

namespace Condition

/-- A comparison with a known operator keeps all that it is given, trimmed and as a tuple. -/
theorem eq_of_compare {s : String} {o : Operator} {v : Value} {k : Connector} {c : Condition}
    (h : compare (.text s) (.word (.operator o)) v k = .ok c) :
    c = ⟨Text.trim s, o, normalize v, k⟩ := by
  simp only [compare, Operator.parse, ok_bind, make, bind_eq_ok, pure_eq_ok] at h
  obtain ⟨name, hname, w, hw, rfl⟩ := h
  rw [requireText_text hname, fitValue_normalize hw]

theorem operands_of_nullCheck {c : Condition} (h : c.operator.isNullCheck) : c.operands = [] := by
  obtain ⟨field, o, v, k⟩ := c
  cases o <;> simp [Operator.isNullCheck] at h <;> rfl

theorem WellFormed.value_eq_tuple {c : Condition} (hc : c.WellFormed)
    (h : c.operator.isMultiValue) : c.value = .tuple c.operands := by
  obtain ⟨field, o, v, k⟩ := c
  have hv := hc.value
  cases o
  case isIn | notIn =>
    obtain ⟨vs, rfl, -⟩ := hv
    rfl
  case between =>
    obtain ⟨low, high, rfl⟩ := hv
    rfl
  all_goals simp [Operator.isMultiValue] at h

theorem operands_eq_singleton {c : Condition} (hnull : c.operator.isNullCheck = false)
    (hmulti : c.operator.isMultiValue = false) : c.operands = [c.value] := by
  obtain ⟨field, o, v, k⟩ := c
  cases o <;> simp [Operator.isNullCheck, Operator.isMultiValue] at hnull hmulti <;> rfl

end Condition

theorem map_snd_of_assignments {verb : Verb} {es : Entries} {columns : List (String × Value)}
    (h : assignments verb (.map es) = .ok columns) : columns.map (·.2) = es.map (·.2) := by
  obtain ⟨_, ⟨⟩, -, hcolumns⟩ := assignments_eq_ok.1 h
  exact (map_eq_map_of_forall₂ hcolumns fun _ _ hc => hc.2).symm

/-! ## Runs of edits -/

/-- An edit that a call makes, with the slots that the call writes. -/
def Edit.Made (slots : List Slot) (e : Edit) : Prop := ∃ c : Call, c.check = .ok e ∧ c.slots = slots

theorem Edit.Made.wellFormed {slots : List Slot} {e : Edit} (h : e.Made slots) : e.WellFormed := by
  obtain ⟨c, hc, -⟩ := h
  exact check_wellFormed hc

theorem Edit.Made.slots_eq {slots : List Slot} {e : Edit} (h : e.Made slots) : e.slots = slots := by
  obtain ⟨c, hc, rfl⟩ := h
  exact slots_of_check hc

namespace Draft

theorem foldl_edit_wellFormed {es : List Edit} (hes : ∀ e ∈ es, e.WellFormed) {d : Draft}
    (hd : d.WellFormed) : (es.foldl edit d).WellFormed := by
  induction es generalizing d with
  | nil => exact hd
  | cons e es ih =>
    obtain ⟨he, hes⟩ := List.forall_mem_cons.1 hes
    exact ih hes (hd.edit he)

theorem content_foldl_edit {s : Slot} {es : List Edit} (hes : ∀ e ∈ es, s ∉ e.slots) (d : Draft) :
    (es.foldl edit d).content s = d.content s := by
  induction es generalizing d with
  | nil => rfl
  | cons e es ih =>
    obtain ⟨he, hes⟩ := List.forall_mem_cons.1 hes
    exact (ih hes _).trans (content_edit_of_notMem he d)

theorem foldl_condition (cs : List Condition) (d : Draft) :
    (cs.map Edit.condition).foldl edit d = { d with conditions := d.conditions ++ cs } := by
  induction cs generalizing d with
  | nil => simp
  | cons c cs ih => simp [ih, edit]

theorem foldl_having (cs : List Condition) (d : Draft) :
    (cs.map Edit.having).foldl edit d = { d with having := d.having ++ cs } := by
  induction cs generalizing d with
  | nil => simp
  | cons c cs ih => simp [ih, edit]

end Draft

end QueryDraft.Sql

namespace QueryDraft.Config.Relational

open Sql (Call Condition Edit Slot)

/-! ## Entries and conditions -/

/-- The members of a list that a definition binds to a name, none if it binds none. -/
def listed (es : Entries) (name : String) : List Value :=
  match Entries.get? es name with
  | some (.list vs) => vs
  | _ => []

/-- What a condition has from its entry in a definition. -/
structure Describes (e : Entries) (c : Condition) : Prop where
  field : ∃ v s, Entries.get? e "field" = some v ∧ v.text? = some s ∧ c.field = Text.trim s
  operator : ∀ v, Entries.get? e "op" = some v → Operator.parse v = .ok c.operator
  equality : Entries.get? e "op" = none →
    ∃ v, Entries.get? e "value" = some v ∧ c.operator = .eq ∧ c.operands = [Sql.normalize v]
  value : c.value = Sql.normalize (getOr e "value" .null)
  nothing : c.operator.isNullCheck → c.operands = []
  members : c.operator.isMultiValue → c.value = .tuple c.operands
  single : c.operator.isNullCheck = false → c.operator.isMultiValue = false →
    c.operands = [c.value]

/-- The condition on rows that an entry describes. -/
def DescribesRow (v : Value) (c : Condition) : Prop :=
  ∃ e, v = .map e ∧ Describes e c ∧ (c.connector = .or ↔ Entries.get? e "or" = some (.bool true))

/-- The condition on groups that an entry describes. -/
def DescribesGroup (v : Value) (c : Condition) : Prop :=
  ∃ e, v = .map e ∧ Describes e c ∧ c.connector = .and

theorem readComparison_eq_ok {key : String} {e : Entries} {o : Operator} {v : Value}
    (h : readComparison key e = .ok (o, v)) :
    v = getOr e "value" .null
      ∧ (∀ w, Entries.get? e "op" = some w → Operator.parse w = .ok o)
      ∧ (Entries.get? e "op" = none → o = .eq ∧ Entries.get? e "value" = some v) := by
  have hvalue : ∀ {w}, Entries.get? e "value" = some w → w = getOr e "value" .null := by
    intro w hw
    simp [getOr, hw]
  unfold readComparison at h
  split at h
  · rename_i hop
    simp only [bind_eq_ok, require_eq_ok, pure_eq_ok, Prod.mk.injEq] at h
    obtain ⟨w, hw, rfl, rfl⟩ := h
    exact ⟨hvalue hw, by simp [hop], fun _ => ⟨rfl, hw⟩⟩
  · rename_i spelling hop
    simp only [bind_eq_ok, expectSpelling_eq_ok] at h
    obtain ⟨w, ⟨-, rfl⟩, p, hp, h⟩ := h
    have hparse : ∀ w, Entries.get? e "op" = some w → Operator.parse w = .ok p := by
      intro w hw
      rw [hop] at hw
      exact Option.some.inj hw ▸ hp
    split_ifs at h
    · simp only [pure_eq_ok, Prod.mk.injEq] at h
      obtain ⟨rfl, rfl⟩ := h
      exact ⟨rfl, hparse, by simp [hop]⟩
    · simp only [bind_eq_ok, require_eq_ok, pure_eq_ok, Prod.mk.injEq] at h
      obtain ⟨w, hw, rfl, rfl⟩ := h
      exact ⟨hvalue hw, hparse, by simp [hop]⟩

/-- A field, an operator and a value that are read from one entry make the condition that it
describes. -/
theorem describes_of_compare {key : String} {e : Entries} {s : String} {o : Operator} {v : Value}
    {k : Connector} {c : Condition} (hfield : requireTextAt e key "field" = .ok s)
    (hcomparison : readComparison key e = .ok (o, v))
    (h : Condition.compare (.text s) (.word (.operator o)) v k = .ok c) :
    Describes e c ∧ c.connector = k := by
  have hc := (Condition.compare_wellFormed h).1
  obtain ⟨w, hw, hs⟩ := requireTextAt_eq_ok.1 hfield
  obtain ⟨hv, hparse, hnone⟩ := readComparison_eq_ok hcomparison
  obtain rfl := Condition.eq_of_compare h
  refine ⟨⟨⟨w, s, hw, hs, rfl⟩, hparse, fun hop => ?_, by rw [← hv],
    Condition.operands_of_nullCheck, hc.value_eq_tuple, Condition.operands_eq_singleton⟩, rfl⟩
  obtain ⟨rfl, hvalue⟩ := hnone hop
  exact ⟨v, hvalue, rfl, rfl⟩

theorem readCondition_eq_ok (key : String) (v : Value) (a : Edit)
    (h : readCondition key v = .ok a) : ∃ c, a = .condition c ∧ DescribesRow v c := by
  simp only [readCondition, bind_eq_ok, expectMapping_eq_ok] at h
  obtain ⟨e, rfl, -, -, s, hfield, ⟨o, w⟩, hcomparison, b, hb, h⟩ := h
  simp only [Call.check, bind_eq_ok, pure_eq_ok] at h
  obtain ⟨c, hc, rfl⟩ := h
  obtain ⟨hdescribes, hconnector⟩ := describes_of_compare hfield hcomparison hc
  refine ⟨c, rfl, e, rfl, hdescribes, ?_⟩
  rw [expectBool_eq_ok, getOr] at hb
  rw [hconnector]
  cases hor : Entries.get? e "or" with
  | none =>
    rw [hor] at hb
    obtain rfl : false = b := by simpa using hb
    simp
  | some w =>
    rw [hor] at hb
    obtain rfl : w = .bool b := hb
    cases b <;> simp

theorem readHaving_eq_ok (key : String) (v : Value) (a : Edit)
    (h : readHaving key v = .ok a) : ∃ c, a = .having c ∧ DescribesGroup v c := by
  simp only [readHaving, bind_eq_ok, expectMapping_eq_ok] at h
  obtain ⟨e, rfl, -, -, s, hfield, ⟨o, w⟩, hcomparison, h⟩ := h
  simp only [Call.check, bind_eq_ok, pure_eq_ok] at h
  obtain ⟨c, hc, rfl⟩ := h
  obtain ⟨hdescribes, hconnector⟩ := describes_of_compare hfield hcomparison hc
  exact ⟨c, rfl, e, rfl, hdescribes, hconnector⟩

/-! ## Sections and edits -/

/-- Every edit that a reader gives is made by a call that writes the same slots. -/
def ReadsInto (slots : List Slot) (read : String → Value → Outcome Edit) : Prop :=
  ∀ key v a, read key v = .ok a → a.Made slots

theorem readSelect_into : ReadsInto [.verb, .projection] readSelect := by
  intro key v a h
  simp only [readSelect, bind_eq_ok] at h
  obtain ⟨ts, -, h⟩ := h
  exact ⟨_, h, rfl⟩

theorem readTable_into : ReadsInto [.table] readTable := by
  intro key v a h
  simp only [readTable, bind_eq_ok] at h
  obtain ⟨s, -, h⟩ := h
  exact ⟨_, h, rfl⟩

theorem readJoin_into : ReadsInto [.joins] readJoin := by
  intro key v a h
  simp only [readJoin, bind_eq_ok] at h
  obtain ⟨e, -, -, -, t, -, on, -, kind, -, h⟩ := h
  exact ⟨_, h, rfl⟩

theorem readCondition_into : ReadsInto [.conditions] readCondition := by
  intro key v a h
  simp only [readCondition, bind_eq_ok] at h
  obtain ⟨e, -, -, -, s, -, ⟨o, w⟩, -, b, -, h⟩ := h
  exact ⟨_, h, rfl⟩

theorem readGroupBy_into : ReadsInto [.groupBy] readGroupBy := by
  intro key v a h
  simp only [readGroupBy, bind_eq_ok] at h
  obtain ⟨ts, -, h⟩ := h
  exact ⟨_, h, rfl⟩

theorem readHaving_into : ReadsInto [.having] readHaving := by
  intro key v a h
  simp only [readHaving, bind_eq_ok] at h
  obtain ⟨e, -, -, -, s, -, ⟨o, w⟩, -, h⟩ := h
  exact ⟨_, h, rfl⟩

theorem readOrderBy_into : ReadsInto [.orderBy] readOrderBy := by
  intro key v a h
  unfold readOrderBy at h
  split at h
  · exact ⟨_, h, rfl⟩
  · simp only [bind_eq_ok] at h
    obtain ⟨e, -, -, -, s, -, dir, -, h⟩ := h
    exact ⟨_, h, rfl⟩

theorem readLimit_into : ReadsInto [.limit] readLimit := by
  intro key v a h
  simp only [readLimit, bind_eq_ok] at h
  obtain ⟨n, -, h⟩ := h
  exact ⟨_, h, rfl⟩

theorem readOffset_into : ReadsInto [.offset] readOffset := by
  intro key v a h
  simp only [readOffset, bind_eq_ok] at h
  obtain ⟨n, -, h⟩ := h
  exact ⟨_, h, rfl⟩

theorem readDelete_into : ReadsInto [.verb, .table] readDelete := by
  intro key v a h
  simp only [readDelete, bind_eq_ok] at h
  obtain ⟨s, -, h⟩ := h
  exact ⟨_, h, rfl⟩

theorem readValues_eq_ok {call : Value → Value → Call} {key : String} {v : Value} {a : Edit}
    (h : readValues call key v = .ok a) : ∃ e s columns, v = .map e
      ∧ Entries.get? e "values" = some (.map columns)
      ∧ (call (.text s) (.map columns)).check = .ok a := by
  simp only [readValues, bind_eq_ok, expectMapping_eq_ok, require_eq_ok] at h
  obtain ⟨e, rfl, -, -, s, -, w, hw, columns, rfl, h⟩ := h
  exact ⟨e, s, columns, rfl, hw, h⟩

theorem readValues_into {call : Value → Value → Call} {slots : List Slot}
    (hcall : ∀ t values, (call t values).slots = slots) : ReadsInto slots (readValues call) := by
  intro key v a h
  obtain ⟨e, s, columns, -, -, h⟩ := readValues_eq_ok h
  exact ⟨_, h, hcall _ _⟩

theorem readInsert_into : ReadsInto [.verb, .table, .assignments] (readValues .insert) :=
  readValues_into fun _ _ => rfl

theorem readUpdate_into : ReadsInto [.verb, .table, .assignments] (readValues .update) :=
  readValues_into fun _ _ => rfl

section Sections

variable {es : Entries} {key name : String} {read : String → Value → Outcome Edit}
  {slots : List Slot} {as : List Edit} {v : Value}

theorem optional_eq_ok (h : optional es key name read = .ok as) :
    (Entries.get? es name = none ∧ as = []) ∨ ∃ v a, Entries.get? es name = some v
      ∧ read (key ++ "." ++ name) v = .ok a ∧ as = [a] := by
  unfold optional at h
  split at h
  · rename_i hnone
    exact .inl ⟨hnone, (Except.ok.inj h).symm⟩
  · rename_i v hv
    simp only [bind_eq_ok, pure_eq_ok] at h
    obtain ⟨a, ha, rfl⟩ := h
    exact .inr ⟨v, a, hv, ha, rfl⟩

theorem exists_of_optional (h : optional es key name read = .ok as)
    (hv : Entries.get? es name = some v) :
    ∃ a, read (key ++ "." ++ name) v = .ok a ∧ as = [a] := by
  rcases optional_eq_ok h with ⟨hnone, -⟩ | ⟨w, a, hw, ha, has⟩
  · simp [hv] at hnone
  · obtain rfl := Option.some.inj (hv.symm.trans hw)
    exact ⟨a, ha, has⟩

theorem eq_nil_of_optional (h : optional es key name read = .ok as)
    (hes : Entries.get? es name = none) : as = [] := by
  rcases optional_eq_ok h with ⟨-, rfl⟩ | ⟨v, a, hv, -, -⟩
  · rfl
  · simp [hes] at hv

theorem made_of_optional (hread : ReadsInto slots read) (h : optional es key name read = .ok as) :
    ∀ a ∈ as, a.Made slots := by
  rcases optional_eq_ok h with ⟨-, rfl⟩ | ⟨v, a, -, ha, rfl⟩
  · simp
  · exact List.forall_mem_singleton.2 (hread _ _ _ ha)

theorem items_eq_places (h : items es key name read = .ok as) :
    places read (key ++ "." ++ name) 0 (listed es name) = .ok as := by
  simp only [items, bind_eq_ok, expectList_eq_ok, getOr] at h
  obtain ⟨vs, hvs, h⟩ := h
  have hlisted : listed es name = vs := by
    unfold listed
    cases hes : Entries.get? es name with
    | none =>
      rw [hes] at hvs
      simpa using hvs
    | some v =>
      rw [hes] at hvs
      obtain rfl : v = .list vs := hvs
      rfl
  rwa [hlisted]

theorem made_of_items (hread : ReadsInto slots read) (h : items es key name read = .ok as) :
    ∀ a ∈ as, a.Made slots :=
  forall_mem_of_places hread (items_eq_places h)

/-- Of the verbs that write a definition names one at most. -/
theorem verbs_of_checkVerbs (h : checkVerbs key es = .ok ()) :
    (Entries.get? es "insert" = none ∨ Entries.get? es "update" = none ∧
        Entries.get? es "delete" = none)
      ∧ (Entries.get? es "update" = none ∨ Entries.get? es "delete" = none) := by
  cases hi : Entries.get? es "insert" <;> cases hu : Entries.get? es "update" <;>
    cases hd : Entries.get? es "delete" <;> simp_all [checkVerbs, Entries.has, List.filter]

end Sections

/-! ## The statement of a definition -/

/-- The values of the columns that an insertion or update names, in the order of their mapping. -/
def columnValues : Value → List Value
  | .map e => match Entries.get? e "values" with
    | some (.map columns) => columns.map (·.2)
    | _ => []
  | _ => []

/-- The values that a definition writes. -/
def writtenValues (es : Entries) : List Value :=
  match Entries.get? es "insert", Entries.get? es "update" with
  | some v, _ | none, some v => columnValues v
  | none, none => []

theorem headValues_of_readValues {call : Value → Value → Call}
    (hcall : call = .insert ∨ call = .update) {key : String} {v : Value} {a : Edit}
    (h : readValues call key v = .ok a) (d : Sql.Draft) :
    (d.edit a).headValues = columnValues v := by
  obtain ⟨e, s, entries, rfl, hvalues, h⟩ := readValues_eq_ok h
  have hcolumns : columnValues (.map e) = entries.map (·.2) := by simp [columnValues, hvalues]
  rcases hcall with rfl | rfl
  all_goals
    simp only [Call.check, bind_eq_ok, pure_eq_ok] at h
    obtain ⟨t, -, columns, hassigned, rfl⟩ := h
    rw [hcolumns, ← Sql.map_snd_of_assignments hassigned]
    rfl

theorem headValues_of_assignments_nil {d : Sql.Draft} (h : d.assignments = []) :
    d.headValues = [] := by
  cases hv : d.verb <;> simp [Sql.Draft.headValues, hv, h]

/-- What the verb of a definition does to its draft: nothing if the definition writes nothing, and
else one edit, read from the one verb that it names. -/
inductive Writes (es : Entries) : List Edit → Prop
  | nothing (hwritten : writtenValues es = []) : Writes es []
  | values {call : Value → Value → Call} {key : String} {v : Value} {a : Edit}
    (hcall : call = .insert ∨ call = .update) (hread : readValues call key v = .ok a)
    (hwritten : writtenValues es = columnValues v) : Writes es [a]
  | deletes {key : String} {v : Value} {a : Edit} (hread : readDelete key v = .ok a)
    (hwritten : writtenValues es = []) : Writes es [a]

theorem writes_of_optional {key : String} {es : Entries} {insert update delete : List Edit}
    (hverbs : checkVerbs key es = .ok ())
    (hinsert : optional es key "insert" (readValues .insert) = .ok insert)
    (hupdate : optional es key "update" (readValues .update) = .ok update)
    (hdelete : optional es key "delete" readDelete = .ok delete) :
    Writes es (insert ++ update ++ delete) := by
  obtain ⟨hothers, hother⟩ := verbs_of_checkVerbs hverbs
  rcases optional_eq_ok hinsert with ⟨hi, rfl⟩ | ⟨v, a, hi, ha, rfl⟩
  · rcases optional_eq_ok hupdate with ⟨hu, rfl⟩ | ⟨v, a, hu, ha, rfl⟩
    · have hwritten : writtenValues es = [] := by simp [writtenValues, hi, hu]
      rcases optional_eq_ok hdelete with ⟨-, rfl⟩ | ⟨v, a, -, ha, rfl⟩
      · exact .nothing hwritten
      · exact .deletes ha hwritten
    · have hd : Entries.get? es "delete" = none := hother.resolve_left (by simp [hu])
      obtain rfl := eq_nil_of_optional hdelete hd
      exact .values (.inr rfl) ha (by simp [writtenValues, hi, hu])
  · obtain ⟨hu, hd⟩ := hothers.resolve_left (by simp [hi])
    obtain rfl := eq_nil_of_optional hupdate hu
    obtain rfl := eq_nil_of_optional hdelete hd
    exact .values (.inl rfl) ha (by simp [writtenValues, hi])

/-- A draft that satisfies the invariant, with the conditions given and without columns to write. -/
structure Holds (rows groups : List Condition) (d : Sql.Draft) : Prop where
  wellFormed : d.WellFormed
  conditions : d.conditions = rows
  having : d.having = groups
  assignments : d.assignments = []

namespace Holds

variable {rows groups : List Condition} {d : Sql.Draft} {slots : List Slot} {as : List Edit}

theorem empty : Holds [] [] {} := ⟨Sql.Draft.wellFormed_empty, rfl, rfl, rfl⟩

/-- A section of other parts changes neither the conditions nor the columns. -/
theorem others (h : Holds rows groups d) (has : ∀ a ∈ as, a.Made slots)
    (hslots : ∀ s ∈ [Slot.conditions, .having, .assignments], s ∉ slots := by decide) :
    Holds rows groups (as.foldl Sql.Draft.edit d) := by
  have hcontent : ∀ s ∈ [Slot.conditions, .having, .assignments],
      (as.foldl Sql.Draft.edit d).content s = d.content s := by
    intro s hs
    refine Sql.Draft.content_foldl_edit (fun a ha => ?_) d
    rw [(has a ha).slots_eq]
    exact hslots s hs
  exact ⟨Sql.Draft.foldl_edit_wellFormed (fun a ha => (has a ha).wellFormed) h.wellFormed,
    (hcontent .conditions (by simp)).trans h.conditions,
    (hcontent .having (by simp)).trans h.having,
    (hcontent .assignments (by simp)).trans h.assignments⟩

theorem where_ (h : Holds [] groups d) (hrows : ∀ a ∈ rows.map Edit.condition, a.Made slots) :
    Holds rows groups ((rows.map Edit.condition).foldl Sql.Draft.edit d) := by
  have hd := Sql.Draft.foldl_edit_wellFormed (fun a ha => (hrows a ha).wellFormed) h.wellFormed
  rw [Sql.Draft.foldl_condition] at hd ⊢
  exact ⟨hd, by simp [h.conditions], h.having, h.assignments⟩

theorem having_ (h : Holds rows [] d) (hgroups : ∀ a ∈ groups.map Edit.having, a.Made slots) :
    Holds rows groups ((groups.map Edit.having).foldl Sql.Draft.edit d) := by
  have hd := Sql.Draft.foldl_edit_wellFormed (fun a ha => (hgroups a ha).wellFormed) h.wellFormed
  rw [Sql.Draft.foldl_having] at hd ⊢
  exact ⟨hd, h.conditions, by simp [h.having], h.assignments⟩

/-- The verb comes last and changes no conditions, so what it assigns is what the statement starts
with. -/
theorem writes {es : Entries} (h : Holds rows groups d) (has : Writes es as) :
    let d' := as.foldl Sql.Draft.edit d
    d'.WellFormed ∧ d'.conditions = rows ∧ d'.having = groups
      ∧ d'.headValues = writtenValues es := by
  cases has with
  | nothing hwritten =>
    rw [hwritten]
    exact ⟨h.wellFormed, h.conditions, h.having, headValues_of_assignments_nil h.assignments⟩
  | @values call key v a hcall hread hwritten =>
    have hmade : a.Made [.verb, .table, .assignments] := by
      rcases hcall with rfl | rfl
      · exact readInsert_into _ _ _ hread
      · exact readUpdate_into _ _ _ hread
    have hrows : (d.edit a).content .conditions = d.content .conditions :=
      Sql.Draft.content_edit_of_notMem (by rw [hmade.slots_eq]; decide) d
    have hgroups : (d.edit a).content .having = d.content .having :=
      Sql.Draft.content_edit_of_notMem (by rw [hmade.slots_eq]; decide) d
    rw [hwritten]
    exact ⟨h.wellFormed.edit hmade.wellFormed, hrows.trans h.conditions, hgroups.trans h.having,
      headValues_of_readValues hcall hread d⟩
  | @deletes key v a hread hwritten =>
    have hmade := readDelete_into _ _ _ hread
    have hrest := h.others (List.forall_mem_singleton.2 hmade)
    rw [hwritten]
    exact ⟨hrest.wellFormed, hrest.conditions, hrest.having,
      headValues_of_assignments_nil hrest.assignments⟩

end Holds

/-- The draft of a definition: it satisfies the invariant, its conditions are those that the entries
describe, and what it writes are the values of the definition. -/
theorem draft_of_edits {key : String} {es : Entries} {as : List Edit}
    (h : edits key es = .ok as) :
    (as.foldl Sql.Draft.edit {}).WellFormed
      ∧ List.Forall₂ DescribesRow (listed es "where") (as.foldl Sql.Draft.edit {}).conditions
      ∧ List.Forall₂ DescribesGroup (listed es "having") (as.foldl Sql.Draft.edit {}).having
      ∧ (as.foldl Sql.Draft.edit {}).headValues = writtenValues es := by
  simp only [edits, bind_eq_ok, pure_eq_ok] at h
  obtain ⟨select, hselect, table, htable, joins, hjoins, conditions, hconditions, groupBy, hgroupBy,
    having', hhaving, orderBy, horderBy, limit, hlimit, offset, hoffset, ⟨⟩, hverbs, insert,
    hinsert, update, hupdate, delete, hdelete, rfl⟩ := h
  have hrows := made_of_items readCondition_into hconditions
  have hgroups := made_of_items readHaving_into hhaving
  obtain ⟨rows, rfl, hwhere⟩ := exists_map_of_places readCondition_eq_ok
    (items_eq_places hconditions)
  obtain ⟨groups, rfl, hgroup⟩ := exists_map_of_places readHaving_eq_ok
    (items_eq_places hhaving)
  -- The sections one after another, in the order in which `edits` reads them.
  have hnone := Holds.empty
  have hnone := hnone.others (made_of_optional readSelect_into hselect)
  have hnone := hnone.others (made_of_optional readTable_into htable)
  have hnone := hnone.others (made_of_items readJoin_into hjoins)
  have hwhere' := hnone.where_ hrows
  have hwhere' := hwhere'.others (made_of_optional readGroupBy_into hgroupBy)
  have hboth := hwhere'.having_ hgroups
  have hboth := hboth.others (made_of_items readOrderBy_into horderBy)
  have hboth := hboth.others (made_of_optional readLimit_into hlimit)
  have hboth := hboth.others (made_of_optional readOffset_into hoffset)
  obtain ⟨hwellFormed, hrows', hgroups', hvalues⟩ :=
    hboth.writes (writes_of_optional hverbs hinsert hupdate hdelete)
  simp only [List.append_assoc, List.foldl_append] at hwellFormed hrows' hgroups' hvalues ⊢
  rw [hrows', hgroups']
  exact ⟨hwellFormed, hwhere, hgroup, hvalues⟩

theorem edits_of_read {key name : String} {es : Entries} {d : Sql.Draft}
    (h : Definition.read key (.map es) = .ok ⟨name, .statement d⟩) :
    ∃ as, edits key es = .ok as ∧ d = as.foldl Sql.Draft.edit {} := by
  simp only [Definition.read, bind_eq_ok, expectMapping_eq_ok] at h
  obtain ⟨es', hes, text, -, h⟩ := h
  obtain rfl : es = es' := Value.map.inj hes
  split at h
  · simp at h
  · simp only [bind_eq_ok, pure_eq_ok, Definition.mk.injEq] at h
    obtain ⟨kind, -, draft, hdraft, -, rfl⟩ := h
    unfold Definition.readDraft at hdraft
    split at hdraft
    · simp only [Definition.under_eq_ok, bind_eq_ok, pure_eq_ok, Draft.statement.injEq] at hdraft
      obtain ⟨-, -, as, has, rfl⟩ := hdraft
      exact ⟨as, has, rfl⟩
    · simp only [Definition.under_eq_ok, bind_eq_ok, pure_eq_ok] at hdraft
      obtain ⟨-, -, as, -, hsearch⟩ := hdraft
      simp at hsearch
    · simp at hdraft

/-- The conditions of a definition are those that its entries describe, in order, and the statement
has for values those that the definition writes, then those of `where`, then those of `having`. -/
theorem read_parameters {key name : String} {es : Entries} {d : Sql.Draft}
    (h : Definition.read key (.map es) = .ok ⟨name, .statement d⟩) :
    List.Forall₂ DescribesRow (listed es "where") d.conditions
      ∧ List.Forall₂ DescribesGroup (listed es "having") d.having
      ∧ ∀ s, d.build = .ok s →
        s.parameters = writtenValues es ++ d.conditions.flatMap Condition.operands
            ++ d.having.flatMap Condition.operands
          ∧ s.whereCount = (listed es "where").length := by
  obtain ⟨as, has, rfl⟩ := edits_of_read h
  obtain ⟨hd, hwhere, hhaving, hvalues⟩ := draft_of_edits has
  refine ⟨hwhere, hhaving, fun s hs => ?_⟩
  obtain rfl := Sql.Draft.eq_statement_of_build hd hs
  refine ⟨?_, hwhere.length_eq.symm⟩
  rw [← hvalues]
  rfl

/-- Without an operator the spelling of a null check is a value like any other. -/
theorem read_parameters_of_conditions :
    let entry : List (String × Value) → Value := fun fields =>
      .map (fields.map fun (name, v) => (.text name, v))
    let es : Entries := [(.text "name", .text "notes"), (.text "type", .text "relational"),
      (.text "select", .text "id"), (.text "from", .text "notes"),
      (.text "where", .list [entry [("field", .text " note "), ("value", .text "IS NULL")],
        entry [("field", .text "role"), ("op", .text "in"), ("value", .list [.int 1, .int 2]),
          ("or", .bool true)],
        entry [("field", .text "gone"), ("op", .text "is null")]]),
      (.text "having", .list [entry [("field", .text "total"), ("op", .text "between"),
        ("value", .list [.int 3, .int 4])]])]
    ∃ d s, Definition.read "queries[0]" (.map es) = .ok ⟨"notes", .statement d⟩
      ∧ d.build = .ok s ∧ s.whereCount = 3
      ∧ s.parameters = [.text "IS NULL", .int 1, .int 2, .int 3, .int 4] := by
  intro entry es
  let d : Sql.Draft :=
    { projection := ["id"], table := "notes"
      conditions := [⟨"note", .eq, .text "IS NULL", .and⟩,
        ⟨"role", .isIn, .tuple [.int 1, .int 2], .or⟩, ⟨"gone", .isNull, .null, .and⟩]
      having := [⟨"total", .between, .tuple [.int 3, .int 4], .and⟩] }
  have hread : Definition.read "queries[0]" (.map es) = .ok ⟨"notes", .statement d⟩ := by
    with_unfolding_all rfl
  have hbuild : d.build = .ok d.statement := rfl
  obtain ⟨-, -, hstatement⟩ := read_parameters hread
  obtain ⟨hparameters, hcount⟩ := hstatement _ hbuild
  exact ⟨d, _, hread, hbuild, hcount, hparameters⟩

end QueryDraft.Config.Relational
