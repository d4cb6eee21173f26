import QueryDraft.Proofs.Sections
import QueryDraft.Proofs.StatementParts

/-!
# Errors of definitions of statements

What turns a definition down is either a setting, whose message names the key of the definition, or
a call that the draft refuses. A reader of a section blames the key that it is given (`Blaming`),
and a key that is made from another one contains it, so whoever hands a longer key to a reader
blames the shorter one (`Blames.mono`). The readers of the parts only make calls that are refused in
words (`check_own`). The key of the definition is then put before a refusal, once
(`read_or_names_key`).
-/

namespace QueryDraft

/-- A refusal that a check words by itself, no key standing before it. -/
def Refusal.Own (r : Refusal) : Prop := ∀ key cause, r ≠ .inDefinition key cause

/-- An error that is such a refusal. -/
inductive Error.Own : Error → Prop
  | refused {r : Refusal} (h : r.Own) : Error.Own (.refused r)

variable {α : Type}

theorem refuse_own {r : Refusal} (h : r.Own) : FailsWith Error.Own (refuse r : Outcome α) :=
  .error (.refused h)

theorem requireText_own (slot : TextSlot) (v : Value) :
    FailsWith Error.Own (requireText slot v) := by
  unfold requireText
  split
  · exact .ok _
  · exact refuse_own nofun

theorem requireCount_own (slot : CountSlot) (v : Value) :
    FailsWith Error.Own (requireCount slot v) := by
  unfold requireCount
  split
  · exact refuse_own nofun
  · split_ifs
    · exact refuse_own nofun
    · exact .ok _

/-- A list of texts has items to go through. -/
theorem requireTexts_own (slot : TextSlot) (ts : List String) :
    FailsWith Error.Own (requireTexts slot (.textList ts)) :=
  FailsWith.mapM (requireText_own slot) _

theorem Operator.parse_own (v : Value) : FailsWith Error.Own (Operator.parse v) := by
  unfold Operator.parse
  repeat' split
  all_goals first
    | exact .ok _
    | exact refuse_own nofun

theorem JoinKind.parse_own (v : Value) : FailsWith Error.Own (JoinKind.parse v) := by
  unfold JoinKind.parse
  repeat' split
  all_goals first
    | exact .ok _
    | exact refuse_own nofun

theorem Direction.parse_own (v : Value) : FailsWith Error.Own (Direction.parse v) := by
  unfold Direction.parse
  repeat' split
  all_goals first
    | exact .ok _
    | exact refuse_own nofun

end QueryDraft

namespace QueryDraft.Sql

theorem fitValue_own (o : Operator) (v : Value) : FailsWith Error.Own (fitValue o v) := by
  unfold fitValue
  repeat' split
  all_goals first
    | exact .ok _
    | exact refuse_own nofun

theorem Condition.make_own (field : Value) (o : Operator) (v : Value) (k : Connector) :
    FailsWith Error.Own (make field o v k) :=
  (requireText_own _ _).bind fun _ => (fitValue_own _ _).bind fun _ => .pure _

theorem Condition.compare_own (field operator v : Value) (k : Connector) :
    FailsWith Error.Own (compare field operator v k) :=
  (Operator.parse_own _).bind fun _ => make_own _ _ _ _

theorem Condition.short_own (field second : Value) (k : Connector) :
    FailsWith Error.Own (short field second k) := by
  unfold short
  split
  · exact make_own _ _ _ _
  · split_ifs
    · exact (Operator.parse_own _).bind fun _ => make_own _ _ _ _
    · exact make_own _ _ _ _

theorem Join.make_own (table condition kind : Value) :
    FailsWith Error.Own (Join.make table condition kind) := by
  unfold Join.make
  split
  · exact (JoinKind.parse_own _).bind fun _ => .pure _
  · exact refuse_own nofun

theorem assignments_own (verb : Verb) (v : Value) : FailsWith Error.Own (assignments verb v) := by
  unfold assignments
  split
  · exact refuse_own nofun
  · exact refuse_own nofun
  · exact FailsWith.mapM (fun _ => (requireText_own _ _).bind fun _ => .pure _) _

/-- A call that names whatever it names in a list of texts. -/
inductive Call.Plain : Call → Prop
  | select (ts : List String) : Plain (.select (.textList ts))
  | groupBy (ts : List String) : Plain (.groupBy (.textList ts))
  | other {c : Call} (hselect : ∀ v, c ≠ .select v) (hgroup : ∀ v, c ≠ .groupBy v) : Plain c

/-- A call is refused in words of the check's own. -/
theorem check_own {c : Call} (hc : c.Plain) : FailsWith Error.Own c.check := by
  cases hc with
  | select ts => exact (requireTexts_own _ _).bind fun _ => .pure _
  | groupBy ts => exact (requireTexts_own _ _).bind fun _ => .pure _
  | other hselect hgroup =>
    cases c with
    | select v => exact absurd rfl (hselect v)
    | groupBy v => exact absurd rfl (hgroup v)
    | table _ | delete _ => exact (requireText_own _ _).bind fun _ => .pure _
    | join _ _ _ => exact (Join.make_own _ _ _).bind fun _ => .pure _
    | condition _ _ _ third =>
      cases third with
      | none => exact (Condition.short_own _ _ _).bind fun _ => .pure _
      | some _ => exact (Condition.compare_own _ _ _ _).bind fun _ => .pure _
    | orderBy _ _ =>
      exact (requireText_own _ _).bind fun _ => (Direction.parse_own _).bind fun _ => .pure _
    | having _ _ _ => exact (Condition.compare_own _ _ _ _).bind fun _ => .pure _
    | limit _ | offset _ => exact (requireCount_own _ _).bind fun _ => .pure _
    | insert _ _ | update _ _ =>
      exact (requireText_own _ _).bind fun _ => (assignments_own _ _).bind fun _ => .pure _

end QueryDraft.Sql

namespace QueryDraft.Config

open Sql (Call Edit Occurs occurs_append_left occurs_append_right check_own)

/-! ## Readers that blame a key -/

/-- An error under a key: a setting whose message names the key, or a refusal of a kind. -/
inductive Blames (R : Refusal → Prop) (key : String) : Error → Prop
  | kind {k : KindFault} (h : Occurs key k.message) : Blames R key (.kind k)
  | setting {s : SettingFault} (h : Occurs key s.message) : Blames R key (.setting s)
  | refused {r : Refusal} (h : R r) : Blames R key (.refused r)

/-- A reader whose errors blame the key that it is given. -/
def Blaming {α : Type} (R : Refusal → Prop) (read : String → Value → Outcome α) : Prop :=
  ∀ key v, FailsWith (Blames R key) (read key v)

/-- A refusal of a call, in words of the check's own. -/
def OfCall (r : Refusal) : Prop := r.Own ∧ ∃ c : Call, c.check = refuse r

variable {α : Type} {R : Refusal → Prop} {es : Entries} {key name : String}

/-- What blames a key blames whatever stands in the key. -/
theorem Blames.mono {full : String} {e : Error} (hkey : Occurs key full) (h : Blames R full e) :
    Blames R key e := by
  cases h with
  | kind h => exact .kind (hkey.trans h)
  | setting h => exact .setting (hkey.trans h)
  | refused h => exact .refused h

/-- Whatever is read under a longer key blames the shorter one. -/
theorem Blaming.sub {read : String → Value → Outcome α} (h : Blaming R read) {full : String}
    (hkey : Occurs key full) (v : Value) : FailsWith (Blames R key) (read full v) :=
  (h full v).imp fun _ he => he.mono hkey

theorem occurs_before (key middle rest : String) : Occurs key (key ++ middle ++ rest) :=
  (occurs_append_left _ _).trans (occurs_append_left _ _)

theorem occurs_itemKey (key : String) (index : Nat) : Occurs key (itemKey key index) :=
  (occurs_before _ _ _).trans (occurs_append_left _ _)

theorem occurs_subKey (key name : String) : Occurs key (key ++ "." ++ name) :=
  occurs_before _ _ _

theorem expect_blames (wanted : SettingKind) (view : Value → Option α) :
    Blaming R (expect wanted view) := by
  intro key v
  unfold expect
  split
  · exact .ok _
  · exact .error (.kind (occurs_before _ _ _))

theorem expectText_blames : Blaming R expectText := expect_blames _ _

theorem expectBool_blames : Blaming R expectBool := expect_blames _ _

theorem expectInt_blames : Blaming R expectInt := expect_blames _ _

theorem expectMapping_blames : Blaming R expectMapping := expect_blames _ _

theorem expectList_blames : Blaming R expectList := expect_blames _ _

theorem expectSpelling_blames : Blaming R expectSpelling := fun _ _ =>
  (expectText_blames _ _).bind fun _ => .pure _

theorem places_blames {read : String → Value → Outcome α} (hread : Blaming R read) :
    ∀ (index : Nat) (vs : List Value), FailsWith (Blames R key) (places read key index vs)
  | _, [] => .ok _
  | index, v :: vs =>
    (hread.sub (occurs_itemKey _ _) v).bind fun _ =>
      (places_blames hread (index + 1) vs).bind fun _ => .pure _

theorem expectTexts_blames : Blaming R expectTexts := by
  intro key v
  unfold expectTexts
  split
  · exact .ok _
  · exact (expectList_blames _ _).bind fun vs => places_blames expectText_blames 0 vs

theorem require_blames {full : String} (hkey : Occurs key full) :
    FailsWith (Blames R key) (require es name full) := by
  unfold require
  split
  · exact .ok _
  · exact .error (.setting (hkey.trans (occurs_append_right _ _)))

theorem requireTextAt_blames : FailsWith (Blames R key) (requireTextAt es key name) :=
  (require_blames (occurs_subKey _ _)).bind fun v => expectText_blames.sub (occurs_subKey _ _) v

theorem rejectKeys_blames (allowed : List String) :
    FailsWith (Blames R key) (rejectKeys es allowed key) := by
  unfold rejectKeys
  split
  · exact .ok _
  · exact .error (.setting (occurs_before _ _ _))

theorem check_blames {c : Call} (hc : c.Plain) : FailsWith (Blames OfCall key) c.check := by
  intro e he
  cases check_own hc e he with
  | refused hr => exact .refused ⟨hr, _, he⟩

/-- An operator that cannot be read is refused as the operator of a condition is. -/
theorem parse_blames (v : Value) : FailsWith (Blames OfCall key) (Operator.parse v) := by
  intro e he
  cases Operator.parse_own v e he with
  | @refused r hr =>
    have hcheck : (Call.condition .and .null v (some .null)).check = refuse r := by
      rw [Call.check, Sql.Condition.compare, he]
      rfl
    exact .refused ⟨hr, _, hcheck⟩

namespace Relational

/-! ## The parts of a definition -/

theorem readSelect_blames : Blaming OfCall readSelect := fun _ _ =>
  (expectTexts_blames _ _).bind fun ts => check_blames (.select ts)

theorem readGroupBy_blames : Blaming OfCall readGroupBy := fun _ _ =>
  (expectTexts_blames _ _).bind fun ts => check_blames (.groupBy ts)

theorem readTable_blames : Blaming OfCall readTable := fun _ _ =>
  (expectText_blames _ _).bind fun _ => check_blames (.other nofun nofun)

theorem readDelete_blames : Blaming OfCall readDelete := fun _ _ =>
  (expectText_blames _ _).bind fun _ => check_blames (.other nofun nofun)

theorem readLimit_blames : Blaming OfCall readLimit := fun _ _ =>
  (expectInt_blames _ _).bind fun _ => check_blames (.other nofun nofun)

theorem readOffset_blames : Blaming OfCall readOffset := fun _ _ =>
  (expectInt_blames _ _).bind fun _ => check_blames (.other nofun nofun)

theorem readJoin_blames : Blaming OfCall readJoin := fun _ _ =>
  (expectMapping_blames _ _).bind fun _ =>
    (rejectKeys_blames _).bind fun _ =>
      requireTextAt_blames.bind fun _ =>
        requireTextAt_blames.bind fun _ =>
          (expectSpelling_blames.sub (occurs_append_left _ _) _).bind fun _ =>
            check_blames (.other nofun nofun)

theorem readComparison_blames (key : String) (es : Entries) :
    FailsWith (Blames OfCall key) (readComparison key es) := by
  have hvalue : FailsWith (Blames OfCall key) (require es "value" (key ++ ".value")) :=
    require_blames (occurs_append_left _ _)
  unfold readComparison
  split
  · exact hvalue.bind fun _ => .pure _
  · refine (expectSpelling_blames.sub (occurs_append_left _ _) _).bind fun v => ?_
    refine (parse_blames v).bind fun o => ?_
    split_ifs
    · exact .pure _
    · exact hvalue.bind fun _ => .pure _

theorem readCondition_blames : Blaming OfCall readCondition := fun key _ =>
  (expectMapping_blames _ _).bind fun es =>
    (rejectKeys_blames _).bind fun _ =>
      requireTextAt_blames.bind fun _ =>
        (readComparison_blames key es).bind fun _ =>
          (expectBool_blames.sub (occurs_append_left _ _) _).bind fun _ =>
            check_blames (.other nofun nofun)

theorem readHaving_blames : Blaming OfCall readHaving := fun key _ =>
  (expectMapping_blames _ _).bind fun es =>
    (rejectKeys_blames _).bind fun _ =>
      requireTextAt_blames.bind fun _ =>
        (readComparison_blames key es).bind fun _ => check_blames (.other nofun nofun)

theorem readOrderBy_blames : Blaming OfCall readOrderBy := by
  intro key v
  unfold readOrderBy
  split
  · exact check_blames (.other nofun nofun)
  · exact (expectMapping_blames _ _).bind fun _ =>
      (rejectKeys_blames _).bind fun _ =>
        requireTextAt_blames.bind fun _ =>
          (expectSpelling_blames.sub (occurs_append_left _ _) _).bind fun _ =>
            check_blames (.other nofun nofun)

theorem readValues_blames (call : Value → Value → Call) (hcall : ∀ t vs, (call t vs).Plain) :
    Blaming OfCall (readValues call) := fun _ _ =>
  (expectMapping_blames _ _).bind fun _ =>
    (rejectKeys_blames _).bind fun _ =>
      requireTextAt_blames.bind fun _ =>
        (require_blames (occurs_append_left _ _)).bind fun v =>
          (expectMapping_blames.sub (occurs_append_left _ _) v).bind fun _ =>
            check_blames (hcall _ _)

theorem checkVerbs_blames : FailsWith (Blames OfCall key) (checkVerbs key es) := by
  unfold checkVerbs
  dsimp only
  split_ifs
  · exact .error (.setting (occurs_before _ _ _))
  · exact .ok _

theorem optional_blames {read : String → Value → Outcome Edit} (hread : Blaming OfCall read) :
    FailsWith (Blames OfCall key) (optional es key name read) := by
  unfold optional
  split
  · exact .ok _
  · exact (hread.sub (occurs_subKey _ _) _).bind fun _ => .pure _

theorem items_blames {read : String → Value → Outcome Edit} (hread : Blaming OfCall read) :
    FailsWith (Blames OfCall key) (items es key name read) :=
  (expectList_blames.sub (occurs_subKey _ _) _).bind fun vs =>
    (places_blames hread 0 vs).imp fun _ he => he.mono (occurs_subKey _ _)

theorem edits_blames (key : String) (es : Entries) :
    FailsWith (Blames OfCall key) (edits key es) := by
  have hinsert := readValues_blames .insert fun _ _ => .other nofun nofun
  have hupdate := readValues_blames .update fun _ _ => .other nofun nofun
  refine (optional_blames readSelect_blames).bind fun _ => ?_
  refine (optional_blames readTable_blames).bind fun _ => ?_
  refine (items_blames readJoin_blames).bind fun _ => ?_
  refine (items_blames readCondition_blames).bind fun _ => ?_
  refine (optional_blames readGroupBy_blames).bind fun _ => ?_
  refine (items_blames readHaving_blames).bind fun _ => ?_
  refine (items_blames readOrderBy_blames).bind fun _ => ?_
  refine (optional_blames readLimit_blames).bind fun _ => ?_
  refine (optional_blames readOffset_blames).bind fun _ => ?_
  refine checkVerbs_blames.bind fun _ => ?_
  refine (optional_blames hinsert).bind fun _ => ?_
  refine (optional_blames hupdate).bind fun _ => ?_
  exact (optional_blames readDelete_blames).bind fun _ => .pure _

end Relational

namespace Definition

/-! ## Whole definitions -/

/-- A value that describes a search: a mapping with the type of one. -/
def IsSearch (v : Value) : Prop :=
  ∃ es w s, v = .map es ∧ Entries.get? es "type" = some w ∧ w.text? = some s ∧
    Text.lower (Text.trim s) = "search"

/-- A refusal under a key that is put before it. -/
def Under (R : Refusal → Prop) (key : String) (r : Refusal) : Prop :=
  ∃ cause, r = .inDefinition key cause ∧ R cause

theorem under_blames {x : Outcome α} (h : FailsWith (Blames R key) x) :
    FailsWith (Blames (Under R key) key) (under key x) := by
  cases x with
  | ok a => exact .ok a
  | error e =>
    cases h e rfl with
    | kind hkey => exact .error (.kind hkey)
    | setting hkey => exact .error (.setting hkey)
    | @refused r hr => exact .error (.refused ⟨r, rfl, hr⟩)

theorem readDraft_blames {kind : String} (hkind : kind ≠ "search") :
    FailsWith (Blames (Under OfCall key) key) (readDraft key kind es) := by
  unfold readDraft
  split
  · refine under_blames ((rejectKeys_blames _).bind fun _ => ?_)
    exact (Relational.edits_blames key es).bind fun _ => .pure _
  · exact absurd rfl hkind
  · exact .error (.setting (occurs_before _ _ _))

theorem read_blames {v : Value} (hv : ¬IsSearch v) :
    FailsWith (Blames (Under OfCall key) key) (read key v) := by
  refine (expectMapping_blames key v).bind_of_ok fun es hes => ?_
  refine requireTextAt_blames.bind fun name => ?_
  dsimp only
  split_ifs
  · exact .error (.setting (occurs_append_left _ _))
  · refine requireTextAt_blames.bind_of_ok fun s hs => ?_
    have hkind : Text.lower (Text.trim s) ≠ "search" := fun h => by
      obtain ⟨w, hw, hws⟩ := requireTextAt_eq_ok.1 hs
      exact hv ⟨es, w, s, expectMapping_eq_ok.1 hes, hw, hws, h⟩
    exact (readDraft_blames hkind).bind fun _ => .pure _

/-- A definition that is not one of a search is read, or it is turned down in words that name its
key. A refusal is that of a call, with the key put before it once. -/
theorem read_or_names_key (key : String) (v : Value) (hv : ¬IsSearch v) :
    (∃ d, read key v = .ok d) ∨
      ∃ e message, read key v = .error e ∧ e.message? = some message ∧ Occurs key message ∧
        ∀ r, e = .refused r → ∃ (c : Call) (cause : Refusal), c.check = refuse cause ∧
          (∀ key' cause', cause ≠ .inDefinition key' cause') ∧ r = .inDefinition key cause ∧
          message = key ++ ": " ++ cause.message := by
  cases h : read key v with
  | ok d => exact .inl ⟨d, rfl⟩
  | error e =>
    refine .inr ⟨e, ?_⟩
    cases read_blames hv e h with
    | kind hkey => exact ⟨_, rfl, rfl, hkey, nofun⟩
    | setting hkey => exact ⟨_, rfl, rfl, hkey, nofun⟩
    | refused hr =>
      obtain ⟨cause, rfl, hown, c, hc⟩ := hr
      refine ⟨_, rfl, rfl, occurs_before _ _ _, ?_⟩
      rintro _ ⟨⟩
      exact ⟨c, cause, hc, hown, rfl, rfl⟩

/-- A comparison that no operator spells is refused inside the definition that asks for it. -/
theorem read_or_names_key_of_spelling :
    let condition := Value.map [(.text "field", .text "age"), (.text "op", .text "LIKES"),
      (.text "value", .int 1)]
    let v := Value.map [(.text "name", .text "adults"), (.text "type", .text " Relational "),
      (.text "where", .list [condition])]
    ¬IsSearch v ∧ ∃ (c : Call) (cause : Refusal), c.check = refuse cause ∧
      read "queries[0]" v = refuse (.inDefinition "queries[0]" cause) ∧
      "queries[0]: " ++ cause.message = "queries[0]: Unsupported operator: 'LIKES'" := by
  intro condition v
  have hv : ¬IsSearch v := by
    rintro ⟨es, w, s, hes, hw, hs, hkind⟩
    obtain rfl := Value.map.inj hes
    obtain rfl : Value.text " Relational " = w := Option.some.inj hw
    obtain rfl : " Relational " = s := Option.some.inj hs
    revert hkind
    decide
  have hread : read "queries[0]" v =
      refuse (.inDefinition "queries[0]" (.unsupportedOperator (.text "LIKES"))) := by
    with_unfolding_all rfl
  refine ⟨hv, ?_⟩
  rcases read_or_names_key "queries[0]" v hv with ⟨d, hd⟩ | ⟨e, message, he, -, -, hcause⟩
  · rw [hread] at hd
    cases hd
  · rw [hread] at he
    obtain ⟨c, cause, hc, -, hr, -⟩ := hcause _ (Except.error.inj he).symm
    obtain ⟨-, rfl⟩ := Refusal.inDefinition.inj hr
    exact ⟨c, _, hc, hread, by decide +kernel⟩

end Definition

end QueryDraft.Config
