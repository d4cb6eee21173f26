import QueryDraft.Proofs.ReadingSteps

/-!
# Which errors reading gives

Whatever is read as a part of a search, most of what can be wrong with it is refused for a reason
that has a wording. What is left is data that cannot be compared, and it is known when that happens
(`FailsExactlyIf`): unknown keys are listed in order, so keys of different sorts stand in each
other's way (`Unordered`), and the size of an aggregation by terms is compared with zero, so it
must be a number.

Such a case may lie anywhere in a `bool`, but it comes to light only if all that is read before it
is read without an error (`Predicate.Stumbles`).
-/

namespace QueryDraft

variable {α β : Type}

/-- In one case data cannot be compared; every other error is a refusal. -/
structure FailsExactlyIf (c : Prop) (x : Outcome α) : Prop where
  iff : x = fail .mismatch ↔ c
  errors : FailsWith (fun e => e = .failed .mismatch ∨ ∃ r, e = .refused r) x

namespace FailsExactlyIf

variable {c d : Prop} {x : Outcome α}

theorem ok (a : α) : FailsExactlyIf False (.ok a : Outcome α) := ⟨by simp [fail], .ok a⟩

theorem refuse (r : Refusal) : FailsExactlyIf False (refuse r : Outcome α) :=
  ⟨by simp [QueryDraft.refuse, fail], .error (.inr ⟨r, rfl⟩)⟩

theorem fail_mismatch : FailsExactlyIf True (fail .mismatch : Outcome α) :=
  ⟨by simp, .error (.inl rfl)⟩

theorem congr (h : FailsExactlyIf c x) (hcd : c ↔ d) : FailsExactlyIf d x :=
  ⟨h.iff.trans hcd, h.errors⟩

theorem of_imp (h : FailsExactlyIf c x) (hcd : c → d) (hd : d → x = fail .mismatch) :
    FailsExactlyIf d x :=
  h.congr ⟨hcd, fun hx => h.iff.1 (hd hx)⟩

theorem refused_or (h : FailsExactlyIf c x) {e : Error} (he : x = .error e) :
    (∃ r, e = .refused r) ∨ e = .failed .mismatch ∧ c := by
  rcases h.errors e he with rfl | hr
  · exact .inr ⟨rfl, h.iff.1 he⟩
  · exact .inl hr

theorem bind {f : α → Outcome β} {d : α → Prop} (h : FailsExactlyIf c x)
    (hf : ∀ a, x = .ok a → FailsExactlyIf (d a) (f a)) :
    FailsExactlyIf (c ∨ ∃ a, x = .ok a ∧ d a) (x >>= f) := by
  cases x with
  | ok a =>
    have hc : ¬c := mt h.iff.2 (by simp [fail])
    refine (hf a rfl).congr ?_
    simp [hc]
  | error e =>
    refine ⟨?_, .error (h.errors e rfl)⟩
    have hiff := h.iff
    simpa [fail] using hiff

theorem bind_refused {f : α → Outcome β} (h : FailsExactlyIf False x)
    (hf : ∀ a, FailsExactlyIf False (f a)) : FailsExactlyIf False (x >>= f) :=
  (h.bind fun a _ => hf a).congr (by simp)

theorem of_errors {y : Outcome β} (h : FailsExactlyIf c y)
    (hxy : ∀ e, x = .error e ↔ y = .error e) : FailsExactlyIf c x :=
  ⟨(hxy _).trans h.iff, fun e he => h.errors e ((hxy e).1 he)⟩

/-- Of several things the first that goes wrong counts. -/
theorem mapM {f : α → Outcome β} {d : α → Prop} :
    ∀ {as : List α}, (∀ a ∈ as, FailsExactlyIf (d a) (f a)) →
      FailsExactlyIf (∃ before a after, as = before ++ a :: after
        ∧ (∀ b ∈ before, ∃ y, f b = .ok y) ∧ d a) (as.mapM f)
  | [], _ => (ok []).congr (by simp)
  | a :: as, h => by
    obtain ⟨ha, has⟩ := List.forall_mem_cons.1 h
    rw [List.mapM_cons]
    have hrest (b : β) : FailsExactlyIf (∃ before a after, as = before ++ a :: after
        ∧ (∀ b ∈ before, ∃ y, f b = .ok y) ∧ d a) (do return b :: (← as.mapM f)) := by
      refine ((mapM has).bind fun bs _ => ok (b :: bs)).congr ?_
      simp
    refine (ha.bind fun b _ => hrest b).congr ⟨?_, ?_⟩
    · rintro (hd | ⟨b, hb, before, a', after, rfl, hbefore, hd⟩)
      · exact ⟨[], a, as, rfl, by simp, hd⟩
      · exact ⟨a :: before, a', after, rfl, List.forall_mem_cons.2 ⟨⟨b, hb⟩, hbefore⟩, hd⟩
    · rintro ⟨before, a', after, has', hbefore, hd⟩
      rcases List.cons_eq_append_iff.1 has' with ⟨rfl, h'⟩ | ⟨before, rfl, rfl⟩
      · obtain ⟨rfl, -⟩ := List.cons.inj h'
        exact .inl hd
      · obtain ⟨⟨b, hb⟩, hbefore⟩ := List.forall_mem_cons.1 hbefore
        exact .inr ⟨b, hb, before, a', after, rfl, hbefore, hd⟩

theorem mapM_refused {f : α → Outcome β} {as : List α} (h : ∀ a ∈ as, FailsExactlyIf False (f a)) :
    FailsExactlyIf False (as.mapM f) :=
  (mapM h).congr (by simp)

end FailsExactlyIf

/-! ## Unknown keys -/

/-- The keys of a mapping that are none of some names cannot be brought into order: there are
several of them, and two have none. -/
def Unordered (es : Entries) (names : List String) : Prop :=
  1 < (unknownKeys es names).length
    ∧ ∃ k ∈ unknownKeys es names, ∃ k' ∈ unknownKeys es names, k.less? k' = none

theorem sorted?_eq_none {vs : List Value} :
    Value.sorted? vs = none ↔ 1 < vs.length ∧ ∃ v ∈ vs, ∃ w ∈ vs, v.less? w = none := by
  unfold Value.sorted?
  split_ifs with hlength hall
  · simp only [false_iff, not_and]
    omega
  · simp only [false_iff, not_and]
    rintro - ⟨v, hv, w, hw, hnone⟩
    simp only [List.all_eq_true] at hall
    simpa [hnone] using hall v hv w hw
  · simp only [true_iff]
    refine ⟨by omega, ?_⟩
    simpa using hall

theorem failsExactlyIf_rejectUnknown (es : Entries) (names : List String)
    (refusal : List Value → Refusal) :
    FailsExactlyIf (Unordered es names) (rejectUnknown es names refusal) := by
  unfold rejectUnknown Unordered
  rw [← sorted?_eq_none]
  split
  · rename_i hnil
    refine (FailsExactlyIf.ok ()).congr ?_
    simp [hnil, Value.sorted?]
  · split
    · rename_i hsorted
      refine (FailsExactlyIf.refuse _).congr ?_
      simp [hsorted]
    · rename_i hnone
      refine FailsExactlyIf.fail_mismatch.congr ?_
      simp [hnone]

theorem rejectUnknown_eq_ok {es : Entries} {names : List String} {refusal : List Value → Refusal}
    {u : Unit} : rejectUnknown es names refusal = .ok u ↔ unknownKeys es names = [] := by
  unfold rejectUnknown
  split
  · rename_i hnil
    simp [hnil]
  · rename_i hne
    split <;> simpa using hne

/-! ## Bounds, highlights and aggregations -/

theorem failsExactlyIf_requireCollection (slot : TextsSlot) (v : Value) :
    FailsExactlyIf False (requireCollection slot v) := by
  have hmember (w : Value) : FailsExactlyIf False (requireMember slot w) := by
    unfold requireMember
    split
    · exact .ok _
    · exact .refuse _
  unfold requireCollection
  split
  · exact (hmember _).bind_refused fun s => .ok [s]
  · exact (hmember _).bind_refused fun s => .ok [s]
  · exact .ok _
  · exact .refuse _
  · split
    · exact .mapM_refused fun w _ => hmember w
    · exact .refuse _

theorem Bounds.failsExactlyIf_coerce (v : Value) :
    FailsExactlyIf (∃ es, v = .map es ∧ Unordered es names) (coerce v) := by
  unfold coerce
  split
  · rename_i b hb
    refine (FailsExactlyIf.ok b).congr ?_
    rw [false_iff]
    rintro ⟨es, rfl, -⟩
    simp [ofValue?] at hb
  · rename_i es _
    have hmake (gte gt lte lt : Value) : FailsExactlyIf False (make gte gt lte lt) := by
      unfold make
      dsimp only
      split_ifs
      · exact .refuse _
      · exact .ok _
    refine ((failsExactlyIf_rejectUnknown es names _).bind fun _ _ => hmake _ _ _ _).congr ?_
    simp
  · rename_i hmap _
    refine (FailsExactlyIf.refuse _).congr ?_
    rw [false_iff]
    rintro ⟨es, rfl, -⟩
    exact hmap es rfl

theorem Highlight.failsExactlyIf_make {fields pre post size : Value} (hpre : pre.items?.isSome)
    (hpost : post.items?.isSome) : FailsExactlyIf False (make fields pre post size) := by
  obtain ⟨pres, hpre⟩ := Option.isSome_iff_exists.1 hpre
  obtain ⟨posts, hpost⟩ := Option.isSome_iff_exists.1 hpost
  unfold make
  refine (failsExactlyIf_requireCollection _ _).bind_refused fun names => ?_
  rw [hpre, hpost]
  dsimp only
  split_ifs
  · exact .refuse _
  · exact .ok _

theorem Highlight.failsExactlyIf_coerce (v : Value) :
    FailsExactlyIf (∃ es, v = .map es ∧ Unordered es names) (coerce v) := by
  unfold coerce
  split
  · rename_i h hh
    refine (FailsExactlyIf.ok h).congr ?_
    rw [false_iff]
    rintro ⟨es, rfl, -⟩
    simp [ofValue?] at hh
  · rename_i es _
    refine ((failsExactlyIf_rejectUnknown es names _).bind (d := fun _ => False)
      fun _ _ => ?_).congr (by simp)
    have hrest (size : Value) : FailsExactlyIf False (do
        let pre ← requireCollection .preTags ((Entries.get? es "pre_tags").getD (.tuple []))
        let post ← requireCollection .postTags ((Entries.get? es "post_tags").getD (.tuple []))
        make (fieldsOf ((Entries.get? es "fields").getD (.tuple []))) (.textTuple pre)
          (.textTuple post) size) :=
      (failsExactlyIf_requireCollection _ _).bind_refused fun pre =>
        (failsExactlyIf_requireCollection _ _).bind_refused fun post =>
          failsExactlyIf_make rfl rfl
    dsimp only
    split_ifs
    · exact .bind_refused (.refuse _) fun _ => hrest _
    · exact hrest _
  · rename_i hmap _
    refine (failsExactlyIf_make rfl rfl).congr ?_
    rw [false_iff]
    rintro ⟨es, rfl, -⟩
    exact hmap es rfl

theorem Aggregation.failsExactlyIf_makeTerms (field size : Value) :
    FailsExactlyIf (size.number? = none) (makeTerms field size) := by
  unfold makeTerms
  split
  · rename_i hnone
    exact FailsExactlyIf.fail_mismatch.congr (by simp [hnone])
  · rename_i n hn
    refine FailsExactlyIf.congr (c := False) ?_ (by simp [hn])
    split_ifs
    · exact .refuse _
    · exact .ok _

/-- The size of an aggregation by terms is not a number. -/
inductive Aggregation.Stumbles : Value → Prop
  | size {k size : Value} {es : Entries} (hk : k.text? = some "terms")
    (hfield : (Entries.getD es "field").isTruthy) (hsize : Entries.get? es "size" = some size)
    (h : size.number? = none) : Stumbles (.map [(k, .map es)])

theorem Aggregation.fail_of_stumbles {v : Value} (h : Stumbles v) :
    ofDocument v = fail .mismatch := by
  cases h with
  | size hk hfield hsize h =>
    rw [ofDocument_terms hfield hk, hsize, Option.getD_some]
    exact (failsExactlyIf_makeTerms _ _).iff.2 h

theorem Aggregation.failsExactlyIf_ofDocument (v : Value) :
    FailsExactlyIf (Stumbles v) (ofDocument v) := by
  cases form v with
  | @refused _ r h =>
    rw [h]
    exact (FailsExactlyIf.refuse r).of_imp False.elim fun hv => h ▸ fail_of_stumbles hv
  | @kind k es name hk hname hfield =>
    simp only [List.mem_cons, List.not_mem_nil, or_false] at hname
    rcases hname with rfl | rfl | rfl | rfl
    · refine FailsExactlyIf.of_imp (c := False) ?_ False.elim fail_of_stumbles
      rw [ofDocument_avg hfield hk]
      exact .ok _
    · refine FailsExactlyIf.of_imp (c := False) ?_ False.elim fail_of_stumbles
      rw [ofDocument_sum hfield hk]
      exact .ok _
    · have hterms := failsExactlyIf_makeTerms (Entries.getD es "field")
        ((Entries.get? es "size").getD (.int 10))
      rw [← ofDocument_terms hfield hk] at hterms
      refine hterms.of_imp (fun hnone => ?_) fail_of_stumbles
      cases hsize : Entries.get? es "size" with
      | none => simp [hsize, Value.number?] at hnone
      | some size => exact .size hk hfield hsize (by simpa [hsize] using hnone)
    · refine FailsExactlyIf.of_imp (c := False) ?_ False.elim fail_of_stumbles
      rw [ofDocument_dateHistogram hfield hk]
      dsimp only
      split_ifs
      · exact .ok _
      · exact .refuse _

/-! ## Predicates -/

namespace Predicate

/-- In a document there is a `range` with unknown bounds that cannot be brought into order, or a
`bool` with such clauses, and all that is read before it can be read. -/
inductive Stumbles : Value → Prop
  | bounds {k field : Value} {es : Entries} (hk : k.text? = some "range")
    (hfield : field.text?.isSome) (h : Unordered es Bounds.names) :
    Stumbles (.map [(k, .map [(field, .map es)])])
  | clauses {k : Value} {es : Entries} (hk : k.text? = some "bool")
    (h : Unordered es clauseNames) : Stumbles (.map [(k, .map es)])
  | member {k v : Value} {es : Entries} {before after : List Value} (hk : k.text? = some "bool")
    (hknown : unknownKeys es clauseNames = []) (hes : members es = before ++ v :: after)
    (hbefore : ∀ w ∈ before, ∃ p, ofDocument w = .ok p) (h : Stumbles v) :
    Stumbles (.map [(k, .map es)])

variable {k field : Value} {es : Entries}

theorem ofDocument_bool_eq_error (hk : k.text? = some "bool")
    (hknown : unknownKeys es clauseNames = []) (e : Error) :
    ofDocument (.map [(k, .map es)]) = .error e ↔ (members es).mapM readOne = .error e := by
  have hreject : rejectUnknown es clauseNames .unknownBoolClauses = .ok () :=
    rejectUnknown_eq_ok.2 hknown
  rw [ofDocument_bool hk, hreject, ok_bind, map_eq_error, members, mapM_flatMap, map_eq_error]

theorem exists_readOne_eq_ok {v : Value} :
    (∃ w, readOne v = .ok w) ↔ ∃ p, ofDocument v = .ok p := by
  rw [readOne_eq_map, exists_map_eq_ok]

theorem fail_of_stumbles {v : Value} (h : Stumbles v) : ofDocument v = fail .mismatch := by
  induction h with
  | bounds hk hfield h =>
    rw [ofDocument_range hfield hk, (Bounds.failsExactlyIf_coerce _).iff.2 ⟨_, rfl, h⟩]
    rfl
  | clauses hk h =>
    rw [ofDocument_bool hk, (failsExactlyIf_rejectUnknown _ _ _).iff.2 h]
    rfl
  | @member k v es before after hk hknown hes hbefore _ ih =>
    -- reading stops at the first member that gives an error
    refine (ofDocument_bool_eq_error hk hknown _).2 ?_
    obtain ⟨ws, hws⟩ : ∃ ws, before.mapM readOne = .ok ws :=
      exists_mapM_eq_ok.2 fun w hw => exists_readOne_eq_ok.2 (hbefore w hw)
    rw [hes, List.mapM_append, hws, ok_bind, List.mapM_cons, readOne_eq_map, ih]
    rfl

theorem failsExactlyIf_bool (hk : k.text? = some "bool")
    (ih : ∀ w ∈ members es, FailsExactlyIf (Stumbles w) (ofDocument w)) :
    FailsExactlyIf (Stumbles (.map [(k, .map es)])) (ofDocument (.map [(k, .map es)])) := by
  by_cases hknown : unknownKeys es clauseNames = []
  · have hread (w : Value) (hw : w ∈ members es) : FailsExactlyIf (Stumbles w) (readOne w) := by
      rw [readOne_eq_map]
      exact (ih w hw).of_errors fun e => map_eq_error
    refine ((FailsExactlyIf.mapM hread).of_errors (ofDocument_bool_eq_error hk hknown)).of_imp ?_
      fail_of_stumbles
    rintro ⟨before, v, after, hes, hbefore, hv⟩
    exact .member hk hknown hes (fun w hw => exists_readOne_eq_ok.1 (hbefore w hw)) hv
  · have hreject := failsExactlyIf_rejectUnknown es clauseNames .unknownBoolClauses
    rw [ofDocument_bool hk]
    refine (hreject.bind (d := fun _ => False) fun _ hok => ?_).of_imp ?_ fun hv => ?_
    · exact absurd (rejectUnknown_eq_ok.1 hok) hknown
    · rintro (h | ⟨-, -, ⟨⟩⟩)
      exact .clauses hk h
    · rw [← ofDocument_bool hk, fail_of_stumbles hv]

theorem failsExactlyIf_ofMultiMatch (body : Value) : FailsExactlyIf False (ofMultiMatch body) := by
  unfold ofMultiMatch
  split
  · split
    · exact (failsExactlyIf_requireCollection _ _).bind_refused fun names => .ok _
    · exact .refuse _
  · exact .refuse _

theorem failsExactlyIf_ofDocument (v : Value) : FailsExactlyIf (Stumbles v) (ofDocument v) := by
  -- where nothing is compared there is nothing to stumble on
  have hplain {v : Value} (h : FailsExactlyIf False (ofDocument v)) :
      FailsExactlyIf (Stumbles v) (ofDocument v) := h.of_imp False.elim fail_of_stumbles
  induction v using member_induction with
  | h v ih =>
    cases form v with
    | @refused _ r h => exact hplain (h ▸ .refuse r)
    | matchAll hk body => exact hplain (ofDocument_matchAll hk body ▸ .ok _)
    | @bool k hk es => exact failsExactlyIf_bool hk (ih k es rfl)
    | multiMatch hk body =>
      exact hplain (ofDocument_multiMatch hk body ▸ failsExactlyIf_ofMultiMatch body)
    | @field k field name hk hname hfield arg =>
      simp only [List.mem_cons, List.not_mem_nil, or_false] at hname
      rcases hname with rfl | rfl | rfl | rfl | rfl
      · exact hplain (ofDocument_match hfield hk arg ▸ .ok _)
      · exact hplain (ofDocument_phrase hfield hk arg ▸ .ok _)
      · exact hplain (ofDocument_term hfield hk arg ▸ .ok _)
      · refine hplain ?_
        rw [ofDocument_terms hfield hk]
        split
        · exact .ok _
        · exact .refuse _
      · have hcoerce := Bounds.failsExactlyIf_coerce arg
        refine (hcoerce.of_errors fun e => ?_).of_imp ?_ fail_of_stumbles
        · rw [ofDocument_range hfield hk, map_eq_error]
        · rintro ⟨es, rfl, h⟩
          exact .bounds hk hfield h

end Predicate

/-- Bounds, a highlight, an aggregation or a predicate is read, or what was given for it is refused,
with one exception in each: unknown keys that have no order, or a size that is no number. In a
`bool` the first member that is not read decides which of the two it is. -/
theorem reading_refuses (v : Value) :
    FailsExactlyIf (∃ es, v = .map es ∧ Unordered es Bounds.names) (Bounds.coerce v)
      ∧ FailsExactlyIf (∃ es, v = .map es ∧ Unordered es Highlight.names) (Highlight.coerce v)
      ∧ FailsExactlyIf (Aggregation.Stumbles v) (Aggregation.ofDocument v)
      ∧ FailsExactlyIf (Predicate.Stumbles v) (Predicate.ofDocument v) :=
  ⟨Bounds.failsExactlyIf_coerce v, Highlight.failsExactlyIf_coerce v,
    Aggregation.failsExactlyIf_ofDocument v, Predicate.failsExactlyIf_ofDocument v⟩

/-- A text for the size of an aggregation, and the keys `1` and `a` where names of bounds, of
options and of clauses are wanted, are not refused. -/
theorem reading_fails :
    let body : Value := .map [(.int 1, .int 0), (.text "a", .int 0)]
    let sized : Value := .map [(.text "field", .text "brand"), (.text "size", .text "10")]
    let range : Value := .map [(.text "range", .map [(.text "price", body)])]
    Aggregation.ofDocument (.map [(.text "terms", sized)]) = fail .mismatch
      ∧ Bounds.coerce body = fail .mismatch
      ∧ Highlight.coerce body = fail .mismatch
      ∧ Predicate.ofDocument (.map [(.text "bool", body)]) = fail .mismatch
      ∧ Predicate.ofDocument (.map [(.text "bool", .map [(.text "must", .list [range])])])
        = fail .mismatch :=
  ⟨rfl, rfl, rfl, rfl, rfl⟩

end QueryDraft
