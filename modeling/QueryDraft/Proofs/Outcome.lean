import Mathlib.Data.List.Forall2
import Mathlib.Logic.Unique
import Mathlib.Tactic.SplitIfs
import QueryDraft.Error

/-!
# Outcomes of several steps

An outcome of several steps succeeds exactly when each of its steps does, so a success is taken
apart step by step (`bind_eq_ok`, `mapM_eq_ok`) and put together again without unfolding the steps.
Of a check only its success counts (`check_bind_eq_ok`, `forM_eq_ok`). What all errors of the steps
have in common, every error of the whole has (`FailsWith.bind`).
-/

namespace QueryDraft

variable {α β : Type}

theorem bind_eq_ok {x : Outcome α} {f : α → Outcome β} {b : β} :
    x >>= f = .ok b ↔ ∃ a, x = .ok a ∧ f a = .ok b := by
  cases x <;> simp [bind, Except.bind]

/-- Whether steps succeed at all, whatever they give. -/
theorem exists_bind_eq_ok {x : Outcome α} {f : α → Outcome β} :
    (∃ b, x >>= f = .ok b) ↔ ∃ a, x = .ok a ∧ ∃ b, f a = .ok b := by
  cases x <;> simp [bind, Except.bind]

theorem map_eq_ok {x : Outcome α} {f : α → β} {b : β} :
    f <$> x = .ok b ↔ ∃ a, x = .ok a ∧ f a = b := by
  cases x <;> simp [Functor.map, Except.map]

theorem map_eq_error {x : Outcome α} {f : α → β} {e : Error} :
    f <$> x = .error e ↔ x = .error e := by
  cases x <;> simp [Functor.map, Except.map]

theorem exists_map_eq_ok {x : Outcome α} {f : α → β} :
    (∃ b, f <$> x = .ok b) ↔ ∃ a, x = .ok a := by
  cases x <;> simp [Functor.map, Except.map]

@[simp] theorem pure_eq_ok {a b : α} : (pure a : Outcome α) = .ok b ↔ a = b := by
  simp [pure, Except.pure]

@[simp] theorem ok_bind (a : α) (f : α → Outcome β) : (Except.ok a : Outcome α) >>= f = f a := rfl

@[simp] theorem error_bind (e : Error) (f : α → Outcome β) :
    (Except.error e : Outcome α) >>= f = .error e := rfl

@[simp] theorem map_ok (f : α → β) (a : α) : f <$> (Except.ok a : Outcome α) = .ok (f a) := rfl

@[simp] theorem refuse_ne_ok {r : Refusal} {a : α} : (refuse r : Outcome α) ≠ .ok a := by
  simp [refuse]

@[simp] theorem fail_ne_ok {f : Failure} {a : α} : (fail f : Outcome α) ≠ .ok a := by
  simp [fail]

theorem mapM_eq_ok {f : α → Outcome β} :
    ∀ {as : List α} {bs : List β}, as.mapM f = .ok bs ↔ List.Forall₂ (fun a b => f a = .ok b) as bs
  | [], bs => by
    simp only [List.mapM_nil, pure_eq_ok, List.forall₂_nil_left_iff]
    exact eq_comm
  | a :: as, bs => by
    simp only [List.mapM_cons, bind_eq_ok, pure_eq_ok, mapM_eq_ok]
    constructor
    · rintro ⟨b, hb, rest, hrest, rfl⟩
      exact .cons hb hrest
    · rintro (_ | ⟨hb, hrest⟩)
      exact ⟨_, hb, _, hrest, rfl⟩

theorem exists_mapM_eq_ok {f : α → Outcome β} {as : List α} :
    (∃ bs, as.mapM f = .ok bs) ↔ ∀ a ∈ as, ∃ b, f a = .ok b := by
  induction as with
  | nil => simp
  | cons a as ih =>
    simp only [List.mapM_cons, exists_bind_eq_ok, pure_eq_ok, exists_eq', and_true, ih,
      exists_and_right, List.forall_mem_cons]

/-- Steps that all succeed give what each of them gives. -/
theorem mapM_ok {f : α → Outcome β} {g : α → β} {as : List α} (h : ∀ a ∈ as, f a = .ok (g a)) :
    as.mapM f = .ok (as.map g) := by
  rw [mapM_eq_ok, List.forall₂_map_right_iff, List.forall₂_same]
  exact h

/-- Steps on the images of things that all succeed. -/
theorem mapM_map_ok {γ : Type} {f : β → Outcome γ} {g : α → β} {k : α → γ} {as : List α}
    (h : ∀ a ∈ as, f (g a) = .ok (k a)) : (as.map g).mapM f = .ok (as.map k) := by
  rw [mapM_eq_ok, List.forall₂_map_left_iff, List.forall₂_map_right_iff, List.forall₂_same]
  exact h

/-- Steps on the members of several lists, list by list. -/
theorem mapM_flatMap {γ : Type} {g : γ → List α} {f : α → Outcome β} (cs : List γ) :
    (cs.flatMap g).mapM f = List.flatten <$> cs.mapM fun c => (g c).mapM f := by
  induction cs with
  | nil => rfl
  | cons c cs ih =>
    rw [List.flatMap_cons, List.mapM_append, List.mapM_cons, ih]
    cases (g c).mapM f with
    | error e => rfl
    | ok bs => cases cs.mapM fun c => (g c).mapM f <;> rfl

theorem forall_mem_of_forall₂_of {R : α → β → Prop} {Q : α → Prop} {P : β → Prop} {as : List α}
    {bs : List β} (h : List.Forall₂ R as bs) (has : ∀ a ∈ as, Q a)
    (hR : ∀ a b, Q a → R a b → P b) : ∀ b ∈ bs, P b := by
  induction h with
  | nil => simp
  | cons hab _ ih =>
    obtain ⟨ha, has⟩ := List.forall_mem_cons.1 has
    exact List.forall_mem_cons.2 ⟨hR _ _ ha hab, ih has⟩

theorem forall_mem_of_forall₂ {R : α → β → Prop} {P : β → Prop} {as : List α} {bs : List β}
    (h : List.Forall₂ R as bs) (hR : ∀ a b, R a b → P b) : ∀ b ∈ bs, P b :=
  forall_mem_of_forall₂_of h (fun _ _ => trivial) fun a b _ => hR a b

theorem map_eq_map_of_forall₂ {γ : Type} {R : α → β → Prop} {f : α → γ} {g : β → γ} {as : List α}
    {bs : List β} (h : List.Forall₂ R as bs) (hR : ∀ a b, R a b → f a = g b) :
    as.map f = bs.map g := by
  have hmap : List.Forall₂ (· = ·) (as.map f) (bs.map g) :=
    List.forall₂_map_left_iff.2 (List.forall₂_map_right_iff.2 (h.imp hR))
  rwa [List.forall₂_eq_eq_eq] at hmap

/-- Where each result is made by a function of something, the results are the image of a list. -/
theorem exists_map_of_forall₂ {γ : Type} {R : α → β → Prop} {S : α → γ → Prop} {g : γ → β}
    (hR : ∀ a b, R a b → ∃ c, b = g c ∧ S a c) {as : List α} {bs : List β}
    (h : List.Forall₂ R as bs) : ∃ cs : List γ, bs = cs.map g ∧ List.Forall₂ S as cs := by
  induction h with
  | nil => exact ⟨[], rfl, .nil⟩
  | cons hab _ ih =>
    obtain ⟨c, rfl, hc⟩ := hR _ _ hab
    obtain ⟨cs, rfl, hcs⟩ := ih
    exact ⟨c :: cs, rfl, .cons hc hcs⟩

/-- What a test that every step passes says of the members that come out. -/
theorem forall_mem_of_mapM {f : α → Outcome β} {P : β → Prop} (hf : ∀ a b, f a = .ok b → P b)
    {as : List α} {bs : List β} (h : as.mapM f = .ok bs) : ∀ b ∈ bs, P b :=
  forall_mem_of_forall₂ (mapM_eq_ok.1 h) hf

/-! ## Checks -/

theorem check_bind_eq_ok {x : Outcome Unit} {f : Unit → Outcome α} {a : α} :
    x >>= f = .ok a ↔ x = .ok () ∧ f () = .ok a := by
  rw [bind_eq_ok, Unique.exists_iff]

theorem ite_ok_eq_ok {p : Prop} [Decidable p] {e : Error} :
    (if p then pure () else .error e : Outcome Unit) = .ok () ↔ p := by
  split_ifs <;> simp_all

theorem ite_check_eq_ok {p : Prop} [Decidable p] {x : Outcome Unit} :
    (if p then x else pure ()) = .ok () ↔ (p → x = .ok ()) := by
  split_ifs <;> simp_all

/-- A check that refuses what a test holds of lets through what the test fails on. -/
theorem check_unless_eq_ok {x : Outcome Bool} {e : Error} :
    (do if ← x then .error e : Outcome Unit) = .ok () ↔ x = .ok false := by
  rw [bind_eq_ok]
  constructor
  · rintro ⟨b, hb, hcheck⟩
    rw [hb, Bool.eq_false_iff.2 fun h => nomatch ite_check_eq_ok.1 hcheck h]
  · exact fun hx => ⟨false, hx, rfl⟩

theorem forM_eq_ok {f : α → Outcome Unit} :
    ∀ {as : List α}, as.forM f = .ok () ↔ ∀ a ∈ as, f a = .ok ()
  | [] => by simp
  | a :: as => by
    rw [List.forM_eq_forM, List.forM_cons, check_bind_eq_ok, ← List.forM_eq_forM,
      List.forall_mem_cons, forM_eq_ok]

/-! ## Errors -/

/-- Every error of an outcome is of a kind. -/
def FailsWith (P : Error → Prop) (x : Outcome α) : Prop := ∀ e, x = .error e → P e

namespace FailsWith

variable {P Q : Error → Prop} {x : Outcome α}

theorem ok (a : α) : FailsWith P (.ok a : Outcome α) := nofun

theorem pure (a : α) : FailsWith P (pure a : Outcome α) := nofun

theorem error {e : Error} (h : P e) : FailsWith P (.error e : Outcome α) := by
  rintro _ ⟨⟩
  exact h

theorem imp (h : FailsWith P x) (hPQ : ∀ e, P e → Q e) : FailsWith Q x := fun e he => hPQ e (h e he)

/-- The second step counts only for what the first one gives. -/
theorem bind_of_ok {f : α → Outcome β} (h : FailsWith P x)
    (hf : ∀ a, x = .ok a → FailsWith P (f a)) : FailsWith P (x >>= f) := by
  cases x with
  | error e => exact error (h e rfl)
  | ok a => exact hf a rfl

theorem bind {f : α → Outcome β} (h : FailsWith P x) (hf : ∀ a, FailsWith P (f a)) :
    FailsWith P (x >>= f) :=
  h.bind_of_ok fun a _ => hf a

theorem mapM {f : α → Outcome β} (hf : ∀ a, FailsWith P (f a)) :
    ∀ as : List α, FailsWith P (as.mapM f)
  | [] => pure []
  | a :: as => by
    rw [List.mapM_cons]
    exact (hf a).bind fun b => (mapM hf as).bind fun bs => pure (b :: bs)

end FailsWith

end QueryDraft
