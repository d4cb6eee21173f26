import Mathlib.Tactic.SplitIfs
import QueryDraft.Json.Printer
import QueryDraft.Proofs.Outcome

/-!
# The characters of JSON text

The text of a tree over several lines is made of its numbers, of its strings between quotes, and of
visible characters and newlines around them (`each_indentedAt`). Numbers are written with visible
characters alone (`isNotation_of_mem_numbers`). In a string an escape stands for every character
below the space, and each other one stands for itself (`each_stringText`). So the strings and the
member names of a value's tree settle which characters its text has beyond the visible ones
(`each_indented`).
-/

namespace QueryDraft

namespace Text

/-- A character of ASCII from the space to the tilde. -/
def IsVisible (c : Char) : Prop := 0x20 ≤ c.toNat ∧ c.toNat < 0x7f

instance (c : Char) : Decidable (IsVisible c) := inferInstanceAs (Decidable (_ ∧ _))

/-- Every character of a text is of a kind. -/
def Each (P : Char → Prop) (s : String) : Prop := ∀ c ∈ s.toList, P c

-- found by itself, the instance might try all characters instead of those of the text
instance (P : Char → Prop) [DecidablePred P] (s : String) : Decidable (Each P s) :=
  List.decidableBAll P s.toList

variable {P Q : Char → Prop} {s t : String}

theorem Each.imp (h : ∀ c, P c → Q c) (hs : Each P s) : Each Q s := fun c hc => h c (hs c hc)

@[simp] theorem each_append : Each P (s ++ t) ↔ Each P s ∧ Each P t := by
  simp [Each, or_imp, forall_and]

@[simp] theorem each_ofList {cs : List Char} : Each P (String.ofList cs) ↔ ∀ c ∈ cs, P c := by
  simp [Each]

theorem each_intercalate {sep : String} (hsep : Each P sep) :
    ∀ parts : List String, Each P (sep.intercalate parts) ↔ ∀ part ∈ parts, Each P part
  | [] => by simp [Each]
  | [part] => by simp
  | part :: part' :: parts => by
    rw [String.intercalate_cons_cons, each_append, each_append,
      each_intercalate hsep (part' :: parts), List.forall_mem_cons]
    simp [hsep]

theorem isVisible_hexDigits (width n : Nat) : ∀ c ∈ hexDigits width n, IsVisible c := by
  induction width generalizing n with
  | zero => exact fun c hc => absurd hc List.not_mem_nil
  | succ width ih =>
    have hdigit : ∀ m < 16, IsVisible (hexDigit m) := by decide
    intro c hc
    rcases List.mem_append.1 hc with hc | hc
    · exact ih _ c hc
    · obtain rfl := List.mem_singleton.1 hc
      exact hdigit _ (Nat.mod_lt _ (by decide))

end Text

open Text (IsVisible Each)

/-! ## Numbers -/

/-- A notation of a number: visible characters, one at least. -/
def IsNotation (digits : String) : Prop := digits ≠ "" ∧ Each IsVisible digits

theorem isNotation_ofList {cs : List Char} :
    IsNotation (String.ofList cs) ↔ cs ≠ [] ∧ ∀ c ∈ cs, IsVisible c := by
  rw [IsNotation, Text.each_ofList, Ne, String.ofList_eq_empty_iff]

theorem IsNotation.append {s t : String} (hs : IsNotation s) (ht : Each IsVisible t) :
    IsNotation (t ++ s) :=
  ⟨fun h => hs.1 (String.append_eq_empty_iff.1 h).2, Text.each_append.2 ⟨ht, hs.2⟩⟩

theorem isVisible_of_isDigit {c : Char} (h : c.isDigit) : IsVisible c := by
  simp only [Char.isDigit, Bool.and_eq_true, decide_eq_true_eq, ge_iff_le,
    UInt32.le_iff_toNat_le] at h
  change 48 ≤ c.toNat ∧ c.toNat ≤ 57 at h
  constructor <;> omega

theorem Decimal.isVisible_chars (n : Nat) : ∀ c ∈ chars n, IsVisible c := fun _ hc =>
  isVisible_of_isDigit (Nat.isDigit_of_mem_toDigits (by decide) (by decide) hc)

theorem isNotation_repr (n : Nat) : IsNotation n.repr :=
  isNotation_ofList.2 ⟨Nat.toDigits_ne_nil, Decimal.isVisible_chars n⟩

theorem isNotation_toString_int (n : Int) : IsNotation (toString n) := by
  rw [Int.toString_eq_repr, Int.repr_eq_if]
  split_ifs
  · exact isNotation_repr _
  · exact (isNotation_repr _).append (by decide)

theorem Decimal.isNotation_text (d : Decimal) : IsNotation d.text := by
  have hdigits := isVisible_chars d.digits
  have htake : ∀ n, ∀ c ∈ (chars d.digits).take n, IsVisible c := fun n c hc =>
    hdigits c (List.mem_of_mem_take hc)
  have hdrop : ∀ n, ∀ c ∈ (chars d.digits).drop n, IsVisible c := fun n c hc =>
    hdigits c (List.mem_of_mem_drop hc)
  have hzeros : ∀ n, ∀ c ∈ List.replicate n '0', IsVisible c := fun n c hc =>
    List.eq_of_mem_replicate hc ▸ by decide
  have hexponent : ∀ n, ∀ c ∈ (if (chars n).length < 2 then '0' :: chars n else chars n),
      IsVisible c := by
    intro n
    split_ifs
    · exact List.forall_mem_cons.2 ⟨by decide, isVisible_chars n⟩
    · exact isVisible_chars n
  have hfraction : ∀ c ∈ (if (chars d.digits).length = 1 then []
      else '.' :: (chars d.digits).drop 1), IsVisible c := by
    split_ifs
    · exact fun c hc => absurd hc List.not_mem_nil
    · exact List.forall_mem_cons.2 ⟨by decide, hdrop 1⟩
  have hsign : ∀ e : Int, IsVisible (if e < 0 then '-' else '+') := fun e => by
    split_ifs <;> decide
  have hbefore : Each IsVisible "0." := by decide
  have hafter : Each IsVisible ".0" := by decide
  unfold text
  dsimp only
  split
  · split
    · refine isNotation_ofList.2 ⟨by simp, ?_⟩
      simp only [List.forall_mem_append]
      exact ⟨⟨hbefore, hzeros _⟩, hdigits⟩
    · split <;> refine isNotation_ofList.2 ⟨by simp, ?_⟩ <;>
        simp only [List.forall_mem_append, List.forall_mem_cons]
      · exact ⟨⟨hdigits, hzeros _⟩, hafter⟩
      · exact ⟨htake _, by decide, hdrop _⟩
  · refine isNotation_ofList.2 ⟨by simp, ?_⟩
    simp only [List.forall_mem_append, List.forall_mem_cons]
    exact ⟨⟨htake 1, hfraction⟩, by decide, hsign _, hexponent _⟩

theorem Binary64.isNotation_text (x : Binary64) : IsNotation x.text := by
  unfold text
  split
  · exact ⟨by decide, by decide⟩
  · exact ⟨by decide, by decide⟩
  · exact ⟨by decide, by decide⟩
  · exact ⟨by decide, by decide⟩
  · split_ifs
    · exact ⟨by decide, by decide⟩
    · exact (Decimal.isNotation_text _).append (by decide)
    · exact Decimal.isNotation_text _

theorem Binary64.isNotation_jsonText (x : Binary64) : IsNotation x.jsonText := by
  unfold jsonText
  split
  · exact ⟨by decide, by decide⟩
  · exact ⟨by decide, by decide⟩
  · exact ⟨by decide, by decide⟩
  · exact x.isNotation_text

namespace Json

/-! ## Numbers and strings of a tree -/

mutual

/-- What is gathered from the numbers of a tree, its strings and its member names, in order. -/
def gather (number string : String → List String) : Json → List String
  | .null | .bool _ => []
  | .number digits => number digits
  | .string s => string s
  | .array items => gatherItems number string items
  | .object members => gatherMembers number string members

/-- What is gathered from the items of an array. -/
def gatherItems (number string : String → List String) : List Json → List String
  | [] => []
  | j :: js => j.gather number string ++ gatherItems number string js

/-- What is gathered from the members of an object. -/
def gatherMembers (number string : String → List String) : List (String × Json) → List String
  | [] => []
  | (name, j) :: ms => string name ++ j.gather number string ++ gatherMembers number string ms

end

/-- The numbers of a tree, as they are written. -/
def numbers (j : Json) : List String := j.gather (fun digits => [digits]) fun _ => []

/-- The strings of a tree and the names of its members. -/
def texts (j : Json) : List String := j.gather (fun _ => []) fun s => [s]

end Json

mutual

/-- Every number of the tree of a value is a notation. -/
theorem isNotation_of_mem_numbers : ∀ {v : Value} {j : Json}, v.toJson = .ok j →
    ∀ digits ∈ j.numbers, IsNotation digits
  | .int n, _, h => by
    obtain rfl := Except.ok.inj h
    exact List.forall_mem_singleton.2 (isNotation_toString_int n)
  | .float x, _, h => by
    obtain rfl := Except.ok.inj h
    exact List.forall_mem_singleton.2 x.isNotation_jsonText
  | .list vs, _, h => by
    rw [Value.toJson, bind_eq_ok] at h
    obtain ⟨js, hjs, h⟩ := h
    obtain rfl := Except.ok.inj h
    exact isNotation_of_mem_items hjs
  | .tuple vs, _, h => by
    rw [Value.toJson, bind_eq_ok] at h
    obtain ⟨js, hjs, h⟩ := h
    obtain rfl := Except.ok.inj h
    exact isNotation_of_mem_items hjs
  | .map es, _, h => by
    rw [Value.toJson, bind_eq_ok] at h
    obtain ⟨ms, hms, h⟩ := h
    obtain rfl := Except.ok.inj h
    exact isNotation_of_mem_members hms
  | .null, _, h | .bool _, _, h | .text _, _, h | .word _, _, h | .bytes _, _, h | .date _, _, h
  | .set _, _, h | .part _ _, _, h => by
    obtain rfl := Except.ok.inj h
    exact nofun

theorem isNotation_of_mem_items : ∀ {vs : List Value} {js : List Json}, itemsToJson vs = .ok js →
    ∀ digits ∈ Json.gatherItems (fun digits => [digits]) (fun _ => []) js, IsNotation digits
  | [], _, h => by
    obtain rfl := Except.ok.inj h
    exact nofun
  | v :: vs, _, h => by
    simp only [itemsToJson, bind_eq_ok, pure_eq_ok] at h
    obtain ⟨j, hj, js, hjs, rfl⟩ := h
    exact List.forall_mem_append.2 ⟨isNotation_of_mem_numbers hj, isNotation_of_mem_items hjs⟩

theorem isNotation_of_mem_members : ∀ {es : List (Value × Value)} {ms : List (String × Json)},
    entriesToJson es = .ok ms →
    ∀ digits ∈ Json.gatherMembers (fun digits => [digits]) (fun _ => []) ms, IsNotation digits
  | [], _, h => by
    obtain rfl := Except.ok.inj h
    exact nofun
  | (k, v) :: es, _, h => by
    simp only [entriesToJson, bind_eq_ok, pure_eq_ok] at h
    obtain ⟨name, -, j, hj, ms, hms, rfl⟩ := h
    exact List.forall_mem_append.2 ⟨isNotation_of_mem_numbers hj, isNotation_of_mem_members hms⟩

end

namespace Json

/-! ## Characters of a tree -/

variable {P : Char → Prop}

/-- From the space on a character stands for itself, the quote and the backslash after a
backslash. -/
theorem escapeChar_of_le {c : Char} (h : 0x20 ≤ c.toNat) :
    escapeChar c = [c] ∨ escapeChar c = ['\\', c] := by
  unfold escapeChar
  split_ifs with hquote hslash hline hreturn htab hform hback hcontrol
  · exact .inr (hquote ▸ rfl)
  · exact .inr (hslash ▸ rfl)
  -- the characters that have a letter of their own lie below the space
  any_goals
    subst c
    exact absurd h (by decide)
  · omega
  · exact .inl rfl

theorem isVisible_escapeChar {c : Char} (h : c.toNat < 0x20) :
    ∀ x ∈ escapeChar c, IsVisible x := by
  unfold escapeChar
  -- a backslash and a letter, or a backslash, a letter and four digits
  split_ifs
  all_goals refine List.forall_mem_cons.2 ⟨by decide, List.forall_mem_cons.2 ⟨by decide, ?_⟩⟩
  any_goals exact fun x hx => absurd hx List.not_mem_nil
  exact Text.isVisible_hexDigits 4 _

/-- The text of a string has a kind of characters that all visible ones are of exactly when the
string has it, but for its characters below the space. -/
theorem each_stringText (hP : ∀ c, IsVisible c → P c) (s : String) :
    Each P (stringText s) ↔ ∀ c ∈ s.toList, 0x20 ≤ c.toNat → P c := by
  have hescape : ∀ c, (∀ x ∈ escapeChar c, P x) ↔ (0x20 ≤ c.toNat → P c) := by
    intro c
    by_cases hc : 0x20 ≤ c.toNat
    · have hslash : P '\\' := hP _ (by decide)
      rcases escapeChar_of_le hc with h | h <;> simp [h, hc, hslash]
    · simp only [hc, false_imp_iff, iff_true]
      exact fun x hx => hP x (isVisible_escapeChar (by omega) x hx)
  have hquote : P '"' := hP _ (by decide)
  rw [stringText, Text.each_ofList, List.forall_mem_append, List.forall_mem_cons,
    List.forall_mem_flatMap]
  simp [hquote, hescape]

theorem each_lineStart (hP : ∀ c, IsVisible c ∨ c = '\n' → P c) (depth : Nat) :
    Each P (lineStart depth) := by
  refine Text.each_ofList.2 (List.forall_mem_cons.2 ⟨hP _ (.inr rfl), fun c hc => ?_⟩)
  rw [List.eq_of_mem_replicate hc]
  exact hP _ (.inl (by decide))

theorem each_of_isVisible (hP : ∀ c, IsVisible c ∨ c = '\n' → P c) {s : String}
    (h : Each IsVisible s) : Each P s :=
  h.imp fun c hc => hP c (.inl hc)

theorem each_block (hP : ∀ c, IsVisible c ∨ c = '\n' → P c) {opening closing : String}
    (hopening : Each IsVisible opening) (hclosing : Each IsVisible closing) (depth : Nat)
    (parts : List String) :
    Each P (block opening closing depth parts) ↔ ∀ part ∈ parts, Each P part := by
  have hstart := each_of_isVisible hP hopening
  have hend := each_of_isVisible hP hclosing
  have hcomma : Each P "," := each_of_isVisible hP (by decide)
  rw [block]
  split_ifs with hparts
  · obtain rfl := List.isEmpty_iff.1 hparts
    simp [hstart, hend]
  · have hsep := Text.each_append.2 ⟨hcomma, each_lineStart hP (depth + 1)⟩
    simp [Text.each_intercalate hsep, hstart, hend, each_lineStart hP]

mutual

/-- The text of a tree has a kind of characters that all visible ones and newlines are of exactly
when its numbers and the texts of its strings have it. -/
theorem each_indentedAt (hP : ∀ c, IsVisible c ∨ c = '\n' → P c) : ∀ (depth : Nat) (j : Json),
    Each P (indentedAt depth j)
      ↔ (∀ digits ∈ j.numbers, Each P digits) ∧ ∀ s ∈ j.texts, Each P (stringText s)
  | _, .null | _, .bool true | _, .bool false => by
    simpa [indentedAt, numbers, texts, gather] using each_of_isVisible hP (by decide)
  | _, .number digits => by simp [indentedAt, numbers, texts, gather]
  | _, .string s => by simp [indentedAt, numbers, texts, gather]
  | depth, .array items => by
    rw [indentedAt, each_block hP (by decide) (by decide), each_indentedItems hP]
    rfl
  | depth, .object members => by
    rw [indentedAt, each_block hP (by decide) (by decide), each_indentedMembers hP]
    rfl

theorem each_indentedItems (hP : ∀ c, IsVisible c ∨ c = '\n' → P c) :
    ∀ (depth : Nat) (js : List Json), (∀ part ∈ indentedItems depth js, Each P part)
      ↔ (∀ digits ∈ gatherItems (fun digits => [digits]) (fun _ => []) js, Each P digits)
        ∧ ∀ s ∈ gatherItems (fun _ => []) (fun s => [s]) js, Each P (stringText s)
  | _, [] => by simp [indentedItems, gatherItems]
  | depth, j :: js => by
    rw [indentedItems, List.forall_mem_cons, each_indentedAt hP, each_indentedItems hP,
      gatherItems, gatherItems, List.forall_mem_append, List.forall_mem_append]
    exact and_and_and_comm

theorem each_indentedMembers (hP : ∀ c, IsVisible c ∨ c = '\n' → P c) :
    ∀ (depth : Nat) (ms : List (String × Json)), (∀ part ∈ indentedMembers depth ms, Each P part)
      ↔ (∀ digits ∈ gatherMembers (fun digits => [digits]) (fun _ => []) ms, Each P digits)
        ∧ ∀ s ∈ gatherMembers (fun _ => []) (fun s => [s]) ms, Each P (stringText s)
  | _, [] => by simp [indentedMembers, gatherMembers]
  | depth, (name, j) :: ms => by
    have hcolon : Each P ": " := each_of_isVisible hP (by decide)
    rw [indentedMembers, List.forall_mem_cons, Text.each_append, Text.each_append,
      each_indentedAt hP, each_indentedMembers hP, gatherMembers, gatherMembers]
    simp only [List.nil_append, List.singleton_append, List.forall_mem_append,
      List.forall_mem_cons, hcolon, and_true, numbers, texts]
    tauto

end

variable {v : Value} {j : Json}

/-- The numbers of a value's tree are visible, so its strings settle what its text is made of. -/
theorem each_indented (hP : ∀ c, IsVisible c ∨ c = '\n' → P c) (h : v.toJson = .ok j) :
    Each P j.indented ↔ ∀ s ∈ j.texts, ∀ c ∈ s.toList, 0x20 ≤ c.toNat → P c := by
  have hnumbers : ∀ digits ∈ j.numbers, Each P digits := fun digits hd =>
    each_of_isVisible hP (isNotation_of_mem_numbers h digits hd).2
  rw [indented, each_indentedAt hP]
  simp only [each_stringText fun c hc => hP c (.inl hc)]
  exact and_iff_right hnumbers

/-- The text of a value's tree ends in a visible character. -/
theorem exists_indented_concat (h : v.toJson = .ok j) :
    ∃ cs c, j.indented.toList = cs ++ [c] ∧ IsVisible c := by
  have hclosed : ∀ (opening closing : String) (parts : List String), ∃ cs,
      (block opening closing 0 parts).toList = cs ++ closing.toList := by
    intro opening closing parts
    rw [block]
    split_ifs
    · exact ⟨_, String.toList_append⟩
    · exact ⟨_, String.toList_append⟩
  cases j with
  | null => exact ⟨['n', 'u', 'l'], 'l', by decide, by decide⟩
  | bool b =>
    cases b
    · exact ⟨['f', 'a', 'l', 's'], 'e', by decide, by decide⟩
    · exact ⟨['t', 'r', 'u'], 'e', by decide, by decide⟩
  | number digits =>
    obtain ⟨hne, hvisible⟩ := isNotation_of_mem_numbers h digits (List.mem_singleton_self _)
    have hne' : digits.toList ≠ [] := fun h => hne (String.toList_eq_nil_iff.1 h)
    exact ⟨_, _, (List.dropLast_append_getLast hne').symm, hvisible _ (List.getLast_mem hne')⟩
  | string s => exact ⟨'"' :: s.toList.flatMap escapeChar, '"', String.toList_ofList, by decide⟩
  | array items =>
    obtain ⟨cs, hcs⟩ := hclosed "[" "]" (indentedItems 1 items)
    exact ⟨cs, ']', hcs, by decide⟩
  | object members =>
    obtain ⟨cs, hcs⟩ := hclosed "\x7b" "\x7d" (indentedMembers 1 members)
    exact ⟨cs, '\x7d', hcs, by decide⟩

end Json

end QueryDraft
