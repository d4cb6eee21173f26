import Mathlib.Data.List.Infix
import QueryDraft.Proofs.Checks
import QueryDraft.Proofs.Spellings

/-!
# Words for ascending and descending

A direction of a statement is read in upper case, a sort order of a search in lower case. Of the
characters that upper case brings into a direction, all are its letters in either case but for the
long s, whose upper case is `S` (`upperChar_of_infix_text`). Lower case brings nothing but letters
in either case into a sort order (`lowerChar_of_infix_text`), and leaves the long s as it is. So the
two readings agree on every text without a long s, and one with a long s is a direction at most.
-/

namespace QueryDraft

namespace Text

variable {c : Char} {cs : List Char}

/-! ## What a case mapping brings into a word -/

/-- A mapping leaves a code point, shifts it as its row says, or expands it. -/
theorem mapCodePoint_cases (shifts : List (Nat × Nat × Nat × Int))
    (expansions : List (Nat × List Nat)) (n : Nat) :
    mapCodePoint shifts expansions n = [n]
      ∨ (∃ row ∈ shifts, row.1 ≤ n ∧ n ≤ row.2.1
        ∧ mapCodePoint shifts expansions n = [((n : Int) + row.2.2.2).toNat])
      ∨ ∃ e ∈ expansions, mapCodePoint shifts expansions n = e.2 := by
  unfold mapCodePoint
  split
  case h_1 first last step shift hfound =>
    have hinside := List.find?_some hfound
    simp only [Bool.and_eq_true, decide_eq_true_eq] at hinside
    exact .inr (.inl ⟨_, List.mem_of_find?_eq_some hfound, hinside.1.1, hinside.1.2, rfl⟩)
  case h_2 =>
    cases hfound : expansions.find? (·.1 == n) with
    | none => exact .inl rfl
    | some e => exact .inr (.inr ⟨e, List.mem_of_find?_eq_some hfound, rfl⟩)

theorem eq_toNat_of_ofNat {m : Nat} {x : Char} (h : Char.ofNat m = x) (hx : x ≠ '\x00') :
    m = x.toNat := by
  by_cases hm : m.isValidChar
  · rw [← h, Char.ofNat, dif_pos hm]
    rfl
  · rw [Char.ofNat, dif_neg hm] at h
    exact absurd h.symm hx

/-- What a mapping brings into a word that no expansion is part of is one letter of the word: the
character itself, or one that a row shifts it to. -/
theorem mapCodePoint_of_infix_word {shifts : List (Nat × Nat × Nat × Int)}
    {expansions : List (Nat × List Nat)} {word : List Char} (hword : '\x00' ∉ word)
    (he : ∀ e ∈ expansions, ¬ e.2.map Char.ofNat <:+: word)
    (h : (mapCodePoint shifts expansions c.toNat).map Char.ofNat <:+: word) :
    ∃ x ∈ word, (mapCodePoint shifts expansions c.toNat).map Char.ofNat = [x]
      ∧ (x = c ∨ ∃ row ∈ shifts, row.1 ≤ c.toNat ∧ c.toNat ≤ row.2.1
        ∧ (x.toNat : Int) = c.toNat + row.2.2.2) := by
  rcases mapCodePoint_cases shifts expansions c.toNat with hsame
    | ⟨row, hrow, hfirst, hlast, hshift⟩ | ⟨e, hmem, hexpands⟩
  · rw [hsame, List.map_singleton, Char.ofNat_toNat] at h ⊢
    exact ⟨c, (List.singleton_infix_iff _ _).1 h, rfl, .inl rfl⟩
  · rw [hshift, List.map_singleton] at h ⊢
    have hx := (List.singleton_infix_iff _ _).1 h
    have hne : Char.ofNat ((c.toNat : Int) + row.2.2.2).toNat ≠ '\x00' := fun h0 => hword (h0 ▸ hx)
    have hcode := eq_toNat_of_ofNat rfl hne
    have hpos : (Char.ofNat ((c.toNat : Int) + row.2.2.2).toNat).toNat ≠ 0 :=
      fun h0 => hne (Char.toNat_inj.1 h0)
    exact ⟨_, hx, rfl, .inr ⟨row, hrow, hfirst, hlast, by omega⟩⟩
  · exact absurd (hexpands ▸ h) (he e hmem)

theorem infix_flatMap {f : Char → List Char} (hc : c ∈ cs) : f c <:+: cs.flatMap f := by
  obtain ⟨before, after, rfl⟩ := List.append_of_mem hc
  exact ⟨before.flatMap f, after.flatMap f, by simp⟩

theorem toUpper_of_isSmall {x : Char} (hc : IsSmall c.toNat) (h : (x.toNat : Int) = c.toNat + -32) :
    c.toUpper = x := by
  refine Char.toNat_inj.1 ?_
  rw [toNat_toUpper, if_pos hc]
  omega

/-! ## Upper case and directions -/

/-- A character as a letter of a direction: its capital, and `S` for the long s. -/
def capital (c : Char) : Char := if c = 'ſ' then 'S' else c.toUpper

theorem upperChar_of_infix_text {d : Direction} (h : upperChar c <:+: d.text.toList) :
    upperChar c = [capital c] := by
  have hword : '\x00' ∉ d.text.toList := by cases d <;> decide
  have hexpansions : ∀ e ∈ upperExpansions, ¬ e.2.map Char.ofNat <:+: d.text.toList := by
    cases d <;> decide +kernel
  -- two rows alone reach the letters of a direction: that of the small letters and the long s
  have hrows : ∀ row ∈ upperShifts, ∀ n ∈ d.text.toList.map Char.toNat, row.1 + row.2.2.2 ≤ n →
      n ≤ row.2.1 + row.2.2.2 →
        (0x61 ≤ row.1 ∧ row.2.1 ≤ 0x7a ∧ row.2.2.2 = -32) ∨ row = (0x17f, 0x17f, 1, -300) := by
    cases d <;> decide +kernel
  have hcapital : ∀ n ∈ d.text.toList.map Char.toNat, IsCapital n := by cases d <;> decide
  obtain ⟨x, hx, hsingle, hcases⟩ := mapCodePoint_of_infix_word hword hexpansions h
  have hn := List.mem_map_of_mem (f := Char.toNat) hx
  rw [upperChar, hsingle, capital]
  rcases hcases with rfl | ⟨row, hrow, hfirst, hlast, hcode⟩
  · obtain ⟨hlow, hhigh⟩ := hcapital _ hn
    have hlong : x ≠ 'ſ' := by
      rintro rfl
      exact absurd hhigh (by decide)
    have hsmall : ¬ IsSmall x.toNat := fun hs => by
      obtain ⟨hs, -⟩ := hs
      omega
    rw [if_neg hlong, Char.toNat_inj.1 ((toNat_toUpper x).trans (if_neg hsmall))]
  · rcases hrows row hrow _ hn (by omega) (by omega) with ⟨hsmall, hsmall', hshift⟩ | rfl
    · have hlong : c ≠ 'ſ' := by
        rintro rfl
        exact absurd (hlast.trans hsmall') (by decide)
      rw [if_neg hlong, toUpper_of_isSmall ⟨hsmall.trans hfirst, hlast.trans hsmall'⟩
        (hshift ▸ hcode)]
    · obtain rfl : c = 'ſ' := Char.toNat_inj.1 (Nat.le_antisymm hlast hfirst)
      rw [if_pos rfl, Char.toNat_inj.1 (Int.ofNat.inj hcode : x.toNat = 'S'.toNat)]

theorem upperChar_of_mem {d : Direction} (h : capital c ∈ d.text.toList) :
    upperChar c = [capital c] := by
  rw [capital] at h ⊢
  split at h
  case isTrue hlong =>
    subst hlong
    decide +kernel
  case isFalse hlong =>
    have hcapital : ∀ n ∈ d.text.toList.map Char.toNat, n < 0x61 := by cases d <;> decide
    rw [if_neg hlong, ← upperChar_toUpper, upperChar,
      upper_of_lt (hcapital _ (List.mem_map_of_mem h)),
      List.map_singleton, Char.ofNat_toNat]

theorem flatMap_upperChar_eq_iff {d : Direction} :
    cs.flatMap upperChar = d.text.toList ↔ cs.map capital = d.text.toList := by
  rw [List.map_eq_flatMap]
  constructor <;> intro h
  · rw [← h]
    exact List.flatMap_congr fun c hc => (upperChar_of_infix_text (h ▸ infix_flatMap hc)).symm
  · rw [← h]
    refine List.flatMap_congr fun c hc => upperChar_of_mem (d := d) ?_
    rw [← h]
    exact List.mem_flatMap.2 ⟨c, hc, List.mem_singleton_self _⟩

/-! ## Lower case and sort orders -/

theorem lowerChar_of_infix_text {o : SortOrder} (h : lowerChar c <:+: o.text.toList) :
    ∃ x, lowerChar c = [x] ∧ x.toUpper = c.toUpper := by
  have hword : '\x00' ∉ o.text.toList := by cases o <;> decide
  have hexpansions : ∀ e ∈ lowerExpansions, ¬ e.2.map Char.ofNat <:+: o.text.toList := by
    cases o <;> decide +kernel
  have hrows : ∀ row ∈ lowerShifts, ∀ n ∈ o.text.toList.map Char.toNat, row.1 + row.2.2.2 ≤ n →
      n ≤ row.2.1 + row.2.2.2 → 0x41 ≤ row.1 ∧ row.2.1 ≤ 0x5a ∧ row.2.2.2 = 32 := by
    cases o <;> decide +kernel
  obtain ⟨x, hx, hsingle, hcases⟩ := mapCodePoint_of_infix_word hword hexpansions h
  refine ⟨x, hsingle, ?_⟩
  rcases hcases with rfl | ⟨row, hrow, hfirst, hlast, hcode⟩
  · rfl
  · obtain ⟨hcapital, hcapital', hshift⟩ := hrows row hrow _ (List.mem_map_of_mem hx) (by omega)
      (by omega)
    rw [hshift] at hcode
    have hsmall : IsSmall x.toNat := by
      constructor <;> omega
    have hkept : c.toUpper = c := Char.toNat_inj.1 <| (toNat_toUpper c).trans <| if_neg fun hs => by
      obtain ⟨hs, -⟩ := hs
      omega
    have hshifted : x.toUpper = c := toUpper_of_isSmall hsmall (by omega)
    rw [hkept, hshifted]

/-- A sigma stays a sigma, final or not. -/
theorem sigma_mem_lowerChars (h : 'Σ' ∈ cs) (before : List Char) :
    'σ' ∈ lowerChars before cs ∨ 'ς' ∈ lowerChars before cs := by
  induction cs generalizing before with
  | nil => exact absurd h List.not_mem_nil
  | cons c cs ih =>
    rw [lowerChars, List.mem_append, List.mem_append]
    rcases List.mem_cons.1 h with rfl | h
    · rw [if_pos rfl]
      split_ifs
      · exact .inr (.inl (List.mem_singleton_self _))
      · exact .inl (.inl (List.mem_singleton_self _))
    · exact (ih h (c :: before)).imp .inr .inr

end Text

/-- The direction of a statement that a sort order of a search is. -/
def SortOrder.direction : SortOrder → Direction
  | .asc => .asc
  | .desc => .desc

namespace SortOrder

theorem direction_surjective : Function.Surjective direction
  | .asc => ⟨.asc, rfl⟩
  | .desc => ⟨.desc, rfl⟩

variable {s : String} {o : SortOrder}

theorem map_toUpper_text (o : SortOrder) :
    o.text.toList.map Char.toUpper = o.direction.text.toList := by
  cases o <;> decide

theorem lower_eq_text_iff :
    Text.lower s = o.text ↔ s.toList.map Char.toUpper = o.direction.text.toList := by
  constructor <;> intro h
  · have hchars : Text.lowerChars [] s.toList = o.text.toList := by
      rw [← h, Text.lower, String.toList_ofList]
    -- without a sigma, lower case does not depend on what stands around a character
    have hsigma : 'Σ' ∉ s.toList := fun hmem => by
      rcases Text.sigma_mem_lowerChars hmem [] with hs | hs <;> rw [hchars] at hs <;>
        cases o <;> exact absurd hs (by decide)
    rw [Text.lowerChars_eq_flatMap hsigma] at hchars
    have hletters : ∀ c ∈ s.toList, (Text.lowerChar c).map Char.toUpper = [c.toUpper] :=
      fun c hc => by
        obtain ⟨x, hsingle, hupper⟩ := Text.lowerChar_of_infix_text (hchars ▸ Text.infix_flatMap hc)
        rw [hsingle, List.map_singleton, hupper]
    rw [← map_toUpper_text, ← hchars, List.map_flatMap, List.flatMap_congr hletters,
      List.map_eq_flatMap]
  · rw [← lower_text o]
    exact Text.lower_congr (h.trans (map_toUpper_text o).symm) (by cases o <;> decide)

end SortOrder

namespace Direction

variable {s : String} {d : Direction}

theorem upper_eq_text_iff :
    Text.upper s = d.text ↔ s.toList.map Text.capital = d.text.toList := by
  rw [← Text.flatMap_upperChar_eq_iff, Text.upper, ← String.toList_inj, String.toList_ofList]

end Direction

/-! ## The two readings of a text -/

theorem Text.mem_trim {s : String} {c : Char} (hc : ¬ isBlank c) :
    c ∈ (trim s).toList ↔ c ∈ s.toList := by
  have hdrop : ∀ cs : List Char, c ∈ cs.dropWhile isBlank ↔ c ∈ cs := fun cs => by
    refine ⟨fun h => (List.dropWhile_sublist _).mem h, fun h => ?_⟩
    rw [← List.takeWhile_append_dropWhile (p := isBlank) (l := cs), List.mem_append] at h
    exact h.resolve_left fun htake => hc (List.mem_takeWhile_imp htake)
  rw [trim, String.toList_ofList, trimChars, List.mem_reverse, hdrop, List.mem_reverse, hdrop]

/-- A value is a text with a long s in it. -/
def Value.HasLongS (v : Value) : Prop := ∃ s, v.text? = some s ∧ 'ſ' ∈ s.toList

/-- The letters of a direction tell a capital from the long s. -/
theorem Direction.map_toUpper_eq_text_iff {d : Direction} {cs : List Char} :
    cs.map Char.toUpper = d.text.toList ↔ cs.map Text.capital = d.text.toList ∧ 'ſ' ∉ cs := by
  have hsame : 'ſ' ∉ cs → cs.map Text.capital = cs.map Char.toUpper := fun hlong =>
    List.map_congr_left fun c hc => if_neg fun h : c = 'ſ' => hlong (h ▸ hc)
  constructor
  · intro h
    have hlong : 'ſ' ∉ cs := fun hmem => by
      have hupper : 'ſ'.toUpper ∈ d.text.toList := h ▸ List.mem_map_of_mem hmem
      revert hupper
      cases d <;> decide
    exact ⟨(hsame hlong).trans h, hlong⟩
  · rintro ⟨h, hlong⟩
    exact (hsame hlong).symm.trans h

theorem SortOrder.parse_eq_ok_iff_direction {v : Value} {o : SortOrder} :
    SortOrder.parse v = .ok o ↔ Direction.parse v = .ok o.direction ∧ ¬ v.HasLongS := by
  rw [SortOrder.parse_eq_ok_iff, Direction.parse_eq_ok_iff, Value.HasLongS]
  cases v.text? with
  | none => simp
  | some s =>
    have hblank : ¬ Text.isBlank 'ſ' := by decide
    simp only [Option.bind_some, SortOrder.ofText?_eq_some_iff, Direction.ofText?_eq_some_iff,
      SortOrder.lower_eq_text_iff, Direction.upper_eq_text_iff, Option.some.injEq,
      exists_eq_left']
    rw [← Text.mem_trim hblank]
    exact Direction.map_toUpper_eq_text_iff

/-! ## Calls -/

theorem Search.Draft.call_sort_eq_ok {e e' : Search.Draft} {field v : Value} :
    e.call (.sort field v) = .ok e' ↔ ∃ name o, field.trimmed? = some name
      ∧ SortOrder.parse v = .ok o ∧ { e with sort := e.sort ++ [⟨name, o⟩] } = e' := by
  simp only [Search.Draft.call, Search.Call.check, map_eq_ok, bind_eq_ok, pure_eq_ok,
    requireText_eq_ok]
  constructor
  · rintro ⟨_, ⟨name, hname, o, ho, rfl⟩, rfl⟩
    exact ⟨name, o, hname, ho, rfl⟩
  · rintro ⟨name, o, hname, ho, rfl⟩
    exact ⟨_, ⟨name, hname, o, ho, rfl⟩, rfl⟩

theorem Search.Draft.call_sort_eq_ok_iff {e : Search.Draft} {field v : Value} {name : String}
    {o : SortOrder} : e.call (.sort field v) = .ok { e with sort := e.sort ++ [⟨name, o⟩] }
      ↔ field.trimmed? = some name ∧ SortOrder.parse v = .ok o := by
  rw [call_sort_eq_ok]
  constructor
  · rintro ⟨name', o', hname, ho, h⟩
    obtain ⟨⟩ := List.append_cancel_left (congrArg Search.Draft.sort h)
    exact ⟨hname, ho⟩
  · rintro ⟨hname, ho⟩
    exact ⟨name, o, hname, ho, rfl⟩

theorem Sql.Draft.call_orderBy_eq_ok {d d' : Sql.Draft} {field v : Value} :
    d.call (.orderBy field v) = .ok d' ↔ ∃ name r, field.trimmed? = some name
      ∧ Direction.parse v = .ok r ∧ { d with orderBy := d.orderBy ++ [⟨name, r⟩] } = d' := by
  simp only [Sql.Draft.call, Sql.Call.check, map_eq_ok, bind_eq_ok, pure_eq_ok,
    requireText_eq_ok]
  constructor
  · rintro ⟨_, ⟨name, hname, r, hr, rfl⟩, rfl⟩
    exact ⟨name, r, hname, hr, rfl⟩
  · rintro ⟨name, r, hname, hr, rfl⟩
    exact ⟨_, ⟨name, hname, r, hr, rfl⟩, rfl⟩

theorem Sql.Draft.call_orderBy_eq_ok_iff {d : Sql.Draft} {field v : Value} {name : String}
    {r : Direction} : d.call (.orderBy field v) = .ok { d with orderBy := d.orderBy ++ [⟨name, r⟩] }
      ↔ field.trimmed? = some name ∧ Direction.parse v = .ok r := by
  rw [call_orderBy_eq_ok]
  constructor
  · rintro ⟨name', r', hname, hr, h⟩
    obtain ⟨⟩ := List.append_cancel_left (congrArg Sql.Draft.orderBy h)
    exact ⟨hname, hr⟩
  · rintro ⟨hname, hr⟩
    exact ⟨name, r, hname, hr, rfl⟩

/-- A value is a sort order of a search exactly when it is the same direction of a statement and
has no long s. So a search is sorted by a field and a value exactly when a statement is ordered by
them, in the same direction, unless the value has a long s: that is refused by the search alone. -/
theorem sort_iff_orderBy (v : Value) :
    (∀ o : SortOrder, SortOrder.parse v = .ok o
      ↔ Direction.parse v = .ok o.direction ∧ ¬ v.HasLongS)
    ∧ ∀ (e : Search.Draft) (d : Sql.Draft) (field : Value),
      ((∃ e', e.call (.sort field v) = .ok e')
        ↔ (∃ d', d.call (.orderBy field v) = .ok d') ∧ ¬ v.HasLongS)
      ∧ ∀ (name : String) (o : SortOrder),
        e.call (.sort field v) = .ok { e with sort := e.sort ++ [⟨name, o⟩] }
          ↔ d.call (.orderBy field v)
              = .ok { d with orderBy := d.orderBy ++ [⟨name, o.direction⟩] } ∧ ¬ v.HasLongS := by
  have hparse (o : SortOrder) := SortOrder.parse_eq_ok_iff_direction (v := v) (o := o)
  refine ⟨hparse, fun e d field => ⟨?_, fun name o => ?_⟩⟩
  · simp only [Search.Draft.call_sort_eq_ok, Sql.Draft.call_orderBy_eq_ok]
    constructor
    · rintro ⟨_, name, o, hname, ho, -⟩
      obtain ⟨hr, hlong⟩ := (hparse o).1 ho
      exact ⟨⟨_, name, o.direction, hname, hr, rfl⟩, hlong⟩
    · rintro ⟨⟨_, name, r, hname, hr, -⟩, hlong⟩
      obtain ⟨o, rfl⟩ := SortOrder.direction_surjective r
      exact ⟨_, name, o, hname, (hparse o).2 ⟨hr, hlong⟩, rfl⟩
  · rw [Search.Draft.call_sort_eq_ok_iff, Sql.Draft.call_orderBy_eq_ok_iff, hparse, and_assoc]

/-- With a long s for its second letter, the word for ascending orders a statement and is refused
by a search. -/
theorem orderBy_of_long_s :
    let v : Value := .text "aſc"
    let name : Value := .text "name"
    Direction.parse v = .ok .asc ∧ SortOrder.parse v = refuse (.unsupportedSortOrder v)
      ∧ Sql.Draft.call {} (.orderBy name v) = .ok { orderBy := [⟨"name", .asc⟩] }
      ∧ Search.Draft.call {} (.sort name v) = refuse (.unsupportedSortOrder v) := by
  refine ⟨?_, ?_, ?_, ?_⟩ <;> with_unfolding_all rfl

end QueryDraft
