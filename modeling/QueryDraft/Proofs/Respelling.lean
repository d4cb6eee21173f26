import QueryDraft.Proofs.LetterCase
import QueryDraft.Proofs.Trim
import QueryDraft.Spelling

/-!
# Respelled words

A caller may write the words of the vocabularies in letters of either case, with any white space
around them and, where a word has a space inside, with any white space there (`Respells`). Such a
text has the words of the original up to the case of letters (`Respells.wordChars_eq`), and the
upper and the lower case of a text do not see that difference (`canonical_congr`, `lower_congr`).
-/

namespace QueryDraft

namespace Text

/-- The characters of a word with letters in another case, and with a run of characters that `gap`
accepts for each of its spaces. -/
inductive Respells (gap : Char → Bool) : List Char → List Char → Prop
  | nil : Respells gap [] []
  | letter {c d : Char} {word body : List Char} (hc : c ≠ ' ') (hd : d.toUpper = c.toUpper)
      (rest : Respells gap word body) : Respells gap (c :: word) (d :: body)
  | space {run word body : List Char} (hne : run ≠ []) (hrun : run.all gap)
      (rest : Respells gap word body) : Respells gap (' ' :: word) (run ++ body)

/-- Whether a character may stand between the words of a join kind. -/
def isGap (c : Char) : Bool := isBlank c || c == '_'

/-! ## Words -/

theorem isBlank_toUpper (c : Char) : isBlank c.toUpper = isBlank c := by
  simp only [isBlank, toNat_toUpper]
  split
  case isTrue h =>
    obtain ⟨hfirst, hlast⟩ := h
    rw [Bool.eq_iff_iff]
    simp only [Bool.or_eq_true, Bool.and_eq_true, decide_eq_true_eq, beq_iff_eq]
    omega
  case isFalse => rfl

theorem wordChars_cons_congr {cs ds : List Char} (c : Char)
    (hhead : cs.head?.all isBlank = ds.head?.all isBlank) (hwords : wordChars cs = wordChars ds) :
    wordChars (c :: cs) = wordChars (c :: ds) := by
  rw [wordChars, wordChars, hhead, hwords]

theorem wordChars_blank_append {run : List Char} (hrun : run.all isBlank) (cs : List Char) :
    wordChars (run ++ cs) = wordChars cs := by
  induction run with
  | nil => rfl
  | cons c run ih =>
    obtain ⟨hc, hrest⟩ := Bool.and_eq_true_iff.1 hrun
    rw [List.cons_append, wordChars, if_pos hc, ih hrest]

theorem wordChars_append_blank {run : List Char} (hrun : run.all isBlank) (cs : List Char) :
    wordChars (cs ++ run) = wordChars cs := by
  induction cs with
  | nil => simpa using wordChars_blank_append hrun []
  | cons c cs ih =>
    refine wordChars_cons_congr c ?_ ih
    cases cs with
    | cons d cs => rfl
    | nil => cases run <;> simp_all

theorem head?_all_isBlank_map_toUpper (cs : List Char) :
    (cs.map Char.toUpper).head?.all isBlank = cs.head?.all isBlank := by
  cases cs <;> simp [isBlank_toUpper]

theorem wordChars_map_toUpper (cs : List Char) :
    wordChars (cs.map Char.toUpper) = (wordChars cs).map (·.map Char.toUpper) := by
  induction cs with
  | nil => rfl
  | cons c cs ih =>
    simp only [List.map_cons, wordChars, isBlank_toUpper, head?_all_isBlank_map_toUpper, ih]
    split
    · rfl
    · split
      · rfl
      · cases wordChars cs <;> rfl

theorem all_isBlank_of_isGap {run : List Char} (hrun : run.all isGap) :
    (run.map fun c => if c = '_' then ' ' else c).all isBlank := by
  rw [List.all_map, List.all_eq_true]
  intro c hc
  have hgap := List.all_eq_true.1 hrun c hc
  rw [Function.comp_apply]
  split
  case isTrue => rfl
  case isFalse hline => simpa [isGap, hline] using hgap

namespace Respells

variable {gap : Char → Bool} {word body : List Char}

theorem head?_all_isBlank (h : Respells isBlank word body) :
    body.head?.all isBlank = word.head?.all isBlank := by
  cases h with
  | nil => rfl
  | letter _ hd _ =>
    simpa only [List.head?_cons, Option.all_some, isBlank_toUpper] using congrArg isBlank hd
  | @space run _ _ hne hrun _ =>
    cases run with
    | nil => exact absurd rfl hne
    | cons c run => exact (Bool.and_eq_true_iff.1 hrun).1

/-- A respelled text has the words of the original, up to the case of letters. -/
theorem wordChars_eq (h : Respells isBlank word body) :
    wordChars (body.map Char.toUpper) = wordChars (word.map Char.toUpper) := by
  induction h with
  | nil => rfl
  | @letter c d word body hc hd rest ih =>
    have hhead := rest.head?_all_isBlank
    rw [← head?_all_isBlank_map_toUpper body, ← head?_all_isBlank_map_toUpper word] at hhead
    rw [List.map_cons, List.map_cons, hd]
    exact wordChars_cons_congr _ hhead ih
  | @space run word body hne hrun rest ih =>
    have hupper : (run.map Char.toUpper).all isBlank := by
      simpa [isBlank_toUpper] using hrun
    rw [List.map_append, wordChars_blank_append hupper, ih]
    rfl

theorem iff_of_single_word (hword : ' ' ∉ word) :
    Respells gap word body ↔ body.map Char.toUpper = word.map Char.toUpper := by
  constructor
  · intro h
    induction h with
    | nil => rfl
    | letter hc hd rest ih => simp [hd, ih (List.not_mem_of_not_mem_cons hword)]
    | space => exact absurd List.mem_cons_self hword
  · intro h
    induction word generalizing body with
    | nil =>
      obtain rfl := List.map_eq_nil_iff.1 h
      exact .nil
    | cons c word ih =>
      obtain ⟨d, rest, rfl, hd, hrest⟩ := List.map_eq_cons_iff.1 h
      exact .letter (List.ne_of_not_mem_cons hword).symm hd
        (ih (List.not_mem_of_not_mem_cons hword) hrest)

/-- Taking underscores for spaces turns a word that is spelled with both into one spelled with
white space. -/
theorem underscoresToSpaces (h : Respells isGap word body) (hword : '_' ∉ word) :
    Respells isBlank word (body.map fun c => if c = '_' then ' ' else c) := by
  induction h with
  | nil => exact .nil
  | @letter c d word body hc hd rest ih =>
    have hletter : d ≠ '_' := by
      rintro rfl
      exact List.ne_of_not_mem_cons hword (eq_of_toUpper_eq hd (by decide) (by decide))
    rw [List.map_cons, if_neg hletter]
    exact .letter hc hd (ih (List.not_mem_of_not_mem_cons hword))
  | @space run word body hne hrun rest ih =>
    rw [List.map_append]
    exact .space (by simpa using hne) (all_isBlank_of_isGap hrun)
      (ih (List.not_mem_of_not_mem_cons hword))

end Respells

/-! ## Upper and lower case -/

theorem flatMap_map_toUpper {f : Char → List Char} (hf : ∀ c, f c.toUpper = f c)
    (cs : List Char) : (cs.map Char.toUpper).flatMap f = cs.flatMap f := by
  simp [List.flatMap_map, hf]

theorem upper_congr {s t : String} (h : s.toList.map Char.toUpper = t.toList.map Char.toUpper) :
    upper s = upper t := by
  rw [upper, upper, ← flatMap_map_toUpper upperChar_toUpper s.toList, h,
    flatMap_map_toUpper upperChar_toUpper]

theorem lowerChars_eq_flatMap {cs : List Char} (h : 'Σ' ∉ cs) (before : List Char) :
    lowerChars before cs = cs.flatMap lowerChar := by
  induction cs generalizing before with
  | nil => rfl
  | cons c cs ih =>
    rw [lowerChars, if_neg (List.ne_of_not_mem_cons h).symm, ih (List.not_mem_of_not_mem_cons h),
      List.flatMap_cons]

theorem upper_eq_self {s : String} (h : s.toList.all (·.toNat < 0x61)) : upper s = s := by
  have hchars : s.toList.flatMap upperChar = s.toList.flatMap ([·]) :=
    List.flatMap_congr fun c hc => by
      have hlt := of_decide_eq_true (List.all_eq_true.1 h c hc)
      simp [upperChar, upper_of_lt hlt]
  rw [upper, hchars, List.flatMap_singleton', String.ofList_toList]

theorem lower_eq_self {s : String} (h : s.toList.all (IsSmall ·.toNat)) : lower s = s := by
  have hsmall : ∀ c ∈ s.toList, IsSmall c.toNat := fun c hc =>
    of_decide_eq_true (List.all_eq_true.1 h c hc)
  have hsigma : 'Σ' ∉ s.toList := fun hmem => absurd (hsmall _ hmem) (by decide)
  have hchars : s.toList.flatMap lowerChar = s.toList.flatMap ([·]) :=
    List.flatMap_congr fun c hc => by simp [lowerChar, lower_of_isSmall (hsmall c hc)]
  rw [lower, lowerChars_eq_flatMap hsigma, hchars, List.flatMap_singleton', String.ofList_toList]

theorem map_toUpper_intercalate (ws : List (List Char)) :
    ([' '].intercalate ws).map Char.toUpper = [' '].intercalate (ws.map (·.map Char.toUpper)) := by
  induction ws with
  | nil => rfl
  | cons w ws ih =>
    cases ws with
    | nil => simp
    | cons w' ws =>
      simp_all [List.intercalate_cons_cons]

theorem lower_congr {s t : String} (h : s.toList.map Char.toUpper = t.toList.map Char.toUpper)
    (ht : 'Σ' ∉ t.toList) : lower s = lower t := by
  have hs : 'Σ' ∉ s.toList := fun hmem => by
    have hupper : 'Σ'.toUpper ∈ t.toList.map Char.toUpper := h ▸ List.mem_map_of_mem hmem
    obtain ⟨c, hc, hsame⟩ := List.mem_map.1 hupper
    exact ht (eq_of_toUpper_eq hsame.symm (by decide) (by decide) ▸ hc)
  rw [lower, lower, lowerChars_eq_flatMap hs, lowerChars_eq_flatMap ht,
    ← flatMap_map_toUpper lowerChar_toUpper s.toList, h, flatMap_map_toUpper lowerChar_toUpper]

end Text

theorem canonical_congr {s t : String}
    (h : Text.wordChars (s.toList.map Char.toUpper) = Text.wordChars (t.toList.map Char.toUpper)) :
    canonical s = canonical t := by
  refine Text.upper_congr ?_
  simp only [Text.wordChars_map_toUpper] at h
  simp [Text.collapse, Text.words, String.toList_intercalate, Text.map_toUpper_intercalate, h]

/-! ## Spellings -/

/-- A text spells a word, with characters that `gap` accepts at both ends. -/
def SpellsIn (gap : Char → Bool) (word s : String) : Prop :=
  ∃ before body after, s.toList = before ++ body ++ after ∧ before.all gap ∧ after.all gap ∧
    Text.Respells gap word.toList body

namespace SpellsIn

variable {word s : String}

theorem canonical_eq (h : SpellsIn Text.isBlank word s) : canonical s = canonical word := by
  obtain ⟨before, body, after, hs, hbefore, hafter, hbody⟩ := h
  refine canonical_congr ?_
  rw [← hbody.wordChars_eq, hs, Text.wordChars_map_toUpper, Text.wordChars_append_blank hafter,
    Text.wordChars_blank_append hbefore, Text.wordChars_map_toUpper]

theorem underscoresToSpaces (h : SpellsIn Text.isGap word s) (hword : '_' ∉ word.toList) :
    SpellsIn Text.isBlank word (s.map fun c => if c = '_' then ' ' else c) := by
  obtain ⟨before, body, after, hs, hbefore, hafter, hbody⟩ := h
  exact ⟨_, _, _, by rw [String.toList_map, hs, List.map_append, List.map_append],
    Text.all_isBlank_of_isGap hbefore, Text.all_isBlank_of_isGap hafter,
    hbody.underscoresToSpaces hword⟩

/-- Trimming leaves of a spelling of a single word its letters. -/
theorem map_toUpper_trim (h : SpellsIn Text.isBlank word s) (hne : word.toList ≠ [])
    (hword : ¬ word.toList.any Text.isBlank) :
    (Text.trim s).toList.map Char.toUpper = word.toList.map Char.toUpper := by
  obtain ⟨before, body, after, hs, hbefore, hafter, hbody⟩ := h
  have hspace : ' ' ∉ word.toList := fun hmem => hword (List.any_eq_true.2 ⟨' ', hmem, rfl⟩)
  have hletters : body.map Char.toUpper = word.toList.map Char.toUpper :=
    (Text.Respells.iff_of_single_word hspace).1 hbody
  have hsolid : ∀ c ∈ body, ¬ Text.isBlank c := fun c hc hblank => by
    have hupper : c.toUpper ∈ word.toList.map Char.toUpper := hletters ▸ List.mem_map_of_mem hc
    obtain ⟨d, hd, hsame⟩ := List.mem_map.1 hupper
    rw [← Text.isBlank_toUpper c, ← hsame, Text.isBlank_toUpper] at hblank
    exact hword (List.any_eq_true.2 ⟨d, hd, hblank⟩)
  have hbodyne : body ≠ [] := by
    rintro rfl
    exact hne (List.map_eq_nil_iff.1 hletters.symm)
  rw [Text.trim, String.toList_ofList, hs, Text.trimChars_padded (List.all_eq_true.1 hbefore)
    (List.all_eq_true.1 hafter) hbodyne hsolid, hletters]

end SpellsIn

end QueryDraft
