import QueryDraft.Proofs.JsonCharacters
import QueryDraft.Proofs.ReportParameters

/-!
# The document in the text on a search

The text on a search holds the JSON of its document, each line indented. The JSON is cut at every
line end, so the lines put together again are the JSON with a newline for each line end in it
(`intercalate_lines`). JSON text has the newlines between its lines and no other line end of ASCII,
but it keeps the line ends beyond ASCII that its strings have. So the text shows the document
exactly when no string and no member name in it has one of these (`textBlock_search`).
-/

namespace QueryDraft

namespace Text

/-- The parts of a text between its newlines. -/
def cut (s : String) : List String := (s.toList.splitOn '\n').map String.ofList

/-- A text with a newline for every line end. -/
def plainEnds (s : String) : String :=
  String.ofList (s.toList.map fun c => if isLineEnd c then '\n' else c)

/-- A line end beyond ASCII: the next line, the line separator or the paragraph separator. -/
def IsWideEnd (c : Char) : Prop := c = '\x85' ∨ c = '\u2028' ∨ c = '\u2029'

instance (c : Char) : Decidable (IsWideEnd c) := inferInstanceAs (Decidable (_ ∨ _))

variable {c x : Char} {cs current : List Char} {s t : String}

/-! ## Cutting at newlines -/

theorem cut_append (s t : String) : cut (s ++ "\n" ++ t) = cut s ++ cut t := by
  have hnewline : ("\n" : String).toList = ['\n'] := rfl
  rw [cut, String.toList_append, String.toList_append, hnewline, List.append_assoc,
    List.singleton_append, List.splitOn, List.splitOnP_append_cons _ _ (by simp), List.map_append]
  rfl

theorem cut_intercalate {parts : List String} (hne : parts ≠ [])
    (h : ∀ part ∈ parts, '\n' ∉ part.toList) : cut ("\n".intercalate parts) = parts := by
  have hparts : ∀ l ∈ parts.map String.toList, '\n' ∉ l := by simpa using h
  have hnewline : ("\n" : String).toList = ['\n'] := rfl
  have hne' : parts.map String.toList ≠ [] := mt List.map_eq_nil_iff.1 hne
  rw [cut, String.toList_intercalate, hnewline, List.splitOn_intercalate _ hparts hne',
    List.map_map]
  simp [Function.comp_def]

/-! ## Lines put together -/

theorem lineChars_cons (h : c ≠ '\r') (current cs : List Char) : lineChars current (c :: cs)
    = if isLineEnd c then current.reverse :: lineChars [] cs else lineChars (c :: current) cs := by
  rw [lineChars]
  exact fun _ hc => absurd hc h

/-- No line has a line end in it. -/
theorem not_isLineEnd_of_mem_lineChars {cs current : List Char}
    (hcurrent : ∀ c ∈ current, ¬ isLineEnd c) :
    ∀ l ∈ lineChars current cs, ∀ c ∈ l, ¬ isLineEnd c := by
  have hreverse : ∀ {cs : List Char}, (∀ c ∈ cs, ¬ isLineEnd c) → ∀ c ∈ cs.reverse, ¬ isLineEnd c :=
    fun h c hc => h c (List.mem_reverse.1 hc)
  fun_induction lineChars current cs with
  | case1 current hempty => exact nofun
  | case2 current hempty => exact List.forall_mem_singleton.2 (hreverse hcurrent)
  | case3 current cs ih => exact List.forall_mem_cons.2 ⟨hreverse hcurrent, ih nofun⟩
  | case4 current c cs hreturn hend ih =>
    exact List.forall_mem_cons.2 ⟨hreverse hcurrent, ih nofun⟩
  | case5 current c cs hreturn hend ih => exact ih (List.forall_mem_cons.2 ⟨hend, hcurrent⟩)

/-- Lines put together are the text with a newline for every line end, if no two characters are one
end and the text does not end in an end, after which there is no line. -/
theorem intercalate_lineChars (hx : ¬ isLineEnd x) : ∀ {cs : List Char} (current : List Char),
    '\r' ∉ cs → ['\n'].intercalate (lineChars current (cs ++ [x]))
      = current.reverse ++ (cs ++ [x]).map fun c => if isLineEnd c then '\n' else c
  | [], current, _ => by
    have hreturn : x ≠ '\r' := by
      rintro rfl
      exact hx (by decide)
    rw [List.nil_append, lineChars_cons hreturn, if_neg hx, lineChars]
    simp [hx]
  | c :: cs, current, h => by
    obtain ⟨hc, hcs⟩ := not_or.1 (mt List.mem_cons.2 h)
    rw [List.cons_append, lineChars_cons (Ne.symm hc), List.map_cons]
    by_cases hend : isLineEnd c
    · -- the line ends here, and since the text does not, a newline and another line follow it
      have hrest := intercalate_lineChars hx [] hcs
      have hne : lineChars [] (cs ++ [x]) ≠ [] := fun hnil => by
        rw [hnil] at hrest
        simp at hrest
      rw [if_pos hend, if_pos hend, List.intercalate_cons_of_ne_nil hne, hrest]
      simp
    · rw [if_neg hend, if_neg hend, intercalate_lineChars hx (c :: current) hcs]
      simp

theorem intercalate_lines (hs : s.toList = cs ++ [x]) (hx : ¬ isLineEnd x) (h : '\r' ∉ s.toList) :
    "\n".intercalate (lines s) = plainEnds s := by
  have hcs : '\r' ∉ cs := fun hmem => h (hs ▸ List.mem_append_left _ hmem)
  have hnewline : ("\n" : String).toList = ['\n'] := rfl
  have hchars : (lines s).map String.toList = lineChars [] s.toList := by
    rw [lines, List.map_map]
    simp [Function.comp_def]
  rw [← String.toList_inj, String.toList_intercalate, hnewline, hchars, hs,
    intercalate_lineChars hx [] hcs, plainEnds, String.toList_ofList, hs]
  rfl

theorem newline_not_mem_lines : ∀ line ∈ lines s, '\n' ∉ line.toList := by
  intro line hline hmem
  obtain ⟨l, hl, rfl⟩ := List.mem_map.1 hline
  rw [String.toList_ofList] at hmem
  exact not_isLineEnd_of_mem_lineChars (by simp) l hl _ hmem (by decide)

theorem isLineEnd_of_le (h : 0x20 ≤ c.toNat) : isLineEnd c ↔ IsWideEnd c := by
  have hcode : ∀ x : Char, c.toNat = x.toNat ↔ c = x := fun x => Char.toNat_inj
  have hwide : IsWideEnd c ↔ c.toNat = 0x85 ∨ c.toNat = 0x2028 ∨ c.toNat = 0x2029 := by
    rw [IsWideEnd, ← hcode, ← hcode, ← hcode]
    rfl
  rw [hwide, isLineEnd]
  simp
  omega

theorem plainEnds_eq_self : plainEnds s = s ↔ ∀ c ∈ s.toList, isLineEnd c → c = '\n' := by
  rw [← String.toList_inj, plainEnds, String.toList_ofList]
  nth_rewrite 2 [← List.map_id s.toList]
  rw [List.map_inj_left]
  refine forall₂_congr fun c _ => ?_
  split_ifs with hend
  · simp [hend, eq_comm]
  · simp [hend]

end Text

open Text (Each IsWideEnd cut plainEnds)

/-! ## Lines of JSON text -/

namespace Json

variable {v : Value} {j : Json}

theorem intercalate_lines_indented (h : v.toJson = .ok j) :
    "\n".intercalate (Text.lines j.indented) = plainEnds j.indented := by
  obtain ⟨cs, x, hlast, hlow, hhigh⟩ := exists_indented_concat h
  have hx : ¬ Text.isLineEnd x := by
    rw [Text.isLineEnd_of_le hlow]
    rintro (rfl | rfl | rfl) <;> exact absurd hhigh (by decide)
  refine Text.intercalate_lines hlast hx fun hreturn => ?_
  have hnone : Each (· ≠ '\r') j.indented := by
    refine (each_indented (fun c hc => ?_) h).2 fun s _ c _ hc => ?_
    · rintro rfl
      exact absurd hc (by decide)
    · rintro rfl
      exact absurd hc (by decide)
  exact hnone _ hreturn rfl

theorem lines_indented_ne_nil (h : v.toJson = .ok j) : Text.lines j.indented ≠ [] := by
  intro hnil
  obtain ⟨cs, x, hlast, -⟩ := exists_indented_concat h
  have hempty := intercalate_lines_indented h
  rw [hnil, String.intercalate_nil, plainEnds, hlast, ← String.toList_inj] at hempty
  simp at hempty

/-- The text of a tree has no line ends but newlines exactly when its strings have none beyond
ASCII. -/
theorem plainEnds_indented (h : v.toJson = .ok j) :
    plainEnds j.indented = j.indented ↔ ∀ s ∈ j.texts, Each (¬ IsWideEnd ·) s := by
  have hvisible : ∀ c, Text.IsVisible c ∨ c = '\n' → Text.isLineEnd c → c = '\n' := by
    rintro c (⟨hlow, hhigh⟩ | hc) hend
    · rcases (Text.isLineEnd_of_le hlow).1 hend with rfl | rfl | rfl <;>
        exact absurd hhigh (by decide)
    · exact hc
  rw [Text.plainEnds_eq_self]
  refine (each_indented hvisible h).trans (forall₂_congr fun s _ => forall₂_congr fun c _ => ?_)
  constructor
  · intro hc hwide
    have hlow : 0x20 ≤ c.toNat := by rcases hwide with rfl | rfl | rfl <;> decide
    obtain rfl := hc hlow ((Text.isLineEnd_of_le hlow).2 hwide)
    exact absurd hlow (by decide)
  · exact fun hc hlow hend => absurd ((Text.isLineEnd_of_le hlow).1 hend) hc

end Json

/-! ## The text on a search -/

namespace Report

variable {q report index document : Value} {block : String} {ratings : List String}

theorem ratingLines_ne_nil (h : ratingLines report = .ok ratings) : ratings ≠ [] := by
  simp only [ratingLines, bind_eq_ok, pure_eq_ok] at h
  obtain ⟨_, -, rating, -, _, -, notes, -, rfl⟩ := h
  exact List.cons_ne_nil _ _

theorem searchLines_eq (name : Value) (hindex : q.field "index" = .ok index)
    (hdocument : q.requestDocument = .ok document) (hblock : document.jsonBlock = .ok block) :
    searchLines name q = .ok (("[" ++ name.plain ++ "] search on " ++ indexLabel index)
      :: (Text.lines block).map ("   " ++ ·)) := by
  rw [searchLines, hindex, ok_bind, hdocument, ok_bind, hblock, ok_bind]
  rfl

/-- The parts of a block of lines: those of the header, the lines below it, and the rest. -/
theorem cut_block {header : String} {lines ratings : List String} (hlines : lines ≠ [])
    (hplain : ∀ line ∈ lines, '\n' ∉ line.toList) (hratings : ratings ≠ []) :
    cut ("\n".intercalate (header :: lines ++ ratings) ++ "\n")
      = cut header ++ lines ++ cut ("\n".intercalate ratings ++ "\n") := by
  have hrest : lines ++ ratings ≠ [] := by simp [hlines]
  rw [List.cons_append, String.intercalate_cons_of_ne_nil hrest,
    String.intercalate_append_of_ne_nil hlines hratings]
  generalize "\n".intercalate ratings = rest
  have hsplit (body : String) : header ++ "\n" ++ (body ++ "\n" ++ rest) ++ "\n"
      = header ++ "\n" ++ (body ++ "\n" ++ (rest ++ "\n")) := by
    simp only [String.append_assoc]
  rw [hsplit, Text.cut_append, Text.cut_append, Text.cut_intercalate hlines hplain,
    List.append_assoc]

/-- The text on a search, cut at its newlines, has between its header and its rating the lines of
the document, indented. Put together they are the JSON of the document with a newline for every
line end in it: the JSON itself exactly when no string and no member name in the document has a line
end beyond ASCII. -/
theorem textBlock_search (name : Value) (hq : ∀ fields, q ≠ .part .statement fields)
    (hindex : q.field "index" = .ok index) (hdocument : q.requestDocument = .ok document)
    (hblock : document.jsonBlock = .ok block) (hratings : ratingLines report = .ok ratings) :
    let header := "[" ++ name.plain ++ "] search on " ++ indexLabel index
    ∃ j text carried, document.toJson = .ok j ∧ textBlock name q report = .ok text
      ∧ cut text = cut header ++ carried.map ("   " ++ ·)
        ++ cut ("\n".intercalate ratings ++ "\n")
      ∧ "\n".intercalate carried = plainEnds block
      ∧ ("\n".intercalate carried = block ↔ ∀ s ∈ j.texts, Each (¬ IsWideEnd ·) s) := by
  intro header
  obtain ⟨j, hj, rfl⟩ := map_eq_ok.1 hblock
  have hcarried := Json.intercalate_lines_indented hj
  have hbody : bodyLines name q
      = .ok (header :: (Text.lines j.indented).map ("   " ++ ·)) := by
    rw [← searchLines_eq name hindex hdocument hblock]
    unfold bodyLines
    split
    case h_1 fields => exact absurd rfl (hq fields)
    case h_2 => rfl
  have hne : (Text.lines j.indented).map ("   " ++ ·) ≠ [] :=
    mt List.map_eq_nil_iff.1 (Json.lines_indented_ne_nil hj)
  have hplain : ∀ line ∈ (Text.lines j.indented).map ("   " ++ ·), '\n' ∉ line.toList := by
    intro line hline
    obtain ⟨l, hl, rfl⟩ := List.mem_map.1 hline
    simpa using Text.newline_not_mem_lines l hl
  let carried := Text.lines j.indented
  refine ⟨j, "\n".intercalate (header :: carried.map ("   " ++ ·) ++ ratings) ++ "\n", carried, hj,
    ?_, ?_, hcarried, ?_⟩
  · rw [textBlock, hbody, ok_bind, hratings, ok_bind]
    rfl
  · exact cut_block hne hplain (ratingLines_ne_nil hratings)
  · rw [show "\n".intercalate carried = _ from hcarried]
    exact Json.plainEnds_indented hj

/-- A search for a text without line ends is shown with its document as it is. -/
theorem textBlock_search_of_match :
    let r : Search.Request := { predicate := .matching (.text "title") (.text "python") }
    let report : Analysis.Report := ⟨.good, []⟩
    ∃ document block text carried, r.document = .ok document ∧ document.jsonBlock = .ok block
      ∧ textBlock (.text "q") r.toValue report.toValue = .ok text
      ∧ cut text = "[q] search on -" :: carried.map ("   " ++ ·) ++ ["   Rating: Good", ""]
      ∧ "\n".intercalate carried = block := by
  intro r report
  let document : Value := .map [(.text "query",
    .map [(.text "match", .map [(.text "title", .text "python")])])]
  have hdocument : r.toValue.requestDocument = .ok document := by with_unfolding_all rfl
  obtain ⟨j, text, carried, hj, htext, hcut, -, hsame⟩ := textBlock_search (.text "q")
    (by rintro fields ⟨⟩) rfl hdocument rfl (ratingLines_toValue report)
  have htexts : j.texts = ["query", "match", "title", "python"] := by
    obtain rfl := Except.ok.inj hj
    rfl
  refine ⟨document, _, text, carried, hdocument, rfl, htext, hcut.trans ?_, hsame.2 ?_⟩
  · have hheader : cut "[q] search on -" = ["[q] search on -"] := by decide +kernel
    have hrating : cut "   Rating: Good\n" = ["   Rating: Good", ""] := by decide +kernel
    exact congrArg₂ (fun first last => first ++ carried.map ("   " ++ ·) ++ last) hheader hrating
  · rw [htexts]
    decide

/-- A search for a text with a line separator is shown with a line more than its document has: the
lines put together have a newline where the text has the separator. -/
theorem textBlock_of_line_separator :
    let r : Search.Request := { predicate := .matching (.text "title") (.text "a\u2028b") }
    let report : Analysis.Report := ⟨.good, []⟩
    let opening := ["\x7b", "  \"query\": \x7b", "    \"match\": \x7b"]
    let closing := ["    \x7d", "  \x7d", "\x7d"]
    let block := "\n".intercalate (opening ++ ["      \"title\": \"a\u2028b\""] ++ closing)
    let carried := opening ++ ["      \"title\": \"a", "b\""] ++ closing
    (∃ document, r.document = .ok document ∧ document.jsonBlock = .ok block)
      ∧ textBlock (.text "q") r.toValue report.toValue = .ok ("\n".intercalate
        ("[q] search on -" :: carried.map ("   " ++ ·) ++ ["   Rating: Good"]) ++ "\n")
      ∧ (∀ line ∈ carried, '\n' ∉ line.toList) ∧ "\n".intercalate carried ≠ block := by
  intro r report opening closing block carried
  let document : Value := .map [(.text "query",
    .map [(.text "match", .map [(.text "title", .text "a\u2028b")])])]
  refine ⟨⟨document, ?_, ?_⟩, ?_, ?_, ?_⟩
  · with_unfolding_all rfl
  · with_unfolding_all rfl
  · with_unfolding_all rfl
  · decide
  · decide

end Report

end QueryDraft
