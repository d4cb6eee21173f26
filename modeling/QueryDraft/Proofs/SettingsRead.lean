import QueryDraft.Build
import QueryDraft.Proofs.Fields
import QueryDraft.Proofs.Sections
import QueryDraft.Proofs.Trim

/-!
# Settings that were accepted

A configuration is accepted when its four sections could be read and each of them passes its check.
Every check succeeds exactly when what it looks at is in order (`check_eq_ok`, `checkFormats_eq_ok`,
`checkThresholds_eq_ok`, `checkDefinitions_eq_ok`), and it looks at what was read: a level in upper
case, formats and names that are trimmed. What is in order is all that the choice of the sinks needs
(`Sink.ofSettings_eq`).
-/

namespace QueryDraft

/-! ## Texts among values -/

@[simp] theorem Value.same_text (s t : String) :
    (Value.text s).same (.text t) = decide (s = t) := by
  rw [Value.same] <;> simp

theorem Value.holds_textTuple (ts : List String) (t : String) :
    (Value.textTuple ts).holds (.text t) = .ok (decide (t ∈ ts)) := by
  simp [Value.textTuple, Value.holds, List.any_eq]

theorem Value.distinct_eq_nil {vs : List Value} : Value.distinct vs = [] ↔ vs = [] := by
  have hkept : ∀ (ws : List Value) {seen : List Value}, seen ≠ [] →
      ws.foldl (fun seen v => if seen.any v.sameKey then seen else seen ++ [v]) seen ≠ [] := by
    intro ws
    induction ws with
    | nil => exact fun h => h
    | cons w ws ih =>
      intro seen h
      rw [List.foldl_cons]
      exact ih (by split_ifs <;> simp [h])
  cases vs with
  | nil => exact ⟨fun _ => rfl, fun _ => rfl⟩
  | cons v vs => simpa [Value.distinct] using hkept vs (List.cons_ne_nil v [])

namespace Config

/-- A value that is a text in which not everything is white space. -/
def HasText (v : Value) : Prop := ∃ s, v.text? = some s ∧ Text.trim s ≠ ""

theorem isBlank_eq_ok_false {v : Value} (h : v.text?.isSome) :
    isBlank v = .ok false ↔ HasText v := by
  obtain ⟨s, hs⟩ := Option.isSome_iff_exists.1 h
  have hblank : isBlank v = .ok (Text.nonBlank? s).isNone := by
    unfold isBlank
    split <;> simp_all
  rw [hblank, HasText, hs]
  by_cases ht : Text.trim s = "" <;> simp [Text.nonBlank?, ht]

/-! ## The checks -/

theorem LogSettings.checkLevel_eq_ok {level : String} :
    checkLevel (.text level) = .ok () ↔ level ∈ levels := by
  show (if levels.contains level then pure () else _) = _ ↔ _
  rw [ite_ok_eq_ok, List.contains_iff_mem]

/-- The check of the log lets a known level through, and a log file that has a directory. -/
theorem LogSettings.check_eq_ok {s : LogSettings} (hdir : s.dir.text?.isSome) :
    check s.toValue = .ok () ↔ s.level ∈ levels ∧ (s.toFile → HasText s.dir) := by
  have hfield : s.toValue.field "dir" = .ok s.dir := rfl
  show (checkLevel (.text s.level) >>= fun _ => if s.toFile then _ else pure ()) = _ ↔ _
  rw [check_bind_eq_ok, checkLevel_eq_ok, ite_check_eq_ok, hfield, ok_bind, check_unless_eq_ok,
    isBlank_eq_ok_false hdir]

/-- The check of the formats lets known ones through, if there is one. -/
theorem OutputSettings.checkFormats_eq_ok {formats : List String} :
    checkFormats (.textTuple formats) = .ok () ↔ formats ≠ [] ∧ ∀ f ∈ formats, f ∈ known := by
  have hkeys : (formats.map Value.text).forM Value.requireKey = .ok () := by
    rw [forM_eq_ok]
    rintro v hv
    obtain ⟨f, -, rfl⟩ := List.mem_map.1 hv
    rfl
  have hunknown : (formats.map Value.text).filter (fun v => !v.text?.any known.contains) = []
      ↔ ∀ f ∈ formats, f ∈ known := by
    simp [Value.text?]
  have hitems : (Value.textTuple formats).items = .ok (formats.map .text) := rfl
  rw [checkFormats, hitems, ok_bind, hkeys, ok_bind, ← hunknown, ← Value.distinct_eq_nil]
  generalize Value.distinct _ = unknown
  cases formats with
  | nil => simp [Value.textTuple, Value.isTruthy, bind, Except.bind]
  | cons f formats =>
    rw [if_neg (by simp [Value.textTuple, Value.isTruthy])]
    cases unknown with
    | nil => simp
    | cons v unknown =>
      dsimp only
      split <;> simp

theorem OutputSettings.check_eq_ok {s : OutputSettings} (hdir : s.baseDir.text?.isSome) :
    check s.toValue = .ok () ↔ (s.formats ≠ [] ∧ ∀ f ∈ s.formats, f ∈ known)
      ∧ ("json" ∈ s.formats → HasText s.baseDir) := by
  have hholds := Value.holds_textTuple s.formats "json"
  have hfield : s.toValue.field "base_dir" = .ok s.baseDir := rfl
  show (checkFormats (.textTuple s.formats) >>= fun _ =>
    (Value.textTuple s.formats).holds (.text "json") >>= fun b => if b then _ else pure ()) = _ ↔ _
  rw [check_bind_eq_ok, checkFormats_eq_ok, hholds, ok_bind, ite_check_eq_ok, hfield, ok_bind,
    check_unless_eq_ok, isBlank_eq_ok_false hdir, decide_eq_true_iff]

theorem checkThreshold_eq_ok {v limit : Value} {name : String} (h : v.field name = .ok limit) :
    checkThreshold v name = .ok () ↔ limit.less (.int 0) = .ok false := by
  rw [checkThreshold, h, ok_bind, check_unless_eq_ok]

/-- The limits, as values that can be compared. -/
def limits (t : Analysis.Thresholds) : List Value :=
  [.float t.maxCost, .int t.largeResultSize, .int t.sortRequiredSize]

theorem checkThresholds_eq_ok {t : Analysis.Thresholds} :
    checkThresholds t.toValue = .ok () ↔ ∀ limit ∈ limits t, limit.less (.int 0) = .ok false := by
  rw [checkThresholds, check_bind_eq_ok, check_bind_eq_ok,
    checkThreshold_eq_ok (v := t.toValue) rfl, checkThreshold_eq_ok (v := t.toValue) rfl,
    checkThreshold_eq_ok (v := t.toValue) rfl]
  simp [limits]

/-- Names are let through that are not seen before, neither among others nor among themselves. -/
theorem checkNames_eq_ok {ds : List Definition} :
    ∀ {seen : List String} {index : Nat},
      checkNames (seen.map .text) index (ds.map Definition.toValue) = .ok ()
        ↔ (ds.map (·.name)).Nodup ∧ ∀ d ∈ ds, d.name ∉ seen := by
  induction ds with
  | nil => simp [checkNames]
  | cons d ds ih =>
    intro seen index
    have hname : d.toValue.field "name" = .ok (.text d.name) := rfl
    have hseen : (seen.map Value.text).any (Value.text d.name).sameKey
        = decide (d.name ∈ seen) := by
      simp [List.any_eq]
    have hkey : (Value.text d.name).requireKey = .ok () := rfl
    rw [List.map_cons, checkNames, hname, ok_bind, hkey, ok_bind, hseen]
    by_cases hd : d.name ∈ seen
    · simp [hd]
    · -- the name joins those that were seen, so the rest has to differ from it as well
      rw [if_neg (by simpa using hd), ← List.map_cons, ih, List.map_cons, List.nodup_cons]
      simp only [List.mem_map, not_exists, not_and, List.mem_cons, not_or, forall_eq_or_imp]
      constructor
      · rintro ⟨hnodup, h⟩
        exact ⟨⟨fun x hx => (h x hx).1, hnodup⟩, hd, fun x hx => (h x hx).2⟩
      · rintro ⟨⟨h, hnodup⟩, -, hseen⟩
        exact ⟨hnodup, fun x hx => ⟨h x hx, hseen x hx⟩⟩

theorem checkDefinitions_eq_ok {ds : List Definition} :
    checkDefinitions (Settings.definitionTuple ds) = .ok ()
      ↔ ds ≠ [] ∧ (ds.map (·.name)).Nodup := by
  have hitems : (Settings.definitionTuple ds).items = .ok (ds.map Definition.toValue) := rfl
  have hnames := @checkNames_eq_ok ds [] 0
  rw [checkDefinitions, hitems, ok_bind]
  cases ds with
  | nil => simp [Settings.definitionTuple, Value.isTruthy, bind, Except.bind]
  | cons d ds =>
    rw [if_neg (by simp [Settings.definitionTuple, Value.isTruthy])]
    simpa using hnames

/-! ## The readers -/

/-- The definitions are those of the entries that are listed, in their order. -/
theorem listed_of_readDefinitions {root : Value} {ds : List Definition}
    (h : readDefinitions root = .ok ds) :
    ∃ es vs, root = .map es ∧ Entries.get? es "queries" = some (.list vs)
      ∧ List.Forall₂ (fun v d => Definition.read (itemKey "queries" v.2) v.1 = .ok d)
        vs.zipIdx ds := by
  obtain ⟨v, hv, h⟩ := bind_eq_ok.1 h
  simp only [optionalValue, bind_eq_ok, pure_eq_ok] at hv
  obtain ⟨es, hes, -, -, hget⟩ := hv
  have hroot : root = .map es := by
    cases root <;> simp_all [Value.entries, Value.entries?]
  split at h
  · simp at h
  · simp only [bind_eq_ok, expectList_eq_ok, places_eq_ok] at h
    obtain ⟨vs, rfl, hall⟩ := h
    refine ⟨es, vs, hroot, ?_, hall⟩
    change (Entries.get? es "queries").getD .null = _ at hget
    cases hq : Entries.get? es "queries" <;> simp_all

theorem Definition.kind_of_readDraft {key kind : String} {es : Entries} {draft : Draft}
    (h : readDraft key kind es = .ok draft) : draft.kind = kind := by
  unfold readDraft at h
  split at h
  · simp only [under_eq_ok, bind_eq_ok, pure_eq_ok] at h
    obtain ⟨-, -, edits, -, rfl⟩ := h
    rfl
  · simp only [under_eq_ok, bind_eq_ok, pure_eq_ok] at h
    obtain ⟨-, -, edits, -, rfl⟩ := h
    rfl
  · simp at h

/-- The name and the kind of a definition are those that its entry has, without the white space
around them; the kind is in lower case. -/
structure Definition.Names (v : Value) (d : Definition) : Prop where
  name : ∃ es s, v = .map es ∧ (Entries.get? es "name").bind Value.text? = some s
    ∧ d.name = Text.trim s
  kind : ∃ es s, v = .map es ∧ (Entries.get? es "type").bind Value.text? = some s
    ∧ d.draft.kind = Text.lower (Text.trim s)

theorem Definition.names_of_read {key : String} {v : Value} {d : Definition}
    (h : Definition.read key v = .ok d) : d.Names v ∧ Text.IsTrimmed d.name := by
  simp only [read, bind_eq_ok, expectMapping_eq_ok, requireTextAt_eq_ok] at h
  obtain ⟨es, rfl, name, ⟨n, hn, hname⟩, h⟩ := h
  split_ifs at h with hempty
  simp only [bind_eq_ok, pure_eq_ok, requireTextAt_eq_ok] at h
  obtain ⟨kind, ⟨k, hk, hkind⟩, draft, hdraft, rfl⟩ := h
  exact ⟨⟨⟨es, name, rfl, by simp [hn, hname], rfl⟩,
    ⟨es, kind, rfl, by simp [hk, hkind], kind_of_readDraft hdraft⟩⟩, hempty, Text.trim_trim name⟩

/-! ## What was accepted -/

/-- Settings in which everything that is checked is in order. -/
structure Settings.Valid (s : Settings) : Prop where
  level : s.log.level ∈ LogSettings.levels
  logDir : s.log.toFile → HasText s.log.dir
  formats : s.output.formats ≠ []
  known : ∀ f ∈ s.output.formats, f ∈ OutputSettings.known
  baseDir : "json" ∈ s.output.formats → HasText s.output.baseDir
  limits : ∀ limit ∈ limits s.thresholds, limit.less (.int 0) = .ok false
  definitions : s.definitions ≠ []
  trimmed : ∀ d ∈ s.definitions, Text.IsTrimmed d.name
  distinct : (s.definitions.map (·.name)).Nodup

theorem LogSettings.isSome_dir {root : Value} {log : LogSettings} (h : read root = .ok log) :
    log.dir.text?.isSome := by
  simp only [read, bind_eq_ok, pure_eq_ok, expectSpelling_eq_ok] at h
  obtain ⟨es, -, level, -, toFile, -, dir, ⟨⟨s, hs⟩, rfl⟩, rfl⟩ := h
  simp [hs]

theorem OutputSettings.isSome_baseDir {root : Value} {output : OutputSettings}
    (h : read root = .ok output) : output.baseDir.text?.isSome := by
  simp only [read, bind_eq_ok, pure_eq_ok, expectSpelling_eq_ok] at h
  obtain ⟨es, -, formats, -, dir, ⟨⟨s, hs⟩, rfl⟩, rfl⟩ := h
  simp [hs]

theorem Settings.valid_of_read {root : Value} {s : Settings} (h : read root = .ok s) :
    s.Valid ∧ ∃ es vs, root = .map es ∧ Entries.get? es "queries" = some (.list vs)
      ∧ List.Forall₂ (fun v d => Definition.read (itemKey "queries" v.2) v.1 = .ok d)
        vs.zipIdx s.definitions := by
  simp only [read, bind_eq_ok, pure_eq_ok] at h
  obtain ⟨log, hlog, output, houtput, thresholds, -, definitions, hdefinitions, ⟨⟩, hcheckLog, ⟨⟩,
    hcheckOutput, ⟨⟩, hcheckThresholds, ⟨⟩, hcheckDefinitions, rfl⟩ := h
  rw [LogSettings.check_eq_ok (LogSettings.isSome_dir hlog)] at hcheckLog
  rw [OutputSettings.check_eq_ok (OutputSettings.isSome_baseDir houtput)] at hcheckOutput
  rw [checkThresholds_eq_ok] at hcheckThresholds
  rw [checkDefinitions_eq_ok] at hcheckDefinitions
  obtain ⟨es, vs, hroot, hget, hall⟩ := listed_of_readDefinitions hdefinitions
  refine ⟨⟨hcheckLog.1, hcheckLog.2, hcheckOutput.1.1, hcheckOutput.1.2, hcheckOutput.2,
    hcheckThresholds, hcheckDefinitions.1, ?_, hcheckDefinitions.2⟩, es, vs, hroot, hget, hall⟩
  exact forall_mem_of_forall₂ hall fun _ _ hread => (Definition.names_of_read hread).2

end Config

/-! ## The sinks -/

/-- The sinks that settings of the output list: the console before the file, each once. -/
def Sink.listed (s : Config.OutputSettings) : List Sink :=
  (if "console" ∈ s.formats then [.console] else [])
    ++ if "json" ∈ s.formats then [.jsonFile s.baseDir.plain] else []

/-- Valid settings have sinks, those that their output lists. -/
theorem Sink.ofSettings_eq {s : Config.Settings} (h : s.Valid) :
    Sink.ofSettings s.toValue = .ok (Sink.listed s.output) := by
  have houtput : s.toValue.field "output" = .ok s.output.toValue := rfl
  have hformats : s.output.toValue.field "formats" = .ok (.textTuple s.output.formats) := rfl
  have hdir : s.output.toValue.field "base_dir" = .ok s.output.baseDir := rfl
  -- there is a format and it is a known one, so there is a sink
  have hne : Sink.listed s.output ≠ [] := by
    obtain ⟨f, hf⟩ := List.exists_mem_of_ne_nil _ h.formats
    rcases List.mem_cons.1 (h.known f hf) with rfl | hjson
    · simp [listed, hf]
    · obtain rfl := List.mem_singleton.1 hjson
      simp [listed, hf]
  simp only [ofSettings, houtput, hformats, ok_bind, Value.holds_textTuple, hdir,
    decide_eq_true_iff]
  by_cases hjson : "json" ∈ s.output.formats
  · obtain ⟨t, ht, -⟩ := h.baseDir hjson
    have hbelow : below s.output.baseDir = .ok (.jsonFile s.output.baseDir.plain) := by
      rw [below, ht]
    simp_all [listed]
  · simp_all [listed]

namespace Config.Settings

/-- Every configuration that is accepted is valid and can be used. Its definitions are those of the
entries that are listed, in their order, each read under its own key and each with a draft of its
kind. The sinks are there: the console if it is listed, then the file if it is, each once. -/
theorem usable_of_read {root : Value} {s : Settings} (h : read root = .ok s) :
    s.Valid
      ∧ (∃ es vs, root = .map es ∧ Entries.get? es "queries" = some (.list vs)
        ∧ List.Forall₂ (fun v d => Definition.read (itemKey "queries" v.2) v.1 = .ok d
          ∧ d.Names v.1) vs.zipIdx s.definitions)
      ∧ (∀ d ∈ s.definitions, (d.draft.kind = "relational" ∧ ∃ draft, d.draft = .statement draft)
        ∨ (d.draft.kind = "search" ∧ ∃ draft, d.draft = .search draft))
      ∧ Sink.ofSettings s.toValue = .ok
        ((if "console" ∈ s.output.formats then [.console] else [])
          ++ if "json" ∈ s.output.formats then [.jsonFile s.output.baseDir.plain] else []) := by
  obtain ⟨hvalid, es, vs, hroot, hget, hall⟩ := valid_of_read h
  refine ⟨hvalid, ⟨es, vs, hroot, hget, hall.imp fun _ _ hread =>
    ⟨hread, (Definition.names_of_read hread).1⟩⟩, fun d _ => ?_, Sink.ofSettings_eq hvalid⟩
  cases hd : d.draft with
  | statement draft => exact .inl ⟨rfl, draft, rfl⟩
  | search draft => exact .inr ⟨rfl, draft, rfl⟩

/-- A format that is listed twice, in any case, has one sink, which comes after the console. -/
theorem usable_of_read_repeated_format :
    let search (name : String) : Value := .map [(.text "name", .text name),
      (.text "type", .text " Search "), (.text "size", .int 0)]
    let root : Value := .map [
      (.text "log", .map [(.text "level", .text "debug"), (.text "to_file", .bool true)]),
      (.text "output", .map [
        (.text "formats", .list [.text "JSON", .text " console", .text "json"]),
        (.text "base_dir", .text " out ")]),
      (.text "queries", .list [search " a ", search "b"])]
    ∃ s, read root = .ok s ∧ s.log.level = "DEBUG" ∧ s.definitions.map (·.name) = ["a", "b"]
      ∧ s.Valid ∧ Sink.ofSettings s.toValue = .ok [.console, .jsonFile " out "] := by
  intro search root
  let draft : Search.Draft := { size := some 0 }
  let s : Settings := {
    log := { level := "DEBUG", toFile := true }
    output := { baseDir := .text " out ", formats := ["json", "console", "json"] }
    thresholds := {}
    definitions := [⟨"a", .search draft⟩, ⟨"b", .search draft⟩] }
  have hread : read root = .ok s := by with_unfolding_all rfl
  obtain ⟨hvalid, -, -, hsinks⟩ := usable_of_read hread
  exact ⟨s, hread, rfl, rfl, hvalid, hsinks⟩

end Config.Settings

end QueryDraft
