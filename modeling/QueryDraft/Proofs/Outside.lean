import QueryDraft.Build

/-!
# Runs on an outside that keeps a record

An outside answers what a run asks of it and keeps a list of what the run did (`Event`). Its answers
may depend on all that was done before, so the time may change and an operation on files may fail at
any point. A run only adds to the list, and each part of a run is described by what it adds:
`run_log` for a record of the log, `run_configure_eq` for its set-up, `run_perform_logs` and
`run_perform_save` for the steps of a build. Operations one after another are done up to the first
that fails (`upToFailure`).

What a set-up makes of a logger does not depend on the outside, only whether it gets that far
(`Setup.run_apply`): its handlers are made first, and the logger is touched when they are there.
-/

namespace QueryDraft

open Log (Handler Logger Record Setup)

/-- Something that a run did to the outside. -/
inductive Event where
  | directory (path : String)
  | opened (path : String)
  | appended (path text : String)
  | written (path text : String)
  | result (text : String)
  | message (text : String)
  deriving DecidableEq

/-- What a run finds outside, each answer after the events so far. `fault?` says how an operation
fails on files, if it does. -/
structure Outside where
  programName : String
  isDirectory : List Event → String → Except Failure Bool
  read : List Event → String → Except Failure String
  fault? : List Event → Event → Option Failure
  lineStart : List Event → String
  logStamp : List Event → String
  reportStamp : List Event → String

namespace Outside

/-- Does something that may fail; what failed is not in the record. -/
def attempt (o : Outside) (e : Event) : StateM (List Event) (Except Failure Unit) := do
  let done ← get
  match o.fault? done e with
  | some f => return .error f
  | none => do
    set (done ++ [e])
    return .ok ()

/-- Does something that cannot fail. -/
def add (e : Event) : StateM (List Event) Unit := modify fun done => done ++ [e]

/-- The operations of a run on an outside. -/
def host (o : Outside) : Host (StateM (List Event)) where
  programName := o.programName
  isDirectory path := return o.isDirectory (← get) path
  read path := return o.read (← get) path
  makeDirectory path := o.attempt (.directory path)
  openFile path := o.attempt (.opened path)
  append path text := add (.appended path text)
  write path text := o.attempt (.written path text)
  out text := add (.result text)
  err text := add (.message text)
  lineStart := return o.lineStart (← get)
  logStamp := return o.logStamp (← get)
  reportStamp := return o.reportStamp (← get)

/-- An outside on which every operation on files succeeds. -/
def Succeeds (o : Outside) : Prop := ∀ done e, o.fault? done e = none

end Outside

/-- What a handler does with a line. -/
def Log.Handler.events (line : String) : Handler → List Event
  | .nowhere => []
  | .console _ => [.message line]
  | .file path => [.appended path line]

/-- What setting up the log does. -/
def Log.Setup.events (s : Setup) (stamp : String) : List Event :=
  if s.hasFile then [.directory s.directory.text, .opened (s.filePath stamp).text] else []

/-- Whether an event is a line that is printed or added to a file. -/
def Event.isLine : Event → Bool
  | .appended .. | .message _ => true
  | _ => false

/-! ## Replacing the handlers of a logger -/

namespace Log

namespace Logger

theorem foldl_close : ∀ (hs : List Handler) (l : Logger),
    hs.foldl close l = { l with closed := l.closed ++ hs }
  | [], l => by simp
  | h :: hs, l => by simp [foldl_close hs, close]

theorem foldl_add : ∀ (hs : List Handler) (l : Logger),
    hs.foldl add l = { l with handlers := l.handlers ++ hs }
  | [], l => by simp
  | h :: hs, l => by simp [foldl_add hs, add]

theorem replace_eq (l : Logger) (level : Int) (hs : List Handler) :
    l.replace level hs = ⟨level, hs, l.closed ++ l.handlers⟩ := by
  rw [replace, foldl_close, foldl_add]
  rfl

theorem replace_handlers (l : Logger) (s : Setup) (stamp : String) :
    l.replace s.loggerLevel (s.handlers stamp) = l.install s stamp := replace_eq ..

end Logger

variable {m : Type → Type} [Monad m] [LawfulMonad m] {host : Host m}

/-- A set-up that makes its handlers replaces those of the logger, any other leaves it. -/
theorem Setup.run_apply (s : Setup) (l : Logger) : (s.apply host).run l = do
    let stamp ← host.logStamp
    match ← s.makeHandlers host stamp with
    | .error f => return (.error f, l)
    | .ok hs => return (.ok (), l.replace s.loggerLevel hs) := by
  rw [Setup.apply, StateT.run_bind, StateT.run_monadLift, bind_assoc]
  refine bind_congr fun stamp => ?_
  rw [pure_bind, StateT.run_bind, StateT.run_monadLift, bind_assoc]
  refine bind_congr fun made => ?_
  cases made with
  | error f => simp
  | ok hs => simp

theorem Logger.configure_eq (l : Logger) (s : Setup) : l.configure host s = do
    let stamp ← host.logStamp
    return (← s.makeHandlers host stamp).map fun hs => l.replace s.loggerLevel hs := by
  rw [configure, Setup.run_apply, bind_assoc]
  refine bind_congr fun stamp => ?_
  rw [bind_assoc]
  refine bind_congr fun made => ?_
  cases made with
  | error f => rw [pure_bind]; rfl
  | ok hs => rw [pure_bind]; rfl

end Log

namespace Outside

/-- What logging a record does after the events so far. -/
def lines (o : Outside) (l : Logger) (done : List Event) (r : Record) : List Event :=
  (l.receivers r).flatMap (Handler.events (o.lineStart done ++ r.text ++ "\n"))

/-- What logging records does after the events so far. -/
def logged (o : Outside) (l : Logger) : List Event → List Record → List Event
  | _, [] => []
  | done, r :: rs => o.lines l done r ++ logged o l (done ++ o.lines l done r) rs

theorem logged_concat (o : Outside) (l : Logger) (r : Record) : ∀ (done : List Event)
    (rs : List Record), o.logged l done (rs ++ [r])
      = o.logged l done rs ++ o.lines l (done ++ o.logged l done rs) r
  | done, [] => by simp [logged]
  | done, r' :: rs => by simp [logged, logged_concat o l r (done ++ o.lines l done r') rs]

theorem isLine_of_mem_events {line : String} : ∀ h : Handler, ∀ e ∈ h.events line, e.isLine
  | .nowhere, _, he => absurd he List.not_mem_nil
  | .console _, _, he => List.mem_singleton.1 he ▸ rfl
  | .file _, _, he => List.mem_singleton.1 he ▸ rfl

theorem isLine_of_mem_logged (o : Outside) (l : Logger) : ∀ {done : List Event} {rs : List Record},
    ∀ e ∈ o.logged l done rs, e.isLine
  | _, [], e, he => by simp [logged] at he
  | done, r :: rs, e, he => by
    rcases List.mem_append.1 he with he | he
    · obtain ⟨h, -, he⟩ := List.mem_flatMap.1 he
      exact isLine_of_mem_events h e he
    · exact isLine_of_mem_logged o l e he

/-! ## Operations that may fail -/

/-- What is done of things one after another, up to the first that fails, and its failure. -/
def upToFailure {α : Type} (act : List Event → α → List Event × Option Failure) :
    List Event → List α → List Event × Option Failure
  | _, [] => ([], none)
  | done, a :: as => match act done a with
    | (made, some f) => (made, some f)
    | (made, none) =>
      let rest := upToFailure act (done ++ made) as
      (made ++ rest.1, rest.2)

/-- What is done of an event that may fail. -/
def attempted (o : Outside) (done : List Event) (e : Event) : List Event × Option Failure :=
  match o.fault? done e with
  | some f => ([], some f)
  | none => ([e], none)

/-- What setting up the log does, and its failure. -/
def configured (o : Outside) (done : List Event) (s : Setup) : List Event × Option Failure :=
  upToFailure o.attempted done (s.events (o.logStamp done))

/-- What an operation answers. -/
def answer : Option Failure → Except Failure Unit
  | some f => .error f
  | none => .ok ()

section

variable {α : Type} {act : List Event → α → List Event × Option Failure} {o : Outside}
  {done made : List Event} {f : Failure}

theorem upToFailure_of_failure {a : α} (h : act done a = (made, some f)) (as : List α) :
    upToFailure act done (a :: as) = (made, some f) := by
  rw [upToFailure, h]

theorem upToFailure_of_none {a : α} (h : act done a = (made, none)) (as : List α) :
    upToFailure act done (a :: as) = (made ++ (upToFailure act (done ++ made) as).1,
      (upToFailure act (done ++ made) as).2) := by
  rw [upToFailure, h]

theorem attempted_of_failure {e : Event} (h : o.fault? done e = some f) :
    o.attempted done e = ([], some f) := by
  rw [attempted, h]

theorem attempted_of_none {e : Event} (h : o.fault? done e = none) :
    o.attempted done e = ([e], none) := by
  rw [attempted, h]

theorem upToFailure_attempted (ho : o.Succeeds) : ∀ (es done : List Event),
    upToFailure o.attempted done es = (es, none)
  | [], _ => rfl
  | e :: es, done => by
    rw [upToFailure_of_none (attempted_of_none (ho done e)), upToFailure_attempted ho es]
    rfl

end

/-! ## What the parts of a run add -/

variable {α β : Type} {o : Outside} {l : Logger}

theorem run_bind {x : StateM (List Event) α} {f : α → StateM (List Event) β}
    {done done' : List Event} {a : α} (h : x.run done = (a, done')) :
    (x >>= f).run done = (f a).run done' := by
  rw [StateT.run_bind, h]
  rfl

theorem run_attempt_eq (o : Outside) (done : List Event) (e : Event) :
    (o.attempt e).run done = (answer (o.attempted done e).2, done ++ (o.attempted done e).1) := by
  show (match o.fault? done e with | some f => _ | none => _ : StateM (List Event) _).run done = _
  cases h : o.fault? done e with
  | some f =>
    rw [attempted_of_failure h, List.append_nil]
    rfl
  | none =>
    rw [attempted_of_none h]
    rfl

/-- What follows an operation is done on an outside that has it, or not at all. -/
theorem run_attempt_bind {β : Type}
    {k : Except Failure Unit → StateM (List Event) (Except Failure β)} (done : List Event)
    (e : Event) (hk : ∀ f, k (.error f) = pure (.error f)) :
    (o.attempt e >>= k).run done = match o.fault? done e with
      | some f => (.error f, done)
      | none => (k (.ok ())).run (done ++ [e]) := by
  rw [run_bind (run_attempt_eq o done e)]
  cases h : o.fault? done e with
  | some f =>
    rw [attempted_of_failure h, List.append_nil]
    exact congrArg (·.run done) (hk f)
  | none => rw [attempted_of_none h, answer]

theorem run_attempt (ho : o.Succeeds) (done : List Event) (e : Event) :
    (o.attempt e).run done = (.ok (), done ++ [e]) := by
  rw [run_attempt_eq, attempted_of_none (ho done e)]
  rfl

theorem run_put (line : String) (h : Handler) (done : List Event) :
    (h.put o.host line).run done = ((), done ++ h.events line) := by
  cases h with
  | nowhere => exact congrArg _ (List.append_nil done).symm
  | console => rfl
  | file => rfl

theorem run_log (l : Logger) (r : Record) (done : List Event) :
    (l.log o.host r).run done = ((), done ++ o.lines l done r) := by
  have hput : ∀ (hs : List Handler) (line : String) (done : List Event),
      (hs.forM (Handler.put o.host line)).run done
        = ((), done ++ hs.flatMap (Handler.events line)) := by
    intro hs line
    induction hs with
    | nil =>
      intro done
      rw [List.flatMap_nil, List.append_nil]
      rfl
    | cons h hs ih =>
      intro done
      rw [List.forM_eq_forM, List.forM_cons, run_bind (run_put line h done),
        ← List.forM_eq_forM, ih]
      simp
  exact hput (l.receivers r) (o.lineStart done ++ r.text ++ "\n") done

/-- Making handlers has them unless a file of theirs fails. -/
theorem run_makeHandlers_eq (s : Setup) (stamp : String) (done : List Event) :
    (s.makeHandlers o.host stamp).run done
      = ((answer (upToFailure o.attempted done (s.events stamp)).2).map fun _ => s.handlers stamp,
        done ++ (upToFailure o.attempted done (s.events stamp)).1) := by
  rw [Setup.makeHandlers, Setup.events]
  cases s.hasFile with
  | false =>
    simp only [Bool.false_eq_true, if_false, upToFailure, List.append_nil]
    rfl
  | true =>
    -- the file is opened on an outside that has its directory already
    rw [if_neg (by simp), if_pos rfl]
    show (o.attempt _ >>= _ : StateM (List Event) _).run done = _
    rw [run_attempt_bind done _ (by exact fun _ => rfl)]
    cases hmade : o.fault? done (.directory s.directory.text) with
    | some f => simp [upToFailure, attempted, hmade, answer, Except.map]
    | none =>
      show (o.attempt _ >>= _ : StateM (List Event) _).run _ = _
      rw [run_attempt_bind _ _ (by exact fun _ => rfl)]
      cases hopened : o.fault? (done ++ [.directory s.directory.text])
          (.opened (s.filePath stamp).text) with
      | some f => simp [upToFailure, attempted, hmade, hopened, answer, Except.map]
      | none =>
        simp only [upToFailure, attempted, hmade, hopened, List.append_assoc]
        rfl

/-- Setting up the log puts the logger in place unless it fails. -/
theorem run_configure_eq (l : Logger) (s : Setup) (done : List Event) :
    (l.configure o.host s).run done
      = ((answer (o.configured done s).2).map fun _ => l.install s (o.logStamp done),
        done ++ (o.configured done s).1) := by
  have hstamp : o.host.logStamp.run done = (o.logStamp done, done) := rfl
  rw [Logger.configure_eq, run_bind hstamp, run_bind (run_makeHandlers_eq s _ done), configured]
  rcases upToFailure o.attempted done (s.events (o.logStamp done)) with ⟨made, _ | f⟩
  · rw [← Logger.replace_handlers]
    rfl
  · rfl

/-- Where operations succeed, setting up the log makes all it needs and puts the logger in place. -/
theorem run_configure (ho : o.Succeeds) (l : Logger) (s : Setup) (done : List Event) :
    (l.configure o.host s).run done
      = (.ok (l.install s (o.logStamp done)), done ++ s.events (o.logStamp done)) := by
  rw [run_configure_eq, configured, upToFailure_attempted ho]
  rfl

/-- Steps that log are done, on any outside, and the steps after them follow. -/
theorem run_perform_logs (l : Logger) (steps : List Step) : ∀ (rs : List Record)
    (done : List Event), (Build.perform o.host l (rs.map .log ++ steps)).run done
      = (Build.perform o.host l steps).run (done ++ o.logged l done rs)
  | [], done => by rw [logged, List.append_nil, List.map_nil, List.nil_append]
  | r :: rs, done => by
    have hstep : (Build.performStep o.host l (.log r)).run done
        = (.ok (), done ++ o.lines l done r) := by
      rw [Build.performStep, run_bind (run_log l r done)]
      rfl
    rw [List.map_cons, List.cons_append, Build.perform, run_bind hstep]
    show (Build.perform o.host l (rs.map .log ++ steps)).run _ = _
    rw [run_perform_logs l steps rs, logged, List.append_assoc]

/-- A file that is saved is written after its directory was made, and the steps after it follow. -/
theorem run_perform_save (ho : o.Succeeds) (l : Logger) (steps : List Step)
    (dir path content : String) (done : List Event) :
    (Build.perform o.host l (.save dir path content :: steps)).run done
      = (Build.perform o.host l steps).run (done ++ [.directory dir, .written path content]) := by
  have hstep : (Build.performStep o.host l (.save dir path content)).run done
      = (.ok (), done ++ [.directory dir, .written path content]) := by
    show (o.attempt _ >>= _ : StateM (List Event) _).run done = _
    rw [run_bind (run_attempt ho done (.directory dir))]
    show (o.attempt _).run _ = _
    rw [run_attempt ho, List.append_assoc]
    rfl
  rw [Build.perform, run_bind hstep]

end Outside

end QueryDraft
