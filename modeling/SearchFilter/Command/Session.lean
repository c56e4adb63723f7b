import SearchFilter.Command.Run

/-!
# Sessions

A session carries a command line out step by step.  It takes up what it needs, and fails with a
chain of causes where that cannot be had; it writes to standard output and to standard error as it
goes, and what is written before a failure stays written.  `Line.session` has the steps of all
commands in their order; what it leaves behind is `Line.run`.
-/

namespace SearchFilter.Command

/-- What has been written so far. -/
structure Streams where
  output : Text := []
  errors : Text := []

/-- Steps that write to the streams, up to a failure if there is one. -/
abbrev Session := ExceptT (List Text) (StateM Streams)

namespace Session

variable {α β : Type}

/-- The steps carried out where something has been written already. -/
def runFrom (m : Session α) (w : Streams) : Except (List Text) α × Streams :=
  m.run.run w

def write (s : Text) : Session Unit :=
  modify fun w => { w with output := w.output ++ s }

def note (s : Text) : Session Unit :=
  modify fun w => { w with errors := w.errors ++ s }

/-- Writes to standard error, if that is asked for. -/
def noteIf (asked : Bool) (s : Text) : Session Unit :=
  if asked then note s else pure ()

/-- Takes up what is needed, or fails for want of it. -/
def require (x : Except (List Text) α) : Session α :=
  ExceptT.mk (pure x)

def outcome (m : Session Unit) : Outcome :=
  match m.runFrom {} with
  | (.ok (), w) => ⟨0, w.output, w.errors⟩
  | (.error chain, w) =>
    ⟨1, w.output, w.errors ++ newline ("Error: ".toList ++ Json.separated ": ".toList chain)⟩

theorem runFrom_bind (m : Session α) (next : α → Session β) (w : Streams) :
    (m >>= next).runFrom w = match m.runFrom w with
      | (.ok a, w') => (next a).runFrom w'
      | (.error chain, w') => (.error chain, w') := by
  unfold runFrom
  rw [ExceptT.run_bind, StateT.run_bind]
  rcases m.run.run w with ⟨_ | _, _⟩
  · rfl
  · rfl

@[simp] theorem runFrom_write (s : Text) (w : Streams) :
    (write s).runFrom w = (.ok (), { w with output := w.output ++ s }) := rfl

@[simp] theorem runFrom_note (s : Text) (w : Streams) :
    (note s).runFrom w = (.ok (), { w with errors := w.errors ++ s }) := rfl

@[simp] theorem runFrom_noteIf (asked : Bool) (s : Text) (w : Streams) :
    (noteIf asked s).runFrom w =
      (.ok (), { w with errors := w.errors ++ if asked then s else [] }) := by
  cases asked with
  | false => simp [noteIf, runFrom]; rfl
  | true => rfl

@[simp] theorem runFrom_require (x : Except (List Text) α) (w : Streams) :
    (require x).runFrom w = (x, w) := rfl

end Session

open Session

/-- The steps of a task. -/
def Task.session (task : Task) (files : Files) (config : Config) (color verbose quiet : Bool) :
    Session Unit :=
  match task with
  | .print filter pretty indent indentChar simplified => do
    let f ← require (readFilter filter)
    let f := if simplified then f.simplify else f
    write (newline (f.layOut (printLayout config.printing pretty indent indentChar) 0))
  | .simplify filter diff => do
    let f ← require (readFilter filter)
    noteIf (verbose && f.simplify == f) (newline "Filter is already simplified".toList)
    write (if diff then simplificationDiff config.printing color f
      else newline (f.simplify.layOut config.printing.toLayout 0))
  | .select filter path format ordering => do
    let f ← require (readFilter filter)
    let entries ← require ((Entry.loadAll files path).mapError LoadError.chain)
    let policy := ordering.getD config.ordering
    noteIf verbose (newline ("Filter: ".toList ++ f.text))
    noteIf verbose (newline ("Loaded ".toList ++ Text.ofNat entries.length
      ++ " records from ".toList ++ path))
    noteIf verbose (newline ("Ordering: ".toList ++ policyName policy))
    let selection := Selection.of f entries policy
    write (match format with
      | .text => selection.text color entries
      | .json => newline selection.json)
    noteIf (selection.indices.isEmpty && !quiet) (newline (Color.yellow.paint color noMatch))
  | .escape s => write (newline (SearchFilter.escape s))
  | .unescape s => write (newline (SearchFilter.unescape s))

/-- The steps of a command line. -/
def Line.session (line : Line) (files : Files) (terminal : Bool) : Session Unit := do
  let config ← require ((Config.load files line.config).mapError fun e =>
    "Failed to load config".toList :: e.chain)
  noteIf line.isVerbose (line.diagnostics config)
  line.task.session files config (line.color.isOn terminal) line.isVerbose line.quiet

end SearchFilter.Command
