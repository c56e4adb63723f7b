import SearchFilter.Command.Session
import SearchFilter.Proofs.Command.Flags

/-! # What is written before a failure

A session writes as it goes, and what is written stays written.  Yet a task takes up all that it
needs before it writes anything (`Task.runFrom_session`), so a command line that fails in the middle
has written diagnostics at most, and a session leaves behind what the result of the command line says
(`Line.outcome_session`).

The flags for diagnostics show on standard error only.  They change neither what a task writes to
standard output nor whether it fails (`Task.map_output_run`), and a task that is asked for silence
writes no notes (`Task.errors_of_run`).  Together that is what can be told of the streams of a run
from outside (`runArguments_streams`). -/

namespace SearchFilter.Command

open Session
open SearchFilter.Filter (bind_eq_ok_iff)

/-! ### Steps and results -/

/-- A task writes nothing before it has all that it needs, and then what its result says. -/
theorem Task.runFrom_session (task : Task) (files : Files) (config : Config)
    (color verbose quiet : Bool) (w : Streams) :
    (task.session files config color verbose quiet).runFrom w =
      match task.run files config color verbose quiet with
      | .ok r => (.ok (), ⟨w.output ++ r.output, w.errors ++ r.errors⟩)
      | .error chain => (.error chain, w) := by
  cases task with
  | print filter pretty indent indentChar simplified =>
      rw [session, run, runFrom_bind, runFrom_require]
      cases readFilter filter with
      | error chain => rfl
      | ok f => simp [bind, Except.bind, pure, Except.pure]
  | simplify filter diff =>
      rw [session, run, runFrom_bind, runFrom_require]
      cases readFilter filter with
      | error chain => rfl
      | ok f =>
          simp only [runFrom_bind, runFrom_noteIf, runFrom_write]
          rfl
  | select filter path format ordering =>
      rw [session, run, runFrom_bind, runFrom_require]
      cases readFilter filter with
      | error chain => rfl
      | ok f =>
          dsimp only
          rw [runFrom_bind, runFrom_require]
          cases (Entry.loadAll files path).mapError LoadError.chain with
          | error chain => rfl
          | ok entries =>
              simp only [runFrom_bind, runFrom_noteIf, runFrom_write]
              cases verbose with
              | false =>
                  simp only [Bool.false_eq_true, if_false, List.append_nil]
                  rfl
              | true =>
                  simp only [if_true, List.append_assoc]
                  rfl
  | escape s => simp [session, run]
  | unescape s => simp [session, run]

theorem Line.outcome_session (line : Line) (files : Files) (terminal : Bool) :
    (line.session files terminal).outcome = line.run files terminal := by
  rw [Session.outcome, session, runFrom_bind, runFrom_require, run, result]
  cases Config.load files line.config with
  | error e => simp [Except.mapError, Result.outcome]
  | ok config =>
      simp only [Except.mapError, runFrom_bind, runFrom_noteIf, Task.runFrom_session]
      cases line.task.run files config (line.color.isOn terminal) line.isVerbose line.quiet with
      | error chain => simp [Result.outcome]
      | ok w => simp [Result.outcome]

/-! ### Where nothing is written -/

theorem Result.output_of_exitCode_ne_zero {result : Result} (h : result.outcome.exitCode ≠ 0) :
    result.outcome.output = [] := by
  cases result with
  | error failure => rfl
  | ok w => exact absurd rfl h

/-- A task that is asked for silence and not for diagnostics writes no notes. -/
theorem Task.errors_of_run {task : Task} {files : Files} {config : Config} {color : Bool}
    {w : Written} (h : task.run files config color false true = .ok w) : w.errors = [] := by
  cases task with
  | print filter pretty indent indentChar simplified =>
      obtain ⟨f, -, h⟩ := bind_eq_ok_iff.mp h
      cases h
      rfl
  | simplify filter diff =>
      obtain ⟨f, -, h⟩ := bind_eq_ok_iff.mp h
      cases h
      rfl
  | select filter path format ordering =>
      obtain ⟨f, -, h⟩ := bind_eq_ok_iff.mp h
      obtain ⟨entries, -, h⟩ := bind_eq_ok_iff.mp h
      cases h
      simp
  | escape s => cases h; rfl
  | unescape s => cases h; rfl

/-- A run that is asked for silence writes nothing to standard error if it does not fail. -/
theorem Line.errors_of_quiet {line : Line} {files : Files} {terminal : Bool}
    (hquiet : line.quiet = true) (h : (line.run files terminal).exitCode = 0) :
    (line.run files terminal).errors = [] := by
  have hverbose : line.isVerbose = false := by simp [isVerbose, hquiet]
  revert h
  rw [run, result, hverbose, hquiet]
  cases Config.load files line.config with
  | error e => exact fun h => nomatch h
  | ok config =>
      dsimp only
      cases hrun : line.task.run files config (line.color.isOn terminal) false true with
      | error chain => exact fun h => nomatch h
      | ok w => exact fun _ => Task.errors_of_run hrun

/-! ### Where flags do not show -/

theorem Task.map_output_run (task : Task) (files : Files) (config : Config)
    (color verbose quiet verbose' quiet' : Bool) :
    (task.run files config color verbose quiet).map Written.output =
      (task.run files config color verbose' quiet').map Written.output := by
  cases task with
  | print filter pretty indent indentChar simplified => rfl
  | simplify filter diff =>
      rw [run, run]
      cases readFilter filter with
      | error chain => rfl
      | ok f => rfl
  | select filter path format ordering =>
      rw [run, run]
      cases readFilter filter with
      | error chain => rfl
      | ok f =>
          cases (Entry.loadAll files path).mapError LoadError.chain with
          | error chain => rfl
          | ok entries => rfl
  | escape s => rfl
  | unescape s => rfl

/-- Two outcomes differ in what is written to standard error, if at all. -/
def Outcome.Agrees (o o' : Outcome) : Prop :=
  o.exitCode = o'.exitCode ∧ o.output = o'.output

/-- Command lines that differ in the flags for diagnostics alone leave the same behind, apart from
diagnostics. -/
theorem Line.agrees_run (line : Line) (files : Files) (terminal : Bool) (verbose : Nat)
    (quiet : Bool) :
    (Line.run { line with verbose, quiet } files terminal).Agrees (line.run files terminal) := by
  rw [run, run, result, result]
  cases Config.load files line.config with
  | error e => exact ⟨rfl, rfl⟩
  | ok config =>
      dsimp only
      have hrun := Task.map_output_run line.task files config (line.color.isOn terminal)
        (isVerbose { line with verbose, quiet }) quiet line.isVerbose line.quiet
      generalize line.task.run files config _ line.isVerbose line.quiet = after at hrun ⊢
      generalize line.task.run files config _ _ _ = before at hrun ⊢
      cases before with
      | error chain =>
          cases after with
          | error chain' => exact ⟨rfl, rfl⟩
          | ok w' => cases hrun
      | ok w =>
          cases after with
          | error chain' => cases hrun
          | ok w' => exact ⟨rfl, Except.ok.inj hrun⟩

/-! ### Whole runs -/

section
variable {environment : Option Text} {files : Files} {terminal : Bool}
  {arguments arguments' : List Text} {line : Line}

theorem agrees_runArguments {verbose : Nat} {quiet : Bool}
    (hline : Line.ofArguments environment arguments = .ok line)
    (hline' : Line.ofArguments environment arguments' = .ok { line with verbose, quiet }) :
    (runArguments environment files terminal arguments').Agrees
      (runArguments environment files terminal arguments) := by
  rw [runArguments_eq_run hline', runArguments_eq_run hline]
  exact line.agrees_run files terminal verbose quiet

/-- A request for silence changes nothing but standard error, and nothing is left there if the run
succeeds. -/
theorem agrees_runArguments_of_quiet
    (hline : Line.ofArguments environment arguments = .ok line)
    (hline' : Line.ofArguments environment arguments' = .ok { line with quiet := true }) :
    (runArguments environment files terminal arguments').Agrees
        (runArguments environment files terminal arguments) ∧
      ((runArguments environment files terminal arguments).exitCode = 0 →
        (runArguments environment files terminal arguments').errors = []) := by
  have hsame : (runArguments environment files terminal arguments').Agrees
      (runArguments environment files terminal arguments) := agrees_runArguments hline hline'
  refine ⟨hsame, fun hcode => ?_⟩
  rw [← hsame.1] at hcode
  rw [runArguments_eq_run hline'] at hcode ⊢
  exact Line.errors_of_quiet rfl hcode

end

/-- **Failures leave standard output empty, and flags only show on standard error.**  A command line
is carried out step by step, and where a step fails, nothing has been written to standard output.
Command lines that differ in the flags for diagnostics alone, such as one with any number of requests
for diagnostics or with a request for silence, be it in front or right behind the name of the
command, have the same exit code and standard output; and where silence is asked for, a run that
succeeds writes nothing to standard error. -/
theorem runArguments_streams {environment : Option Text} {arguments : List Text} {line : Line}
    (hline : Line.ofArguments environment arguments = .ok line) (files : Files)
    (terminal : Bool) :
    let run := runArguments environment files terminal
    run arguments = (line.session files terminal).outcome ∧
      ((run arguments).exitCode ≠ 0 → (run arguments).output = []) ∧
      (∀ arguments' verbose quiet,
        Line.ofArguments environment arguments' = .ok { line with verbose, quiet } →
          (run arguments').Agrees (run arguments)) ∧
      (∀ n, (run (List.replicate n "-v".toList ++ arguments)).Agrees (run arguments)) ∧
      (line.quiet = false → (run ("-q".toList :: arguments)).Agrees (run arguments) ∧
        ((run arguments).exitCode = 0 → (run ("-q".toList :: arguments)).errors = [])) ∧
      (line.quiet = true → (run arguments).exitCode = 0 → (run arguments).errors = []) ∧
      ∃ before name after, arguments = before ++ name :: after ∧ Precedes before name ∧
        (∀ n, (run (before ++ name :: (List.replicate n "-v".toList ++ after))).Agrees
          (run arguments)) ∧
        (line.quiet = false →
          (run (before ++ name :: "-q".toList :: after)).Agrees (run arguments) ∧
          ((run arguments).exitCode = 0 →
            (run (before ++ name :: "-q".toList :: after)).errors = [])) := by
  intro run
  have hrun : run arguments = line.run files terminal := runArguments_eq_run hline
  refine ⟨?_, fun hcode => ?_, fun _ _ _ => agrees_runArguments hline, fun n => ?_, fun hquiet => ?_,
    fun hquiet hcode => ?_, ?_⟩
  · rw [hrun, Line.outcome_session]
  · rw [hrun] at hcode ⊢
    exact Result.output_of_exitCode_ne_zero hcode
  · obtain ⟨verbose, hline'⟩ :=
      exists_ofArguments_replicate id (fun h => exists_ofArguments_verbose h) hline n
    exact agrees_runArguments hline hline'
  · exact agrees_runArguments_of_quiet hline (ofArguments_quiet hline hquiet)
  · rw [hrun] at hcode ⊢
    exact Line.errors_of_quiet hquiet hcode
  · obtain ⟨before, name, after, rfl, hbefore⟩ := exists_precedes hline
    refine ⟨before, name, after, rfl, hbefore, fun n => ?_, fun hquiet => ?_⟩
    · obtain ⟨verbose, hline'⟩ := exists_ofArguments_replicate (fun after => before ++ name :: after)
        (fun h => exists_ofArguments_verbose_behind hbefore h) hline n
      exact agrees_runArguments hline hline'
    · exact agrees_runArguments_of_quiet hline (ofArguments_quiet_behind hbefore hline hquiet)

/-- The records are missing once and select nothing once, after diagnostics. -/
theorem runArguments_streams_records :
    let run (files : Files) := runArguments none files false
    let missing : Files := fun _ => .error .missing
    let void : Files := fun _ => .ok ("[]".toList.map fun c => c.toNat.toUInt8)
    let arguments := ["-vv", "match", "(a=1)", "--records=r"].map String.toList
    ((run missing arguments).exitCode = 1 ∧ (run missing arguments).output = []) ∧
      (run void arguments).exitCode = 0 ∧
      (run void ("-q".toList :: arguments)).Agrees (run void arguments) ∧
      (run void ("-q".toList :: arguments)).errors = [] := by
  intro run missing void arguments
  have hline : Line.ofArguments none arguments = .ok ⟨none, .auto, 2, false,
      .select "(a=1)".toList ['r'] .text none⟩ := by rfl
  have hmissing : (run missing arguments).exitCode = 1 := by rfl
  have hvoid : (run void arguments).exitCode = 0 := by rfl
  obtain ⟨-, hfailure, -⟩ := runArguments_streams hline missing false
  obtain ⟨-, -, -, -, hquiet, -⟩ := runArguments_streams hline void false
  obtain ⟨hagrees, hsilent⟩ := hquiet rfl
  exact ⟨⟨hmissing, hfailure (by rw [hmissing]; decide)⟩, hvoid, hagrees, hsilent hvoid⟩

end SearchFilter.Command
