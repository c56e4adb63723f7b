import SearchFilter.Command.Run
import SearchFilter.Proofs.Command.Reading
import SearchFilter.Proofs.Filter.Canonical
import SearchFilter.Proofs.Filter.Layouts

/-! # Commands that print a filter

Two commands read one filter and print one: `parse`, which may simplify it, and `simplify`, unless
it is asked for the difference.  What is given behind the name of the command decides what is done to
the filter (`Printer.change`) and in which layout the result is printed (`Printer.layout`).  The
diagnostics of a run go elsewhere, so all of its output is this filter and a line break
(`Line.run_of_task`, `Printer.run_task`), and if the layout is filled with blanks, the output is
parsed as the filter again (`parse_output_of_gives`). -/

namespace SearchFilter.Command

namespace Printer

/-- What the command does to its filter. -/
def change (g : Given) (f : Filter) : Printer → Filter
  | parse => if g.simplify then f.simplify else f
  | simplify => f.simplify

/-- The layout in which the command prints. -/
def layout (rules : PrintRules) (g : Given) : Printer → Layout
  | parse => printLayout rules g.pretty g.indent g.indentChar
  | simplify => rules.toLayout

variable {command : Printer} {g : Given} {f : Filter}

theorem change_eq_or (command : Printer) (g : Given) (f : Filter) :
    command.change g f = f ∨ command.change g f = f.simplify := by
  cases command with
  | parse =>
      rw [change]
      cases g.simplify with
      | false => exact .inl rfl
      | true => exact .inr rfl
  | simplify => exact .inr rfl

theorem alike_change (command : Printer) (g : Given) (f : Filter) :
    Filter.Alike f (command.change g f) := by
  rcases command.change_eq_or g f with h | h
  · rw [h]
    exact .refl f
  · rw [h]
    exact f.alike_simplify

theorem readable_change (hf : f.Readable) : (command.change g f).Readable := by
  rcases command.change_eq_or g f with h | h
  · rwa [h]
  · rw [h]
    exact Filter.Every.simplify hf

theorem levels_change_le (command : Printer) (g : Given) (f : Filter) :
    (command.change g f).levels ≤ f.levels := by
  rcases command.change_eq_or g f with h | h
  · rw [h]
  · rw [h]
    exact f.levels_simplify_le

/-- The command writes the filter in its layout to the output, and nothing else. -/
theorem run_task {s : Text} (config : Config) (hdiff : command = .simplify → g.diff = false)
    (hf : Filter.parse s = .ok f) (files : Files) (color verbose quiet : Bool) :
    ∃ errors, (command.task s g).run files config color verbose quiet =
      .ok ⟨newline ((command.change g f).layOut (command.layout config.printing g) 0), errors⟩ := by
  have hread : readFilter s = .ok f := by rw [readFilter, hf]
  cases command with
  | parse =>
      rw [task, Task.run, hread]
      exact ⟨[], rfl⟩
  | simplify =>
      rw [task, Task.run, hread, hdiff rfl]
      exact ⟨_, rfl⟩

end Printer

/-- What a command line writes if its configuration is loaded and its task succeeds. -/
theorem Line.run_of_task {line : Line} {files : Files} {terminal : Bool} {config : Config}
    {w : Written} (hconfig : Config.load files line.config = .ok config)
    (htask : line.task.run files config (line.color.isOn terminal) line.isVerbose line.quiet =
      .ok w) :
    line.run files terminal =
      ⟨0, w.output, (if line.isVerbose then line.diagnostics config else []) ++ w.errors⟩ := by
  rw [run, result, hconfig]
  dsimp only
  rw [htask]
  rfl

/-- **What is printed is the same filter**: whatever is given in front of the name of the command and
behind it, under any configuration, if the layout is filled with blanks, the output is parsed as the
filter of the arguments, or as its simplified form where that is asked for, and holds for the same
records. -/
theorem parse_output_of_gives {command : Printer} {environment : Option Text} {files : Files}
    {before after : List Text} {outer inner : Given} {config : Config} {s : Text} {f : Filter}
    (hbefore : Gives none before {} outer) (hafter : Gives (some command) after {} inner)
    (hfilter : inner.operand = some s) (hdiff : command = .simplify → inner.diff = false)
    (hfits : EnvironmentFits environment outer inner)
    (hconfig : Config.load files (inner.config <|> outer.config <|> environment) = .ok config)
    (hfill : Text.isBlank (command.layout config.printing inner).fill = true)
    (hf : Filter.parse s = .ok f) (terminal : Bool) :
    let outcome := runArguments environment files terminal (before ++ command.name :: after)
    outcome.exitCode = 0 ∧ Filter.parse outcome.output = .ok (command.change inner f) ∧
      ∀ (ρ : Type) [Record ρ] (r : ρ) (policy : OrderPolicy),
        (command.change inner f).holds r policy = f.holds r policy := by
  intro outcome
  let line := command.line environment s outer inner
  obtain ⟨errors, htask⟩ := command.run_task config hdiff hf files (line.color.isOn terminal)
    line.isVerbose line.quiet
  have hrun : outcome = line.run files terminal :=
    runArguments_eq_run (ofArguments_of_gives hbefore hafter hfilter hfits)
  rw [Line.run_of_task hconfig htask] at hrun
  obtain ⟨hform, hn⟩ := Filter.inputForm_of_parse hf
  have hread : (command.change inner f).Readable := Printer.readable_change hform.readable
  have hlevels : (command.change inner f).levels ≤ Filter.maxDepth :=
    (command.levels_change_le inner f).trans hn
  have hbreak : Text.AllBlank ['\n'] := by
    intro c hc
    rw [List.mem_singleton.mp hc]
    decide
  rw [hrun]
  refine ⟨rfl, ?_, fun ρ _ r policy => ?_⟩
  · exact hread.parse_layOut_append hfill hlevels 0 hbreak
  · exact ((command.alike_change inner f).holds_eq r policy).symm

/-- Tabs and the width of the configuration, with and without simplification, and the command that
simplifies; the value keeps its blanks. -/
theorem parse_output_of_gives_tabs :
    let text := "(|(!(&(a= 1 )))(b=2))"
    let f : Filter := .group .or
      [.group .not [.group .and [.comparison ⟨['a'], .equality, [' ', '1', ' ']⟩]],
        .comparison ⟨['b'], .equality, ['2']⟩]
    let output (arguments : List String) := (runArguments none
      (fun _ => .ok ("[format]\nindent_width = 2".toList.map fun c => c.toNat.toUInt8)) false
      ((["--config", "c"] ++ arguments).map String.toList)).output
    Filter.parse (output ["parse", text, "-p", "--indent-char=\t"]) = .ok f ∧
      Filter.parse (output ["parse", "-ps", "--indent-char", "\t", "--", text]) = .ok f.simplify ∧
      Filter.parse (output ["simplify", text]) = .ok f.simplify := by
  intro text f output
  have hf : Filter.parse "(|(!(&(a= 1 )))(b=2))".toList = .ok (.group .or
      [.group .not [.group .and [.comparison ⟨['a'], .equality, [' ', '1', ' ']⟩]],
        .comparison ⟨['b'], .equality, ['2']⟩]) := by rfl
  have hplain : IsPlain "(|(!(&(a= 1 )))(b=2))".toList := trivial
  have hconfig : Config.load
      (fun _ => .ok ("[format]\nindent_width = 2".toList.map fun c => c.toNat.toUInt8))
      (some ['c']) = .ok ⟨⟨false, 2, ' '⟩, .natural⟩ := by rfl
  have hfront : Gives none (["--config", "c"].map String.toList) {} { config := some ['c'] } :=
    .option (.next (.config rfl (List.cons_ne_nil _ _)) (by trivial)) .nil
  have hpretty : Gives (some .parse) ([text, "-p", "--indent-char=\t"].map String.toList) {} _ :=
    .filter rfl hplain (.option (.letters (.last (.pretty rfl)))
      (.option (.equals (.indentChar rfl '\t')) .nil))
  have hboth : Gives (some .parse) (["-ps", "--indent-char", "\t", "--", text].map String.toList) {}
      _ :=
    .option (.letters (.cons (.pretty rfl) (.last (.simplify rfl))))
      (.option (.next (.indentChar rfl '\t') trivial) (.last rfl _))
  have hsimplify : Gives (some .simplify) ([text].map String.toList) {} _ :=
    .filter rfl hplain .nil
  refine ⟨?_, ?_, ?_⟩
  · exact (parse_output_of_gives hfront hpretty rfl (fun _ => rfl) (environmentFits_none _ _) hconfig
      (by decide) hf false).2.1
  · exact (parse_output_of_gives hfront hboth rfl (fun _ => rfl) (environmentFits_none _ _) hconfig
      (by decide) hf false).2.1
  · exact (parse_output_of_gives hfront hsimplify rfl (fun _ => rfl) (environmentFits_none _ _)
      hconfig (by decide) hf false).2.1

end SearchFilter.Command
