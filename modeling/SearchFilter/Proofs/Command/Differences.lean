import SearchFilter.Proofs.Command.Printing
import SearchFilter.Proofs.Diff.Changes
import SearchFilter.Proofs.Filter.Shrinking

/-! # Differences that simplification makes

The difference that `simplify --diff` prints is one of two layouts over several lines.  Whatever the
configuration, a filter that simplification changes is laid out as another text
(`Filter.layOut_simplify_eq_iff`), and the difference of two texts shows a deleted or inserted line
exactly if they are not the same (`Diff.exists_marked_ofTexts_iff`).  So the difference shows such a
line exactly if simplification changes the filter (`runArguments_diff_marked_iff`). -/

namespace SearchFilter.Command

theorem exists_marked_simplificationDiff_iff (rules : PrintRules) (f : Filter) :
    (∃ line ∈ Text.splitOn '\n' (simplificationDiff rules false f), Diff.Marked line) ↔
      f.simplify ≠ f := by
  -- a width of zero is taken for one here
  have hwidth : rules.spread.width ≠ 0 := Nat.ne_of_gt (Nat.le_max_right _ 1)
  rw [simplificationDiff, Diff.exists_marked_ofTexts_iff, ne_comm, ne_eq,
    Filter.layOut_simplify_eq_iff hwidth]

/-- **A difference is shown exactly where there is one**: without colors, and under every
configuration, the difference that simplification makes to a filter has a line with a minus or plus
sign in front exactly if the simplified filter is another one. -/
theorem runArguments_diff_marked_iff {environment : Option Text} {files : Files} {terminal : Bool}
    {arguments : List Text} {line : Line} {config : Config} {s : Text} {f : Filter}
    (hline : Line.ofArguments environment arguments = .ok line)
    (htask : line.task = .simplify s true) (hcolor : line.color.isOn terminal = false)
    (hconfig : Config.load files line.config = .ok config) (hf : Filter.parse s = .ok f) :
    let outcome := runArguments environment files terminal arguments
    outcome.exitCode = 0 ∧
      ((∃ shown ∈ Text.splitOn '\n' outcome.output,
          ∃ mark ∈ ['-', '+'], ∃ rest, shown = mark :: rest) ↔ f.simplify ≠ f) := by
  intro outcome
  have hread : readFilter s = .ok f := by rw [readFilter, hf]
  have hrun : ∃ note, line.task.run files config (line.color.isOn terminal) line.isVerbose
      line.quiet = .ok ⟨simplificationDiff config.printing false f, note⟩ := by
    rw [htask, hcolor, Task.run, hread]
    exact ⟨_, rfl⟩
  obtain ⟨note, hrun⟩ := hrun
  have houtcome : outcome = line.run files terminal := runArguments_eq_run hline
  rw [houtcome, Line.run_of_task hconfig hrun]
  exact ⟨rfl, exists_marked_simplificationDiff_iff config.printing f⟩

/-- A width of zero and a parenthesis as the fill, and a group that adds nothing inside a negation,
around a value with a line break. -/
theorem runArguments_diff_hidden :
    let f : Filter := .group .or
      [.group .not [.group .and [.comparison ⟨['a'], .equality, ['\r', '\n', '1']⟩]],
        .comparison ⟨['b'], .equality, ['2']⟩]
    let outcome := runArguments none
      (fun _ => .ok ("[format]\nindent_width = 0\nindent_char = \"(\"".toList.map
        fun c => c.toNat.toUInt8)) true
      (["--config", "c", "--color", "never", "simplify", "--diff",
        "(|(!(&(a=\r\n1)))(b=2))"].map String.toList)
    outcome.exitCode = 0 ∧
      ((∃ shown ∈ Text.splitOn '\n' outcome.output,
          ∃ mark ∈ ['-', '+'], ∃ rest, shown = mark :: rest) ↔ f.simplify ≠ f) := by
  have hf : Filter.parse "(|(!(&(a=\r\n1)))(b=2))".toList = .ok (.group .or
      [.group .not [.group .and [.comparison ⟨['a'], .equality, ['\r', '\n', '1']⟩]],
        .comparison ⟨['b'], .equality, ['2']⟩]) := by rfl
  have hplain : IsPlain "(|(!(&(a=\r\n1)))(b=2))".toList := trivial
  have hfront : Gives none (["--config", "c", "--color", "never"].map String.toList) {} _ :=
    .option (.next (.config rfl (List.cons_ne_nil _ _)) (by trivial))
      (.option (.next (.color rfl .never) trivial) .nil)
  have hbehind : Gives (some .simplify)
      (["--diff", "(|(!(&(a=\r\n1)))(b=2))"].map String.toList) {} _ :=
    .option (.long (.diff rfl)) (.filter rfl hplain .nil)
  have hline := ofArguments_of_gives hfront hbehind rfl (environmentFits_none _ _)
  have hconfig : Config.load (fun _ => .ok
      ("[format]\nindent_width = 0\nindent_char = \"(\"".toList.map fun c => c.toNat.toUInt8))
      (some ['c']) = .ok ⟨⟨false, 0, '('⟩, .natural⟩ := by rfl
  exact runArguments_diff_marked_iff hline rfl rfl hconfig hf

end SearchFilter.Command
