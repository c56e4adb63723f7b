import SearchFilter.Proofs.Command.Printing

/-! # A width given without several lines being asked for

A width on the command line spreads a filter over several lines, whether `--pretty` is given or not.
The width is all it sets: the character that fills the lines is that of the configuration only if
`--pretty` or the configuration asks for several lines, and a blank otherwise (`printLayout_some`).
The fill shows in every filter that is laid out over several lines (`layOut_eq_layOut_iff`), so two
command lines that differ in `--pretty` alone print the same exactly where the fill is the same or
does not show (`runArguments_eq_runArguments_iff`).  With another fill in the configuration they
print differently (`runArguments_indent_ne_pretty`). -/

namespace SearchFilter

/-! ### Where the fill shows -/

namespace Filter

/-- A layout with a width spreads the filter over several lines. -/
def isSpread : Filter → Bool
  | comparison _ => false
  | group kind _ => kind != .not

theorem exists_layOut_eq (l : Layout) (level : Nat) (f : Filter) :
    ∃ s, f.layOut l level = l.indentation level ++ s := by
  cases f with
  | comparison c => exact ⟨_, layOut_comparison l level c⟩
  | group kind children => exact ⟨_, layOut_group l level kind children⟩

theorem indentation_zero (l : Layout) : l.indentation 0 = [] := by
  simp [Layout.indentation]

theorem layOut_eq_text {l : Layout} {f : Filter} (h : l.width = 0 ∨ f.isSpread = false) :
    f.layOut l 0 = f.text := by
  cases f with
  | comparison c => rw [layOut_comparison, indentation_zero, List.nil_append, text]
  | group kind children =>
      have hline : (l.isCompact || kind == .not) = true := by
        rcases h with hwidth | hkind
        · simp [Layout.isCompact, hwidth]
        · simpa [isSpread] using Or.inr hkind
      rw [layOut_group, if_pos hline, indentation_zero, List.nil_append]

/-- The first member of a group over several lines stands behind the fill. -/
theorem getElem?_layOut {l : Layout} {kind : Connective} {f : Filter} {fs : List Filter}
    (hwidth : l.width ≠ 0) (hkind : kind ≠ .not) :
    (layOut l 0 (.group kind (f :: fs)))[3]? = some l.fill := by
  have hline : ¬ (l.isCompact || kind == .not) = true := by
    simp [Layout.isCompact, hwidth, hkind]
  obtain ⟨s, hs⟩ := exists_layOut_eq l 1 f
  obtain ⟨n, hn⟩ := Nat.exists_eq_succ_of_ne_zero hwidth
  have hindent : l.indentation 1 = l.fill :: List.replicate n l.fill := by
    rw [Layout.indentation, hn, Nat.one_mul, List.replicate_succ]
  rw [layOut_group, if_neg hline, indentation_zero, layOutAll_cons, hs, hindent]
  rfl

/-- Two fills make no difference if they are the same, or if the filter is laid out on one line. -/
theorem layOut_eq_layOut_iff {f : Filter} (hf : f.Readable) {width : Nat} {a b : Char} :
    f.layOut ⟨width, a⟩ 0 = f.layOut ⟨width, b⟩ 0 ↔ a = b ∨ width = 0 ∨ f.isSpread = false := by
  constructor
  · intro h
    by_cases hline : width = 0 ∨ f.isSpread = false
    · exact .inr hline
    · obtain ⟨hwidth, hspread⟩ := not_or.mp hline
      cases f with
      | comparison c => exact absurd rfl hspread
      | group kind children =>
          have hkind : kind ≠ .not := by simpa [isSpread] using hspread
          obtain ⟨g, gs, rfl⟩ := List.exists_cons_of_ne_nil
            (Connective.ne_nil_of_admits (every_group.mp hf).1)
          have hfill (c : Char) : (layOut ⟨width, c⟩ 0 (.group kind (g :: gs)))[3]? = some c :=
            getElem?_layOut hwidth hkind
          have ha := hfill a
          rw [h, hfill b] at ha
          exact .inl (Option.some.inj ha).symm
  · rintro (rfl | hline)
    · rfl
    · rw [layOut_eq_text hline, layOut_eq_text hline]

end Filter

namespace Command

/-! ### A width on the command line -/

/-- A width sets the width only: the fill of the configuration counts where several lines are asked
for, and otherwise the fill is a blank. -/
theorem printLayout_some (rules : PrintRules) (pretty : Bool) (width : Nat)
    (indentChar : Option Char) : printLayout rules pretty (some width) indentChar =
      ⟨width, indentChar.getD (if rules.pretty || pretty then rules.indentChar else ' ')⟩ := by
  unfold printLayout PrintRules.toLayout PrintRules.spread
  cases rules.pretty with
  | true =>
      cases pretty with
      | true =>
          simp only [if_true, Bool.true_and, Option.getD_some, Bool.or_true]
          split <;> rfl
      | false => rfl
  | false => cases pretty <;> rfl

/-- The fill is the same with `--pretty` as without if it counts anyway, or if it is a blank. -/
theorem fill_eq_fill_iff (rules : PrintRules) (indentChar : Option Char) :
    indentChar.getD (if rules.pretty || false then rules.indentChar else ' ') =
        indentChar.getD (if rules.pretty || true then rules.indentChar else ' ') ↔
      rules.pretty = true ∨ indentChar.isSome = true ∨ rules.indentChar = ' ' := by
  cases indentChar with
  | some c => simp
  | none =>
      cases rules.pretty with
      | true => simp
      | false =>
          simp only [Bool.or_false, Bool.or_true, Bool.false_eq_true, if_false, if_true,
            Option.getD_none, Option.isSome_none, false_or]
          exact eq_comm

/-- A width behind the filter, and further options behind it. -/
theorem ofArguments_indent {environment : Option Text} {before more : List Text}
    {outer inner : Given} {s digits : Text} {width : Nat} (hbefore : Gives none before {} outer)
    (hs : IsPlain s) (hwidth : Denotes width digits)
    (hmore : Gives (some .parse) more { operand := some s, indent := some width } inner)
    (hfilter : inner.operand = some s) (hfits : EnvironmentFits environment outer inner) :
    Line.ofArguments environment
        (before ++ "parse".toList :: s :: "--indent".toList :: digits :: more) =
      .ok (Printer.parse.line environment s outer inner) := by
  have hafter : Gives (some .parse) (s :: (["--indent".toList, digits] ++ more)) {} inner :=
    .filter rfl hs (.option (.next (.indent rfl hwidth) hwidth.isPlain) hmore)
  exact ofArguments_of_gives hbefore hafter hfilter hfits

section
variable {environment : Option Text} {files : Files} {line : Line} {config : Config} {s : Text}
  {f : Filter} {indentChar : Option Char} {simplified : Bool}

theorem runArguments_print {arguments : List Text} {pretty : Bool} {indent : Option Nat}
    (hline : Line.ofArguments environment arguments = .ok line)
    (htask : line.task = .print s pretty indent indentChar simplified)
    (hconfig : Config.load files line.config = .ok config) (hf : Filter.parse s = .ok f)
    (terminal : Bool) :
    runArguments environment files terminal arguments =
      ⟨0, newline ((if simplified then f.simplify else f).layOut
          (printLayout config.printing pretty indent indentChar) 0),
        if line.isVerbose then line.diagnostics config else []⟩ := by
  have hread : readFilter s = .ok f := by rw [readFilter, hf]
  have hrun : line.task.run files config (line.color.isOn terminal) line.isVerbose line.quiet =
      .ok ⟨newline ((if simplified then f.simplify else f).layOut
        (printLayout config.printing pretty indent indentChar) 0), []⟩ := by
    rw [htask, Task.run, hread]
    rfl
  rw [runArguments_eq_run hline, Line.run_of_task hconfig hrun, List.append_nil]

/-- **What a width leaves out**: of two command lines with a width that differ in `--pretty` alone,
both have the same outcome exactly if the configuration asks for several lines itself, if the fill
is given too or is a blank anyway, or if the filter is printed on one line, be it for its form or
for the width zero. -/
theorem runArguments_eq_runArguments_iff {arguments arguments' : List Text} {width : Nat}
    (hline : Line.ofArguments environment arguments = .ok line)
    (htask : line.task = .print s false (some width) indentChar simplified)
    (hline' : Line.ofArguments environment arguments' =
      .ok { line with task := .print s true (some width) indentChar simplified })
    (hconfig : Config.load files line.config = .ok config) (hf : Filter.parse s = .ok f)
    (terminal : Bool) :
    runArguments environment files terminal arguments =
        runArguments environment files terminal arguments' ↔
      config.printing.pretty = true ∨ indentChar.isSome = true ∨ config.printing.indentChar = ' ' ∨
        width = 0 ∨ (if simplified then f.simplify else f).isSpread = false := by
  have hread : (if simplified then f.simplify else f).Readable := by
    have hform := (Filter.inputForm_of_parse hf).1.readable
    cases simplified with
    | true => exact Filter.Every.simplify hform
    | false => exact hform
  -- what is reported on standard error does not depend on the task
  have hrun' : runArguments environment files terminal arguments' =
      ⟨0, newline ((if simplified then f.simplify else f).layOut
          (printLayout config.printing true (some width) indentChar) 0),
        if line.isVerbose then line.diagnostics config else []⟩ :=
    runArguments_print hline' rfl hconfig hf terminal
  rw [runArguments_print hline htask hconfig hf, hrun', Outcome.mk.injEq, newline, newline,
    List.append_left_inj, printLayout_some, printLayout_some, Filter.layOut_eq_layOut_iff hread,
    fill_eq_fill_iff]
  simp only [true_and, and_true, or_assoc]

end

/-- The configuration fills with dashes; a width that comes with a fill of its own spreads the
filter as `--pretty` does. -/
theorem runArguments_indent_eq_pretty :
    let files : Files := fun _ =>
      .ok ("[format]\nindent_char = \"-\"".toList.map fun c => c.toNat.toUInt8)
    let run (options : List String) := runArguments none files false
      ((["--config", "c", "parse", "(|(a=1)(b=2))", "--indent", "2"] ++ options).map String.toList)
    run ["--indent-char=\t"] = run ["--indent-char=\t", "-p"] := by
  intro files run
  have hf : Filter.parse "(|(a=1)(b=2))".toList = .ok (.group .or
      [.comparison ⟨['a'], .equality, ['1']⟩, .comparison ⟨['b'], .equality, ['2']⟩]) := by rfl
  have hconfig : Config.load files (some ['c']) = .ok ⟨⟨false, 4, '-'⟩, .natural⟩ := by rfl
  have hfront : Gives none (["--config", "c"].map String.toList) {} { config := some ['c'] } :=
    .option (.next (.config rfl (List.cons_ne_nil _ _)) (by trivial)) .nil
  have hplain : IsPlain "(|(a=1)(b=2))".toList := trivial
  have hwidth : Denotes 2 ['2'] := denotes_ofNat (by decide)
  have hfill : Gives (some .parse) ["--indent-char=\t".toList]
      { operand := some "(|(a=1)(b=2))".toList, indent := some 2 } _ :=
    .option (.equals (.indentChar rfl '\t')) .nil
  have hpretty : Gives (some .parse) ["--indent-char=\t".toList, "-p".toList]
      { operand := some "(|(a=1)(b=2))".toList, indent := some 2 } _ :=
    .option (.equals (.indentChar rfl '\t')) (.option (.letters (.last (.pretty rfl))) .nil)
  have hline := ofArguments_indent hfront hplain hwidth hfill rfl
    (environmentFits_none _ _)
  have hline' := ofArguments_indent hfront hplain hwidth hpretty rfl
    (environmentFits_none _ _)
  exact (runArguments_eq_runArguments_iff hline rfl hline' hconfig hf false).mpr (.inr (.inl rfl))

/-- The configuration fills with dashes, but a width alone spreads the filter with blanks. -/
theorem runArguments_indent_ne_pretty :
    let files : Files := fun _ =>
      .ok ("[format]\nindent_char = \"-\"".toList.map fun c => c.toNat.toUInt8)
    let run (options : List String) := runArguments none files false
      ((["--config", "c", "parse", "(|(a=1)(b=2))", "--indent", "2"] ++ options).map String.toList)
    (run []).output = "(|\n  (a=1)\n  (b=2)\n)\n".toList ∧
      (run ["--pretty"]).output = "(|\n--(a=1)\n--(b=2)\n)\n".toList := by
  intro files run
  have hf : Filter.parse "(|(a=1)(b=2))".toList = .ok (.group .or
      [.comparison ⟨['a'], .equality, ['1']⟩, .comparison ⟨['b'], .equality, ['2']⟩]) := by rfl
  have hconfig : Config.load files (some ['c']) = .ok ⟨⟨false, 4, '-'⟩, .natural⟩ := by rfl
  have hfront : Gives none (["--config", "c"].map String.toList) {} { config := some ['c'] } :=
    .option (.next (.config rfl (List.cons_ne_nil _ _)) (by trivial)) .nil
  have hplain : IsPlain "(|(a=1)(b=2))".toList := trivial
  have hwidth : Denotes 2 ['2'] := denotes_ofNat (by decide)
  have hpretty : Gives (some .parse) ["--pretty".toList]
      { operand := some "(|(a=1)(b=2))".toList, indent := some 2 } _ :=
    .option (.long (.pretty rfl)) .nil
  have hline := ofArguments_indent hfront hplain hwidth .nil rfl
    (environmentFits_none _ _)
  have hline' := ofArguments_indent hfront hplain hwidth hpretty rfl
    (environmentFits_none _ _)
  constructor
  · rw [show run [] = _ from runArguments_print hline rfl hconfig hf false]
    rfl
  · rw [show run ["--pretty"] = _ from runArguments_print hline' rfl hconfig hf false]
    rfl

end Command
end SearchFilter
