import SearchFilter.Proofs.Command.Reading

/-! # Which command lines print a filter

Arguments that are read give what they are read as.  What an argument can do where no option waits
for its value is `Progress.Stands.argument_cases`; an option that waits gets its value from the next
argument (`exists_value_of_readArguments`) and is carried out by a later one, or in the end
(`exists_settle_of_readArguments`).  So no other arguments than those that `Gives` describes are read
as the line of a command that prints a filter (`ofArguments_eq_ok_iff_gives`). -/

namespace SearchFilter.Command

open SearchFilter.Filter (bind_eq_ok_iff)

section
variable {place : Option Printer} {g : Given} {s : Text} {c : Char} {ss : List Text}
  {p p' q : Progress} {level : Level} {effect : Effect} {found : Option (Text × List Text)}

namespace Progress

/-! ### What an argument does -/

theorem Stands.apply_cases (h : p.Stands g) (heq : p.apply effect = .ok p') :
    (∃ g', effect.Adds g g' ∧ p' = { given := g' }) ∨
      ∃ isSet set, effect = .value isSet set ∧
        p' = { given := g, pending := some (isSet, set, none) } := by
  rw [Progress.apply, h.settle_eq] at heq
  cases effect with
  | switch isSet set =>
      by_cases hset : isSet g = true
      · simp [bind, Except.bind, hset, throw, throwThe, MonadExceptOf.throw] at heq
      · simp [bind, Except.bind, hset, pure, Except.pure] at heq
        exact .inl ⟨set g, ⟨by simpa using hset, rfl⟩, heq.symm⟩
  | count set =>
      cases heq
      exact .inl ⟨set g, rfl, rfl⟩
  | value isSet set =>
      cases heq
      exact .inr ⟨isSet, set, rfl, rfl⟩
  | halt why => cases heq

theorem Stands.applyTo_cases (h : p.Stands g) (heq : p.applyTo effect s = .ok p') :
    ∃ g', effect.AddsValue s g g' ∧ p' = { given := g' } := by
  cases effect with
  | value isSet set =>
      obtain ⟨q, hq, heq⟩ := bind_eq_ok_iff.mp heq
      cases h.settle_eq.symm.trans hq
      rw [take_eq_map] at heq
      obtain ⟨g', hset, rfl⟩ := map_eq_ok_iff.mp heq
      exact ⟨g', ⟨isSet, set, rfl, hset⟩, rfl⟩
  | switch isSet set => cases heq
  | count set => cases heq
  | halt why => cases heq

theorem Stands.letters_cases (h : p.Stands g) (hs : s ≠ [])
    (heq : p.letters (levelOf place) s = .ok p') :
    ∃ g', Letters place s g g' ∧ p' = { given := g' } := by
  induction s generalizing p g with
  | nil => exact absurd rfl hs
  | cons c s ih =>
      cases hfind : (levelOf place).options.find? (·.letter == some c) with
      | none => simp [letters, hfind] at heq
      | some o =>
          have ho := List.mem_of_find?_eq_some hfind
          have hc : o.letter = some c := by simpa using List.find?_some hfind
          have hvalue := takesValue_of_letter ho hc
          rw [letters_cons hfind hvalue] at heq
          obtain ⟨q, hq, heq⟩ := bind_eq_ok_iff.mp heq
          rcases h.apply_cases hq with ⟨g₁, hadds, rfl⟩ | ⟨isSet, set, heffect, -⟩
          · obtain ⟨c', hc', hswitch⟩ := switches_of_mem ho hadds
            rw [hc] at hc'
            cases hc'
            by_cases hrest : s = []
            · subst hrest
              cases heq
              exact ⟨g₁, .last hswitch, rfl⟩
            · obtain ⟨g', hletters, rfl⟩ := ih (stands_given g₁) hrest heq
              exact ⟨g', .cons hswitch hletters, rfl⟩
          · rw [heffect] at hvalue
            cases hvalue

/-! What is carried out is carried out behind the waiting option. -/

theorem exists_settle_of_apply (h : p.apply effect = .ok p') : ∃ q, p.settle = .ok q := by
  obtain ⟨q, hq, -⟩ := bind_eq_ok_iff.mp h
  exact ⟨q, hq⟩

theorem exists_settle_of_applyTo (h : p.applyTo effect s = .ok p') : ∃ q, p.settle = .ok q := by
  cases effect with
  | value isSet set =>
      obtain ⟨q, hq, -⟩ := bind_eq_ok_iff.mp h
      exact ⟨q, hq⟩
  | switch isSet set => cases h
  | count set => cases h
  | halt why => cases h

theorem exists_settle_of_operand (h : p.operand level s = .ok p') : ∃ q, p.settle = .ok q := by
  unfold operand at h
  split at h
  · obtain ⟨q, hq, -⟩ := bind_eq_ok_iff.mp h
    exact ⟨q, hq⟩
  · split at h <;> cases h

theorem exists_settle_of_long (h : p.long level s = .ok p') : ∃ q, p.settle = .ok q := by
  dsimp only [long] at h
  split at h
  · cases h
  · exact exists_settle_of_apply h
  · exact exists_settle_of_applyTo h

theorem exists_settle_of_letters (h : p.letters level (c :: s) = .ok p') :
    ∃ q, p.settle = .ok q := by
  unfold letters at h
  split at h
  · cases h
  · split at h
    · exact exists_settle_of_applyTo h
    · obtain ⟨q, hq, -⟩ := bind_eq_ok_iff.mp h
      exact exists_settle_of_apply hq

/-- What an argument is where no two dashes have been read: two dashes, an option by its name or by
letters, the value of the waiting option, or a text that stands for itself. -/
theorem argument_cases (htrailing : p.trailing = false) (h : p.argument level s = .ok p') :
    (s = ['-', '-'] ∧ p' = { p with trailing := true }) ∨
    (∃ name, s = '-' :: '-' :: name ∧ p.long level name = .ok p') ∨
    (∃ c t, s = '-' :: c :: t ∧ p.letters level (c :: t) = .ok p') ∨
    IsPlain s ∧ ((∃ isSet set, p.pending = some (isSet, set, none) ∧
        p' = { p with pending := some (isSet, set, some s) }) ∨
      p.isWaiting = false ∧ p.operand level s = .ok p') := by
  unfold argument at h
  rw [if_neg (by simp [htrailing])] at h
  split at h
  · cases h
    exact .inl ⟨rfl, rfl⟩
  · exact .inr (.inl ⟨_, rfl, h⟩)
  · exact .inr (.inr (.inl ⟨_, _, rfl, h⟩))
  · rename_i hplain
    refine .inr (.inr (.inr ⟨isPlain_of_forall_ne hplain, ?_⟩))
    split at h
    · rename_i isSet set hpending
      cases h
      exact .inl ⟨isSet, set, hpending, rfl⟩
    · rename_i hpending
      refine .inr ⟨?_, h⟩
      unfold isWaiting
      split
      · exact absurd ‹_› (hpending _ _)
      · rfl

/-- Reading an argument carries the waiting option out, unless the argument is its value or two
dashes. -/
theorem settle_of_argument (h : p.argument level s = .ok p') :
    (∃ q, p.settle = .ok q) ∨ (p.trailing = false ∧ s = ['-', '-'] ∧ p' = { p with trailing := true }) ∨
      p.trailing = false ∧ IsPlain s ∧ ∃ isSet set, p.pending = some (isSet, set, none) ∧
        p' = { p with pending := some (isSet, set, some s) } := by
  by_cases htrailing : p.trailing = true
  · rw [argument_trailing htrailing] at h
    exact .inl (exists_settle_of_operand h)
  · replace htrailing : p.trailing = false := by simpa using htrailing
    rcases argument_cases htrailing h with ⟨rfl, hp'⟩ | ⟨name, -, hlong⟩ | ⟨c, t, -, hletters⟩ |
      ⟨hs, hvalue | ⟨-, hoperand⟩⟩
    · exact .inr (.inl ⟨htrailing, rfl, hp'⟩)
    · exact .inl (exists_settle_of_long hlong)
    · exact .inl (exists_settle_of_letters hletters)
    · exact .inr (.inr ⟨htrailing, hs, hvalue⟩)
    · exact .inl (exists_settle_of_operand hoperand)

theorem Stands.long_cases (h : p.Stands g) (heq : p.long (levelOf place) s = .ok p') :
    (∃ g', Word place g g' ['-' :: '-' :: s] ∧ p' = { given := g' }) ∨
      ∃ isSet set, p' = { given := g, pending := some (isSet, set, none) } ∧
        ∀ value g', once isSet (set value) g = .ok g' → Takes place s value g g' := by
  have happend := List.takeWhile_append_dropWhile (p := (· != '=')) (l := s)
  dsimp only [long] at heq
  split at heq
  · cases heq
  · rename_i o hfind hdrop
    have ho := List.mem_of_find?_eq_some hfind
    obtain ⟨-, -, hname⟩ := name_of_find? hfind
    rw [hdrop, List.append_nil] at happend
    rw [happend] at hname
    rcases h.apply_cases heq with ⟨g', hadds, rfl⟩ | ⟨isSet, set, heffect, rfl⟩
    · obtain ⟨c, -, hswitch⟩ := switches_of_mem ho hadds
      rw [hname] at hswitch
      exact .inl ⟨g', .long hswitch, rfl⟩
    · refine .inr ⟨isSet, set, rfl, fun value g' hset => ?_⟩
      rw [← hname]
      exact takes_of_mem ho ⟨isSet, set, heffect, hset⟩
  · rename_i o c value hfind hdrop
    have ho := List.mem_of_find?_eq_some hfind
    obtain ⟨-, -, hname⟩ := name_of_find? hfind
    have hc : c = '=' := by
      have hhead := List.head?_dropWhile_not (fun c => c != '=') s
      rw [hdrop] at hhead
      simpa using hhead
    obtain ⟨g', hadds, rfl⟩ := h.applyTo_cases heq
    have htakes := takes_of_mem ho hadds
    rw [hdrop, hc, ← hname] at happend
    rw [← happend]
    exact .inl ⟨g', .equals htakes, rfl⟩

theorem operand_cases {trailing : Bool} (hsettle : p.settle = .ok { given := g, trailing })
    (hoperand : p.given.operand = g.operand) (heq : p.operand (levelOf place) s = .ok p') :
    ∃ command, place = some command ∧ g.operand = none ∧
      p' = { given := { g with operand := some s }, trailing } := by
  unfold operand at heq
  split at heq
  · rename_i h
    rw [hoperand, Bool.and_eq_true, Option.isNone_iff_eq_none] at h
    rw [hsettle] at heq
    cases heq
    cases place with
    | none => cases h.1
    | some command => exact ⟨command, rfl, h.2, rfl⟩
  · split at heq <;> cases heq

theorem Stands.argument_cases (h : p.Stands g) (heq : p.argument (levelOf place) s = .ok p') :
    (s = ['-', '-'] ∧ p' = { p with trailing := true }) ∨
    (∃ g', Word place g g' [s] ∧ p' = { given := g' }) ∨
    (∃ name isSet set, s = '-' :: '-' :: name ∧
      p' = { given := g, pending := some (isSet, set, none) } ∧
      ∀ value g', once isSet (set value) g = .ok g' → Takes place name value g g') ∨
    (IsPlain s ∧ ∃ command, place = some command ∧ g.operand = none ∧
      p' = { given := { g with operand := some s } }) := by
  rcases Progress.argument_cases h.trailing_eq heq with ⟨rfl, rfl⟩ | ⟨name, rfl, hlong⟩ |
    ⟨c, t, rfl, hread⟩ | ⟨hs, ⟨_, _, hpending, -⟩ | ⟨-, hoperand⟩⟩
  · exact .inl ⟨rfl, rfl⟩
  · rcases h.long_cases hlong with hword | ⟨isSet, set, rfl, htakes⟩
    · exact .inr (.inl hword)
    · exact .inr (.inr (.inl ⟨name, isSet, set, rfl, rfl, htakes⟩))
  · obtain ⟨g', hletters, rfl⟩ := h.letters_cases (List.cons_ne_nil _ _) hread
    exact .inr (.inl ⟨g', .letters hletters, rfl⟩)
  · have hwaiting := h.not_waiting
    simp [isWaiting, hpending] at hwaiting
  · exact .inr (.inr (.inr ⟨hs, operand_cases h.settle_eq h.operand_eq hoperand⟩))

/-- A waiting option that is carried out was not set. -/
theorem exists_once_of_settle {isSet : Given → Bool} {set : Text → Given → Except Halt Given}
    (h : settle { given := g, pending := some (isSet, set, some s) } = .ok q) :
    ∃ g', once isSet (set s) g = .ok g' := by
  replace h : take { given := g } isSet set s = .ok q := h
  rw [take_eq_map] at h
  obtain ⟨g', hset, -⟩ := map_eq_ok_iff.mp h
  exact ⟨g', hset⟩

end Progress

/-! ### What all arguments do -/

/-- What waits to be carried out is carried out in the end. -/
theorem exists_settle_of_readArguments (hwaiting : p.isWaiting = false)
    (h : readArguments level p ss = .ok (p', found)) (hsettle : p'.settle = .ok q) :
    ∃ q, p.settle = .ok q := by
  induction ss generalizing p with
  | nil =>
      cases h
      exact ⟨q, hsettle⟩
  | cons s rest ih =>
      rcases readArguments_cons_cases h with ⟨-, rfl, -⟩ | ⟨-, p₁, hargument, h⟩
      · exact ⟨q, hsettle⟩
      · rcases Progress.settle_of_argument hargument with hp | ⟨-, -, rfl⟩ | ⟨-, -, _, _, hpending, -⟩
        · exact hp
        · obtain ⟨q₁, hq₁⟩ := ih (p := { p with trailing := true }) hwaiting h
          obtain ⟨-, -, hany⟩ := Progress.of_settle hq₁
          exact ⟨_, hany p.trailing⟩
        · simp [Progress.isWaiting, hpending] at hwaiting

/-- An option that waits for its value gets it from the next argument. -/
theorem exists_value_of_readArguments {isSet : Given → Bool}
    {set : Text → Given → Except Halt Given} (hpending : p.pending = some (isSet, set, none))
    (h : readArguments level p ss = .ok (p', found)) (hsettle : p'.settle = .ok q) :
    p.trailing = false ∧ ∃ s rest, ss = s :: rest ∧ IsPlain s ∧
      readArguments level { p with pending := some (isSet, set, some s) } rest =
        .ok (p', found) := by
  have hnever {p : Progress} (hpending : p.pending = some (isSet, set, none)) {q : Progress} :
      p.settle ≠ .ok q := by
    intro hq
    rw [Progress.settle, hpending] at hq
    cases hq
  induction ss generalizing p with
  | nil =>
      cases h
      exact absurd hsettle (hnever hpending)
  | cons s rest ih =>
      rcases readArguments_cons_cases h with ⟨-, rfl, -⟩ | ⟨-, p₁, hargument, h⟩
      · exact absurd hsettle (hnever hpending)
      · rcases Progress.settle_of_argument hargument with
          ⟨q, hq⟩ | ⟨-, -, rfl⟩ | ⟨htrailing, hs, _, _, hpending', rfl⟩
        · exact absurd hq (hnever hpending)
        · -- behind two dashes nothing comes that could be the value
          obtain ⟨htrailing, -⟩ := ih (p := { p with trailing := true }) hpending h
          cases htrailing
        · cases hpending.symm.trans hpending'
          exact ⟨htrailing, s, rest, rfl, hs, h⟩

theorem trailing_cases (hp : p.settle = .ok { given := g, trailing := true })
    (hoperand : p.given.operand = g.operand)
    (h : readArguments (levelOf place) p ss = .ok (p', found)) (hsettle : p'.settle = .ok q) :
    found = none ∧ (ss = [] ∧ q.given = g ∨ ∃ command s, place = some command ∧ ss = [s] ∧
      g.operand = none ∧ q.given = { g with operand := some s }) := by
  obtain ⟨-, heq, -⟩ := Progress.of_settle hp
  have htrailing : p.trailing = true := (Progress.mk.inj heq).2.2.symm
  induction ss generalizing p g with
  | nil =>
      cases h
      cases hp.symm.trans hsettle
      exact ⟨rfl, .inl ⟨rfl, rfl⟩⟩
  | cons s rest ih =>
      rcases readArguments_cons_cases h with ⟨hname, -, -⟩ | ⟨-, p₁, hargument, h⟩
      · simp [htrailing] at hname
      · rw [Progress.argument_trailing htrailing] at hargument
        obtain ⟨command, rfl, hnone, rfl⟩ := Progress.operand_cases hp hoperand hargument
        obtain ⟨rfl, ⟨rfl, hgiven⟩ | ⟨_, _, -, -, hsome, -⟩⟩ :=
          ih (g := { g with operand := some s }) rfl rfl h rfl rfl
        · exact ⟨rfl, .inr ⟨command, s, rfl, rfl, hnone, hgiven⟩⟩
        · cases hsome

/-- The arguments up to the name of a command, if there is one, give what they are read as. -/
theorem gives_of_readArguments (hp : p.Stands g)
    (h : readArguments (levelOf place) p ss = .ok (p', found)) (hsettle : p'.settle = .ok q)
    (hfound : place = none → found ≠ none) : ∃ ts,
      ss = ts ++ (found.elim [] fun next => next.1 :: next.2) ∧ Gives place ts g q.given := by
  -- an option and its value are two arguments, so the induction is on the length
  induction hlength : ss.length using Nat.strong_induction_on generalizing ss p g with
  | h n ih =>
    cases ss with
    | nil =>
        cases h
        cases hp.settle_eq.symm.trans hsettle
        exact ⟨[], rfl, .nil⟩
    | cons s rest =>
        have hshorter : rest.length < n := by simp [← hlength]
        rcases readArguments_cons_cases h with ⟨-, rfl, rfl⟩ | ⟨-, p₁, hargument, h⟩
        · cases hp.settle_eq.symm.trans hsettle
          exact ⟨[], rfl, .nil⟩
        · rcases hp.argument_cases hargument with ⟨rfl, rfl⟩ | ⟨g', hword, rfl⟩ |
            ⟨name, isSet, set, rfl, rfl, htakes⟩ | ⟨hs, command, rfl, hnone, rfl⟩
          · obtain ⟨-, -, hany⟩ := Progress.of_settle hp.settle_eq
            obtain ⟨rfl, ⟨rfl, hgiven⟩ | ⟨command, s, rfl, rfl, hnone, hgiven⟩⟩ :=
              trailing_cases (p := { p with trailing := true }) (hany true) hp.operand_eq h hsettle
            · cases place with
              | none => exact absurd rfl (hfound rfl)
              | some command =>
                  refine ⟨[['-', '-']], rfl, ?_⟩
                  rw [hgiven]
                  exact .dashes
            · refine ⟨[['-', '-'], s], rfl, ?_⟩
              rw [hgiven]
              exact .last hnone s
          · obtain ⟨ts, rfl, hgives⟩ := ih _ hshorter (Progress.stands_given g') h rfl
            exact ⟨[s] ++ ts, rfl, .option hword hgives⟩
          · obtain ⟨-, value, rest, rfl, hvalue, h⟩ := exists_value_of_readArguments rfl h hsettle
            obtain ⟨q₁, hq₁⟩ := exists_settle_of_readArguments rfl h hsettle
            obtain ⟨g₁, hset⟩ := Progress.exists_once_of_settle hq₁
            have hword := htakes value g₁ hset
            obtain ⟨ts, rfl, hgives⟩ := ih rest.length (by rw [List.length_cons] at hshorter; omega)
              (Progress.stands_pending hset hword.operand_eq) h rfl
            exact ⟨['-' :: '-' :: name, value] ++ ts, rfl, .option (.next hword hvalue) hgives⟩
          · obtain ⟨ts, rfl, hgives⟩ := ih _ hshorter (Progress.stands_given _) h rfl
            exact ⟨s :: ts, rfl, .filter hnone hs hgives⟩

theorem mem_commands_of_readArguments {next : Text × List Text}
    (h : readArguments level p ss = .ok (p', some next)) : next.1 ∈ level.commands := by
  induction ss generalizing p with
  | nil => cases h
  | cons s rest ih =>
      rcases readArguments_cons_cases h with ⟨hname, rfl, hfound⟩ | ⟨-, q, -, h⟩
      · cases hfound
        simp only [Bool.and_eq_true, List.contains_iff_mem] at hname
        exact hname.2
      · exact ih h

end

/-! ### Command lines -/

theorem name_of_taskOfGiven {command : Printer} {name filter : Text} {g g' : Given}
    (h : Task.ofGiven name g = .ok (command.task filter g')) : name = command.name := by
  unfold Task.ofGiven at h
  split at h
  · cases h
  · split at h
    · rename_i hname
      cases command with
      | parse => exact hname
      | simplify => cases h
    · split at h
      · rename_i hname
        cases command with
        | parse => cases h
        | simplify => exact hname
      · split at h
        · split at h <;> cases command <;> cases h
        · split at h <;> cases command <;> cases h

/-- **Which command lines print a filter**: arguments are read as the line of a command that prints a
filter exactly if they are its name, between options of all commands in front of it and its own ones
and the filter behind it; and what the options say is what the line holds. -/
theorem ofArguments_eq_ok_iff_gives {environment : Option Text} {arguments : List Text}
    {line : Line} :
    (Line.ofArguments environment arguments = .ok line ∧
        ∃ (command : Printer) (filter : Text) (g : Given), line.task = command.task filter g) ↔
      ∃ (command : Printer) (before after : List Text) (outer inner : Given) (filter : Text),
        arguments = before ++ command.name :: after ∧ Gives none before {} outer ∧
          Gives (some command) after {} inner ∧ inner.operand = some filter ∧
          EnvironmentFits environment outer inner ∧
          line = command.line environment filter outer inner := by
  constructor
  · rintro ⟨hline, command, filter, g, htask⟩
    obtain ⟨p, name, rest, q, tail, outer, inner, hp, -, hq, hinner, houter, hgiven⟩ :=
      ofArguments_eq_ok_iff.mp hline
    have hname : name = command.name := by
      obtain ⟨_, -, hgiven⟩ := bind_eq_ok_iff.mp hgiven
      obtain ⟨task, hread, hgiven⟩ := bind_eq_ok_iff.mp hgiven
      obtain ⟨_, -, hgiven⟩ := bind_eq_ok_iff.mp hgiven
      cases hgiven
      cases htask
      exact name_of_taskOfGiven hread
    subst hname
    have hfront : readArguments (levelOf none) {} arguments =
        .ok (p, some (command.name, rest)) := hp
    have hbehind : readArguments (levelOf (some command)) {} rest = .ok (q, tail) := hq
    obtain ⟨before, hbefore, houter'⟩ :=
      gives_of_readArguments (Progress.stands_given {}) hfront houter fun _ => Option.some_ne_none _
    obtain ⟨after, hafter, hinner'⟩ :=
      gives_of_readArguments (Progress.stands_given {}) hbehind hinner nofun
    obtain ⟨filter', hfilter, hfits, hline'⟩ := ofGiven_eq_ok_iff.mp hgiven
    cases tail with
    | some next => cases mem_commands_of_readArguments hbehind
    | none =>
        rw [Option.elim_none, List.append_nil] at hafter
        subst hafter
        exact ⟨command, before, rest, outer.given, inner.given, filter', hbefore, houter', hinner',
          hfilter, hfits, hline'⟩
  · rintro ⟨command, before, after, outer, inner, filter, rfl, hbefore, hafter, hfilter, hfits, rfl⟩
    exact ⟨ofArguments_of_gives hbefore hafter hfilter hfits, command, filter, inner, rfl⟩

end SearchFilter.Command
