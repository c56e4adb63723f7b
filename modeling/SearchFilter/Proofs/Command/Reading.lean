import SearchFilter.Proofs.Command.Grammar

/-! # Arguments that are read as what they give

What is given once the waiting option is carried out (`Progress.Stands`) changes by the options one by
one as `Gives` says, so the arguments of a command line that prints a filter are read as what they
give, in front of the name of the command and behind it.  The flags of such a command line decide
what its line holds (`ofArguments_of_gives`). -/

namespace SearchFilter.Command

open SearchFilter.Filter (bind_eq_ok_iff)

section
variable {place : Option Printer} {g g' : Given} {name s : Text} {c : Char} {ss : List Text}
  {p p' : Progress} {level : Level} {effect : Effect}

namespace Progress

/-! ### What is given -/

/-- Carrying the waiting option out leaves none waiting and nothing else changed but what is
given. -/
theorem of_settle (h : p.settle = .ok p') :
    p.isWaiting = false ∧ p' = { given := p'.given, trailing := p.trailing } ∧
      ∀ trailing, settle { p with trailing } = .ok { p' with trailing } := by
  obtain ⟨given, pending, trailing⟩ := p
  cases pending with
  | none =>
      cases h
      exact ⟨rfl, rfl, fun _ => rfl⟩
  | some option =>
      obtain ⟨isSet, set, value⟩ := option
      cases value with
      | none => cases h
      | some s =>
          simp only [settle, take_eq_map] at h ⊢
          obtain ⟨given', hset, rfl⟩ := map_eq_ok_iff.mp h
          exact ⟨rfl, rfl, fun _ => map_eq_ok_iff.mpr ⟨given', hset, rfl⟩⟩

/-- What is given once the waiting option is carried out, with no two dashes read. -/
structure Stands (p : Progress) (g : Given) : Prop where
  settle_eq : p.settle = .ok { given := g }
  operand_eq : p.given.operand = g.operand

theorem stands_given (g : Given) : Stands { given := g } g := ⟨rfl, rfl⟩

theorem Stands.trailing_eq (h : p.Stands g) : p.trailing = false := by
  obtain ⟨-, heq, -⟩ := of_settle h.settle_eq
  exact (Progress.mk.inj heq).2.2.symm

theorem Stands.not_waiting (h : p.Stands g) : p.isWaiting = false :=
  (of_settle h.settle_eq).1

theorem Stands.apply (h : p.Stands g) (heffect : effect.Adds g g') :
    p.apply effect = .ok { given := g' } := by
  rw [Progress.apply, h.settle_eq]
  cases effect with
  | switch isSet set =>
      obtain ⟨hunset, rfl⟩ := heffect
      simp [bind, Except.bind, hunset, pure, Except.pure]
  | count set =>
      cases heffect
      rfl
  | value isSet set => cases heffect
  | halt why => cases heffect

theorem Stands.applyTo (h : p.Stands g) (heffect : effect.AddsValue s g g') :
    p.applyTo effect s = .ok { given := g' } := by
  obtain ⟨isSet, set, rfl, hset⟩ := heffect
  refine bind_eq_ok_iff.mpr ⟨_, h.settle_eq, ?_⟩
  rw [take_eq_map]
  exact map_eq_ok_iff.mpr ⟨g', hset, rfl⟩

theorem Stands.apply_value (h : p.Stands g) (isSet : Given → Bool)
    (set : Text → Given → Except Halt Given) :
    p.apply (.value isSet set) = .ok { given := g, pending := some (isSet, set, none) } := by
  rw [Progress.apply, h.settle_eq]
  rfl

/-- A value that has come is not looked at before the option is carried out. -/
theorem stands_pending {isSet : Given → Bool} {set : Text → Given → Except Halt Given}
    (hset : once isSet (set s) g = .ok g') (hoperand : g'.operand = g.operand) :
    Stands { given := g, pending := some (isSet, set, some s) } g' := by
  refine ⟨?_, hoperand.symm⟩
  show take _ isSet set s = _
  rw [take_eq_map]
  exact map_eq_ok_iff.mpr ⟨g', hset, rfl⟩

theorem letters_cons {o : OptionSpec}
    (hfind : level.options.find? (·.letter == some c) = some o)
    (ho : o.effect.takesValue = false) (p : Progress) (s : Text) :
    p.letters level (c :: s) = p.apply o.effect >>= fun q => letters level q s := by
  simp only [letters, hfind]
  cases heffect : o.effect with
  | switch isSet set => rfl
  | count set => rfl
  | value isSet set => rw [heffect] at ho; cases ho
  | halt why => rfl

/-! ### Single arguments -/

theorem argument_trailing (h : p.trailing = true) (s : Text) :
    p.argument level s = p.operand level s := by
  unfold argument
  rw [if_pos h]

theorem argument_long (h : p.trailing = false) (hs : s ≠ []) :
    p.argument level ('-' :: '-' :: s) = p.long level s := by
  unfold argument
  rw [if_neg (by simp [h])]
  cases s with
  | nil => exact absurd rfl hs
  | cons c s => rfl

theorem argument_letters (h : p.trailing = false) (hc : c ≠ '-') (s : Text) :
    p.argument level ('-' :: c :: s) = p.letters level (c :: s) := by
  unfold argument
  rw [if_neg (by simp [h])]
  split <;> simp_all

/-- A text that is not taken for options is the value of the waiting option, or stands for itself. -/
theorem argument_plain (h : p.trailing = false) (hs : IsPlain s) :
    p.argument level s = match p.pending with
      | some (isSet, set, none) => .ok { p with pending := some (isSet, set, some s) }
      | _ => p.operand level s := by
  unfold argument
  rw [if_neg (by simp [h])]
  split
  · cases hs
  · cases hs
  · cases hs
  · rfl

theorem argument_value {isSet : Given → Bool} {set : Text → Given → Except Halt Given}
    (h : p.trailing = false) (hpending : p.pending = some (isSet, set, none)) (hs : IsPlain s) :
    p.argument level s = .ok { p with pending := some (isSet, set, some s) } := by
  rw [argument_plain h hs, hpending]

theorem argument_operand (h : p.trailing = false) (hwaiting : p.isWaiting = false)
    (hs : IsPlain s) : p.argument level s = p.operand level s := by
  rw [argument_plain h hs]
  split
  · rename_i hpending
    simp [isWaiting, hpending] at hwaiting
  · rfl

theorem long_name {o : OptionSpec} (hfind : level.options.find? (·.name == name) = some o)
    (hname : '=' ∉ name) : p.long level name = p.apply o.effect := by
  have htake : name.takeWhile (· != '=') = name := by
    rw [List.takeWhile_eq_self_iff]
    intro c hc
    simpa using ne_of_mem_of_not_mem hc hname
  have hdrop : name.dropWhile (· != '=') = [] := by
    rw [List.dropWhile_eq_nil_iff]
    intro c hc
    simpa using ne_of_mem_of_not_mem hc hname
  simp only [long, htake, hdrop, hfind]

theorem long_equals {o : OptionSpec} (hfind : level.options.find? (·.name == name) = some o)
    (hname : '=' ∉ name) : p.long level (name ++ '=' :: s) = p.applyTo o.effect s := by
  have hne : ∀ c ∈ name, (c != '=') = true := by
    intro c hc
    simpa using ne_of_mem_of_not_mem hc hname
  have htake : (name ++ '=' :: s).takeWhile (· != '=') = name := by
    rw [List.takeWhile_append_of_pos hne]
    simp
  have hdrop : (name ++ '=' :: s).dropWhile (· != '=') = '=' :: s := by
    rw [List.dropWhile_append_of_pos hne]
    simp
  simp only [long, htake, hdrop, hfind]

end Progress

/-! ### Arguments one after another -/

theorem readArguments_cons (h : s ∉ level.commands ∨ p.isWaiting = true)
    (hp : p.argument level s = .ok p') (rest : List Text) :
    readArguments level p (s :: rest) = readArguments level p' rest := by
  rw [readArguments, if_neg, hp]
  rcases h with h | h
  · simp [h]
  · simp [h]

theorem Letters.letters_eq (h : Letters place s g g') (hp : p.Stands g) :
    p.letters (levelOf place) s = .ok { given := g' } := by
  have hstep {name : Text} {c : Char} {g g' : Given} {p : Progress} (h : Switches place name c g g')
      (hp : p.Stands g) (s : Text) :
      p.letters (levelOf place) (c :: s) = Progress.letters (levelOf place) { given := g' } s := by
    obtain ⟨o, -, hfind, ho⟩ := h.exists_option
    rw [Progress.letters_cons hfind ho.takesValue_eq, hp.apply ho]
    rfl
  induction h generalizing p with
  | last h => exact hstep h hp []
  | cons h _ ih => exact (hstep h hp _).trans (ih (Progress.stands_given _))

theorem Letters.exists_cons (h : Letters place s g g') : ∃ c t, s = c :: t ∧ c ≠ '-' := by
  have hletter {name : Text} {c : Char} {g g' : Given} (h : Switches place name c g g') :
      c ≠ '-' := by
    cases h <;> decide
  cases h with
  | last h => exact ⟨_, _, rfl, hletter h⟩
  | cons h _ => exact ⟨_, _, rfl, hletter h⟩

/-- The arguments of an option are read in any of its forms. -/
theorem Word.exists_readArguments {word : List Text} (h : Word place g g' word) (hp : p.Stands g) :
    ∃ p', p'.Stands g' ∧ ∀ rest, readArguments (levelOf place) p (word ++ rest) =
      readArguments (levelOf place) p' rest := by
  have hread {s : Text} {p' : Progress} (h : p.argument (levelOf place) ('-' :: s) = .ok p')
      (rest : List Text) : readArguments (levelOf place) p (('-' :: s) :: rest) =
        readArguments (levelOf place) p' rest :=
    readArguments_cons (.inl (not_mem_commands s)) h rest
  cases h with
  | long h =>
      obtain ⟨o, hfind, -, ho⟩ := h.exists_option
      obtain ⟨hne, heq, -⟩ := name_of_find? hfind
      refine ⟨_, Progress.stands_given g', hread ?_⟩
      rw [Progress.argument_long hp.trailing_eq hne, Progress.long_name hfind heq, hp.apply ho]
  | letters h =>
      obtain ⟨c, t, rfl, hc⟩ := h.exists_cons
      refine ⟨_, Progress.stands_given g', hread ?_⟩
      rw [Progress.argument_letters hp.trailing_eq hc, h.letters_eq hp]
  | @next name s h hs =>
      obtain ⟨o, hfind, isSet, set, heffect, hset⟩ := h.exists_option
      obtain ⟨hne, heq, -⟩ := name_of_find? hfind
      refine ⟨_, Progress.stands_pending hset h.operand_eq, fun rest => ?_⟩
      have hwait : p.argument (levelOf place) ('-' :: '-' :: name) =
          .ok { given := g, pending := some (isSet, set, none) } := by
        rw [Progress.argument_long hp.trailing_eq hne, Progress.long_name hfind heq, heffect,
          hp.apply_value]
      refine (hread hwait _).trans (readArguments_cons (.inr rfl) ?_ rest)
      exact Progress.argument_value rfl rfl hs
  | equals h =>
      obtain ⟨o, hfind, ho⟩ := h.exists_option
      obtain ⟨hne, heq, -⟩ := name_of_find? hfind
      refine ⟨_, Progress.stands_given g', hread ?_⟩
      rw [Progress.argument_long hp.trailing_eq (by simp), Progress.long_equals hfind heq,
        hp.applyTo ho]

theorem Gives.exists_readArguments_front (h : Gives none ss g g') (hp : p.Stands g) :
    ∃ p', p'.Stands g' ∧ ∀ rest, readArguments outerLevel p (ss ++ rest) =
      readArguments outerLevel p' rest := by
  generalize hplace : (none : Option Printer) = place at h
  induction h generalizing p with
  | nil => exact ⟨p, hp, fun _ => rfl⟩
  | option h _ ih =>
      subst hplace
      obtain ⟨q, hq, hread⟩ := h.exists_readArguments hp
      obtain ⟨p', hp', hread'⟩ := ih hq rfl
      refine ⟨p', hp', fun rest => ?_⟩
      rw [List.append_assoc]
      exact (hread _).trans (hread' rest)
  | filter => cases hplace
  | dashes => cases hplace
  | last => cases hplace

theorem Gives.exists_readArguments_behind {command : Printer}
    (h : Gives (some command) ss g g') (hp : p.Stands g) : ∃ p' q,
      readArguments (innerLevel command.name) p ss = .ok (p', none) ∧ p'.settle = .ok q ∧
        q.given = g' := by
  have hdashes {p : Progress} {g : Given} (hp : p.Stands g) (rest : List Text) :
      readArguments (innerLevel command.name) p (['-', '-'] :: rest) =
        readArguments (innerLevel command.name) { p with trailing := true } rest := by
    refine readArguments_cons (.inl List.not_mem_nil) ?_ rest
    rw [Progress.argument, if_neg (by simp [hp.trailing_eq])]
  generalize hplace : some command = place at h
  induction h generalizing p with
  | nil => exact ⟨p, _, rfl, hp.settle_eq, rfl⟩
  | option h _ ih =>
      subst hplace
      obtain ⟨q, hq, hread⟩ := h.exists_readArguments hp
      obtain ⟨p', q', hread', hsettle⟩ := ih hq rfl
      exact ⟨p', q', (hread _).trans hread', hsettle⟩
  | @filter _ s rest g _ hnone hs _ ih =>
      cases hplace
      obtain ⟨p', q', hread, hsettle⟩ := ih (Progress.stands_given { g with operand := some s }) rfl
      have hoperand : p.argument (innerLevel command.name) s =
          .ok { given := { g with operand := some s } } := by
        rw [Progress.argument_operand hp.trailing_eq hp.not_waiting hs, Progress.operand,
          if_pos (by simp [innerLevel, hp.operand_eq, hnone]), hp.settle_eq]
        rfl
      exact ⟨p', q', (readArguments_cons (.inl List.not_mem_nil) hoperand _).trans hread, hsettle⟩
  | dashes =>
      obtain ⟨-, -, hsettle⟩ := Progress.of_settle hp.settle_eq
      exact ⟨_, _, hdashes hp [], hsettle true, rfl⟩
  | @last _ g hnone s =>
      cases hplace
      obtain ⟨-, -, hsettle⟩ := Progress.of_settle hp.settle_eq
      have hoperand : Progress.argument (innerLevel command.name) { p with trailing := true } s =
          .ok { given := { g with operand := some s }, trailing := true } := by
        rw [Progress.argument_trailing rfl, Progress.operand,
          if_pos (by simp [innerLevel, hp.operand_eq, hnone]), hsettle]
        rfl
      exact ⟨_, _, (hdashes hp _).trans (readArguments_cons (.inl List.not_mem_nil) hoperand []),
        rfl, rfl⟩

end

/-! ### Command lines -/

theorem environmentConfig_eq_ok_iff {g : Given} {environment config : Option Text} :
    environmentConfig g environment = .ok config ↔
      (environment = some [] → g.config.isSome = true) ∧
        config = if g.config.isSome then none else environment := by
  unfold environmentConfig path
  cases hconfig : g.config with
  | some s => simp [eq_comm]
  | none =>
      cases environment with
      | none => simp [eq_comm]
      | some s =>
          cases s with
          | nil => simp [Except.map]
          | cons c s => simp [Except.map, eq_comm]

theorem taskOfGiven_eq_ok_iff {command : Printer} {g : Given} {task : Task} :
    Task.ofGiven command.name g = .ok task ↔
      ∃ filter, g.operand = some filter ∧ command.task filter g = task := by
  unfold Task.ofGiven
  cases g.operand with
  | none => simp
  | some filter =>
      have htask : Task.ofGiven command.name { g with operand := some filter } =
          .ok (command.task filter g) := by
        cases command <;> rfl
      constructor
      · intro h
        exact ⟨filter, rfl, Except.ok.inj (htask.symm.trans h)⟩
      · rintro ⟨_, hfilter, rfl⟩
        cases hfilter
        exact htask

theorem ofGiven_eq_ok_iff {command : Printer} {environment : Option Text} {outer inner : Given}
    {line : Line} : Line.ofGiven environment command.name outer inner = .ok line ↔
      ∃ filter, inner.operand = some filter ∧ EnvironmentFits environment outer inner ∧
        line = command.line environment filter outer inner := by
  have hconfig : (inner.config <|> outer.config <|>
      (if inner.config.isSome then none else environment) <|>
        if outer.config.isSome then none else environment) =
      (inner.config <|> outer.config <|> environment) := by
    cases inner.config with
    | some s => rfl
    | none =>
        cases outer.config with
        | some s => rfl
        | none => cases environment <;> rfl
  constructor
  · intro h
    obtain ⟨innerConfig, hinner, h⟩ := bind_eq_ok_iff.mp h
    obtain ⟨task, htask, h⟩ := bind_eq_ok_iff.mp h
    obtain ⟨outerConfig, houter, h⟩ := bind_eq_ok_iff.mp h
    obtain ⟨hinner', rfl⟩ := environmentConfig_eq_ok_iff.mp hinner
    obtain ⟨houter', rfl⟩ := environmentConfig_eq_ok_iff.mp houter
    obtain ⟨filter, hfilter, rfl⟩ := taskOfGiven_eq_ok_iff.mp htask
    cases h
    refine ⟨filter, hfilter, fun hempty => ⟨houter' hempty, hinner' hempty⟩, ?_⟩
    rw [hconfig]
    rfl
  · rintro ⟨filter, hfilter, hfits, rfl⟩
    refine bind_eq_ok_iff.mpr ⟨_, environmentConfig_eq_ok_iff.mpr ⟨fun h => (hfits h).2, rfl⟩, ?_⟩
    refine bind_eq_ok_iff.mpr ⟨_, taskOfGiven_eq_ok_iff.mpr ⟨filter, hfilter, rfl⟩, ?_⟩
    refine bind_eq_ok_iff.mpr ⟨_, environmentConfig_eq_ok_iff.mpr ⟨fun h => (hfits h).1, rfl⟩, ?_⟩
    rw [hconfig]
    rfl

/-- The line of a command that prints a filter is read where the arguments say it. -/
theorem ofArguments_of_gives {command : Printer} {environment : Option Text}
    {before after : List Text} {outer inner : Given} {filter : Text}
    (hbefore : Gives none before {} outer) (hafter : Gives (some command) after {} inner)
    (hfilter : inner.operand = some filter) (hfits : EnvironmentFits environment outer inner) :
    Line.ofArguments environment (before ++ command.name :: after) =
      .ok (command.line environment filter outer inner) := by
  obtain ⟨p, hp, hread⟩ := hbefore.exists_readArguments_front (Progress.stands_given {})
  obtain ⟨q, q', hread', hsettle, rfl⟩ :=
    hafter.exists_readArguments_behind (Progress.stands_given {})
  have hname : outerLevel.commands.contains command.name = true ∧ command.name ≠ "help".toList := by
    cases command <;> decide
  refine ofArguments_eq_ok_iff.mpr ⟨p, command.name, after, q, none, _, q', ?_, hname.2, hread',
    hsettle, hp.settle_eq, ofGiven_eq_ok_iff.mpr ⟨filter, hfilter, hfits, rfl⟩⟩
  rw [hread, readArguments, if_pos]
  rw [hp.trailing_eq, hp.not_waiting, hname.1]
  rfl

end SearchFilter.Command
