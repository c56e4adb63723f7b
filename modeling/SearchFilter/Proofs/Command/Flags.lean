import SearchFilter.Command.Line
import SearchFilter.Proofs.Filter.Reading

/-! # Flags for diagnostics

A flag for diagnostics may be put in front of a command line, or right behind the name of its
command.  It changes what is given on its level, and whatever is read after it leaves this change as
it is: an option that is carried out after the change gives what it gives without it, changed
(`Carries`).  That holds of the options of both levels one by one (`carriedOnLevels_louder`,
`carriedOnLevels_silenced`), so of an argument and of all arguments (`Progress.carries_argument`,
`readArguments_changed`).

The quiet flag may be given once on each level.  Since no option takes it back, it is enough that it
is not given in the end (`kept`). -/

namespace SearchFilter.Command

open SearchFilter.Filter (bind_eq_ok_iff)

theorem map_eq_ok_iff {ε α β : Type} {x : Except ε α} {f : α → β} {b : β} :
    x.map f = .ok b ↔ ∃ a, x = .ok a ∧ f a = b := by
  cases x with
  | error e => simp [Except.map]
  | ok a => simp [Except.map]

/-- Reading goes up to an argument that is the name of a command, and over any other one. -/
theorem readArguments_cons_cases {level : Level} {p p' : Progress} {s : Text} {rest : List Text}
    {found : Option (Text × List Text)}
    (h : readArguments level p (s :: rest) = .ok (p', found)) :
    ((!p.trailing && !p.isWaiting && level.commands.contains s) = true ∧
        p' = p ∧ found = some (s, rest)) ∨
      ((!p.trailing && !p.isWaiting && level.commands.contains s) = false ∧
        ∃ q, p.argument level s = .ok q ∧ readArguments level q rest = .ok (p', found)) := by
  rw [readArguments] at h
  split at h
  · rename_i hname
    cases h
    exact .inl ⟨hname, rfl, rfl⟩
  · rename_i hname
    cases hargument : p.argument level s with
    | error halt => rw [hargument] at h; cases h
    | ok q =>
        rw [hargument] at h
        exact .inr ⟨by simpa using hname, q, rfl, h⟩

section Change
variable {kept : Given → Prop} {change : Given → Given}

/-! ### Options after a change -/

/-- A step from what is given that leaves a change as it is; what is kept in the end has been kept
all along. -/
def Carries (kept : Given → Prop) (change : Given → Given) (step : Given → Except Halt Given) :
    Prop :=
  ∀ g g', step g = .ok g' → kept g' → kept g ∧ step (change g) = .ok (change g')

/-- The step, where nothing is set yet. -/
def once (isSet : Given → Bool) (step : Given → Except Halt Given) (g : Given) :
    Except Halt Given :=
  if isSet g then .error .repeatedArgument else step g

theorem once_eq_ok_iff {isSet : Given → Bool} {step : Given → Except Halt Given} {g g' : Given} :
    once isSet step g = .ok g' ↔ isSet g = false ∧ step g = .ok g' := by
  unfold once
  cases isSet g with
  | false => simp
  | true => simp

theorem Carries.once {isSet : Given → Bool} {step : Given → Except Halt Given}
    (hstep : Carries kept change step) (hset : ∀ g, kept g → isSet (change g) = isSet g) :
    Carries kept change (once isSet step) := by
  intro g g' h hkept
  obtain ⟨hunset, h⟩ := once_eq_ok_iff.mp h
  obtain ⟨hbefore, hafter⟩ := hstep g g' h hkept
  exact ⟨hbefore, once_eq_ok_iff.mpr ⟨(hset g hbefore).trans hunset, hafter⟩⟩

/-- An option leaves a change as it is, whatever its value. -/
def Effect.Carried (kept : Given → Prop) (change : Given → Given) : Effect → Prop
  | .switch isSet set => Carries kept change (once isSet fun g => .ok (set g))
  | .count set => Carries kept change fun g => .ok (set g)
  | .value isSet set => ∀ s, Carries kept change (once isSet (set s))
  | .halt _ => True

/-- An option leaves a change as it is if its value is stored apart from what is changed. -/
theorem carried_taking {α : Type} {name : Text} {letter : Option Char} {isSet : Given → Bool}
    {read : Text → Except Halt α} {set : α → Given → Given}
    (hset : ∀ g, isSet (change g) = isSet g)
    (hstep : ∀ a g, kept (set a g) → kept g ∧ set a (change g) = change (set a g)) :
    (OptionSpec.taking name letter isSet read set).effect.Carried kept change := by
  intro s
  refine Carries.once (fun g g' h hkept => ?_) fun g _ => hset g
  obtain ⟨a, hread, rfl⟩ := map_eq_ok_iff.mp h
  obtain ⟨hbefore, heq⟩ := hstep a g hkept
  exact ⟨hbefore, map_eq_ok_iff.mpr ⟨a, hread, heq⟩⟩

/-- Every option of a level leaves the change as it is. -/
def Level.Carried (kept : Given → Prop) (change : Given → Given) (level : Level) : Prop :=
  ∀ o ∈ level.options, o.effect.Carried kept change

/-- The operand may be set before the change or after it. -/
structure SparesOperand (kept : Given → Prop) (change : Given → Given) : Prop where
  operand_eq : ∀ g, (change g).operand = g.operand
  carries : ∀ s, Carries kept change fun g => .ok { g with operand := some s }

/-! ### Progress after a change -/

namespace Progress

/-- The progress where what is given is changed. -/
def changed (change : Given → Given) (p : Progress) : Progress :=
  { p with given := change p.given }

/-- The waiting option leaves the change as it is. -/
def Carried (kept : Given → Prop) (change : Given → Given) (p : Progress) : Prop :=
  ∀ isSet set value, p.pending = some (isSet, set, value) →
    (Effect.value isSet set).Carried kept change

/-- A step of the reading that leaves the change as it is. -/
def Carries (kept : Given → Prop) (change : Given → Given)
    (step : Progress → Except Halt Progress) : Prop :=
  ∀ p p', p.Carried kept change → step p = .ok p' → p'.Carried kept change ∧
    (kept p'.given → kept p.given ∧ step (p.changed change) = .ok (p'.changed change))

theorem carries_bind {first second : Progress → Except Halt Progress}
    (hfirst : Carries kept change first) (hsecond : Carries kept change second) :
    Carries kept change fun p => first p >>= second := by
  intro p p' hp h
  obtain ⟨q, hq, hp'⟩ := bind_eq_ok_iff.mp h
  obtain ⟨hqc, hback⟩ := hfirst p q hp hq
  obtain ⟨hpc, hback'⟩ := hsecond q p' hqc hp'
  refine ⟨hpc, fun hkept => ?_⟩
  obtain ⟨hkept, hafter'⟩ := hback' hkept
  obtain ⟨hkept, hafter⟩ := hback hkept
  exact ⟨hkept, bind_eq_ok_iff.mpr ⟨_, hafter, hafter'⟩⟩

theorem carries_given {step : Given → Except Halt Given}
    (hstep : SearchFilter.Command.Carries kept change step) :
    Carries kept change fun p => (step p.given).map fun given => { p with given } := by
  intro p p' hp h
  obtain ⟨g, hrun, rfl⟩ := map_eq_ok_iff.mp h
  refine ⟨hp, fun hkept => ?_⟩
  obtain ⟨hbefore, hafter⟩ := hstep p.given g hrun hkept
  exact ⟨hbefore, map_eq_ok_iff.mpr ⟨change g, hafter, rfl⟩⟩

theorem take_eq_map (p : Progress) (isSet : Given → Bool)
    (set : Text → Given → Except Halt Given) (s : Text) :
    p.take isSet set s = (once isSet (set s) p.given).map fun given => { p with given } := by
  unfold take once
  split
  · rfl
  · rfl

theorem carries_take {isSet : Given → Bool} {set : Text → Given → Except Halt Given}
    (h : (Effect.value isSet set).Carried kept change) (s : Text) :
    Carries kept change fun p => p.take isSet set s := by
  simp only [take_eq_map]
  exact carries_given (h s)

theorem carries_settle : Carries kept change settle := by
  intro p p' hp h
  cases hpending : p.pending with
  | none =>
      have hsettle (q : Progress) (hq : q.pending = none) : q.settle = .ok q := by
        rw [settle, hq]
      rw [hsettle p hpending] at h
      cases h
      exact ⟨hp, fun hkept => ⟨hkept, hsettle (p.changed change) hpending⟩⟩
  | some option =>
      obtain ⟨isSet, set, value⟩ := option
      cases value with
      | none => rw [settle, hpending] at h; cases h
      | some s =>
          have hsettle (q : Progress) (hq : q.pending = some (isSet, set, some s)) :
              q.settle = { q with pending := none }.take isSet set s := by
            rw [settle, hq]
          rw [hsettle p hpending] at h
          have hnone : { p with pending := none }.Carried kept change :=
            fun _ _ _ h => nomatch h
          obtain ⟨hp', hback⟩ := carries_take (hp isSet set _ hpending) s _ p' hnone h
          refine ⟨hp', fun hkept => ?_⟩
          rw [hsettle (p.changed change) hpending]
          exact hback hkept

theorem carries_apply {effect : Effect} (h : effect.Carried kept change) :
    Carries kept change fun p => p.apply effect := by
  refine carries_bind carries_settle ?_
  cases effect with
  | switch isSet set =>
      refine Eq.mp (congrArg (Carries kept change) ?_) (carries_given h)
      funext p
      dsimp only [once]
      split
      · rfl
      · rfl
  | count set => exact carries_given h
  | value isSet set =>
      intro p p' _ heq
      cases heq
      refine ⟨fun _ _ _ hpending => ?_, fun hkept => ⟨hkept, rfl⟩⟩
      cases hpending
      exact h
  | halt why => exact fun _ _ _ h => nomatch h

theorem carries_applyTo {effect : Effect} (h : effect.Carried kept change) (s : Text) :
    Carries kept change fun p => p.applyTo effect s := by
  cases effect with
  | value isSet set => exact carries_bind carries_settle (carries_take h s)
  | switch isSet set => exact fun _ _ _ h => nomatch h
  | count set => exact fun _ _ _ h => nomatch h
  | halt why => exact fun _ _ _ h => nomatch h

/-! ### Arguments after a change -/

variable {level : Level}

theorem carries_error (halt : Halt) : Carries kept change fun _ => .error halt :=
  fun _ _ _ h => nomatch h

theorem carries_ite {first second : Progress → Except Halt Progress} {decides : Progress → Bool}
    (hdecides : ∀ p, decides (p.changed change) = decides p) (hfirst : Carries kept change first)
    (hsecond : Carries kept change second) :
    Carries kept change fun p => if decides p then first p else second p := by
  intro p p' hp h
  dsimp only at h ⊢
  rw [hdecides]
  split at h
  · rename_i hp'
    rw [if_pos hp']
    exact hfirst p p' hp h
  · rename_i hp'
    rw [if_neg hp']
    exact hsecond p p' hp h

theorem carries_operand (hspares : SparesOperand kept change) (s : Text) :
    Carries kept change fun p => p.operand level s := by
  refine carries_ite (fun p => ?_) (carries_bind carries_settle (carries_given (hspares.carries s)))
    (carries_ite (fun _ => rfl) (carries_error _) (carries_error _))
  rw [changed, hspares.operand_eq]

theorem carries_long (hlevel : level.Carried kept change) (s : Text) :
    Carries kept change fun p => p.long level s := by
  dsimp only [long]
  cases hfind : level.options.find? (·.name == s.takeWhile (· != '=')) with
  | none => exact carries_error _
  | some o =>
      have ho := hlevel o (List.mem_of_find?_eq_some hfind)
      cases s.dropWhile (· != '=') with
      | nil => exact carries_apply ho
      | cons _ value => exact carries_applyTo ho value

theorem carries_letters (hlevel : level.Carried kept change) (s : Text) :
    Carries kept change fun p => p.letters level s := by
  induction s with
  | nil =>
      intro p p' hp h
      cases h
      exact ⟨hp, fun hkept => ⟨hkept, rfl⟩⟩
  | cons c s ih =>
      simp only [letters]
      cases hfind : level.options.find? (·.letter == some c) with
      | none => exact carries_error _
      | some o =>
          have ho := hlevel o (List.mem_of_find?_eq_some hfind)
          simp only
          split
          · exact carries_applyTo ho _
          · exact carries_bind (carries_apply ho) ih

/-- An argument that is the value of the waiting option, if there is one. -/
theorem carries_wait {step : Progress → Except Halt Progress} (hstep : Carries kept change step)
    (s : Text) : Carries kept change fun p =>
      match p.pending with
      | some (isSet, set, none) => .ok { p with pending := some (isSet, set, some s) }
      | _ => step p := by
  intro p p' hp h
  dsimp only at h ⊢
  rw [show (p.changed change).pending = p.pending from rfl]
  split at h
  · rename_i isSet set hpending
    cases h
    refine ⟨fun _ _ _ hwait => ?_, fun hkept => ⟨hkept, rfl⟩⟩
    cases hwait
    exact hp isSet set none hpending
  · exact hstep p p' hp h

theorem carries_argument (hlevel : level.Carried kept change)
    (hspares : SparesOperand kept change) (s : Text) :
    Carries kept change fun p => p.argument level s := by
  have hown : Carries kept change fun p => p.operand level s := carries_operand hspares s
  refine carries_ite (fun _ => rfl) hown ?_
  split
  · intro p p' hp h
    cases h
    exact ⟨hp, fun hkept => ⟨hkept, rfl⟩⟩
  · exact carries_long hlevel _
  · exact carries_letters hlevel _
  · exact carries_wait hown s

end Progress

theorem readArguments_changed {level : Level} (hlevel : level.Carried kept change)
    (hspares : SparesOperand kept change) {p p' : Progress} {arguments : List Text}
    {rest : Option (Text × List Text)} (hp : p.Carried kept change)
    (h : readArguments level p arguments = .ok (p', rest)) : p'.Carried kept change ∧
      (kept p'.given → kept p.given ∧
        readArguments level (p.changed change) arguments = .ok (p'.changed change, rest)) := by
  induction arguments generalizing p with
  | nil =>
      cases h
      exact ⟨hp, fun hkept => ⟨hkept, rfl⟩⟩
  | cons s arguments ih =>
      rw [readArguments, show (p.changed change).trailing = p.trailing from rfl,
        show (p.changed change).isWaiting = p.isWaiting from rfl]
      rcases readArguments_cons_cases h with ⟨hname, rfl, rfl⟩ | ⟨hname, q, hstep, h⟩
      · rw [if_pos hname]
        exact ⟨hp, fun hkept => ⟨hkept, rfl⟩⟩
      · obtain ⟨hq, hback⟩ := Progress.carries_argument hlevel hspares s p q hp hstep
        obtain ⟨hp', hback'⟩ := ih hq h
        refine ⟨hp', fun hkept => ?_⟩
        obtain ⟨hkept, hafter'⟩ := hback' hkept
        obtain ⟨hkept, hafter⟩ := hback hkept
        dsimp only at hafter
        rw [if_neg (by rw [hname]; decide), hafter]
        exact ⟨hkept, hafter'⟩

end Change

/-! ### Flags on both levels -/

/-- The flags for diagnostics are changed. -/
def Given.flagged (verbose : Nat → Nat) (quiet : Bool → Bool) (g : Given) : Given :=
  { g with verbose := verbose g.verbose, quiet := quiet g.quiet }

/-- One more request for diagnostics. -/
def Given.louder : Given → Given :=
  flagged (fun n => min (n + 1) 255) id

/-- A request for silence. -/
def Given.silenced : Given → Given :=
  flagged id fun _ => true

/-- Every option of either level leaves the change as it is, and so does the operand. -/
structure CarriedOnLevels (kept : Given → Prop) (change : Given → Given) : Prop where
  outer : outerLevel.Carried kept change
  inner : ∀ name, (innerLevel name).Carried kept change
  spares : SparesOperand kept change

section Flagged
variable {kept : Bool → Prop} {verbose : Nat → Nat} {quiet : Bool → Bool}

theorem sparesOperand_flagged (kept : Bool → Prop) (verbose : Nat → Nat) (quiet : Bool → Bool) :
    SparesOperand (kept ·.quiet) (Given.flagged verbose quiet) := by
  refine ⟨fun _ => rfl, fun s g g' h hkept => ?_⟩
  cases h
  exact ⟨hkept, rfl⟩

theorem carried_own {name : Text} {o : OptionSpec} (ho : o ∈ ownOptions name) :
    o.effect.Carried (kept ·.quiet) (Given.flagged verbose quiet) := by
  have hswitch {isSet : Given → Bool} {set : Given → Given}
      (hset : ∀ g, isSet (g.flagged verbose quiet) = isSet g)
      (hstep : ∀ g, (set g).quiet = g.quiet ∧
        set (g.flagged verbose quiet) = (set g).flagged verbose quiet) :
      (Effect.switch isSet set).Carried (kept ·.quiet) (Given.flagged verbose quiet) := by
    refine Carries.once (fun g g' h hkept => ?_) fun g _ => hset g
    cases h
    obtain ⟨hquiet, heq⟩ := hstep g
    exact ⟨hquiet ▸ hkept, by rw [heq]⟩
  unfold ownOptions at ho
  split at ho
  · simp only [List.mem_cons, List.not_mem_nil, or_false] at ho
    rcases ho with rfl | rfl | rfl | rfl
    · exact hswitch (fun _ => rfl) fun _ => ⟨rfl, rfl⟩
    · exact carried_taking (fun _ => rfl) fun _ _ hkept => ⟨hkept, rfl⟩
    · exact carried_taking (fun _ => rfl) fun _ _ hkept => ⟨hkept, rfl⟩
    · exact hswitch (fun _ => rfl) fun _ => ⟨rfl, rfl⟩
  · split at ho
    · cases List.mem_singleton.mp ho
      exact hswitch (fun _ => rfl) fun _ => ⟨rfl, rfl⟩
    · split at ho
      · simp only [List.mem_cons, List.not_mem_nil, or_false] at ho
        rcases ho with rfl | rfl | rfl
        · exact carried_taking (fun _ => rfl) fun _ _ hkept => ⟨hkept, rfl⟩
        · exact carried_taking (fun _ => rfl) fun _ _ hkept => ⟨hkept, rfl⟩
        · exact carried_taking (fun _ => rfl) fun _ _ hkept => ⟨hkept, rfl⟩
      · cases ho

/-- The options that may stand on either level leave changed flags as they are, if those that set
these flags do. -/
theorem carried_shared (hverbose : ∀ n, verbose (min (n + 1) 255) = min (verbose n + 1) 255)
    (hquiet : Carries (kept ·.quiet) (Given.flagged verbose quiet)
      (once (·.quiet) fun g => .ok { g with quiet := true }))
    {o : OptionSpec} (ho : o ∈ sharedOptions) :
    o.effect.Carried (kept ·.quiet) (Given.flagged verbose quiet) := by
  simp only [sharedOptions, List.mem_cons, List.not_mem_nil, or_false] at ho
  rcases ho with rfl | rfl | rfl | rfl | rfl
  · exact carried_taking (fun _ => rfl) fun _ _ hkept => ⟨hkept, rfl⟩
  · exact carried_taking (fun _ => rfl) fun _ _ hkept => ⟨hkept, rfl⟩
  · intro g g' h hkept
    cases h
    refine ⟨hkept, ?_⟩
    simp only [Given.flagged, hverbose]
  · exact hquiet
  · exact trivial

/-- What changes the flags alone is left as it is on both levels, if the options that set these
flags do. -/
theorem carriedOnLevels_flagged (kept : Bool → Prop)
    (hverbose : ∀ n, verbose (min (n + 1) 255) = min (verbose n + 1) 255)
    (hquiet : Carries (kept ·.quiet) (Given.flagged verbose quiet)
      (once (·.quiet) fun g => .ok { g with quiet := true })) :
    CarriedOnLevels (kept ·.quiet) (Given.flagged verbose quiet) := by
  have hshared {o : OptionSpec} (ho : o ∈ sharedOptions) := carried_shared hverbose hquiet ho
  refine ⟨fun o ho => ?_, fun name o ho => ?_, sparesOperand_flagged kept verbose quiet⟩
  · rcases List.mem_append.mp ho with ho | ho
    · exact hshared ho
    · cases List.mem_singleton.mp ho
      exact trivial
  · rcases List.mem_append.mp ho with ho | ho
    · exact carried_own ho
    · exact hshared ho

end Flagged

theorem carriedOnLevels_louder : CarriedOnLevels (fun _ => True) Given.louder := by
  refine carriedOnLevels_flagged (fun _ => True) (fun _ => rfl)
    (Carries.once ?_ fun _ _ => rfl)
  intro g g' h _
  cases h
  exact ⟨trivial, rfl⟩

theorem carriedOnLevels_silenced : CarriedOnLevels (·.quiet = false) Given.silenced := by
  refine carriedOnLevels_flagged (· = false) (fun _ => rfl) fun g g' h hkept => ?_
  -- the flag itself is not given, or it would be set in the end
  obtain ⟨-, h⟩ := once_eq_ok_iff.mp h
  cases h
  cases hkept

/-! ### Command lines with a flag -/

/-- The command line that is given on the two levels. -/
def Line.ofGiven (environment : Option Text) (name : Text) (outer inner : Given) :
    Except Halt Line := do
  let innerConfig ← environmentConfig inner environment
  let task ← Task.ofGiven name inner
  let outerConfig ← environmentConfig outer environment
  return {
    config := inner.config <|> outer.config <|> innerConfig <|> outerConfig
    color := ((inner.color <|> outer.color).getD .auto)
    verbose := if inner.verbose = 0 then outer.verbose else inner.verbose
    quiet := inner.quiet || outer.quiet
    task }

/-- Arguments are a command line if those of both levels are read and give one. -/
theorem ofArguments_eq_ok_iff {environment : Option Text} {arguments : List Text} {line : Line} :
    Line.ofArguments environment arguments = .ok line ↔ ∃ p name rest q tail outer inner,
      readArguments outerLevel {} arguments = .ok (p, some (name, rest)) ∧ name ≠ "help".toList ∧
      readArguments (innerLevel name) {} rest = .ok (q, tail) ∧ q.settle = .ok inner ∧
      p.settle = .ok outer ∧ Line.ofGiven environment name outer.given inner.given = .ok line := by
  constructor
  · intro h
    obtain ⟨⟨p, next⟩, hp, h⟩ := bind_eq_ok_iff.mp h
    cases next with
    | none =>
        obtain ⟨outer, -, h⟩ := bind_eq_ok_iff.mp h
        obtain ⟨config, -, h⟩ := bind_eq_ok_iff.mp h
        cases h
    | some command =>
        obtain ⟨name, rest⟩ := command
        dsimp only at h
        split at h
        · cases h
        · rename_i hname
          obtain ⟨⟨q, tail⟩, hq, h⟩ := bind_eq_ok_iff.mp h
          obtain ⟨inner, hinner, h⟩ := bind_eq_ok_iff.mp h
          obtain ⟨innerConfig, hinnerConfig, h⟩ := bind_eq_ok_iff.mp h
          obtain ⟨task, htask, h⟩ := bind_eq_ok_iff.mp h
          obtain ⟨outer, houter, h⟩ := bind_eq_ok_iff.mp h
          refine ⟨p, name, rest, q, tail, outer, inner, hp, hname, hq, hinner, houter, ?_⟩
          exact bind_eq_ok_iff.mpr ⟨innerConfig, hinnerConfig,
            bind_eq_ok_iff.mpr ⟨task, htask, h⟩⟩
  · rintro ⟨p, name, rest, q, tail, outer, inner, hp, hname, hq, hinner, houter, h⟩
    obtain ⟨innerConfig, hinnerConfig, h⟩ := bind_eq_ok_iff.mp h
    obtain ⟨task, htask, h⟩ := bind_eq_ok_iff.mp h
    refine bind_eq_ok_iff.mpr ⟨(p, some (name, rest)), hp, ?_⟩
    dsimp only
    rw [if_neg hname]
    refine bind_eq_ok_iff.mpr ⟨(q, tail), hq, bind_eq_ok_iff.mpr ⟨inner, hinner, ?_⟩⟩
    exact bind_eq_ok_iff.mpr ⟨innerConfig, hinnerConfig, bind_eq_ok_iff.mpr ⟨task, htask,
      bind_eq_ok_iff.mpr ⟨outer, houter, h⟩⟩⟩

/-- A flag that is read first changes what is given on its level in the end. -/
theorem readArguments_flag {kept : Given → Prop} {change : Given → Given} {level : Level}
    (hlevel : level.Carried kept change) (hspares : SparesOperand kept change) {flag : Text}
    (hname : flag ∉ level.commands)
    (hflag : Progress.argument level {} flag = .ok (Progress.changed change {}))
    {arguments : List Text} {p q : Progress} {found : Option (Text × List Text)}
    (h : readArguments level {} arguments = .ok (p, found)) (hsettle : p.settle = .ok q)
    (hkept : kept q.given) :
    readArguments level {} (flag :: arguments) = .ok (p.changed change, found) ∧
      (p.changed change).settle = .ok (q.changed change) := by
  have hstart : Progress.Carried kept change {} := fun _ _ _ h => nomatch h
  obtain ⟨hpc, hback⟩ := readArguments_changed hlevel hspares hstart h
  obtain ⟨-, hback'⟩ := Progress.carries_settle p q hpc hsettle
  obtain ⟨hkept, hsettle'⟩ := hback' hkept
  obtain ⟨-, hp'⟩ := hback hkept
  refine ⟨?_, hsettle'⟩
  rw [readArguments, if_neg (by simp [hname]), hflag]
  exact hp'

section
variable {kept : Given → Prop} {change : Given → Given} {environment : Option Text}
  {arguments before after : List Text} {name : Text} {line : Line}

/-- A flag in front changes what is given before the name of the command, and nothing else. -/
theorem exists_ofArguments_front (hlevels : CarriedOnLevels kept change) (flag : Text)
    (hname : flag ∉ outerLevel.commands)
    (hflag : Progress.argument outerLevel {} flag = .ok (Progress.changed change {}))
    (h : Line.ofArguments environment arguments = .ok line) : ∃ name outer inner,
      Line.ofGiven environment name outer inner = .ok line ∧ (kept outer →
        ∀ line', Line.ofGiven environment name (change outer) inner = .ok line' →
          Line.ofArguments environment (flag :: arguments) = .ok line') := by
  obtain ⟨p, name, rest, q, tail, outer, inner, hp, hcommand, hq, hinner, houter, hline⟩ :=
    ofArguments_eq_ok_iff.mp h
  refine ⟨name, outer.given, inner.given, hline, fun hkept line' hline' => ?_⟩
  obtain ⟨hp', houter'⟩ := readArguments_flag hlevels.outer hlevels.spares hname hflag hp houter hkept
  exact ofArguments_eq_ok_iff.mpr ⟨_, name, rest, q, tail, _, inner, hp', hcommand, hq, hinner,
    houter', hline'⟩

/-- The name of a command follows on the arguments, whatever stands behind it. -/
def Precedes (before : List Text) (name : Text) : Prop :=
  ∃ p, ∀ after, readArguments outerLevel {} (before ++ name :: after) = .ok (p, some (name, after))

/-- What stands behind the name of a command is not looked at where the name is found. -/
theorem exists_readArguments_append {level : Level} {p p' : Progress}
    (h : readArguments level p arguments = .ok (p', some (name, after))) :
    ∃ before, arguments = before ++ name :: after ∧
      ∀ after, readArguments level p (before ++ name :: after) = .ok (p', some (name, after)) := by
  induction arguments generalizing p with
  | nil => cases h
  | cons s arguments ih =>
      rcases readArguments_cons_cases h with ⟨hname, rfl, hfound⟩ | ⟨hname, q, hstep, h⟩
      · cases hfound
        refine ⟨[], rfl, fun after => ?_⟩
        rw [List.nil_append, readArguments, if_pos hname]
      · obtain ⟨before, rfl, hbefore⟩ := ih h
        refine ⟨s :: before, rfl, fun after => ?_⟩
        rw [List.cons_append, readArguments, if_neg (by rw [hname]; decide), hstep]
        exact hbefore after

theorem exists_precedes (h : Line.ofArguments environment arguments = .ok line) :
    ∃ before name after, arguments = before ++ name :: after ∧ Precedes before name := by
  obtain ⟨p, name, after, _, _, _, _, hp, -⟩ := ofArguments_eq_ok_iff.mp h
  obtain ⟨before, harguments, hbefore⟩ := exists_readArguments_append hp
  exact ⟨before, name, after, harguments, p, hbefore⟩

/-- A flag right behind the name of the command changes what is given there, and nothing else. -/
theorem exists_ofArguments_behind (hlevels : CarriedOnLevels kept change) {flag : Text}
    (hflag : Progress.argument (innerLevel name) {} flag = .ok (Progress.changed change {}))
    (hbefore : Precedes before name)
    (h : Line.ofArguments environment (before ++ name :: after) = .ok line) : ∃ outer inner,
      Line.ofGiven environment name outer inner = .ok line ∧ (kept inner →
        ∀ line', Line.ofGiven environment name outer (change inner) = .ok line' →
          Line.ofArguments environment (before ++ name :: flag :: after) = .ok line') := by
  obtain ⟨p, hbefore⟩ := hbefore
  obtain ⟨_, _, _, q, tail, outer, inner, hp, hcommand, hq, hinner, houter, hline⟩ :=
    ofArguments_eq_ok_iff.mp h
  cases (hbefore after).symm.trans hp
  refine ⟨outer.given, inner.given, hline, fun hkept line' hline' => ?_⟩
  obtain ⟨hq', hinner'⟩ := readArguments_flag (hlevels.inner name) hlevels.spares
    List.not_mem_nil hflag hq hinner hkept
  exact ofArguments_eq_ok_iff.mpr ⟨p, name, _, _, tail, outer, _, hbefore _, hcommand, hq', hinner',
    houter, hline'⟩

/-- The flags on the two levels count for nothing else than the flags of the line. -/
theorem Line.ofGiven_flags {outer inner : Given}
    (h : Line.ofGiven environment name outer inner = .ok line) :
    line.verbose = (if inner.verbose = 0 then outer.verbose else inner.verbose) ∧
    line.quiet = (inner.quiet || outer.quiet) ∧ ∀ verbose quiet verbose' quiet',
      Line.ofGiven environment name { outer with verbose, quiet }
          { inner with verbose := verbose', quiet := quiet' } =
        .ok { line with
          verbose := if verbose' = 0 then verbose else verbose'
          quiet := quiet' || quiet } := by
  obtain ⟨innerConfig, hinner, h⟩ := bind_eq_ok_iff.mp h
  obtain ⟨task, htask, h⟩ := bind_eq_ok_iff.mp h
  obtain ⟨outerConfig, houter, h⟩ := bind_eq_ok_iff.mp h
  cases h
  refine ⟨rfl, rfl, fun verbose quiet verbose' quiet' => ?_⟩
  exact bind_eq_ok_iff.mpr ⟨innerConfig, hinner, bind_eq_ok_iff.mpr ⟨task, htask,
    bind_eq_ok_iff.mpr ⟨outerConfig, houter, rfl⟩⟩⟩

/-! ### Requests for diagnostics and for silence -/

theorem exists_ofArguments_verbose (h : Line.ofArguments environment arguments = .ok line) :
    ∃ verbose, Line.ofArguments environment ("-v".toList :: arguments) =
      .ok { line with verbose } := by
  obtain ⟨name, outer, inner, hline, hlouder⟩ :=
    exists_ofArguments_front carriedOnLevels_louder "-v".toList (by decide) (by rfl) h
  obtain ⟨-, hquiet, hflags⟩ := Line.ofGiven_flags hline
  have hline' := hflags outer.louder.verbose outer.quiet inner.verbose inner.quiet
  rw [← hquiet] at hline'
  exact ⟨_, hlouder trivial _ hline'⟩

theorem exists_ofArguments_verbose_behind (hbefore : Precedes before name)
    (h : Line.ofArguments environment (before ++ name :: after) = .ok line) :
    ∃ verbose, Line.ofArguments environment (before ++ name :: "-v".toList :: after) =
      .ok { line with verbose } := by
  have hflag : Progress.argument (innerLevel name) {} "-v".toList =
      .ok (Progress.changed Given.louder {}) := by
    -- no command has an option of its own with the letter
    unfold innerLevel ownOptions
    split_ifs <;> rfl
  obtain ⟨outer, inner, hline, hlouder⟩ :=
    exists_ofArguments_behind carriedOnLevels_louder hflag hbefore h
  obtain ⟨-, hquiet, hflags⟩ := Line.ofGiven_flags hline
  have hline' := hflags outer.verbose outer.quiet inner.louder.verbose inner.quiet
  rw [← hquiet] at hline'
  exact ⟨_, hlouder trivial _ hline'⟩

/-- Where one request for diagnostics may be put, any number of them may. -/
theorem exists_ofArguments_replicate (place : List Text → List Text)
    (hone : ∀ {rest : List Text} {line : Line}, Line.ofArguments environment (place rest) = .ok line →
      ∃ verbose, Line.ofArguments environment (place ("-v".toList :: rest)) = .ok { line with verbose })
    (h : Line.ofArguments environment (place arguments) = .ok line) (n : Nat) : ∃ verbose,
      Line.ofArguments environment (place (List.replicate n "-v".toList ++ arguments)) =
        .ok { line with verbose } := by
  induction n with
  | zero => exact ⟨line.verbose, h⟩
  | succ n ih =>
      obtain ⟨verbose, hline⟩ := ih
      obtain ⟨verbose', hline'⟩ := hone hline
      rw [List.replicate_succ, List.cons_append]
      exact ⟨verbose', hline'⟩

/-- A request for silence may be put in front where there is none yet. -/
theorem ofArguments_quiet (h : Line.ofArguments environment arguments = .ok line)
    (hquiet : line.quiet = false) :
    Line.ofArguments environment ("-q".toList :: arguments) = .ok { line with quiet := true } := by
  obtain ⟨name, outer, inner, hline, hsilenced⟩ :=
    exists_ofArguments_front carriedOnLevels_silenced "-q".toList (by decide) (by rfl) h
  obtain ⟨hverbose, hflag, hflags⟩ := Line.ofGiven_flags hline
  have hunset : outer.quiet = false := by
    rw [hquiet] at hflag
    exact (Bool.or_eq_false_iff.mp hflag.symm).2
  have hline' := hflags outer.verbose true inner.verbose inner.quiet
  rw [← hverbose, Bool.or_true] at hline'
  exact hsilenced hunset _ hline'

theorem ofArguments_quiet_behind (hbefore : Precedes before name)
    (h : Line.ofArguments environment (before ++ name :: after) = .ok line)
    (hquiet : line.quiet = false) :
    Line.ofArguments environment (before ++ name :: "-q".toList :: after) =
      .ok { line with quiet := true } := by
  have hargument : Progress.argument (innerLevel name) {} "-q".toList =
      .ok (Progress.changed Given.silenced {}) := by
    unfold innerLevel ownOptions
    split_ifs <;> rfl
  obtain ⟨outer, inner, hline, hsilenced⟩ :=
    exists_ofArguments_behind carriedOnLevels_silenced hargument hbefore h
  obtain ⟨hverbose, hflag, hflags⟩ := Line.ofGiven_flags hline
  have hunset : inner.quiet = false := by
    rw [hquiet] at hflag
    exact (Bool.or_eq_false_iff.mp hflag.symm).1
  have hline' := hflags outer.verbose outer.quiet inner.verbose true
  rw [← hverbose, Bool.true_or] at hline'
  exact hsilenced hunset _ hline'

end

end SearchFilter.Command
