import SearchFilter.Proofs.Command.Flags
import SearchFilter.Proofs.Number.Integers

/-! # What the arguments of a command line say

Two commands read a filter and print one, `parse` and `simplify`.  `Gives` describes the arguments in
front of the name of such a command and behind it, and what they give: the options that may stand
there, by name and letter, in each of their forms (`Word`), and behind the name the filter.  The
relations list the options by themselves; that the levels of the command line hold these options and
no others is what `Switches.exists_option` and `switches_of_mem` say of those without a value, and
`Takes.exists_option` and `takes_of_mem` of those with one. -/

namespace SearchFilter.Command

/-! ### Commands and their lines -/

/-- A command that prints a filter. -/
inductive Printer where
  | parse
  | simplify

namespace Printer

def name : Printer → Text
  | parse => "parse".toList
  | simplify => "simplify".toList

/-- What the command does with a filter, where `g` is given behind its name. -/
def task (filter : Text) (g : Given) : Printer → Task
  | parse => .print filter g.pretty g.indent g.indentChar g.simplify
  | simplify => .simplify filter g.diff

/-- The command line in which `outer` is given in front of the name of the command and `inner` behind
it; `environment` may name the configuration file. -/
def line (command : Printer) (environment : Option Text) (filter : Text) (outer inner : Given) :
    Line where
  config := inner.config <|> outer.config <|> environment
  color := (inner.color <|> outer.color).getD .auto
  verbose := if inner.verbose = 0 then outer.verbose else inner.verbose
  quiet := inner.quiet || outer.quiet
  task := command.task filter inner

end Printer

/-- An environment that names the empty path is no harm where the arguments name a file on both
levels. -/
def EnvironmentFits (environment : Option Text) (outer inner : Given) : Prop :=
  environment = some [] → outer.config.isSome = true ∧ inner.config.isSome = true

theorem environmentFits_none (outer inner : Given) : EnvironmentFits none outer inner := by
  intro h
  cases h

/-! ### Options and their forms -/

def ColorMode.word : ColorMode → Text
  | auto => "auto".toList
  | always => "always".toList
  | never => "never".toList

/-- Decimal digits, with or without a plus sign, that denote a number of 64 bits. -/
def Denotes (n : Nat) (s : Text) : Prop :=
  ∃ digits, (s = digits ∨ s = '+' :: digits) ∧ digits ≠ [] ∧
    (∀ c ∈ digits, Number.isDigit c = true) ∧ Number.ofDigits digits = n ∧ n < UInt64.size

/-- A text that is not taken for options. -/
def IsPlain : Text → Prop
  | '-' :: _ :: _ => False
  | _ => True

/-- The options without a value, in front of the name of a command or behind it, by their name and
letter, and what they add to what is given. -/
inductive Switches : Option Printer → Text → Char → Given → Given → Prop
  | verbose {place : Option Printer} {g : Given} :
      Switches place "verbose".toList 'v' g { g with verbose := min (g.verbose + 1) 255 }
  | quiet {place : Option Printer} {g : Given} (h : g.quiet = false) :
      Switches place "quiet".toList 'q' g { g with quiet := true }
  | pretty {g : Given} (h : g.pretty = false) :
      Switches (some .parse) "pretty".toList 'p' g { g with pretty := true }
  | simplify {g : Given} (h : g.simplify = false) :
      Switches (some .parse) "simplify".toList 's' g { g with simplify := true }
  | diff {g : Given} (h : g.diff = false) :
      Switches (some .simplify) "diff".toList 'd' g { g with diff := true }

/-- The options with a value, by their name and the value. -/
inductive Takes : Option Printer → Text → Text → Given → Given → Prop
  | config {place : Option Printer} {g : Given} {s : Text} (h : g.config = none) (hs : s ≠ []) :
      Takes place "config".toList s g { g with config := some s }
  | color {place : Option Printer} {g : Given} (h : g.color = none) (mode : ColorMode) :
      Takes place "color".toList mode.word g { g with color := some mode }
  | indent {g : Given} {s : Text} {n : Nat} (h : g.indent = none) (hs : Denotes n s) :
      Takes (some .parse) "indent".toList s g { g with indent := some n }
  | indentChar {g : Given} (h : g.indentChar = none) (c : Char) :
      Takes (some .parse) "indent-char".toList [c] g { g with indentChar := some c }

/-- Letters of options, joined. -/
inductive Letters (place : Option Printer) : Text → Given → Given → Prop
  | last {name : Text} {c : Char} {g g' : Given} (h : Switches place name c g g') :
      Letters place [c] g g'
  | cons {name s : Text} {c : Char} {g g' g'' : Given} (h : Switches place name c g g')
      (hs : Letters place s g' g'') : Letters place (c :: s) g g''

/-- The arguments that options are, in each of their forms. -/
inductive Word (place : Option Printer) (g g' : Given) : List Text → Prop
  | long {name : Text} {c : Char} (h : Switches place name c g g') :
      Word place g g' ['-' :: '-' :: name]
  | letters {s : Text} (h : Letters place s g g') : Word place g g' ['-' :: s]
  | next {name s : Text} (h : Takes place name s g g') (hs : IsPlain s) :
      Word place g g' ['-' :: '-' :: name, s]
  | equals {name s : Text} (h : Takes place name s g g') :
      Word place g g' ['-' :: '-' :: (name ++ '=' :: s)]

/-- The arguments in front of the name of a command or behind it: options, and behind the name a
filter among them or behind two dashes. -/
inductive Gives : Option Printer → List Text → Given → Given → Prop
  | nil {place : Option Printer} {g : Given} : Gives place [] g g
  | option {place : Option Printer} {word rest : List Text} {g g' g'' : Given}
      (h : Word place g g' word) (hrest : Gives place rest g' g'') : Gives place (word ++ rest) g g''
  | filter {command : Printer} {s : Text} {rest : List Text} {g g' : Given}
      (h : g.operand = none) (hs : IsPlain s)
      (hrest : Gives (some command) rest { g with operand := some s } g') :
      Gives (some command) (s :: rest) g g'
  | dashes {command : Printer} {g : Given} : Gives (some command) [['-', '-']] g g
  | last {command : Printer} {g : Given} (h : g.operand = none) (s : Text) :
      Gives (some command) [['-', '-'], s] g { g with operand := some s }

section
variable {place : Option Printer} {g g' : Given} {name s : Text} {c : Char} {n : Nat}

theorem isPlain_of_forall_ne (h : ∀ c t, s ≠ '-' :: c :: t) : IsPlain s := by
  unfold IsPlain
  split
  · exact h _ _ rfl
  · trivial

/-! ### Options of the levels -/

/-- The level of the arguments of a place. -/
def levelOf : Option Printer → Level
  | none => outerLevel
  | some command => innerLevel command.name

namespace Effect
variable {effect : Effect}

def takesValue : Effect → Bool
  | .value .. => true
  | _ => false

/-- The option adds to what is given without a value. -/
def Adds : Effect → Given → Given → Prop
  | .switch isSet set, g, g' => isSet g = false ∧ set g = g'
  | .count set, g, g' => set g = g'
  | .value .., _, _ => False
  | .halt _, _, _ => False

/-- The option adds to what is given with a value. -/
def AddsValue (effect : Effect) (s : Text) (g g' : Given) : Prop :=
  ∃ isSet set, effect = .value isSet set ∧ once isSet (set s) g = .ok g'

theorem Adds.takesValue_eq (h : effect.Adds g g') : effect.takesValue = false := by
  cases effect with
  | value isSet set => cases h
  | switch isSet set => rfl
  | count set => rfl
  | halt why => rfl

theorem AddsValue.takesValue_eq (h : effect.AddsValue s g g') : effect.takesValue = true := by
  obtain ⟨isSet, set, rfl, -⟩ := h
  rfl

theorem addsValue_taking {α : Type} {letter : Option Char} {isSet : Given → Bool}
    {read : Text → Except Halt α} {set : α → Given → Given} :
    (OptionSpec.taking name letter isSet read set).effect.AddsValue s g g' ↔
      isSet g = false ∧ ∃ a, read s = .ok a ∧ set a g = g' := by
  constructor
  · rintro ⟨_, _, heq, hset⟩
    cases heq
    obtain ⟨hunset, hset⟩ := once_eq_ok_iff.mp hset
    exact ⟨hunset, map_eq_ok_iff.mp hset⟩
  · rintro ⟨hunset, hset⟩
    exact ⟨_, _, rfl, once_eq_ok_iff.mpr ⟨hunset, map_eq_ok_iff.mpr hset⟩⟩

end Effect

theorem options_cases {o : OptionSpec} (ho : o ∈ (levelOf place).options) :
    o ∈ sharedOptions ∨ (∃ why, o.effect = .halt why) ∨
      ∃ command, place = some command ∧ o ∈ ownOptions command.name := by
  cases place with
  | none =>
      rcases List.mem_append.mp ho with ho | ho
      · exact .inl ho
      · rw [List.mem_singleton.mp ho]
        exact .inr (.inl ⟨_, rfl⟩)
  | some command =>
      rcases List.mem_append.mp ho with ho | ho
      · exact .inr (.inr ⟨command, rfl, ho⟩)
      · exact .inl ho

theorem name_of_mem {o : OptionSpec} (ho : o ∈ (levelOf place).options) :
    o.name ≠ [] ∧ '=' ∉ o.name := by
  revert o
  rcases place with _ | _ | _ <;> decide

theorem name_of_find? {o : OptionSpec}
    (h : (levelOf place).options.find? (·.name == name) = some o) :
    name ≠ [] ∧ '=' ∉ name ∧ o.name = name := by
  have hname : o.name = name := by simpa using List.find?_some h
  obtain ⟨hne, heq⟩ := name_of_mem (List.mem_of_find?_eq_some h)
  rw [hname] at hne heq
  exact ⟨hne, heq, hname⟩

theorem takesValue_of_letter {o : OptionSpec} (ho : o ∈ (levelOf place).options)
    (hc : o.letter = some c) : o.effect.takesValue = false := by
  have hall : ∀ o ∈ (levelOf place).options, o.letter ≠ none → o.effect.takesValue = false := by
    rcases place with _ | _ | _ <;> decide
  exact hall o ho (by simp [hc])

theorem not_mem_commands (s : Text) : '-' :: s ∉ (levelOf place).commands := by
  have hhead : ∀ t ∈ (levelOf place).commands, t.head? ≠ some '-' := by
    rcases place with _ | _ | _ <;> decide
  intro h
  exact hhead _ h rfl

/-! ### Options without a value -/

theorem Switches.exists_option (h : Switches place name c g g') :
    ∃ o, (levelOf place).options.find? (·.name == name) = some o ∧
      (levelOf place).options.find? (·.letter == some c) = some o ∧ o.effect.Adds g g' := by
  cases h with
  | verbose => rcases place with _ | _ | _ <;> exact ⟨_, rfl, rfl, rfl⟩
  | quiet h => rcases place with _ | _ | _ <;> exact ⟨_, rfl, rfl, h, rfl⟩
  | pretty h => exact ⟨_, rfl, rfl, h, rfl⟩
  | simplify h => exact ⟨_, rfl, rfl, h, rfl⟩
  | diff h => exact ⟨_, rfl, rfl, h, rfl⟩

theorem switches_of_mem {o : OptionSpec} (ho : o ∈ (levelOf place).options)
    (h : o.effect.Adds g g') : ∃ c, o.letter = some c ∧ Switches place o.name c g g' := by
  rcases options_cases ho with hshared | ⟨why, hwhy⟩ | ⟨command, rfl, hown⟩
  · simp only [sharedOptions, List.mem_cons, List.not_mem_nil, or_false] at hshared
    rcases hshared with rfl | rfl | rfl | rfl | rfl
    · cases h
    · cases h
    · cases h
      exact ⟨_, rfl, .verbose⟩
    · obtain ⟨hunset, rfl⟩ := h
      exact ⟨_, rfl, .quiet hunset⟩
    · cases h
  · rw [hwhy] at h
    cases h
  · cases command with
    | parse =>
        replace hown : o ∈ ownOptions "parse".toList := hown
        simp only [ownOptions, if_true, List.mem_cons, List.not_mem_nil, or_false] at hown
        rcases hown with rfl | rfl | rfl | rfl
        · obtain ⟨hunset, rfl⟩ := h
          exact ⟨_, rfl, .pretty hunset⟩
        · cases h
        · cases h
        · obtain ⟨hunset, rfl⟩ := h
          exact ⟨_, rfl, .simplify hunset⟩
    | simplify =>
        cases List.mem_singleton.mp hown
        obtain ⟨hunset, rfl⟩ := h
        exact ⟨_, rfl, .diff hunset⟩

/-! ### Options with a value -/

theorem path_eq_ok_iff {t : Text} : path s = .ok t ↔ s ≠ [] ∧ s = t := by
  unfold path
  cases s with
  | nil => simp
  | cons c s => simp

theorem choice_color_eq_ok_iff {mode : ColorMode} :
    choice [("auto".toList, ColorMode.auto), ("always".toList, .always), ("never".toList, .never)] s =
      .ok mode ↔ s = mode.word := by
  constructor
  · intro h
    unfold choice at h
    split at h
    · rename_i hlookup
      cases h
      obtain ⟨before, after, heq, -⟩ := List.lookup_eq_some_iff.mp hlookup
      have hmem : (s, mode) ∈ before ++ (s, mode) :: after := by simp
      rw [← heq] at hmem
      simp only [List.mem_cons, List.not_mem_nil, or_false, Prod.mk.injEq] at hmem
      rcases hmem with ⟨rfl, rfl⟩ | ⟨rfl, rfl⟩ | ⟨rfl, rfl⟩ <;> rfl
    · cases h
  · rintro rfl
    cases mode <;> rfl

theorem character_eq_ok_iff : character s = .ok c ↔ s = [c] := by
  unfold character
  split
  · simp
  · rename_i hlength
    simp only [reduceCtorEq, false_iff]
    exact hlength c

theorem number_eq_ok_iff : number s = .ok n ↔ Denotes n s := by
  have hdigits (digits : Text) : (if !digits.isEmpty && digits.all Number.isDigit &&
      Number.ofDigits digits ≤ maxNumber then Except.ok (Number.ofDigits digits)
      else .error Halt.malformedValue) = .ok n ↔ digits ≠ [] ∧
        (∀ c ∈ digits, Number.isDigit c = true) ∧ Number.ofDigits digits = n ∧ n < UInt64.size := by
    have hbound : Number.ofDigits digits ≤ maxNumber ↔ Number.ofDigits digits < UInt64.size :=
      Nat.le_sub_one_iff_lt (by decide)
    rw [ite_eq_iff]
    simp only [Bool.and_eq_true, Bool.not_eq_true', List.isEmpty_eq_false_iff, List.all_eq_true,
      decide_eq_true_eq, hbound, Except.ok.injEq, reduceCtorEq, and_false, or_false]
    constructor
    · rintro ⟨⟨⟨hne, hall⟩, hlt⟩, rfl⟩
      exact ⟨hne, hall, rfl, hlt⟩
    · rintro ⟨hne, hall, rfl, hlt⟩
      exact ⟨⟨⟨hne, hall⟩, hlt⟩, rfl⟩
  unfold number Denotes
  constructor
  · intro h
    split at h
    · rename_i digits
      exact ⟨digits, .inr rfl, (hdigits digits).mp h⟩
    · exact ⟨s, .inl rfl, (hdigits s).mp h⟩
  · rintro ⟨digits, rfl | rfl, h⟩
    · split
      · rename_i rest
        have := h.2.1 '+' (by simp)
        cases this
      · exact (hdigits s).mpr h
    · exact (hdigits digits).mpr h

theorem denotes_ofNat (h : n < UInt64.size) : Denotes n (Text.ofNat n) :=
  ⟨Text.ofNat n, .inl rfl, Nat.toDigits_ne_nil, fun _ => Number.isDigit_of_mem_ofNat,
    Number.ofDigits_ofNat n, h⟩

theorem Denotes.isPlain (h : Denotes n s) : IsPlain s := by
  obtain ⟨digits, rfl | rfl, hne, hdigits, -⟩ := h
  · unfold IsPlain
    split
    · cases hdigits '-' List.mem_cons_self
    · trivial
  · trivial

theorem Takes.exists_option (h : Takes place name s g g') :
    ∃ o, (levelOf place).options.find? (·.name == name) = some o ∧ o.effect.AddsValue s g g' := by
  cases h with
  | config h hs =>
      rcases place with _ | _ | _ <;> exact ⟨_, rfl, Effect.addsValue_taking.mpr
        ⟨by simp [h], s, path_eq_ok_iff.mpr ⟨hs, rfl⟩, rfl⟩⟩
  | color h mode =>
      rcases place with _ | _ | _ <;> exact ⟨_, rfl, Effect.addsValue_taking.mpr
        ⟨by simp [h], mode, choice_color_eq_ok_iff.mpr rfl, rfl⟩⟩
  | indent h hs =>
      exact ⟨_, rfl, Effect.addsValue_taking.mpr
        ⟨by simp [h], _, number_eq_ok_iff.mpr hs, rfl⟩⟩
  | indentChar h c =>
      exact ⟨_, rfl, Effect.addsValue_taking.mpr
        ⟨by simp [h], c, character_eq_ok_iff.mpr rfl, rfl⟩⟩

theorem Takes.operand_eq (h : Takes place name s g g') : g'.operand = g.operand := by
  cases h <;> rfl

theorem takes_of_mem {o : OptionSpec} (ho : o ∈ (levelOf place).options)
    (h : o.effect.AddsValue s g g') : Takes place o.name s g g' := by
  have hvalue := h.takesValue_eq
  rcases options_cases ho with hshared | ⟨why, hwhy⟩ | ⟨command, rfl, hown⟩
  · simp only [sharedOptions, List.mem_cons, List.not_mem_nil, or_false] at hshared
    rcases hshared with rfl | rfl | rfl | rfl | rfl
    · obtain ⟨hunset, a, hread, rfl⟩ := Effect.addsValue_taking.mp h
      obtain ⟨hne, rfl⟩ := path_eq_ok_iff.mp hread
      exact .config (by simpa using hunset) hne
    · obtain ⟨hunset, mode, hread, rfl⟩ := Effect.addsValue_taking.mp h
      cases choice_color_eq_ok_iff.mp hread
      exact .color (by simpa using hunset) mode
    · cases hvalue
    · cases hvalue
    · cases hvalue
  · rw [hwhy] at hvalue
    cases hvalue
  · cases command with
    | parse =>
        replace hown : o ∈ ownOptions "parse".toList := hown
        simp only [ownOptions, if_true, List.mem_cons, List.not_mem_nil, or_false] at hown
        rcases hown with rfl | rfl | rfl | rfl
        · cases hvalue
        · obtain ⟨hunset, n, hread, rfl⟩ := Effect.addsValue_taking.mp h
          exact .indent (by simpa using hunset) (number_eq_ok_iff.mp hread)
        · obtain ⟨hunset, c, hread, rfl⟩ := Effect.addsValue_taking.mp h
          cases character_eq_ok_iff.mp hread
          exact .indentChar (by simpa using hunset) c
        · cases hvalue
    | simplify =>
        cases List.mem_singleton.mp hown
        cases hvalue

end

end SearchFilter.Command
