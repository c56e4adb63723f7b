import SearchFilter.Filter.Holds
import SearchFilter.Proofs.Filter.Building
import SearchFilter.Proofs.Value.Equality

/-! # What equality comparisons test

A comparison for equality is one of three: its value is a star, and it asks for presence; its value
has no star, and it compares lowercase forms; or its value is any other pattern.  Each of them holds
for a record that has the attribute with a member of some kind (`Record.HasMember`).

The builders escape their values, so a built comparison tests for the value itself, whatever
characters it holds (`holds_built_iff`).  A comparison that holds for a record implies presence,
unless its value consists of wildcards alone (`holds_present_of_holds`): two wildcards may stand for
the empty text, which is not present (`holds_wildcards_of_not_present`). -/

namespace SearchFilter

variable {ρ : Type} [Record ρ] {r : ρ} {policy : OrderPolicy} {name value : Text}

/-- The record has the attribute, and some member of its value has the property. -/
def Record.HasMember (r : ρ) (name : Text) (p : Scalar → Prop) : Prop :=
  ∃ v, Record.value? r name = some v ∧ ∃ m ∈ v.members, p m

/-- A comparison tests for presence if its value is a star, and reads its value in one of three
ways if not; nothing else of a value is looked at. -/
theorem Comparison.accepts_congr {value value' : Text} {v v' : AttributeValue}
    (hstar : value = ['*'] ↔ value' = ['*']) (hpresent : v.isPresent = v'.isPresent)
    (hequals : v.equals value = v'.equals value')
    (hmost : v.isAtMost policy value = v'.isAtMost policy value')
    (hleast : v.isAtLeast policy value = v'.isAtLeast policy value') (name : Text)
    (operator : Operator) :
    accepts ⟨name, operator, value⟩ policy v = accepts ⟨name, operator, value'⟩ policy v' := by
  cases operator with
  | equality => simp [accepts, isPresence, hstar, hpresent, hequals]
  | lessOrEqual => exact hmost
  | greaterOrEqual => exact hleast
  | approximate => rfl

namespace Filter

/-! ### Three kinds of comparison -/

theorem holds_comparison_iff {c : Comparison} : holds r policy (.comparison c) = true ↔
    ∃ v, Record.value? r c.name = some v ∧ c.accepts policy v = true := by
  rw [holds, Comparison.holds]
  cases Record.value? r c.name <;> simp

theorem holds_presence_iff : holds r policy (.comparison ⟨name, .equality, ['*']⟩) = true ↔
    Record.HasMember r name (· ≠ .text []) := by
  simp [holds_comparison_iff, Comparison.accepts, Comparison.isPresence, AttributeValue.isPresent,
    Record.HasMember, ← Scalar.isEmpty_iff]

theorem accepts_of_ne (h : value ≠ ['*']) (v : AttributeValue) :
    Comparison.accepts ⟨name, .equality, value⟩ policy v = v.equals value := by
  have hpresence : Comparison.isPresence ⟨name, .equality, value⟩ = false := by
    simpa [Comparison.isPresence] using h
  simp [Comparison.accepts, hpresence]

theorem holds_plain_iff (h : '*' ∉ value) :
    holds r policy (.comparison ⟨name, .equality, value⟩) = true ↔
      Record.HasMember r name fun m => m ≠ .text [] ∧
        Text.lowercase m.toText = Text.lowercase (decode value) := by
  have hne : value ≠ ['*'] := by
    rintro rfl
    exact h (by decide)
  simp only [holds_comparison_iff, accepts_of_ne hne, AttributeValue.equals_iff_of_not_mem h,
    Record.HasMember]

theorem holds_wildcards_iff (h : '*' ∈ value) (hne : value ≠ ['*']) :
    holds r policy (.comparison ⟨name, .equality, value⟩) = true ↔ Pattern.fits value = true ∧
      Record.HasMember r name fun m =>
        Pattern.Spells Text.SameLetters ((Text.splitOn '*' value).map decode) m.toText := by
  simp only [holds_comparison_iff, accepts_of_ne hne, AttributeValue.equals_of_mem h,
    AttributeValue.matchesPattern, List.any_eq_true, Pattern.admits_iff, Record.HasMember]
  constructor
  · rintro ⟨v, hv, m, hm, hfits, hspells⟩
    exact ⟨hfits, v, hv, m, hm, hspells⟩
  · rintro ⟨hfits, v, hv, m, hm, hspells⟩
    exact ⟨v, hv, m, hm, hfits, hspells⟩

/-! ### Built comparisons -/

/-- A built comparison with wildcards, other than that for presence, looks for the pieces around
its wildcards. -/
theorem holds_iff_of_builds {a : Attribute} {pieces : List Text} {f : Filter}
    (h : a.Builds .equality pieces f) (hn : 2 ≤ pieces.length) (hne : pieces ≠ [[], []]) :
    holds r policy f = true ↔ Record.HasMember r a.name fun m =>
      Pattern.Spells Text.SameLetters (pieces.map decode) m.toText := by
  have hlength : pieces.length ≤ 3 := by cases h <;> simp
  obtain ⟨value, rfl, -, rfl⟩ := h.eq_comparison
  rw [Text.length_splitOn] at hn hlength
  have hstar : '*' ∈ value := List.count_pos_iff.mp (by omega)
  have hfits : Pattern.fits value = true := by
    rw [Pattern.fits, decide_eq_true_eq, Pattern.maxWildcards]
    omega
  rw [holds_wildcards_iff hstar, and_iff_right hfits]
  rintro rfl
  exact hne rfl

/-- **Built values mean what they say**: for a record with the attribute, equality asks for a member
other than the empty text with the same lowercase form as the value, and the other builders ask for
a member that begins with the value, ends with it or contains it, letter by letter.  The value may
hold any characters. -/
theorem holds_built_iff {α : Type} [Printable α] (a : Attribute) (value : α) (r : ρ)
    (policy : OrderPolicy) :
    (holds r policy (a.equalTo value) = true ↔ Record.HasMember r a.name fun m =>
      m ≠ .text [] ∧ Text.lowercase m.toText = Text.lowercase (Printable.text value)) ∧
    (Printable.text value ≠ [] →
      (holds r policy (a.startsWith value) = true ↔ Record.HasMember r a.name fun m =>
        ∃ form rest, m.toText = form ++ rest ∧ Text.SameLetters form (Printable.text value)) ∧
      (holds r policy (a.endsWith value) = true ↔ Record.HasMember r a.name fun m =>
        ∃ before form, m.toText = before ++ form ∧
          Text.SameLetters form (Printable.text value)) ∧
      (holds r policy (a.contains value) = true ↔ Record.HasMember r a.name fun m =>
        ∃ before form rest, m.toText = before ++ (form ++ rest) ∧
          Text.SameLetters form (Printable.text value))) := by
  constructor
  · have hstar : '*' ∉ escape (Printable.text value) := not_mem_escape (by decide) _
    rw [Attribute.equalTo, Attribute.compared, holds_plain_iff hstar, decode_escape]
  · intro hvalue
    have hescape : escape (Printable.text value) ≠ [] := fun h =>
      hvalue (by rw [← decode_escape (Printable.text value), h]; rfl)
    have hnil : decode [] = [] := rfl
    refine ⟨?_, ?_, ?_⟩
    · rw [holds_iff_of_builds (.startsWith value) (by simp) (by simp [hescape])]
      simp only [List.map_cons, List.map_nil, decode_escape, hnil, Pattern.spells_prefix]
    · rw [holds_iff_of_builds (.endsWith value) (by simp) (by simp [hescape])]
      simp only [List.map_cons, List.map_nil, decode_escape, hnil, Pattern.spells_nil_cons,
        Pattern.spells_singleton]
    · rw [holds_iff_of_builds (.contains value) (by simp) (by simp)]
      simp only [List.map_cons, List.map_nil, decode_escape, hnil, Pattern.spells_infix]

/-- A value made of reserved characters is found as it is. -/
theorem holds_contains_reserved :
    let value : Text := ['(', '*', '\\', '2', 'a', 'É']
    let f := Attribute.contains ⟨['c', 'n']⟩ value
    let r := Entry.empty.insert ['c', 'n']
      (.multi [.text [], .text ['x', '(', '*', '\\', '2', 'A', 'é', 'y']])
    value ≠ [] ∧ holds r .natural f = true := by
  intro value f r
  have hvalue : value ≠ [] := by simp [value]
  have hsame : Text.SameLetters ['(', '*', '\\', '2', 'A', 'é'] value :=
    Text.sameLetters_iff.mpr (by decide)
  refine ⟨hvalue, ((holds_built_iff ⟨['c', 'n']⟩ value r .natural).2 hvalue).2.2.mpr ?_⟩
  exact ⟨_, rfl, .text ['x', '(', '*', '\\', '2', 'A', 'é', 'y'], by simp [AttributeValue.members],
    ['x'], ['(', '*', '\\', '2', 'A', 'é'], ['y'], rfl, hsame⟩

/-! ### Presence -/

theorem eq_replicate_of_spells_nil
    (h : Pattern.Spells Text.SameLetters ((Text.splitOn '*' value).map decode) []) :
    value = List.replicate value.length '*' := by
  have hpieces : ∀ piece ∈ Text.splitOn '*' value, piece = [] := by
    intro piece hpiece
    have hsame := h.forall_of_nil (decode piece) (List.mem_map_of_mem hpiece)
    exact decode_eq_nil_iff.mp (Text.sameLetters_nil_left.mp hsame)
  have hflatten := Text.flatten_splitOn '*' value
  rw [List.flatten_eq_nil_iff.mpr hpieces] at hflatten
  have hstars := List.filter_eq_nil_iff.mp hflatten.symm
  exact List.eq_replicate_of_mem fun c hc => by simpa using hstars c hc

theorem splitOn_replicate (n : Nat) :
    Text.splitOn '*' (List.replicate n '*') = List.replicate (n + 1) [] := by
  induction n with
  | zero => rfl
  | succ n ih => rw [List.replicate_succ, Text.splitOn, if_pos rfl, ih, ← List.replicate_succ]

theorem holds_replicate_iff {n : Nat} (hn : n + 2 ≤ Pattern.maxWildcards) :
    holds r policy (.comparison ⟨name, .equality, List.replicate (n + 2) '*'⟩) = true ↔
      Record.HasMember r name fun _ => True := by
  have hfits : Pattern.fits (List.replicate (n + 2) '*') = true := by
    rw [Pattern.fits, List.count_replicate_self, decide_eq_true_eq]
    exact hn
  have hpieces : (Text.splitOn '*' (List.replicate (n + 2) '*')).map decode =
      List.replicate (n + 1 + 2) [] := by
    rw [splitOn_replicate, List.map_replicate]
    rfl
  rw [holds_wildcards_iff (by simp) (by simp [List.replicate_succ]), and_iff_right hfits, hpieces]
  simp only [Pattern.spells_replicate_nil]

/-- Any other value finds only members that are not the empty text. -/
theorem hasMember_or_eq_replicate
    (h : holds r policy (.comparison ⟨name, .equality, value⟩) = true) :
    Record.HasMember r name (· ≠ .text []) ∨ ∃ n, value = List.replicate (n + 2) '*' := by
  by_cases hstar : '*' ∈ value
  · by_cases hpresence : value = ['*']
    · subst hpresence
      exact .inl (holds_presence_iff.mp h)
    · obtain ⟨-, v, hv, m, hm, hspells⟩ := (holds_wildcards_iff hstar hpresence).mp h
      by_cases hempty : m = .text []
      · subst hempty
        have hvalue := eq_replicate_of_spells_nil hspells
        right
        match hlength : value.length with
        | 0 =>
            rw [List.length_eq_zero_iff.mp hlength] at hstar
            cases hstar
        | 1 =>
            rw [hlength] at hvalue
            exact absurd hvalue hpresence
        | n + 2 =>
            rw [hlength] at hvalue
            exact ⟨n, hvalue⟩
      · exact .inl ⟨v, hv, m, hm, hempty⟩
  · obtain ⟨v, hv, m, hm, hne, -⟩ := (holds_plain_iff hstar).mp h
    exact .inl ⟨v, hv, m, hm, hne⟩

/-- **A match implies presence**: a record for which a comparison for equality holds has the
attribute with a member that is not the empty text, and so none of these comparisons holds where all
members are empty.  The exceptions are the values of two or more wildcards and nothing else, which
any member matches. -/
theorem holds_present_of_holds (r : ρ) (policy : OrderPolicy) (name : Text) :
    (∀ value : Text, (∀ n, value ≠ List.replicate (n + 2) '*') →
      (holds r policy (.comparison ⟨name, .equality, value⟩) = true →
        holds r policy (.comparison ⟨name, .equality, ['*']⟩) = true) ∧
      ((∀ v, Record.value? r name = some v → ∀ m ∈ v.members, m = .text []) →
        holds r policy (.comparison ⟨name, .equality, value⟩) = false)) ∧
    ∀ n, n + 2 ≤ Pattern.maxWildcards →
      (holds r policy (.comparison ⟨name, .equality, List.replicate (n + 2) '*'⟩) = true ↔
        Record.HasMember r name fun _ => True) := by
  refine ⟨fun value hvalue => ?_, fun n hn => holds_replicate_iff hn⟩
  have hmember : holds r policy (.comparison ⟨name, .equality, value⟩) = true →
      Record.HasMember r name (· ≠ .text []) := by
    intro h
    rcases hasMember_or_eq_replicate h with hmember | ⟨n, hn⟩
    · exact hmember
    · exact absurd hn (hvalue n)
  refine ⟨fun h => holds_presence_iff.mpr (hmember h), fun hempty => ?_⟩
  rw [← Bool.not_eq_true]
  intro h
  obtain ⟨v, hv, m, hm, hne⟩ := hmember h
  exact hne (hempty v hv m hm)

/-- A record that matches `*a*` has the attribute; an empty member matches `**` and not `*a*`. -/
theorem holds_present_of_holds_entry :
    let r (s : Text) := Entry.empty.insert ['c', 'n'] (.single (.text s))
    let f (value : Text) : Filter := .comparison ⟨['c', 'n'], .equality, value⟩
    holds (r ['x', 'A']) .natural (f ['*', 'a', '*']) = true ∧
      holds (r ['x', 'A']) .natural (f ['*']) = true ∧
      holds (r []) .natural (f ['*', 'a', '*']) = false ∧
      holds (r []) .natural (f ['*', '*']) = true := by
  intro r f
  have hvalue : ∀ n, ['*', 'a', '*'] ≠ List.replicate (n + 2) '*' := by
    intro n h
    have ha : 'a' ∈ List.replicate (n + 2) '*' := h ▸ by simp
    exact absurd (List.eq_of_mem_replicate ha) (by decide)
  have hholds : holds (r ['x', 'A']) .natural (f ['*', 'a', '*']) = true := by decide
  have hempty : ∀ v, Record.value? (r []) ['c', 'n'] = some v → ∀ m ∈ v.members, m = .text [] := by
    intro v hv m hm
    obtain rfl : AttributeValue.single (.text []) = v := Option.some.inj hv
    simpa [AttributeValue.members] using hm
  have hany : Record.HasMember (r []) ['c', 'n'] fun _ => True :=
    ⟨.single (.text []), rfl, .text [], List.mem_singleton_self _, trivial⟩
  exact ⟨hholds, ((holds_present_of_holds _ .natural _).1 _ hvalue).1 hholds,
    ((holds_present_of_holds _ .natural _).1 _ hvalue).2 hempty,
    ((holds_present_of_holds _ .natural _).2 0 (by decide)).mpr hany⟩

/-- Two wildcards stand for the empty text, which is not present. -/
theorem holds_wildcards_of_not_present :
    let r := Entry.empty.insert ['a'] (.single (.text []))
    holds r .natural (.comparison ⟨['a'], .equality, ['*', '*']⟩) = true ∧
      holds r .natural (.comparison ⟨['a'], .equality, ['*']⟩) = false := by
  decide

end Filter
end SearchFilter
