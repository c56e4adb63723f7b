import SearchFilter.Json.Relaxed

/-! # Values that are read

The items of an array and the members of an object are read by one loop, which differs in the
bracket at its end and in the reader of an item only (`readListed`).  A value that is read is an
array whose items were read themselves, an object whose members were put in order, or neither
(`readValue_cases`), so the names of an object that is read ascend (`ascending_of_readValue`). -/

namespace SearchFilter.Json

def isScalar : Json → Bool
  | boolean _ => true
  | integer _ => true
  | float _ => true
  | string _ => true
  | null => false
  | array _ => false
  | object _ => false

/-- The value has no parts. -/
def IsAtom (j : Json) : Prop := j = .null ∨ j.isScalar = true

namespace Relaxed

variable {α : Type} {j : Json} {room : Nat} {s rest : Text}

/-! ### The loop over items -/

/-- Reads items with a comma between each two up to a closing bracket. -/
def readListed (closing : Char) (read : Text → Option (α × Text)) :
    (budget : Text) → Text → Option (List α × Text)
  | [], _ => none
  | _ :: budget, s =>
    if s.head? = some closing then some ([], s.tail)
    else do
      let (x, rest) ← read s
      let rest ← skip rest
      if rest.head? = some closing then return ([x], rest.tail)
      else if rest.head? = some ',' then
        let (xs, rest) ← readListed closing read budget (← skip rest.tail)
        return (x :: xs, rest)
      else none

theorem readItems_eq (read : ValueReader) (budget s : Text) :
    readItems read budget s = readListed ']' read budget s := by
  induction budget generalizing s with
  | nil => rfl
  | cons b budget ih =>
      unfold readItems readListed
      split
      · rfl
      · rename_i hs
        have hhead : s.head? ≠ some ']' := by
          cases s <;> simp_all
        rw [if_neg hhead]
        refine Option.bind_congr fun ⟨j, rest⟩ _ => Option.bind_congr fun rest _ => ?_
        cases rest with
        | nil => rfl
        | cons c rest =>
            by_cases hclosing : c = ']'
            · subst hclosing
              rfl
            · by_cases hcomma : c = ','
              · subst hcomma
                simp [ih]
              · simp [hclosing, hcomma]

theorem readMembers_eq (read : ValueReader) (budget s : Text) :
    readMembers read budget s = readListed '\x7d' (readMember read) budget s := by
  induction budget generalizing s with
  | nil => rfl
  | cons b budget ih =>
      unfold readMembers readListed
      split
      · rfl
      · rename_i hs
        have hhead : s.head? ≠ some '\x7d' := by
          cases s <;> simp_all
        rw [if_neg hhead]
        refine Option.bind_congr fun ⟨m, rest⟩ _ => Option.bind_congr fun rest _ => ?_
        cases rest with
        | nil => rfl
        | cons c rest =>
            by_cases hclosing : c = '\x7d'
            · subst hclosing
              rfl
            · by_cases hcomma : c = ','
              · subst hcomma
                simp [ih]
              · simp [hclosing, hcomma]

theorem exists_of_mem_readListed {closing : Char} {read : Text → Option (α × Text)}
    {budget : Text} {xs : List α} (h : readListed closing read budget s = some (xs, rest)) :
    ∀ x ∈ xs, ∃ s rest, read s = some (x, rest) := by
  induction budget generalizing s xs rest with
  | nil => cases h
  | cons b budget ih =>
      rw [readListed] at h
      split at h
      · cases h
        exact List.forall_mem_nil _
      · obtain ⟨⟨x, behind⟩, hx, h⟩ := Option.bind_eq_some_iff.mp h
        obtain ⟨next, -, h⟩ := Option.bind_eq_some_iff.mp h
        split at h
        · cases h
          exact List.forall_mem_singleton.mpr ⟨s, behind, hx⟩
        · split at h
          · obtain ⟨start, -, h⟩ := Option.bind_eq_some_iff.mp h
            obtain ⟨⟨xs, behind⟩, hxs, h⟩ := Option.bind_eq_some_iff.mp h
            cases h
            exact List.forall_mem_cons.mpr ⟨⟨s, _, hx⟩, ih hxs⟩
          · cases h

/-! ### One value -/

theorem isAtom_ofFloat (x : Binary64) : IsAtom (ofFloat x) := by
  unfold ofFloat
  split
  · exact .inr rfl
  · exact .inl rfl

theorem isAtom_ofInteger (n : Int) : IsAtom (ofInteger n) := by
  unfold ofInteger
  split
  · exact .inr rfl
  · exact isAtom_ofFloat _

theorem isAtom_of_readHexInteger {negative : Bool}
    (h : readHexInteger negative s = some (j, rest)) : IsAtom j := by
  unfold readHexInteger at h
  extract_lets ds n at h
  split at h
  · cases h
  · split at h
    · cases h
      exact isAtom_ofInteger _
    · cases h

theorem isAtom_of_readDecimal {negative : Bool}
    (h : readDecimal negative s = some (j, rest)) : IsAtom j := by
  unfold readDecimal at h
  extract_lets whole at h
  split at h
  split at h
  · cases h
  · obtain ⟨⟨exponent, behind⟩, -, h⟩ := Option.bind_eq_some_iff.mp h
    dsimp only at h
    split at h
    · cases h
      exact isAtom_ofInteger _
    · obtain ⟨e, -, h⟩ := Option.bind_eq_some_iff.mp h
      cases h
      exact isAtom_ofFloat _

theorem isAtom_of_readUnsigned {negative : Bool}
    (h : readUnsigned negative s = some (j, rest)) : IsAtom j := by
  unfold readUnsigned at h
  split at h
  · cases h
    exact .inl rfl
  · cases h
    exact .inl rfl
  · split at h
    · exact isAtom_of_readHexInteger h
    · exact isAtom_of_readHexInteger h
    · exact isAtom_of_readDecimal h

theorem isAtom_of_readNumber (h : readNumber s = some (j, rest)) : IsAtom j := by
  unfold readNumber at h
  split at h <;> exact isAtom_of_readUnsigned h

theorem isAtom_of_readWord (h : readWord s = some (j, rest)) : IsAtom j := by
  unfold readWord at h
  split at h
  · cases h
    exact .inl rfl
  · cases h
    exact .inr rfl
  · cases h
    exact .inr rfl
  · exact isAtom_of_readNumber h

/-- A value is an array of values that were read, an object in order, null, or a scalar. -/
theorem readValue_cases (h : readValue room s = some (j, rest)) :
    (∃ items, j = .array items ∧
      ∀ item ∈ items, ∃ room s rest, readValue room s = some (item, rest)) ∨
    (∃ members, j = .object (Bindings.ofList members)) ∨ j.IsAtom := by
  cases room with
  | zero => cases h
  | succ room =>
      unfold readValue at h
      split at h
      · obtain ⟨start, -, h⟩ := Option.bind_eq_some_iff.mp h
        obtain ⟨⟨items, behind⟩, hitems, h⟩ := Option.bind_eq_some_iff.mp h
        cases h
        rw [readItems_eq] at hitems
        refine .inl ⟨items, rfl, fun item hitem => ⟨room, ?_⟩⟩
        exact exists_of_mem_readListed hitems item hitem
      · obtain ⟨start, -, h⟩ := Option.bind_eq_some_iff.mp h
        obtain ⟨⟨members, behind⟩, -, h⟩ := Option.bind_eq_some_iff.mp h
        cases h
        exact .inr (.inl ⟨members, rfl⟩)
      · obtain ⟨⟨t, behind⟩, -, h⟩ := Option.map_eq_some_iff.mp h
        cases h
        exact .inr (.inr (.inr rfl))
      · obtain ⟨⟨t, behind⟩, -, h⟩ := Option.map_eq_some_iff.mp h
        cases h
        exact .inr (.inr (.inr rfl))
      · exact .inr (.inr (isAtom_of_readWord h))

theorem ascending_of_readValue {members : List (Text × Json)}
    (h : readValue room s = some (.object members, rest)) : Bindings.Ascending members := by
  rcases readValue_cases h with ⟨items, hj, -⟩ | ⟨unordered, hj⟩ | hj | hj
  · cases hj
  · cases hj
    exact Bindings.ascending_ofList unordered
  · cases hj
  · cases hj

theorem exists_readValue_of_parse (h : parse s = some j) :
    ∃ room start rest, readValue room start = some (j, rest) := by
  obtain ⟨start, -, h⟩ := Option.bind_eq_some_iff.mp h
  obtain ⟨⟨read, rest⟩, hread, h⟩ := Option.bind_eq_some_iff.mp h
  obtain ⟨behind, -, h⟩ := Option.bind_eq_some_iff.mp h
  split at h
  · cases h
    exact ⟨s.length + 1, start, rest, hread⟩
  · cases h

end Relaxed
end SearchFilter.Json
