import SearchFilter.Text.Basic

/-!
# Slices

A slice of a text stands between two numbers of bytes.  Not every number will do: a slice can neither
begin nor end inside a character or behind the end of the text.
-/

namespace SearchFilter.Text

theorem utf8Length_eq_zero {s : Text} : s.utf8Length = 0 ↔ s = [] := by
  cases s with
  | nil => simp
  | cons c s =>
      have hc := c.utf8Size_pos
      simp only [utf8Length_cons, reduceCtorEq, iff_false]
      omega

/-- The characters of the first `n` bytes and those behind them, if the first `n` bytes are
characters. -/
def cut? : Nat → Text → Option (Text × Text)
  | 0, s => some ([], s)
  | _ + 1, [] => none
  | n + 1, c :: s =>
    if c.utf8Size ≤ n + 1 then (cut? (n + 1 - c.utf8Size) s).map fun (t, r) => (c :: t, r) else none

/-- A text is cut exactly where a part of it ends. -/
theorem cut?_eq_some_iff {n : Nat} {s t r : Text} :
    cut? n s = some (t, r) ↔ s = t ++ r ∧ n = t.utf8Length := by
  fun_induction cut? n s generalizing t with
  | case1 s =>
      constructor
      · intro h
        cases h
        exact ⟨rfl, rfl⟩
      · rintro ⟨rfl, ht⟩
        rw [utf8Length_eq_zero.mp ht.symm]
        rfl
  | case2 n =>
      constructor
      · intro h
        cases h
      · rintro ⟨ht, hn⟩
        rw [(List.append_eq_nil_iff.mp ht.symm).1] at hn
        cases hn
  | case3 n c s hc ih =>
      simp only [Option.map_eq_some_iff, Prod.mk.injEq, Prod.exists]
      constructor
      · rintro ⟨t, r, hcut, rfl, rfl⟩
        obtain ⟨rfl, hn⟩ := ih.mp hcut
        refine ⟨rfl, ?_⟩
        rw [utf8Length_cons, ← hn]
        omega
      · rintro ⟨hs, hn⟩
        cases t with
        | nil => cases hn
        | cons d t =>
            obtain ⟨rfl, rfl⟩ := List.cons.inj hs
            rw [utf8Length_cons] at hn
            exact ⟨t, r, ih.mpr ⟨rfl, by omega⟩, rfl, rfl⟩
  | case4 n c s hc =>
      constructor
      · intro h
        cases h
      · rintro ⟨hs, hn⟩
        cases t with
        | nil => cases hn
        | cons d t =>
            obtain ⟨rfl, rfl⟩ := List.cons.inj hs
            rw [utf8Length_cons] at hn
            omega

/-- The characters from one number of bytes to another one, if both are at the border of a
character and in this order. -/
def slice? (start stop : Nat) (s : Text) : Option Text := do
  let (upTo, _) ← cut? stop s
  let (_, within) ← cut? start upTo
  return within

/-- A slice is a part of a text between two others, from its first byte to its last. -/
theorem slice?_eq_some_iff {start stop : Nat} {s t : Text} :
    s.slice? start stop = some t ↔
      ∃ u r, s = u ++ t ++ r ∧ start = u.utf8Length ∧ stop = (u ++ t).utf8Length := by
  constructor
  · intro h
    obtain ⟨⟨upTo, r⟩, hstop, h⟩ := Option.bind_eq_some_iff.mp h
    obtain ⟨⟨u, within⟩, hstart, h⟩ := Option.bind_eq_some_iff.mp h
    cases h
    obtain ⟨rfl, hstop'⟩ := cut?_eq_some_iff.mp hstop
    obtain ⟨rfl, hstart'⟩ := cut?_eq_some_iff.mp hstart
    exact ⟨u, r, rfl, hstart', hstop'⟩
  · rintro ⟨u, r, rfl, rfl, rfl⟩
    exact Option.bind_eq_some_iff.mpr ⟨(u ++ t, r), cut?_eq_some_iff.mpr ⟨rfl, rfl⟩,
      Option.bind_eq_some_iff.mpr ⟨(u, t), cut?_eq_some_iff.mpr ⟨rfl, rfl⟩, rfl⟩⟩

end SearchFilter.Text
