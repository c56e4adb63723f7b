import SearchFilter.Proofs.Escape.Spellings

/-! # Escaping and its inverse

`unescape` undoes `escape` on every text (`unescape_escape`).  A text can have been written by
`escape` if no reserved character stands in it as it is and every backslash in it begins one of the
five triples (`Escaped`): these are the escaped texts and no others, since on them `escape` undoes
`unescape` (`escaped_escape`, `escape_unescape`).

`decode` reads more escapes than these five.  Where no others stand in a text, both decoders read
the same characters from it (`valueBytes_eq_toUtf8_unescape`).

The proofs take a text from its head: either it begins with the form of some character
(`escapeChar`), or its first character stands for itself. -/

namespace SearchFilter

variable {c : Char} {s t : Text}

/-- The characters that `escape` writes as triples. -/
def reserved : List Char := ['\\', '*', '(', ')', '\x00']

/-- What stands behind the backslash in these triples. -/
def escapeDigits : List Text := [['5', 'c'], ['2', 'a'], ['2', '8'], ['2', '9'], ['0', '0']]

/-- A backslash in front of the text begins a triple. -/
def BeginsTriple (s : Text) : Prop := ∃ digits ∈ escapeDigits, digits <+: s

instance (s : Text) : Decidable (BeginsTriple s) :=
  inferInstanceAs (Decidable (∃ digits ∈ escapeDigits, digits <+: s))

/-- What follows any backslash of the text has the property. -/
def BehindBackslashes (p : Text → Prop) (e : Text) : Prop := ∀ s t, e = s ++ '\\' :: t → p t

/-- The text has the form that `escape` writes. -/
structure Escaped (e : Text) : Prop where
  /-- No reserved character but the backslash stands in the text. -/
  unreserved : ∀ c ∈ ['*', '(', ')', '\x00'], c ∉ e
  /-- Every backslash begins a triple. -/
  triples : BehindBackslashes BeginsTriple e

/-- Every backslash with two hexadecimal digits behind it begins a triple. -/
def OnlyTriples (e : Text) : Prop :=
  BehindBackslashes (fun t => Text.StartsWithPair t → BeginsTriple t) e

/-! ### Behind the backslashes -/

section
variable {p : Text → Prop}

theorem behindBackslashes_nil : BehindBackslashes p [] := by
  intro s t h
  simp at h

theorem behindBackslashes_cons :
    BehindBackslashes p (c :: s) ↔ (c = '\\' → p s) ∧ BehindBackslashes p s := by
  constructor
  · intro h
    refine ⟨fun hc => h [] s (by rw [hc, List.nil_append]), ?_⟩
    rintro a b rfl
    exact h (c :: a) b rfl
  · rintro ⟨hhead, htail⟩ a b h
    cases a with
    | nil =>
        obtain ⟨rfl, rfl⟩ := List.cons.inj h
        exact hhead rfl
    | cons d a => exact htail a b (List.cons.inj h).2

theorem BehindBackslashes.of_append (h : BehindBackslashes p (s ++ t)) : BehindBackslashes p t := by
  rintro a b rfl
  exact h (s ++ a) b (List.append_assoc s a _).symm

instance decidableBehindBackslashes [DecidablePred p] :
    (e : Text) → Decidable (BehindBackslashes p e)
  | [] => isTrue behindBackslashes_nil
  | c :: s =>
    have := decidableBehindBackslashes s
    decidable_of_iff ((c = '\\' → p s) ∧ BehindBackslashes p s) behindBackslashes_cons.symm

end

instance (e : Text) : Decidable (Escaped e) :=
  have : Decidable (∀ c ∈ ['*', '(', ')', '\x00'], c ∉ e) := List.decidableBAll _ _
  decidable_of_iff ((∀ c ∈ ['*', '(', ')', '\x00'], c ∉ e) ∧ BehindBackslashes BeginsTriple e)
    ⟨fun h => ⟨h.1, h.2⟩, fun h => ⟨h.1, h.2⟩⟩

instance (e : Text) : Decidable (OnlyTriples e) :=
  inferInstanceAs (Decidable (BehindBackslashes _ e))

/-! ### The form of a character -/

theorem escapeChar_of_mem (h : c ∈ reserved) :
    ∃ digits ∈ escapeDigits, escapeChar c = '\\' :: digits := by
  simp only [reserved, List.mem_cons, List.not_mem_nil, or_false] at h
  rcases h with rfl | rfl | rfl | rfl | rfl <;> decide

theorem escapeChar_of_not_mem (h : c ∉ reserved) : escapeChar c = [c] := by
  simp only [reserved, List.mem_cons, List.not_mem_nil, or_false, not_or] at h
  obtain ⟨h1, h2, h3, h4, h5⟩ := h
  rw [escapeChar, if_neg h1, if_neg h2, if_neg h3, if_neg h4, if_neg h5]

theorem escapeChar_ne_nil (c : Char) : escapeChar c ≠ [] := by
  by_cases h : c ∈ reserved
  · obtain ⟨digits, -, hform⟩ := escapeChar_of_mem h
    rw [hform]
    exact List.cons_ne_nil _ _
  · rw [escapeChar_of_not_mem h]
    exact List.cons_ne_nil _ _

/-- The only backslash in the form of a character begins a triple. -/
theorem mem_escapeDigits_of_escapeChar (h : escapeChar c = s ++ '\\' :: t) : t ∈ escapeDigits := by
  have hmem : '\\' ∈ s ++ '\\' :: t := List.mem_append_right s List.mem_cons_self
  by_cases hc : c ∈ reserved
  · obtain ⟨digits, hdigits, hform⟩ := escapeChar_of_mem hc
    rw [hform] at h
    cases s with
    | nil =>
        obtain ⟨-, rfl⟩ := List.cons.inj h
        exact hdigits
    | cons d s =>
        have hnone : ∀ digits ∈ escapeDigits, '\\' ∉ digits := by decide
        obtain ⟨-, rfl⟩ := List.cons.inj h
        exact absurd (List.mem_append_right s List.mem_cons_self) (hnone _ hdigits)
  · rw [escapeChar_of_not_mem hc] at h
    rw [← h, List.mem_singleton] at hmem
    exact absurd (hmem ▸ List.mem_cons_self) hc

theorem exists_escapeChar_append (h : BeginsTriple s) : ∃ c t, '\\' :: s = escapeChar c ++ t := by
  obtain ⟨digits, hdigits, t, rfl⟩ := h
  obtain ⟨c, hc⟩ : ∃ c, escapeChar c = '\\' :: digits := by
    simp only [escapeDigits, List.mem_cons, List.not_mem_nil, or_false] at hdigits
    rcases hdigits with rfl | rfl | rfl | rfl | rfl
    · exact ⟨'\\', rfl⟩
    · exact ⟨'*', rfl⟩
    · exact ⟨'(', rfl⟩
    · exact ⟨')', rfl⟩
    · exact ⟨'\x00', rfl⟩
  exact ⟨c, t, by rw [hc, List.cons_append]⟩

theorem length_lt_of_eq_append {c d : Char} (h : c :: s = escapeChar d ++ t) :
    t.length < (c :: s).length := by
  have hpos : 0 < (escapeChar d).length := List.length_pos_iff.mpr (escapeChar_ne_nil d)
  rw [h, List.length_append]
  omega

/-! ### Reading back -/

theorem unescape_raw (h : c = '\\' → ¬ BeginsTriple s) : unescape (c :: s) = c :: unescape s := by
  have hother : ∀ digits ∈ escapeDigits, ∀ t, c = '\\' → s ≠ digits ++ t := by
    rintro digits hdigits t hc rfl
    exact h hc ⟨digits, hdigits, List.prefix_append digits t⟩
  rw [unescape]
  · exact fun t hc => hother ['5', 'c'] (by decide) t hc
  · exact fun t hc => hother ['2', 'a'] (by decide) t hc
  · exact fun t hc => hother ['2', '8'] (by decide) t hc
  · exact fun t hc => hother ['2', '9'] (by decide) t hc
  · exact fun t hc => hother ['0', '0'] (by decide) t hc

theorem unescape_escapeChar_append (c : Char) (s : Text) :
    unescape (escapeChar c ++ s) = c :: unescape s := by
  unfold escapeChar
  split_ifs with h1 h2 h3 h4 h5
  · subst h1
    rfl
  · subst h2
    rfl
  · subst h3
    rfl
  · subst h4
    rfl
  · subst h5
    rfl
  · exact unescape_raw fun hc => absurd hc h1

theorem unescape_escape (s : Text) : unescape (escape s) = s := by
  induction s with
  | nil => rfl
  | cons c s ih => rw [escape_cons, unescape_escapeChar_append, ih]

/-! ### Escaped texts -/

theorem escaped_escapeChar_append (c : Char) (h : Escaped t) : Escaped (escapeChar c ++ t) := by
  refine ⟨fun d hd => ?_, fun a b hab => ?_⟩
  · rw [List.mem_append, not_or]
    exact ⟨not_mem_escapeChar hd c, h.unreserved d hd⟩
  · -- The backslash stands behind the form of the character or in it.
    rcases List.append_eq_append_iff.mp hab with ⟨a', -, ht⟩ | ⟨b', hform, hb⟩
    · exact h.triples a' b ht
    · cases b' with
      | nil => exact h.triples [] b hb.symm
      | cons d b' =>
          obtain ⟨rfl, rfl⟩ := List.cons.inj hb
          exact ⟨b', mem_escapeDigits_of_escapeChar hform, List.prefix_append b' t⟩

theorem escaped_escape (s : Text) : Escaped (escape s) := by
  induction s with
  | nil => exact ⟨fun _ _ => List.not_mem_nil, behindBackslashes_nil⟩
  | cons c s ih =>
      rw [escape_cons]
      exact escaped_escapeChar_append c ih

theorem Escaped.of_append (h : Escaped (s ++ t)) : Escaped t :=
  ⟨fun c hc ht => h.unreserved c hc (List.mem_append_right s ht), h.triples.of_append⟩

theorem Escaped.eq_escapeChar_append (h : Escaped (c :: s)) :
    ∃ d t, c :: s = escapeChar d ++ t := by
  by_cases hc : c = '\\'
  · subst hc
    exact exists_escapeChar_append (h.triples [] s rfl)
  · have hother : c ∉ reserved := by
      intro hmem
      rcases List.mem_cons.mp hmem with hback | hrest
      · exact hc hback
      · exact h.unreserved c hrest List.mem_cons_self
    exact ⟨c, s, by rw [escapeChar_of_not_mem hother, List.singleton_append]⟩

/-- Escaping undoes the reading back of an escaped text. -/
theorem escape_unescape : {e : Text} → Escaped e → escape (unescape e) = e
  | [], _ => rfl
  | c :: s, h => by
      obtain ⟨d, t, hform⟩ := h.eq_escapeChar_append
      have hshorter : t.length < (c :: s).length := length_lt_of_eq_append hform
      have ht : Escaped t := (hform ▸ h).of_append
      rw [hform, unescape_escapeChar_append, escape_cons, escape_unescape ht]
termination_by e => e.length
decreasing_by exact hshorter

/-! ### The two decoders -/

/-- A text without other escapes has the bytes of what it is read back as. -/
theorem valueBytes_eq_toUtf8_unescape :
    {e : Text} → OnlyTriples e → valueBytes e = Text.toUtf8 (unescape e)
  | [], _ => rfl
  | c :: s, h => by
      by_cases hc : c = '\\' ∧ BeginsTriple s
      · obtain ⟨rfl, htriple⟩ := hc
        obtain ⟨d, t, hform⟩ := exists_escapeChar_append htriple
        have hshorter : t.length < ('\\' :: s).length := length_lt_of_eq_append hform
        have ht : OnlyTriples t := (hform ▸ h : OnlyTriples (escapeChar d ++ t)).of_append
        rw [hform, valueBytes_escapeChar_append, unescape_escapeChar_append,
          valueBytes_eq_toUtf8_unescape ht, Text.toUtf8, Text.toUtf8, List.flatMap_cons]
      · rw [not_and] at hc
        obtain ⟨hhead, hs⟩ := behindBackslashes_cons.mp h
        have hraw : c = '\\' → ¬ Text.StartsWithPair s := fun hback hpair =>
          hc hback (hhead hback hpair)
        rw [valueBytes_raw hraw, unescape_raw hc, valueBytes_eq_toUtf8_unescape hs, Text.toUtf8,
          Text.toUtf8, List.flatMap_cons]
termination_by e => e.length
decreasing_by
  · exact hshorter
  · exact Nat.lt_succ_self _

/-- **Escaping and reading back are inverse to each other**: every text is read back from its
escaped form, the escaped texts are those of the form that `escape` writes, and each of these is
written again from what it is read back as.  The two decoders agree where no other escapes stand. -/
theorem escape_unescape_inverse :
    (∀ s, unescape (escape s) = s) ∧
    (∀ e, (∃ s, e = escape s) ↔ Escaped e) ∧
    (∀ e, Escaped e → escape (unescape e) = e) ∧
    ∀ e, OnlyTriples e → unescape e = decode e := by
  refine ⟨unescape_escape, fun e => ⟨?_, fun h => ?_⟩, fun e h => escape_unescape h, fun e h => ?_⟩
  · rintro ⟨s, rfl⟩
    exact escaped_escape s
  · exact ⟨unescape e, (escape_unescape h).symm⟩
  · rw [decode, valueBytes_eq_toUtf8_unescape h, Text.ofUtf8Lossy_toUtf8]

/-- The escape of a backslash in front of digits, a letter of two bytes and an escaped parenthesis;
then a star as it is, and backslashes before one digit and in the last place. -/
theorem escape_unescape_inverse_mixed :
    let e : Text := ['\\', '5', 'c', '2', 'a', 'é', '\\', '2', '8']
    let raw : Text := e ++ ['*', '\\', '4', '\\']
    Escaped e ∧ escape (unescape e) = e ∧ unescape e = ['\\', '2', 'a', 'é', '('] ∧
      OnlyTriples raw ∧ unescape raw = decode raw := by
  intro e raw
  have he : Escaped e := by decide
  have hraw : OnlyTriples raw := by decide
  obtain ⟨-, -, hescape, hdecode⟩ := escape_unescape_inverse
  exact ⟨he, hescape e he, by decide, hraw, hdecode raw hraw⟩

end SearchFilter
