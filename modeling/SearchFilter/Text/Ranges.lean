/-!
# Sets of code points

A Unicode property is kept as the ascending list of its intervals.  `mem` stops at the first
interval that begins beyond the code point sought.
-/

namespace SearchFilter.Text

/-- A set of code points: closed intervals in ascending order. -/
abbrev Ranges := List (Nat × Nat)

/-- Whether a code point lies in one of the intervals. -/
def Ranges.mem (n : Nat) : Ranges → Bool
  | [] => false
  | (first, last) :: rest => if n < first then false else n ≤ last || Ranges.mem n rest

theorem Ranges.exists_of_mem {n : Nat} {rs : Ranges} (h : Ranges.mem n rs = true) :
    ∃ r ∈ rs, r.1 ≤ n ∧ n ≤ r.2 := by
  induction rs with
  | nil => simp [Ranges.mem] at h
  | cons r rs ih =>
    obtain ⟨first, last⟩ := r
    simp only [Ranges.mem] at h
    by_cases hf : n < first
    · simp [hf] at h
    · by_cases hl : n ≤ last
      · exact ⟨_, List.mem_cons_self, by simp only; omega⟩
      · simp only [hf, if_false, hl, decide_false, Bool.false_or] at h
        obtain ⟨r, hr, hn⟩ := ih h
        exact ⟨r, List.mem_cons_of_mem _ hr, hn⟩

end SearchFilter.Text
