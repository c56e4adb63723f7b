import SearchFilter.Report.Selection

/-! # Selections are exact

A selection lists the places of the records for which its filter holds (`indicesFrom_eq`), so its
indices ascend and each of them stands for such a record.  In an ascending array the binary search
never leaves the number out that it looks for: what is left between the two positions is found
exactly if it stands there (`search_iff`).  So the look-up of an index, in range or not, says
whether the filter holds for the record with this index (`contains_of_iff_holds`). -/

namespace SearchFilter.Selection

variable {ρ : Type} [Record ρ] {f : Filter} {policy : OrderPolicy} {records : List ρ}
variable {i low high : Nat} {xs : Array Nat}

/-! ### The indices -/

theorem indicesFrom_eq (index : Nat) (records : List ρ) :
    indicesFrom f policy index records =
      ((records.zipIdx index).filter fun place => f.holds place.1 policy).map Prod.snd := by
  induction records generalizing index with
  | nil => rfl
  | cons r rs ih =>
      rw [indicesFrom, List.zipIdx_cons, List.filter_cons, ih]
      by_cases h : f.holds r policy = true
      · rw [if_pos h, if_pos h, List.map_cons]
      · rw [if_neg h, if_neg h]

theorem mem_indicesFrom_iff :
    i ∈ indicesFrom f policy 0 records ↔ ∃ r, records[i]? = some r ∧ f.holds r policy = true := by
  simp [indicesFrom_eq, List.mk_mem_zipIdx_iff_getElem?]

theorem ascending_indicesFrom (index : Nat) (records : List ρ) :
    (indicesFrom f policy index records).Pairwise (· < ·) := by
  have hsublist : (indicesFrom f policy index records).Sublist
      ((records.zipIdx index).map Prod.snd) := by
    rw [indicesFrom_eq]
    exact List.filter_sublist.map Prod.snd
  rw [List.zipIdx_map_snd] at hsublist
  exact List.Pairwise.sublist hsublist List.pairwise_lt_range'

/-! ### Binary search -/

/-- In an ascending array the greater number stands at the greater place. -/
theorem lt_of_ascending (hxs : xs.toList.Pairwise (· < ·)) {j k x y : Nat} (hx : xs[j]? = some x)
    (hy : xs[k]? = some y) (hlt : x < y) : j < k := by
  obtain ⟨hj, rfl⟩ := Array.getElem?_eq_some_iff.mp hx
  obtain ⟨hk, rfl⟩ := Array.getElem?_eq_some_iff.mp hy
  rcases Nat.lt_trichotomy j k with h | rfl | h
  · exact h
  · exact absurd hlt (Nat.lt_irrefl _)
  · have hgreater : xs[k] < xs[j] := List.pairwise_iff_getElem.mp hxs k j hk hj h
    exact absurd hlt (Nat.lt_asymm hgreater)

theorem search_iff (hxs : xs.toList.Pairwise (· < ·)) (hhigh : high ≤ xs.size) :
    search xs i low high = true ↔ ∃ k, low ≤ k ∧ k < high ∧ xs[k]? = some i := by
  fun_induction search xs i low high with
  | case1 low high hlow middle hnone =>
      have hout := Array.getElem?_eq_none_iff.mp hnone
      omega
  | case2 low high hlow middle hfound =>
      have hfirst : low ≤ middle := Nat.le_add_right low _
      have hlast : middle < high := by omega
      exact ⟨fun _ => ⟨middle, hfirst, hlast, hfound⟩, fun _ => rfl⟩
  | case3 low high hlow middle x hmiddle hne hless ih =>
      -- the number at the middle is too small, so the wanted one stands behind it
      have hbehind : ∀ k, xs[k]? = some i → middle < k := fun k hk =>
        lt_of_ascending hxs hmiddle hk hless
      rw [ih hhigh]
      refine exists_congr fun k => ⟨fun ⟨h1, h2, hk⟩ => ⟨by omega, h2, hk⟩, ?_⟩
      exact fun ⟨_, h2, hk⟩ => ⟨hbehind k hk, h2, hk⟩
  | case4 low high hlow middle x hmiddle hne hnotLess ih =>
      have hgreater : i < x := by omega
      have hbefore : ∀ k, xs[k]? = some i → k < middle := fun k hk =>
        lt_of_ascending hxs hk hmiddle hgreater
      rw [ih (by omega)]
      refine exists_congr fun k => ⟨fun ⟨h1, h2, hk⟩ => ⟨h1, by omega, hk⟩, ?_⟩
      exact fun ⟨h1, _, hk⟩ => ⟨h1, hbefore k hk, hk⟩
  | case5 low high hlow =>
      refine ⟨fun h => absurd h Bool.false_ne_true, ?_⟩
      rintro ⟨k, h1, h2, -⟩
      omega

theorem contains_iff_mem {sel : Selection} (h : sel.indices.Pairwise (· < ·)) :
    sel.contains i = true ↔ i ∈ sel.indices := by
  have hxs : sel.indices.toArray.toList.Pairwise (· < ·) := h
  rw [contains, search_iff hxs (Nat.le_refl _), List.mem_iff_getElem?]
  refine exists_congr fun k => ⟨fun ⟨_, _, hk⟩ => by simpa using hk, fun hk => ?_⟩
  exact ⟨Nat.zero_le k, (List.getElem?_eq_some_iff.mp hk).1, by simpa using hk⟩

/-- **Selections are exact**: the selection of a filter counts all records; its indices ascend and
are those of the records for which the filter holds; and the look-up of any index, in range or not,
says whether the filter holds for the record with this index. -/
theorem contains_of_iff_holds (f : Filter) (records : List ρ) (policy : OrderPolicy) :
    let sel := Selection.of f records policy
    sel.total = records.length ∧ sel.indices.Pairwise (· < ·) ∧
    (∀ i, i ∈ sel.indices ↔ ∃ r, records[i]? = some r ∧ f.holds r policy = true) ∧
    ∀ i, sel.contains i = true ↔
      i < sel.total ∧ ∃ r, records[i]? = some r ∧ f.holds r policy = true := by
  intro sel
  have hascending : sel.indices.Pairwise (· < ·) := ascending_indicesFrom 0 records
  refine ⟨rfl, hascending, fun i => mem_indicesFrom_iff, fun i => ?_⟩
  rw [contains_iff_mem hascending]
  have hmem : i ∈ sel.indices ↔ ∃ r, records[i]? = some r ∧ f.holds r policy = true :=
    mem_indicesFrom_iff
  rw [hmem]
  refine ⟨fun h => ⟨?_, h⟩, And.right⟩
  obtain ⟨r, hr, -⟩ := h
  exact (List.getElem?_eq_some_iff.mp hr).1

end SearchFilter.Selection
