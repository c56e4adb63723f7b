import SearchFilter.Text.Basic

/-!
# Bindings in order of name

A list of names with values, kept in ascending order of the names and without repetitions
(`Ascending`).  Names are ordered by their characters, which is also the order of their UTF-8 forms.
`put` sets the value of one name and keeps the order.
-/

namespace SearchFilter

/-- Names with values. -/
abbrev Bindings (α : Type) := List (Text × α)

namespace Bindings

variable {α : Type}

/-- The names ascend, so none occurs twice. -/
abbrev Ascending (bs : Bindings α) : Prop :=
  bs.Pairwise fun a b => compare a.1 b.1 = .lt

theorem ascending_iff_names {bs : Bindings α} :
    Ascending bs ↔ (bs.map Prod.fst).Pairwise fun a b => compare a b = .lt :=
  (List.pairwise_map (R := fun a b => compare a b = .lt)).symm

/-- The bindings with the value of one name set. -/
def put (name : Text) (value : α) : Bindings α → Bindings α
  | [] => [(name, value)]
  | b :: bs =>
    match compare name b.1 with
    | .lt => (name, value) :: b :: bs
    | .eq => (name, value) :: bs
    | .gt => b :: put name value bs

/-- The bindings of a list in which a later value of a name replaces an earlier one. -/
def ofList (bs : List (Text × α)) : Bindings α :=
  bs.foldl (fun sorted b => put b.1 b.2 sorted) []

theorem lookup_cons (n name : Text) (value : α) (bs : Bindings α) :
    ((name, value) :: bs).lookup n = if n = name then some value else bs.lookup n := by
  by_cases h : n = name
  · simp [h]
  · have hb : (n == name) = false := beq_eq_false_iff_ne.2 h
    simp [List.lookup_cons, hb, h]

/-- The value of a name is the one that was put last. -/
theorem lookup_put (name : Text) (value : α) (n : Text) (bs : Bindings α) :
    (bs.put name value).lookup n = if n = name then some value else bs.lookup n := by
  induction bs with
  | nil => exact lookup_cons n name value []
  | cons b bs ih =>
    obtain ⟨m, v⟩ := b
    rw [put]
    split
    · exact lookup_cons n name value _
    · rename_i heq
      obtain rfl : name = m := Std.LawfulEqCmp.eq_of_compare heq
      rw [lookup_cons, lookup_cons]
      split <;> rfl
    · rename_i hgt
      have hm : m ≠ name := fun h => by simp [h, Std.ReflCmp.compare_self] at hgt
      rw [lookup_cons, lookup_cons, ih]
      by_cases hn : n = m <;> simp [hn, hm]

theorem eq_or_mem_of_mem_put {name : Text} {value : α} {b : Text × α} {bs : Bindings α}
    (h : b ∈ put name value bs) : b = (name, value) ∨ b ∈ bs := by
  induction bs with
  | nil => simpa [put] using h
  | cons c bs ih =>
    rw [put] at h
    split at h
    · simpa using h
    · simp only [List.mem_cons] at h ⊢
      rcases h with h | h
      · exact .inl h
      · exact .inr (.inr h)
    · simp only [List.mem_cons] at h ⊢
      rcases h with h | h
      · exact .inr (.inl h)
      · rcases ih h with h | h
        · exact .inl h
        · exact .inr (.inr h)

theorem Ascending.put {name : Text} {value : α} {bs : Bindings α} (h : Ascending bs) :
    Ascending (bs.put name value) := by
  induction bs with
  | nil => simp [Bindings.put, Ascending]
  | cons b bs ih =>
    obtain ⟨hb, hbs⟩ := List.pairwise_cons.1 h
    rw [Bindings.put]
    split
    · rename_i hlt
      refine List.pairwise_cons.2 ⟨fun c hc => ?_, h⟩
      rcases List.mem_cons.1 hc with rfl | hc
      · exact hlt
      · exact Std.TransCmp.lt_trans hlt (hb c hc)
    · rename_i heq
      refine List.pairwise_cons.2 ⟨fun c hc => ?_, hbs⟩
      have := hb c hc
      rwa [← Std.LawfulEqCmp.eq_of_compare heq] at this
    · rename_i hgt
      refine List.pairwise_cons.2 ⟨fun c hc => ?_, ih hbs⟩
      rcases eq_or_mem_of_mem_put hc with rfl | hc
      · exact Std.OrientedCmp.lt_of_gt hgt
      · exact hb c hc

theorem ascending_ofList (bs : List (Text × α)) : Ascending (ofList bs) := by
  suffices ∀ sorted : Bindings α, Ascending sorted →
      Ascending (bs.foldl (fun sorted b => Bindings.put b.1 b.2 sorted) sorted) from
    this [] List.Pairwise.nil
  induction bs with
  | nil => exact fun _ h => h
  | cons b bs ih => exact fun _ h => ih _ h.put

theorem put_of_forall_lt {name : Text} {value : α} {bs : Bindings α}
    (h : ∀ b ∈ bs, compare b.1 name = .lt) : put name value bs = bs ++ [(name, value)] := by
  induction bs with
  | nil => rfl
  | cons b bs ih =>
    obtain ⟨hb, hbs⟩ := List.forall_mem_cons.1 h
    rw [put, Std.OrientedCmp.gt_of_lt hb, ih hbs, List.cons_append]

theorem ofList_of_ascending {bs : List (Text × α)} (h : Ascending bs) : ofList bs = bs := by
  have hfold : ∀ (bs : List (Text × α)) (sorted : Bindings α), Ascending (sorted ++ bs) →
      bs.foldl (fun sorted b => Bindings.put b.1 b.2 sorted) sorted = sorted ++ bs := by
    intro bs
    induction bs with
    | nil => exact fun sorted _ => (List.append_nil sorted).symm
    | cons b bs ih =>
      intro sorted hsorted
      have hlast : ∀ a ∈ sorted, compare a.1 b.1 = .lt := fun a ha =>
        (List.pairwise_append.1 hsorted).2.2 a ha b List.mem_cons_self
      rw [List.append_cons] at hsorted ⊢
      rw [List.foldl_cons, put_of_forall_lt hlast, ih (sorted ++ [b]) hsorted]
  exact hfold bs [] h

end Bindings
end SearchFilter
