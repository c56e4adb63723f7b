import Mathlib.Data.List.Dedup
import Mathlib.Data.List.Induction
import SearchFilter.Proofs.Filter.Locality

/-! # Stores of records

A store is a record whose attributes can be set one after another (`Store`); entries, hash tables and
search trees are stores.  Whatever the store is, a name has the value that it was given last
(`value?_fill`), as in the list of all bindings read from its end (`lastValue?`).  An entry that is
collected from a list is the entry that the list fills (`ofList_eq_fill`), and so is one that was
built by a chain of both ways to set an attribute (`build_eq_fill`); its size is the number of
different names (`size_ofList`).  A filter looks up values and does nothing else with a record, so
it has one value for all stores that were filled from one list (`holds_fill`). -/

namespace SearchFilter

/-- The value in the last binding of the name. -/
def lastValue? (bs : List (Text × AttributeValue)) (name : Text) : Option AttributeValue :=
  bs.reverse.lookup name

theorem lastValue?_concat (bs : List (Text × AttributeValue)) (b : Text × AttributeValue)
    (n : Text) : lastValue? (bs ++ [b]) n = if n = b.1 then some b.2 else lastValue? bs n := by
  rw [lastValue?, List.reverse_concat, Bindings.lookup_cons, lastValue?]

theorem isSome_lastValue?_iff {bs : List (Text × AttributeValue)} {name : Text} :
    (lastValue? bs name).isSome = true ↔ name ∈ bs.map Prod.fst := by
  simp [lastValue?, List.lookup_isSome_iff]

/-! ### Filling a store -/

/-- A record whose attributes can be set one after another. -/
class Store (ρ : Type) [Record ρ] where
  /-- The record without attributes. -/
  empty : ρ
  /-- The record with the value of one attribute set. -/
  set : ρ → Text → AttributeValue → ρ
  value?_empty (n : Text) : Record.value? empty n = none
  value?_set (r : ρ) (name : Text) (value : AttributeValue) (n : Text) :
    Record.value? (set r name value) n = if n = name then some value else Record.value? r n

instance : Store Entry where
  empty := Entry.empty
  set := Entry.insert
  value?_empty := Entry.value?_empty
  value?_set := Entry.value?_insert

instance [Hashable Text] : Store (Std.HashMap Text AttributeValue) where
  empty := ∅
  set m name value := m.insert name value
  value?_empty _ := Std.HashMap.getElem?_empty
  value?_set m name value n := by
    simp [Record.value?, Std.HashMap.getElem?_insert, @eq_comm _ n name]

instance : Store (Std.TreeMap Text AttributeValue) where
  empty := ∅
  set m name value := m.insert name value
  value?_empty _ := Std.TreeMap.getElem?_emptyc
  value?_set m name value n := by
    simp [Record.value?, Std.TreeMap.getElem?_insert, @eq_comm _ n name]

namespace Store

variable {ρ : Type} [Record ρ] [Store ρ]

/-- The store that is filled from a list of bindings in their order. -/
def fill (ρ : Type) [Record ρ] [Store ρ] (bs : List (Text × AttributeValue)) : ρ :=
  bs.foldl (fun r b => set r b.1 b.2) empty

theorem fill_concat (bs : List (Text × AttributeValue)) (b : Text × AttributeValue) :
    fill ρ (bs ++ [b]) = set (fill ρ bs) b.1 b.2 := by
  rw [fill, List.foldl_append]
  rfl

variable (ρ) in
theorem value?_fill (bs : List (Text × AttributeValue)) (name : Text) :
    Record.value? (fill ρ bs) name = lastValue? bs name := by
  induction bs using List.reverseRecOn with
  | nil => exact value?_empty name
  | append_singleton bs b ih => rw [fill_concat, value?_set, ih, lastValue?_concat]

theorem holds_fill {ρ' : Type} [Record ρ'] [Store ρ'] (bs : List (Text × AttributeValue))
    (policy : OrderPolicy) (f : Filter) :
    f.holds (fill ρ bs) policy = f.holds (fill ρ' bs) policy := by
  have hcomparisons : ∀ c ∈ f.comparisons,
      c.holds (fill ρ bs) policy = c.holds (fill ρ' bs) policy := by
    intro c _
    have hvalue : Record.value? (fill ρ bs) c.name = Record.value? (fill ρ' bs) c.name := by
      rw [value?_fill, value?_fill]
    exact c.holds_congr hvalue (.inl rfl)
  rw [Filter.holds_eq_eval, Filter.holds_eq_eval, Filter.eval_congr hcomparisons]

end Store

/-! ### Entries -/

namespace Entry

open Store (fill)

/-- The two ways to set an attribute of an entry. -/
inductive Setter where
  | insert
  | including

/-- The entry with an attribute set in one of the two ways. -/
def Setter.set : Setter → Entry → Text → AttributeValue → Entry
  | insert => Entry.insert
  | including => Entry.including

/-- The entry that is built from the empty one, each attribute set in one of the two ways. -/
def build (steps : List (Setter × Text × AttributeValue)) : Entry :=
  steps.foldl (fun e step => step.1.set e step.2.1 step.2.2) empty

theorem build_eq_fill (steps : List (Setter × Text × AttributeValue)) :
    build steps = fill Entry (steps.map Prod.snd) := by
  rw [fill, List.foldl_map, build]
  congr 1
  funext e step
  cases step.1 with
  | insert => rfl
  | including => rfl

theorem ofList_eq_fill (bs : List (Text × AttributeValue)) : ofList bs = fill Entry bs := by
  have hbindings : (fill Entry bs).bindings = Bindings.ofList bs := by
    induction bs using List.reverseRecOn with
    | nil => rfl
    | append_singleton bs b ih =>
        rw [Store.fill_concat, Bindings.ofList, List.foldl_append]
        exact congrArg (Bindings.put b.1 b.2) ih
  cases hfill : fill Entry bs with
  | mk bindings ascending =>
      rw [hfill] at hbindings
      subst hbindings
      rfl

theorem value?_ofList (bs : List (Text × AttributeValue)) (name : Text) :
    (ofList bs).value? name = lastValue? bs name := by
  rw [ofList_eq_fill]
  exact Store.value?_fill Entry bs name

theorem nodup_names (e : Entry) : (e.bindings.map Prod.fst).Nodup := by
  refine List.pairwise_map.mpr (e.ascending.imp ?_)
  intro a b hlt heq
  have hself : compare b.1 b.1 = .eq := Std.ReflCmp.compare_self
  rw [heq, hself] at hlt
  cases hlt

theorem mem_names_iff {e : Entry} {name : Text} :
    name ∈ e.bindings.map Prod.fst ↔ (e.value? name).isSome = true := by
  simp [value?, List.lookup_isSome_iff]

theorem size_ofList (bs : List (Text × AttributeValue)) :
    (ofList bs).size = (bs.map Prod.fst).dedup.length := by
  have hnames : ((ofList bs).bindings.map Prod.fst).Perm (bs.map Prod.fst).dedup := by
    refine (List.perm_ext_iff_of_nodup (nodup_names _) (List.nodup_dedup _)).mpr fun name => ?_
    rw [mem_names_iff, value?_ofList, isSome_lastValue?_iff, List.mem_dedup]
  rw [size, ← hnames.length_eq, List.length_map]

/-! Names that differ in case only are two names. -/

example : (ofList [(['a'], .single (.integer 1)), (['A'], .single (.integer 2)),
    (['a'], .single (.integer 3))]).bindings =
      [(['A'], .single (.integer 2)), (['a'], .single (.integer 3))] := rfl

/-- **All stores agree**: an entry collected from bindings, one built by any chain of insertions, a
hash table with any hash function and a search tree filled in the same order give every name the
value of its last binding; the entries have as many attributes as there are different names; and
every filter has the same value for all of them under both policies. -/
theorem holds_of_stores [Hashable Text] (steps : List (Setter × Text × AttributeValue)) :
    let bs := steps.map Prod.snd
    let table := fill (Std.HashMap Text AttributeValue) bs
    let tree := fill (Std.TreeMap Text AttributeValue) bs
    (∀ name, (ofList bs).value? name = lastValue? bs name ∧
      (build steps).value? name = lastValue? bs name ∧
      table[name]? = lastValue? bs name ∧ tree[name]? = lastValue? bs name) ∧
    ((ofList bs).size = (bs.map Prod.fst).dedup.length ∧
      (build steps).size = (bs.map Prod.fst).dedup.length) ∧
    ∀ policy (f : Filter), f.holds (build steps) policy = f.holds (ofList bs) policy ∧
      f.holds table policy = f.holds (ofList bs) policy ∧
      f.holds tree policy = f.holds (ofList bs) policy := by
  intro bs table tree
  have hbuild : build steps = ofList bs := by rw [build_eq_fill, ofList_eq_fill]
  rw [hbuild]
  refine ⟨fun name => ⟨value?_ofList bs name, value?_ofList bs name, ?_, ?_⟩,
    ⟨size_ofList bs, size_ofList bs⟩, fun policy f => ⟨rfl, ?_, ?_⟩⟩
  · exact Store.value?_fill (Std.HashMap Text AttributeValue) bs name
  · exact Store.value?_fill (Std.TreeMap Text AttributeValue) bs name
  · rw [ofList_eq_fill]
    exact Store.holds_fill bs policy f
  · rw [ofList_eq_fill]
    exact Store.holds_fill bs policy f

end Entry
end SearchFilter
