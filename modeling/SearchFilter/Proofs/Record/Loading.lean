import Mathlib.Data.List.Forall2
import SearchFilter.Proofs.Json.Values
import SearchFilter.Proofs.Number.Integers
import SearchFilter.Record.Load

/-! # What is loaded as a record

A JSON value is a record if it is an object each of whose members is a scalar or an array of scalars
(`Json.isRecord`).  What becomes of it is said member by member (`Entry.OfJson`): names are kept, an
array becomes a sequence and any other value a single one, and a number is kept as an integer if it
is one of 64 bits and becomes a floating-point number otherwise.  An item is read exactly if it is a
record (`exists_ofJson_eq_ok_iff`), and the items are read one after another up to the first that is
none (`ofItems_cases`), so loading is all or nothing (`exists_parseAll_eq_ok_iff`). -/

namespace SearchFilter

/-! ### Records among the JSON values -/

/-- Whether a value is a scalar or an array of scalars. -/
def Json.isAttribute : Json → Bool
  | array items => items.all isScalar
  | j => j.isScalar

/-- Whether a value is an object of scalars and arrays of scalars. -/
def Json.isRecord : Json → Bool
  | object members => members.all fun m => m.2.isAttribute
  | _ => false

/-- The scalar that a JSON value becomes. -/
inductive Scalar.OfJson : Json → Scalar → Prop
  | boolean (b : Bool) : OfJson (.boolean b) (.boolean b)
  | integer (n : Int64) : OfJson (.integer n.toInt) (.integer n)
  | wide {n : Int} : ¬ Number.Fits n → OfJson (.integer n) (.float (.ofInt n))
  | float (x : Binary64) : OfJson (.float x) (.float x)
  | text (s : Text) : OfJson (.string s) (.text s)

/-- The attribute value that a JSON value becomes. -/
inductive AttributeValue.OfJson : Json → AttributeValue → Prop
  | single {j : Json} {m : Scalar} : Scalar.OfJson j m → OfJson j (.single m)
  | multi {items : List Json} {ms : List Scalar} :
      List.Forall₂ Scalar.OfJson items ms → OfJson (.array items) (.multi ms)

/-- The entry that a JSON object becomes: its attributes are the members, in their order. -/
inductive Entry.OfJson : Json → Entry → Prop
  | object {members : List (Text × Json)} {e : Entry} :
      List.Forall₂ (fun m b => b.1 = m.1 ∧ AttributeValue.OfJson m.2 b.2) members e.bindings →
        OfJson (.object members) e

variable {j : Json} {s : Text}

/-! ### Lists of optional results -/

theorem mapM_eq_some_iff {α β : Type} {f : α → Option β} {xs : List α} {ys : List β} :
    xs.mapM f = some ys ↔ List.Forall₂ (fun x y => f x = some y) xs ys := by
  induction xs generalizing ys with
  | nil => simp [eq_comm]
  | cons x xs ih =>
      rw [List.mapM_cons, List.forall₂_cons_left_iff]
      simp only [Option.bind_eq_bind, Option.bind_eq_some_iff, Option.pure_def,
        Option.some.injEq, ih]
      constructor
      · rintro ⟨y, hy, rest, hrest, rfl⟩
        exact ⟨y, rest, hy, hrest, rfl⟩
      · rintro ⟨y, rest, hy, hrest, rfl⟩
        exact ⟨y, hy, rest, hrest, rfl⟩

theorem isSome_mapM {α β : Type} (f : α → Option β) (xs : List α) :
    (xs.mapM f).isSome = xs.all fun x => (f x).isSome := by
  induction xs with
  | nil => rfl
  | cons x xs ih =>
      rw [List.mapM_cons, List.all_cons, ← ih]
      cases f x with
      | none => rfl
      | some y => cases xs.mapM f <;> rfl

/-! ### Scalars and attribute values -/

theorem Scalar.ofJson?_eq_some_iff {m : Scalar} : ofJson? j = some m ↔ OfJson j m := by
  constructor
  · intro h
    cases j with
    | boolean b =>
        cases h
        exact .boolean b
    | integer n =>
        by_cases hn : Number.Fits n
        · obtain ⟨i, rfl⟩ : ∃ i : Int64, i.toInt = n :=
            ⟨.ofInt n, Int64.toInt_ofInt_of_le hn.1 hn.2⟩
          rw [ofJson?, Number.int64?_toInt] at h
          cases h
          exact .integer i
        · rw [ofJson?, Number.int64?_eq_none hn] at h
          cases h
          exact .wide hn
    | float x =>
        cases h
        exact .float x
    | string s =>
        cases h
        exact .text s
    | null => cases h
    | array items => cases h
    | object members => cases h
  · intro h
    cases h with
    | boolean b => rfl
    | integer n => rw [ofJson?, Number.int64?_toInt]
    | wide hn => rw [ofJson?, Number.int64?_eq_none hn]
    | float x => rfl
    | text s => rfl

theorem Scalar.isSome_ofJson? (j : Json) : (ofJson? j).isSome = j.isScalar := by
  cases j with
  | integer n =>
      rw [ofJson?]
      cases Number.int64? n <;> rfl
  | _ => rfl

namespace AttributeValue

theorem ofJson?_eq_some_iff {v : AttributeValue} : ofJson? j = some v ↔ OfJson j v := by
  constructor
  · intro h
    unfold ofJson? at h
    split at h
    · obtain ⟨ms, hms, rfl⟩ := Option.map_eq_some_iff.mp h
      rw [mapM_eq_some_iff] at hms
      exact .multi (hms.imp fun _ _ => Scalar.ofJson?_eq_some_iff.mp)
    · obtain ⟨m, hm, rfl⟩ := Option.map_eq_some_iff.mp h
      exact .single (Scalar.ofJson?_eq_some_iff.mp hm)
  · intro h
    cases h with
    | multi hms =>
        have hitems := mapM_eq_some_iff.mpr (hms.imp fun _ _ => Scalar.ofJson?_eq_some_iff.mpr)
        rw [ofJson?, hitems, Option.map_some]
    | single hm =>
        have hscalar := Scalar.ofJson?_eq_some_iff.mpr hm
        unfold ofJson?
        split
        · cases hm
        · rw [hscalar, Option.map_some]

theorem isSome_ofJson? (j : Json) : (ofJson? j).isSome = j.isAttribute := by
  cases j with
  | array items =>
      rw [ofJson?, Option.isSome_map, isSome_mapM, Json.isAttribute]
      simp only [Scalar.isSome_ofJson?]
  | _ => simp [ofJson?, Json.isAttribute, Scalar.isSome_ofJson?]

theorem ofMember?_eq_some_iff {m : Text × Json} {b : Text × AttributeValue} :
    ofMember? m = some b ↔ b.1 = m.1 ∧ OfJson m.2 b.2 := by
  rw [ofMember?, Option.map_eq_some_iff]
  constructor
  · rintro ⟨v, hv, rfl⟩
    exact ⟨rfl, ofJson?_eq_some_iff.mp hv⟩
  · rintro ⟨hname, hv⟩
    exact ⟨b.2, ofJson?_eq_some_iff.mpr hv, Prod.ext hname.symm rfl⟩

theorem isSome_mapM_ofMember? (members : List (Text × Json)) :
    (members.mapM ofMember?).isSome = Json.isRecord (.object members) := by
  rw [isSome_mapM, Json.isRecord]
  simp only [ofMember?, Option.isSome_map, isSome_ofJson?]

end AttributeValue

namespace Entry

/-! ### One item -/

theorem exists_ofJson_eq_ok_iff : (∃ e, ofJson j = .ok e) ↔ j.isRecord = true := by
  cases j with
  | object members =>
      rw [← AttributeValue.isSome_mapM_ofMember?, ofJson]
      cases members.mapM AttributeValue.ofMember? <;> simp
  | _ => simp [ofJson, Json.isRecord]

theorem isRecord_eq_false_of_ofJson {fault : RecordFault} (h : ofJson j = .error fault) :
    j.isRecord = false := by
  rw [← Bool.not_eq_true, ← exists_ofJson_eq_ok_iff, h]
  rintro ⟨e, he⟩
  cases he

/-- A value that is read is an object, and the entry has its members as attributes if the names of
these ascend. -/
theorem ofJson_of_ascending {e : Entry}
    (hnames : ∀ members, j = .object members → Bindings.Ascending members)
    (h : ofJson j = .ok e) : OfJson j e := by
  unfold ofJson at h
  split at h
  · rename_i members
    split at h
    · rename_i bs hbs
      cases h
      have hpairs :
          List.Forall₂ (fun m b => b.1 = m.1 ∧ AttributeValue.OfJson m.2 b.2) members bs :=
        (mapM_eq_some_iff.mp hbs).imp fun _ _ => AttributeValue.ofMember?_eq_some_iff.mp
      have hsame : List.Forall₂ Eq (members.map Prod.fst) (bs.map Prod.fst) := by
        rw [List.forall₂_map_left_iff, List.forall₂_map_right_iff]
        exact hpairs.imp fun _ _ hpair => hpair.1.symm
      rw [List.forall₂_eq_eq_eq] at hsame
      have hascending : Bindings.Ascending bs := by
        rw [Bindings.ascending_iff_names, ← hsame, ← Bindings.ascending_iff_names]
        exact hnames members rfl
      have hbindings : (ofList bs).bindings = bs := Bindings.ofList_of_ascending hascending
      refine .object ?_
      rwa [hbindings]
    · cases h
  · cases h

/-! ### All items -/

/-- Items are read one after another up to the first that cannot be read. -/
theorem ofItems_cases (index : Nat) (js : List Json) :
    (∃ es, ofItems index js = .ok es ∧ List.Forall₂ (fun j e => ofJson j = .ok e) js es) ∨
    ∃ i j fault, ofItems index js = .error (.invalid (index + i) fault) ∧ js[i]? = some j ∧
      ofJson j = .error fault ∧
      ∀ k < i, ∀ earlier, js[k]? = some earlier → ∃ e, ofJson earlier = .ok e := by
  induction js generalizing index with
  | nil => exact .inl ⟨[], rfl, .nil⟩
  | cons j js ih =>
      rw [ofItems]
      cases hj : ofJson j with
      | error fault =>
          exact .inr ⟨0, j, fault, rfl, rfl, hj, fun k hk => absurd hk (Nat.not_lt_zero k)⟩
      | ok e =>
          rcases ih (index + 1) with ⟨es, hes, hread⟩ | ⟨i, bad, fault, herror, hi, hbad, hbefore⟩
          · exact .inl ⟨e :: es, by rw [hes]; rfl, .cons hj hread⟩
          · refine .inr ⟨i + 1, bad, fault, ?_, hi, hbad, ?_⟩
            · rw [herror, Nat.add_right_comm, ← Nat.add_assoc]
              rfl
            · intro k hk earlier hearlier
              cases k with
              | zero =>
                  cases hearlier
                  exact ⟨e, hj⟩
              | succ k => exact hbefore k (Nat.lt_of_succ_lt_succ hk) earlier hearlier

theorem ascending_of_mem_items {members : List (Text × Json)}
    (h : Json.Relaxed.parse s = some j) (hitem : .object members ∈ j.items) :
    Bindings.Ascending members := by
  obtain ⟨room, start, rest, hread⟩ := Json.Relaxed.exists_readValue_of_parse h
  rcases Json.Relaxed.readValue_cases hread with ⟨items, rfl, hitems⟩ | ⟨unordered, rfl⟩ | hatom
  · obtain ⟨room, start, rest, hread⟩ := hitems _ hitem
    exact Json.Relaxed.ascending_of_readValue hread
  · cases List.mem_singleton.mp hitem
    exact Bindings.ascending_ofList unordered
  · rcases hatom with rfl | hscalar
    · cases List.mem_singleton.mp hitem
    · cases j <;> simp [Json.items, Json.isScalar] at *

/-- **Loading is all or nothing**: from a text that is well formed, records are loaded if and only
if every item is a record, and then there is for each item, in order, the entry that it becomes;
otherwise the least index of an item that is no record is reported. -/
theorem exists_parseAll_eq_ok_iff (h : Json.Relaxed.parse s = some j) :
    ((∃ es, parseAll s = .ok es) ↔ ∀ item ∈ j.items, item.isRecord = true) ∧
    (∀ es, parseAll s = .ok es → List.Forall₂ OfJson j.items es) ∧
    ((∃ item ∈ j.items, item.isRecord = false) →
      ∃ i item fault, parseAll s = .error (.invalid i fault) ∧
        j.items[i]? = some item ∧ item.isRecord = false ∧
        ∀ k < i, ∀ earlier, j.items[k]? = some earlier → earlier.isRecord = true) := by
  have hparse : parseAll s = ofItems 0 j.items := by rw [parseAll, h]
  rw [hparse]
  rcases ofItems_cases 0 j.items with ⟨es, hes, hread⟩ | ⟨i, bad, fault, herror, hi, hbad, hbefore⟩
  · have hrecords : ∀ item ∈ j.items, item.isRecord = true :=
      ((List.forall₂_and_left _ _).mp
        (hread.imp fun item e he => ⟨exists_ofJson_eq_ok_iff.mp ⟨e, he⟩, he⟩)).1
    have hnames : ∀ item ∈ j.items, ∀ members, item = .object members →
        Bindings.Ascending members :=
      fun item hitem members hobject => ascending_of_mem_items h (hobject ▸ hitem)
    rw [hes]
    refine ⟨⟨fun _ => hrecords, fun _ => ⟨es, rfl⟩⟩, ?_, ?_⟩
    · intro es' hes'
      cases hes'
      exact ((List.forall₂_and_left _ _).mpr ⟨hnames, hread⟩).imp fun item e hpair =>
        ofJson_of_ascending hpair.1 hpair.2
    · rintro ⟨item, hitem, hno⟩
      exact absurd (hrecords item hitem) (Bool.eq_false_iff.mp hno)
  · have hno : bad.isRecord = false := isRecord_eq_false_of_ofJson hbad
    rw [herror, Nat.zero_add]
    refine ⟨⟨?_, ?_⟩, ?_, ?_⟩
    · rintro ⟨es, hes⟩
      cases hes
    · intro hrecords
      exact absurd (hrecords bad (List.mem_of_getElem? hi)) (Bool.eq_false_iff.mp hno)
    · intro es hes
      cases hes
    · intro _
      exact ⟨i, bad, fault, rfl, hi, hno, fun k hk earlier hearlier =>
        exists_ofJson_eq_ok_iff.mp (hbefore k hk earlier hearlier)⟩

/-- Of three items the last two are no records, and the first of these is reported. -/
theorem parseAll_of_null_member :
    let s := "[\x7b\"a\": [1, true]\x7d, \x7b\"a\": null\x7d, 3]".toList
    let j := Json.array [.object [(['a'], .array [.integer 1, .boolean true])],
      .object [(['a'], .null)], .integer 3]
    Json.Relaxed.parse s = some j ∧ (∃ item ∈ j.items, item.isRecord = false) ∧
      ∃ fault, parseAll s = .error (.invalid 1 fault) := by
  intro s j
  have hparse : Json.Relaxed.parse s = some j := rfl
  have hbad : ∃ item ∈ j.items, item.isRecord = false := ⟨.integer 3, by simp [j, Json.items], rfl⟩
  obtain ⟨i, item, fault, herror, hi, hno, hbefore⟩ :=
    (exists_parseAll_eq_ok_iff hparse).2.2 hbad
  refine ⟨hparse, hbad, fault, ?_⟩
  match i with
  | 0 =>
      cases hi
      cases hno
  | 1 => exact herror
  | i + 2 => cases hbefore 1 (by omega) _ rfl

end Entry
end SearchFilter
