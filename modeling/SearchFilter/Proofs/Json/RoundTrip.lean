import SearchFilter.Proofs.Json.Scalars
import SearchFilter.Proofs.Json.Values

/-! # Compact texts read back

The compact text of a value is taken up by the reader to its end, whatever comma or bracket stands
behind it (`ReadsAs`).  This goes from the items of a list to the list (`readListed_separated`) and
from the value of a member to the member (`readsAs_memberText`), so it holds of every value whose
scalars are kept as they are and whose members are in order (`Plain`), and such a value is what its
compact text holds (`parse_compact`). -/

namespace SearchFilter.Json

/-! ### Separated texts -/

theorem compactItems_eq (items : List Json) : compactItems items = items.map compact := by
  induction items with
  | nil => rfl
  | cons j js ih => rw [compactItems, ih, List.map_cons]

def memberText (m : Text × Json) : Text :=
  stringText m.1 ++ ':' :: compact m.2

theorem compactMembers_eq (members : List (Text × Json)) :
    compactMembers members = members.map memberText := by
  induction members with
  | nil => rfl
  | cons m members ih => rw [compactMembers, ih, List.map_cons, memberText]

theorem length_le_of_mem_separated {separator s : Text} {ss : List Text} (h : s ∈ ss) :
    s.length ≤ (separated separator ss).length := by
  fun_induction separated separator ss with
  | case1 => cases h
  | case2 t => rw [List.mem_singleton.mp h]
  | case3 t u ss ih =>
      rw [List.length_append, List.length_append]
      rcases List.mem_cons.mp h with rfl | h
      · omega
      · exact (ih h).trans (Nat.le_add_left _ _)

theorem length_lt_length_separated (opening closing : Char) (ss : List Text) (rest : Text) :
    ss.length < (opening :: (separated [','] ss ++ closing :: rest)).length := by
  have hcommas : ss.length ≤ (separated [','] ss).length + 1 := by
    fun_induction separated [','] ss with
    | case1 => exact Nat.zero_le _
    | case2 s => exact Nat.le_add_left 1 _
    | case3 s t ss ih =>
        rw [List.length_append, List.length_append, List.length_singleton, List.length_cons]
        omega
  rw [List.length_cons, List.length_append, List.length_cons]
  omega

theorem exists_separated_cons (separator s : Text) (ss : List Text) :
    ∃ t, separated separator (s :: ss) = s ++ t := by
  cases ss with
  | nil => exact ⟨[], (List.append_nil s).symm⟩
  | cons t ss => exact ⟨separator ++ separated separator (t :: ss), List.append_assoc ..⟩

/-! ### Plain values -/

/-- The value is kept by its compact text: it holds no floating-point number and no integer beyond
64 bits, and the members of its objects are in order. -/
inductive Plain : Json → Prop
  | null : Plain .null
  | boolean (b : Bool) : Plain (.boolean b)
  | integer {n : Int} : Int64.minValue.toInt ≤ n → n < UInt64.size → Plain (.integer n)
  | string (s : Text) : Plain (.string s)
  | array {items : List Json} : (∀ item ∈ items, Plain item) → Plain (.array items)
  | object {members : List (Text × Json)} :
      Bindings.Ascending members → (∀ m ∈ members, Plain m.2) → Plain (.object members)

namespace Relaxed

variable {α : Type} {c b closing : Char} {s t rest budget : Text} {x : α} {xs : List α} {j : Json}
variable {read : Text → Option (α × Text)} {print : α → Text} {room : Nat}

/-! ### Items -/

/-- Whether a character may begin an item: it is not skipped before one and closes no list. -/
def beginsItem (c : Char) : Bool :=
  !(isSpace c || ['/', ']', '\x7d'].contains c)

/-- The reader takes the text for the item, up to any delimiter behind it. -/
structure ReadsAs (read : Text → Option (α × Text)) (s : Text) (x : α) : Prop where
  begins : ∃ c t, s = c :: t ∧ beginsItem c = true
  reads {rest : Text} : Delimited rest → read (s ++ rest) = some (x, rest)

theorem skip_of_not_isSpace (hspace : isSpace c = false) (hslash : c ≠ '/') (s : Text) :
    skip (c :: s) = some (c :: s) := by
  unfold skip skipGap
  split <;> simp_all

theorem skip_of_beginsItem (hc : beginsItem c = true) (s : Text) :
    skip (c :: s) = some (c :: s) := by
  have hc : isSpace c = false ∧ c ≠ '/' := by simp_all [beginsItem]
  exact skip_of_not_isSpace hc.1 hc.2 s

theorem ReadsAs.skip_append (h : ReadsAs read s x) (rest : Text) :
    skip (s ++ rest) = some (s ++ rest) := by
  obtain ⟨c, t, rfl, hc⟩ := h.begins
  exact skip_of_beginsItem hc (t ++ rest)

theorem ReadsAs.head?_append_ne (h : ReadsAs read s x) (hclosing : closing ∈ [']', '\x7d'])
    (rest : Text) : (s ++ rest).head? ≠ some closing := by
  obtain ⟨c, t, rfl, hc⟩ := h.begins
  rintro heq
  cases heq
  simp_all [beginsItem]

/-! ### Lists -/

section lists

variable (hclosing : closing ∈ [']', '\x7d'])
include hclosing

theorem skip_closing (rest : Text) : skip (closing :: rest) = some (closing :: rest) := by
  simp only [List.mem_cons, List.not_mem_nil, or_false] at hclosing
  rcases hclosing with rfl | rfl <;> exact skip_of_not_isSpace (by decide) (by decide) rest

theorem delimited_closing (rest : Text) : Delimited (closing :: rest) := by
  intro c hc
  cases hc
  exact List.mem_cons_of_mem _ hclosing

theorem readListed_last (h : ReadsAs read s x) (b : Char) (budget rest : Text) :
    readListed closing read (b :: budget) (s ++ closing :: rest) = some ([x], rest) := by
  rw [readListed, if_neg (h.head?_append_ne hclosing _), h.reads (delimited_closing hclosing rest)]
  simp [skip_closing hclosing]

theorem readListed_comma (h : ReadsAs read s x) (hskip : skip t = some t)
    (hxs : readListed closing read budget t = some (xs, rest)) (b : Char) :
    readListed closing read (b :: budget) (s ++ ',' :: t) = some (x :: xs, rest) := by
  have hdelimited : Delimited (',' :: t) := by
    intro c hc
    cases hc
    exact List.mem_cons_self
  have hne : closing ≠ ',' := by rintro rfl; simp at hclosing
  have hcomma : skip (',' :: t) = some (',' :: t) :=
    skip_of_not_isSpace (by decide) (by decide) t
  rw [readListed, if_neg (h.head?_append_ne hclosing _), h.reads hdelimited]
  simp [hcomma, hne.symm, hskip, hxs]

/-- Nothing is skipped before the first item, nor before the bracket where there is none. -/
theorem skip_separated (hxs : ∀ x ∈ xs, ReadsAs read (print x) x) (rest : Text) :
    skip (separated [','] (xs.map print) ++ closing :: rest) =
      some (separated [','] (xs.map print) ++ closing :: rest) := by
  cases xs with
  | nil => exact skip_closing hclosing rest
  | cons x xs =>
      obtain ⟨t, ht⟩ := exists_separated_cons [','] (print x) (xs.map print)
      rw [List.map_cons, ht, List.append_assoc]
      exact (hxs x List.mem_cons_self).skip_append (t ++ closing :: rest)

theorem readListed_separated (hxs : ∀ x ∈ xs, ReadsAs read (print x) x)
    (hbudget : xs.length < budget.length) (rest : Text) :
    readListed closing read budget (separated [','] (xs.map print) ++ closing :: rest) =
      some (xs, rest) := by
  induction xs generalizing budget with
  | nil =>
      cases budget with
      | nil => cases hbudget
      | cons b budget => exact if_pos rfl
  | cons x xs ih =>
      obtain ⟨hx, hxs⟩ := List.forall_mem_cons.mp hxs
      cases budget with
      | nil => cases hbudget
      | cons b budget =>
          cases xs with
          | nil => exact readListed_last hclosing hx b budget rest
          | cons y ys =>
              have htext : separated [','] ((x :: y :: ys).map print) ++ closing :: rest =
                  print x ++ ',' :: (separated [','] ((y :: ys).map print) ++ closing :: rest) := by
                simp [separated]
              rw [htext]
              exact readListed_comma hclosing hx (skip_separated hclosing hxs rest)
                (ih hxs (Nat.lt_of_succ_lt_succ hbudget)) b

end lists

/-! ### Members -/

theorem readKey_stringText (name rest : Text) :
    readKey (stringText name ++ rest) = some (name, rest) := by
  obtain ⟨t, ht, hread⟩ := readQuoted_stringText name rest
  rw [ht]
  exact hread

theorem readsAs_memberText {m : Text × Json} {read : ValueReader}
    (h : ReadsAs read m.2.compact m.2) : ReadsAs (readMember read) (memberText m) m := by
  refine ⟨⟨'"', _, rfl, by decide⟩, fun {rest} hrest => ?_⟩
  have htext : memberText m ++ rest = stringText m.1 ++ ':' :: (m.2.compact ++ rest) := by
    simp [memberText]
  have hcolon : skip (':' :: (m.2.compact ++ rest)) = some (':' :: (m.2.compact ++ rest)) :=
    skip_of_not_isSpace (by decide) (by decide) _
  rw [htext, readMember, readKey_stringText]
  simp [hcolon, h.skip_append, h.reads hrest]

/-! ### Values -/

/-- A character that opens nothing begins a word or a number. -/
theorem readValue_of_not_mem (hc : c ∉ ['[', '\x7b', '"', '\'']) (room : Nat) (s : Text) :
    readValue (room + 1) (c :: s) = readWord (c :: s) := by
  unfold readValue
  split <;> simp_all

theorem readWord_of_not_mem (hc : c ∉ ['n', 't', 'f']) (s : Text) :
    readWord (c :: s) = readNumber (c :: s) := by
  simp only [List.mem_cons, List.not_mem_nil, or_false, not_or] at hc
  have hnull : Text.dropPrefix? "null".toList (c :: s) = none := if_neg (Ne.symm hc.1)
  have htrue : Text.dropPrefix? "true".toList (c :: s) = none := if_neg (Ne.symm hc.2.1)
  have hfalse : Text.dropPrefix? "false".toList (c :: s) = none := if_neg (Ne.symm hc.2.2)
  rw [readWord, hnull, htrue, hfalse]

theorem readsAs_word {w : Text} (hbegins : ∃ c ∈ ['n', 't', 'f'], ∃ t, w = c :: t)
    (h : ∀ rest, readWord (w ++ rest) = some (j, rest)) (room : Nat) :
    ReadsAs (readValue (room + 1)) w j := by
  obtain ⟨c, hc, t, rfl⟩ := hbegins
  have hc : beginsItem c = true ∧ c ∉ ['[', '\x7b', '"', '\''] := by
    simp only [List.mem_cons, List.not_mem_nil, or_false] at hc
    rcases hc with rfl | rfl | rfl <;> decide
  refine ⟨⟨c, t, rfl, hc.1⟩, fun {rest} _ => ?_⟩
  rw [← h rest]
  exact readValue_of_not_mem hc.2 room (t ++ rest)

theorem exists_ofInt_eq_cons (n : Int) :
    ∃ c t, Text.ofInt n = c :: t ∧ (c = '-' ∨ Number.isDigit c = true) := by
  cases n with
  | ofNat k =>
      obtain ⟨d, ds, hds, hd⟩ := exists_ofNat_eq_cons k
      exact ⟨d, ds, hds, .inr hd⟩
  | negSucc k => exact ⟨'-', _, rfl, .inl rfl⟩

theorem not_mem_of_isDigit {cs : List Char} (hc : Number.isDigit c = true)
    (hcs : cs.any Number.isDigit = false) : c ∉ cs := fun hmem =>
  List.any_eq_false.mp hcs c hmem hc

theorem beginsItem_of_isDigit (hc : Number.isDigit c = true) : beginsItem c = true := by
  have hblank : Text.isBlank c = false := Number.not_isBlank_of_isDigit hc
  have hother : c ∉ ['\ufeff', '/', ']', '\x7d'] := not_mem_of_isDigit hc (by decide)
  simp_all [beginsItem, isSpace]

theorem readsAs_integer {n : Int} (hmin : Int64.minValue.toInt ≤ n) (hmax : n < UInt64.size)
    (room : Nat) : ReadsAs (readValue (room + 1)) (Text.ofInt n) (.integer n) := by
  obtain ⟨c, t, ht, hc⟩ := exists_ofInt_eq_cons n
  have hopens : beginsItem c = true ∧ c ∉ ['[', '\x7b', '"', '\''] ∧ c ∉ ['n', 't', 'f'] := by
    rcases hc with rfl | hc
    · decide
    · exact ⟨beginsItem_of_isDigit hc, not_mem_of_isDigit hc (by decide),
        not_mem_of_isDigit hc (by decide)⟩
  refine ⟨⟨c, t, ht, hopens.1⟩, fun {rest} hrest => ?_⟩
  calc readValue (room + 1) (Text.ofInt n ++ rest)
    _ = readNumber (Text.ofInt n ++ rest) := by
        rw [ht, List.cons_append, readValue_of_not_mem hopens.2.1, readWord_of_not_mem hopens.2.2]
    _ = some (ofInteger n, rest) := readNumber_ofInt n hrest
    _ = some (.integer n, rest) := by rw [ofInteger, if_pos ⟨hmin, hmax⟩]

theorem readsAs_string (s : Text) (room : Nat) :
    ReadsAs (readValue (room + 1)) (stringText s) (.string s) := by
  refine ⟨⟨'"', _, rfl, by decide⟩, fun {rest} _ => ?_⟩
  obtain ⟨t, ht, hread⟩ := readQuoted_stringText s rest
  rw [ht, readValue, hread]
  rfl

theorem readsAs_array {items : List Json}
    (h : ∀ item ∈ items, ReadsAs (readValue room) item.compact item) :
    ReadsAs (readValue (room + 1)) (compact (.array items)) (.array items) := by
  refine ⟨⟨'[', _, rfl, by decide⟩, fun {rest} _ => ?_⟩
  have htext : compact (.array items) ++ rest =
      '[' :: (separated [','] (items.map compact) ++ ']' :: rest) := by
    simp [compact, compactItems_eq]
  have hbudget := length_lt_length_separated '[' ']' (items.map compact) rest
  rw [List.length_map] at hbudget
  have hclosing : ']' ∈ [']', '\x7d'] := by decide
  have hread := readListed_separated hclosing h hbudget rest
  rw [htext, readValue, skip_separated hclosing h]
  simp [readItems_eq, hread]

/-- An object whose members are in order is read if their values are. -/
theorem readsAs_object {members : List (Text × Json)} (hascending : Bindings.Ascending members)
    (h : ∀ m ∈ members, ReadsAs (readValue room) m.2.compact m.2) :
    ReadsAs (readValue (room + 1)) (compact (.object members)) (.object members) := by
  refine ⟨⟨'\x7b', _, rfl, by decide⟩, fun {rest} _ => ?_⟩
  have htext : compact (.object members) ++ rest =
      '\x7b' :: (separated [','] (members.map memberText) ++ '\x7d' :: rest) := by
    simp [compact, compactMembers_eq]
  have hmembers := fun m hm => readsAs_memberText (h m hm)
  have hbudget := length_lt_length_separated '\x7b' '\x7d' (members.map memberText) rest
  rw [List.length_map] at hbudget
  have hclosing : '\x7d' ∈ [']', '\x7d'] := by decide
  have hread := readListed_separated hclosing hmembers hbudget rest
  rw [htext, readValue, skip_separated hclosing hmembers]
  simp [readMembers_eq, hread, Bindings.ofList_of_ascending hascending]

/-- A plain value is read back from its compact text, which is longer than the value nests deep. -/
theorem readsAs_compact (h : Plain j) (hroom : j.compact.length ≤ room) :
    ReadsAs (readValue (room + 1)) j.compact j := by
  induction h generalizing room with
  | null => exact readsAs_word ⟨'n', by simp, _, rfl⟩ (fun _ => rfl) room
  | boolean b =>
      cases b with
      | false => exact readsAs_word ⟨'f', by simp, _, rfl⟩ (fun _ => rfl) room
      | true => exact readsAs_word ⟨'t', by simp, _, rfl⟩ (fun _ => rfl) room
  | integer hmin hmax => exact readsAs_integer hmin hmax room
  | string s => exact readsAs_string s room
  | @array items _ ih =>
      have hlength : (separated [','] (items.map compact)).length + 2 ≤ room := by
        rw [compact, compactItems_eq, List.cons_append, List.length_cons,
          List.length_append] at hroom
        exact hroom
      -- the brackets leave less room for an item than for the array, and enough of it
      cases room with
      | zero => cases hlength
      | succ room =>
          refine readsAs_array fun item hitem => ih item hitem ?_
          have hlonger : item.compact.length ≤ (separated [','] (items.map compact)).length :=
            length_le_of_mem_separated (List.mem_map_of_mem hitem)
          omega
  | @object members hascending _ ih =>
      have hlength : (separated [','] (members.map memberText)).length + 2 ≤ room := by
        rw [compact, compactMembers_eq, List.cons_append, List.length_cons,
          List.length_append] at hroom
        exact hroom
      cases room with
      | zero => cases hlength
      | succ room =>
          refine readsAs_object hascending fun m hm => ih m hm ?_
          have hlonger : (memberText m).length ≤
              (separated [','] (members.map memberText)).length :=
            length_le_of_mem_separated (List.mem_map_of_mem hm)
          simp only [memberText, List.length_append, List.length_cons] at hlonger
          omega

/-- **A compact text holds the value it was made of.** -/
theorem parse_compact (h : Plain j) : parse j.compact = some j := by
  have hreads := readsAs_compact h (Nat.le_refl j.compact.length)
  have hend : Delimited [] := by simp [Delimited]
  have hnothing : skip [] = some [] := rfl
  have hskip := hreads.skip_append []
  have hread := hreads.reads hend
  rw [List.append_nil] at hskip hread
  simp [parse, hskip, hread, hnothing]

end Relaxed
end SearchFilter.Json
