import SearchFilter.Proofs.Json.RoundTrip
import SearchFilter.Proofs.Record.Loading

/-! # Printed records read back

A scalar is what its JSON value becomes again (`Scalar.ofJson_toJson`), so an attribute value and an
entry are (`ofJson_toJson`).  Without floating-point numbers the JSON value of an entry is kept by
its compact text (`plain_toJson`), so the printed form of an entry, and the array of the printed
forms of several, are read as these entries (`parseAll_texts`). -/

namespace SearchFilter

/-! ### Back from JSON values -/

theorem Scalar.ofJson_toJson (m : Scalar) : OfJson m.toJson m := by
  cases m with
  | boolean b => exact .boolean b
  | integer n => exact .integer n
  | float x => exact .float x
  | text s => exact .text s

theorem AttributeValue.ofJson_toJson (v : AttributeValue) : OfJson v.toJson v := by
  cases v with
  | single m => exact .single m.ofJson_toJson
  | multi ms =>
      refine .multi (List.forall₂_map_left_iff.mpr ?_)
      exact List.forall₂_same.mpr fun m _ => m.ofJson_toJson

namespace Entry

theorem ofList_bindings (e : Entry) : ofList e.bindings = e := by
  obtain ⟨bs, hbs⟩ := e
  simp only [ofList, Bindings.ofList_of_ascending hbs]

theorem ofJson_toJson (e : Entry) : ofJson e.toJson = .ok e := by
  have hmembers : (e.bindings.map fun b => (b.1, b.2.toJson)).mapM AttributeValue.ofMember? =
      some e.bindings := by
    rw [mapM_eq_some_iff, List.forall₂_map_left_iff]
    exact List.forall₂_same.mpr fun b _ =>
      AttributeValue.ofMember?_eq_some_iff.mpr ⟨rfl, b.2.ofJson_toJson⟩
  rw [toJson, ofJson, hmembers]
  exact congrArg Except.ok (ofList_bindings e)

theorem ofItems_map_toJson (index : Nat) (es : List Entry) :
    ofItems index (es.map toJson) = .ok es := by
  induction es generalizing index with
  | nil => rfl
  | cons e es ih =>
      rw [List.map_cons, ofItems, ofJson_toJson, ih]
      rfl

end Entry

/-! ### Values without floating-point numbers -/

/-- Whether a value is a floating-point number. -/
def Scalar.isFloat : Scalar → Bool
  | float _ => true
  | _ => false

/-- No member of an attribute is a floating-point number. -/
def Entry.FloatFree (e : Entry) : Prop :=
  ∀ b ∈ e.bindings, ∀ m ∈ b.2.members, m.isFloat = false

instance (e : Entry) : Decidable e.FloatFree :=
  inferInstanceAs (Decidable (∀ b ∈ e.bindings, ∀ m ∈ b.2.members, m.isFloat = false))

theorem Scalar.plain_toJson {m : Scalar} (h : m.isFloat = false) : m.toJson.Plain := by
  cases m with
  | boolean b => exact .boolean b
  | integer n =>
      have hmax : Int64.maxValue.toInt < UInt64.size := by decide
      exact .integer n.minValue_le_toInt (Int.lt_of_le_of_lt n.toInt_le hmax)
  | float x => cases h
  | text s => exact .string s

theorem AttributeValue.plain_toJson {v : AttributeValue} (h : ∀ m ∈ v.members, m.isFloat = false) :
    v.toJson.Plain := by
  cases v with
  | single m => exact Scalar.plain_toJson (h m List.mem_cons_self)
  | multi ms =>
      refine .array fun item hitem => ?_
      obtain ⟨m, hm, rfl⟩ := List.mem_map.mp hitem
      exact Scalar.plain_toJson (h m hm)

namespace Entry

variable {e : Entry} {es : List Entry}

theorem plain_toJson (h : e.FloatFree) : e.toJson.Plain := by
  refine .object ?_ fun m hm => ?_
  · rw [Bindings.ascending_iff_names, List.map_map]
    exact Bindings.ascending_iff_names.mp e.ascending
  · obtain ⟨b, hb, rfl⟩ := List.mem_map.mp hm
    exact AttributeValue.plain_toJson (h b hb)

/-! ### Printed entries -/

theorem parseAll_text (h : e.FloatFree) : parseAll e.text = .ok [e] := by
  rw [parseAll, text, Json.Relaxed.parse_compact (plain_toJson h)]
  exact ofItems_map_toJson 0 [e]

/-- **Printed records read back**: the array of the printed forms of entries is read as the list of
these entries, and the printed form of each of them as this entry alone. -/
theorem parseAll_texts (h : ∀ e ∈ es, e.FloatFree) :
    parseAll ('[' :: Json.separated [','] (es.map text) ++ [']']) = .ok es ∧
      ∀ e ∈ es, parseAll e.text = .ok [e] := by
  have htext : '[' :: Json.separated [','] (es.map text) ++ [']'] =
      (Json.array (es.map toJson)).compact := by
    rw [Json.compact, Json.compactItems_eq, List.map_map]
    rfl
  have hplain : (Json.array (es.map toJson)).Plain := by
    refine .array fun item hitem => ?_
    obtain ⟨e, he, rfl⟩ := List.mem_map.mp hitem
    exact plain_toJson (h e he)
  refine ⟨?_, fun e he => parseAll_text (h e he)⟩
  rw [htext, parseAll, Json.Relaxed.parse_compact hplain]
  exact ofItems_map_toJson 0 es

/-- An entry with a quote and a backslash in a name, a control character and a letter beyond ASCII
in a text, the least integer, a mixed and an empty sequence, and an entry without attributes. -/
theorem parseAll_of_escapes :
    let es := [Entry.ofList [("n\"\\".toList, .single (.text "\x01é\n".toList)),
        ("m".toList, .multi [.integer Int64.minValue, .boolean true, .text []]),
        ("o".toList, .multi [])], Entry.empty]
    let s := ("[\x7b\"m\":[-9223372036854775808,true,\"\"],\"n\\\"\\\\\":\"\\u0001é\\n\"," ++
      "\"o\":[]\x7d,\x7b\x7d]").toList
    (∀ e ∈ es, e.FloatFree) ∧ parseAll s = .ok es := by
  intro es s
  have hes : ∀ e ∈ es, e.FloatFree := by decide
  have hs : '[' :: Json.separated [','] (es.map text) ++ [']'] = s := by decide
  exact ⟨hes, hs ▸ (parseAll_texts hes).1⟩

end Entry
end SearchFilter
