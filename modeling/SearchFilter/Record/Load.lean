import SearchFilter.Json.Relaxed
import SearchFilter.Record.Entry
import SearchFilter.Text.Quoted

/-!
# Loading records

Records are read from relaxed JSON: one object, or an array of objects, whose members are scalars or
arrays of scalars.  Either every item is such an object and each becomes an entry, in order, or the
least index of an item that is not is reported.

An entry is printed as compact JSON, with its attributes in order of their names.
-/

namespace SearchFilter

/-! ### From JSON -/

/-- The scalar that a JSON value is; an integer beyond 64 bits becomes a floating-point number. -/
def Scalar.ofJson? : Json → Option Scalar
  | .boolean b => some (.boolean b)
  | .integer n =>
    match Number.int64? n with
    | some i => some (.integer i)
    | none => some (.float (.ofInt n))
  | .float x => some (.float x)
  | .string s => some (.text s)
  | _ => none

/-- The attribute value that a JSON value is. -/
def AttributeValue.ofJson? : Json → Option AttributeValue
  | .array items => (items.mapM Scalar.ofJson?).map .multi
  | j => (Scalar.ofJson? j).map .single

/-- Why a JSON value is not a record. -/
inductive RecordFault where
  /-- It is not an object. -/
  | notAMap (found : Json)
  /-- One of its members is neither a scalar nor an array of scalars. -/
  | badValue

/-- What a value that is not an object is called in messages. -/
def Json.described : Json → Text
  | .null => "null".toList
  | .boolean b => "boolean `".toList ++ Json.compact (.boolean b) ++ ['\x60']
  | .integer n => "integer `".toList ++ Text.ofInt n ++ ['\x60']
  | .float x => "floating point `".toList ++ Json.compact (.float x) ++ ['\x60']
  | .string s => "string ".toList ++ Text.quoted s
  | .array _ => "sequence".toList
  | .object _ => "map".toList

def RecordFault.message : RecordFault → Text
  | notAMap found => "invalid type: ".toList ++ found.described ++ ", expected a map".toList
  | badValue => "data did not match any variant of untagged enum AttributeValue".toList

/-- The binding that a member of an object is. -/
def AttributeValue.ofMember? (m : Text × Json) : Option (Text × AttributeValue) :=
  (AttributeValue.ofJson? m.2).map (m.1, ·)

/-- The entry that a JSON value is. -/
def Entry.ofJson : Json → Except RecordFault Entry
  | .object members =>
    match members.mapM AttributeValue.ofMember? with
    | some bs => .ok (Entry.ofList bs)
    | none => .error .badValue
  | j => .error (.notAMap j)

/-- Why records cannot be read from a text. -/
inductive RecordsError where
  /-- The text is not well formed. -/
  | malformed
  /-- The item with this index is not a record. -/
  | invalid (index : Nat) (fault : RecordFault)

/-- The items of a JSON value: those of an array, or the value itself. -/
def Json.items : Json → List Json
  | .array items => items
  | j => [j]

namespace Entry

/-- The entries of the items, the first of which has the given index. -/
def ofItems (index : Nat) : List Json → Except RecordsError (List Entry)
  | [] => .ok []
  | j :: js =>
    match ofJson j with
    | .error fault => .error (.invalid index fault)
    | .ok e => (ofItems (index + 1) js).map (e :: ·)

def parseAll (s : Text) : Except RecordsError (List Entry) :=
  match Json.Relaxed.parse s with
  | none => .error .malformed
  | some j => ofItems 0 j.items

end Entry

/-! ### To JSON -/

def Scalar.toJson : Scalar → Json
  | boolean b => .boolean b
  | integer n => .integer n.toInt
  | float x => .float x
  | text s => .string s

def AttributeValue.toJson : AttributeValue → Json
  | single value => value.toJson
  | multi values => .array (values.map Scalar.toJson)

def Entry.toJson (e : Entry) : Json :=
  .object (e.bindings.map fun b => (b.1, b.2.toJson))

def Entry.text (e : Entry) : Text :=
  e.toJson.compact

end SearchFilter
