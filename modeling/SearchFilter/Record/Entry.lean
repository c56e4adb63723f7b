import Std.Data.HashMap
import Std.Data.TreeMap
import SearchFilter.Bindings
import SearchFilter.Value.Basic

/-!
# Records

A record gives the value of an attribute by its name, or none (`Record`).  An `Entry` is the record
that the library reads and prints: its attributes stand in ascending order of their names, each name
once.  Hash maps and search trees from names to values are records too.
-/

namespace SearchFilter

/-- Look-up of attribute values by name. -/
class Record (ρ : Type) where
  /-- The value of an attribute, if the record has it. -/
  value? : ρ → Text → Option AttributeValue

/-- A record that lists its attributes. -/
structure Entry where
  /-- The attributes and their values. -/
  bindings : Bindings AttributeValue
  /-- The names ascend, so no name occurs twice. -/
  ascending : bindings.Ascending

namespace Entry

def empty : Entry :=
  ⟨[], .nil⟩

def insert (e : Entry) (name : Text) (value : AttributeValue) : Entry :=
  ⟨e.bindings.put name value, e.ascending.put⟩

/-- The entry with one more attribute, for entries that are written down as a chain. -/
def including (e : Entry) (name : Text) (value : AttributeValue) : Entry :=
  e.insert name value

/-- The entry of a list of bindings; of two with one name the later one counts. -/
def ofList (bs : List (Text × AttributeValue)) : Entry :=
  ⟨Bindings.ofList bs, Bindings.ascending_ofList bs⟩

def size (e : Entry) : Nat :=
  e.bindings.length

def isEmpty (e : Entry) : Bool :=
  e.bindings.isEmpty

def value? (e : Entry) (name : Text) : Option AttributeValue :=
  e.bindings.lookup name

theorem value?_empty (name : Text) : empty.value? name = none := rfl

theorem value?_insert (e : Entry) (name : Text) (value : AttributeValue) (n : Text) :
    (e.insert name value).value? n = if n = name then some value else e.value? n :=
  Bindings.lookup_put name value n e.bindings

end Entry

instance : Record Entry where
  value? := Entry.value?

instance {_ : BEq Text} {_ : Hashable Text} : Record (Std.HashMap Text AttributeValue) where
  value? m name := m[name]?

instance : Record (Std.TreeMap Text AttributeValue) where
  value? m name := m[name]?

end SearchFilter
