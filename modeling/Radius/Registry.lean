/-
# Registries

A dictionary with indexes.  A table finds its definitions by the position that an index of their
names or of their codes holds; a registry finds a table by its number, and by its name through an
index that leads to the number.  Every change of a table or of a registry has to keep the indexes in
step with what they lead to.  What a registry answers is what a search through the same vendors
answers: a registry is another form of `Radius.Dictionary`.
-/
import Std.Data.HashMap
import Std.Data.TreeMap
import Radius.Dictionary

namespace Radius

open Text

/-- The key under which an index holds a name: the name in small letters. -/
def Text.nameKey (name : String) : String :=
  String.ofList (fold name)

/-- A vendor with the definitions of its attributes and the indexes to them. -/
structure Table where
  name : String
  /-- The number that stands for the vendor on the wire. -/
  id : UInt32
  /-- The definitions, in the order of their declaration. -/
  attributes : Array Definition := #[]
  /-- The positions of definitions by the keys of their names. -/
  byName : Std.HashMap String Nat := ∅
  /-- The positions of definitions by their codes. -/
  byCode : Std.HashMap UInt8 Nat := ∅

namespace Table

/-- The vendor without the indexes. -/
def vendor (t : Table) : Vendor where
  name := t.name
  id := t.id
  attributes := t.attributes.toList

/-- The definition of a name, in any letter case. -/
def attribute? (t : Table) (name : String) : Option Definition :=
  t.byName[nameKey name]?.bind fun i => t.attributes[i]?

/-- The definition of a code. -/
def attributeOf? (t : Table) (code : UInt8) : Option Definition :=
  t.byCode[code]?.bind fun i => t.attributes[i]?

/-- The table with a definition after the others; the definition itself if its name or its code is
taken. -/
def insert (t : Table) (d : Definition) : Except Definition Table :=
  if t.byName.contains (nameKey d.name) ∨ t.byCode.contains d.code then .error d
  else
    .ok { t with
      attributes := t.attributes.push d
      byName := t.byName.insert (nameKey d.name) t.attributes.size
      byCode := t.byCode.insert d.code t.attributes.size }

/-- The table with the definition of a name changed in its place. -/
def modify (t : Table) (name : String) (change : Definition → Definition) : Table :=
  match t.byName[nameKey name]? with
  | some i => { t with attributes := t.attributes.modify i change }
  | none => t

end Table

/-- Tables of vendors by their numbers, in ascending order, and an index of their names. -/
structure Registry where
  vendors : Std.TreeMap UInt32 Table := ∅
  /-- The numbers of vendors by the keys of their names. -/
  names : Std.HashMap String UInt32 := ∅

namespace Registry

/-- The registry without vendors. -/
def empty : Registry := {}

/-- The tables, in ascending order of the vendors' numbers. -/
def tables (r : Registry) : List Table :=
  r.vendors.toList.map (·.2)

/-- The dictionary without the indexes. -/
def dictionary (r : Registry) : Dictionary :=
  ⟨r.tables.map Table.vendor⟩

/-- The vendor with a number. -/
def vendor? (r : Registry) (id : UInt32) : Option Table :=
  r.vendors[id]?

/-- The vendor with a name, in any letter case. -/
def vendorNamed? (r : Registry) (name : String) : Option Table :=
  r.names[nameKey name]?.bind r.vendor?

/-- The vendor that an operator refers to, by its name or else by its decimal number. -/
def resolve (r : Registry) (text : String) : Except DictionaryError Table :=
  match r.vendorNamed? text with
  | some t => .ok t
  | none =>
    match (word? text.toList).bind r.vendor? with
    | some t => .ok t
    | none => .error (.unknownVendor text)

/-- The registry with another table under a number that it has. -/
def update (r : Registry) (id : UInt32) (t : Table) : Registry :=
  { r with vendors := r.vendors.insert id t }

/-- The registry with a table added under its number and its name. -/
def add (r : Registry) (t : Table) : Registry where
  vendors := r.vendors.insert t.id t
  names := r.names.insert (nameKey t.name) t.id

/-- The registry with a vendor of the given name and number, added without attributes unless it is
there; none if another vendor has the name or the number. -/
def declare? (r : Registry) (name : String) (id : UInt32) : Option Registry :=
  match r.names[nameKey name]?, (r.vendor? id).map fun t => nameKey t.name with
  | none, none => some (r.add { name, id })
  | some found, some existing => if found = id ∧ existing = nameKey name then some r else none
  | _, _ => none

/-- The registry without the entry of a number and the entry of a name. -/
def erase (r : Registry) (id : UInt32) (name : String) : Registry where
  vendors := r.vendors.erase id
  names := r.names.erase (nameKey name)

/-- The registry without the vendor to which a name leads. -/
def dropNamed (r : Registry) (name : String) : Registry :=
  match r.names[nameKey name]? with
  | some id => r.erase id name
  | none => r

/-- The registry without the vendor with a number. -/
def dropNumbered (r : Registry) (id : UInt32) : Registry :=
  match r.vendor? id with
  | some t => r.erase id t.name
  | none => r

/-- The registry with a table in place of those that have its name or its number. -/
def put (r : Registry) (t : Table) : Registry :=
  ((r.dropNamed t.name).dropNumbered t.id).add t

/-- Lays another registry over this one: its vendors take the place of those that have one of their
numbers or names. -/
def merge (r other : Registry) : Registry :=
  other.tables.foldl put r

end Registry

end Radius
