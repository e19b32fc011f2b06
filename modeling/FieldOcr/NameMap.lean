/-!
# Maps keyed by names

Finite maps whose entries stand in ascending order of their names.  The order
compares names by their characters' code points.  Inserting a name that is
present replaces its value.
-/

namespace FieldOcr

/-- A finite map from names to values. -/
structure NameMap (α : Type) where
  /-- The entries in ascending order of their names. -/
  entries : List (String × α)
  deriving Repr

namespace NameMap

/-- The map without entries. -/
def empty : NameMap α :=
  ⟨[]⟩

instance : Inhabited (NameMap α) :=
  ⟨empty⟩

/-- Puts an entry into ascending entries. -/
def insertEntry
    (name : String)
    (value : α) : List (String × α) -> List (String × α)
  | [] => [(name, value)]
  | (other, kept) :: rest =>
      if name = other then (name, value) :: rest
      else if name < other then (name, value) :: (other, kept) :: rest
      else (other, kept) :: insertEntry name value rest

/-- Puts an entry into a map, replacing the value of a name that is present. -/
def insert (map : NameMap α) (name : String) (value : α) : NameMap α :=
  ⟨insertEntry name value map.entries⟩

/-- The map of some entries; of two values for one name the later one
counts. -/
def ofList (entries : List (String × α)) : NameMap α :=
  entries.foldl (fun map entry => map.insert entry.1 entry.2) empty

/-- The value of a name. -/
def get? (map : NameMap α) (name : String) : Option α :=
  (map.entries.find? (·.1 = name)).map (·.2)

/-- Whether a name has a value. -/
def contains (map : NameMap α) (name : String) : Bool :=
  (map.get? name).isSome

end NameMap
end FieldOcr
