import Rulebook.CharSet

/-!
# Named tables of code points

A property of code points is a list of named classes. A class is looked up under a loose name,
in which letter case, spaces, hyphens, underscores and a leading `is` do not count.
-/

namespace Rulebook.Unicode

/-- A class of code points with the loose names it goes by. -/
structure NamedTable where
  names : List String
  table : String

/-- The first class that goes by the loose name. -/
def NamedTable.find? (tables : List NamedTable) (name : String) : Option CharSet :=
  (tables.find? fun t => t.names.contains name).map fun t => CharSet.ofTable t.table

/-- The loose form of a name. The one name that a leading `is` belongs to is `isc`. -/
def looseName (name : String) : String :=
  let cs := name.toList
  let starts := match cs with
    | a :: b :: _ => (a = 'i' || a = 'I') && (b = 's' || b = 'S')
    | _ => false
  let body := (if starts then cs.drop 2 else cs).filter fun c =>
    c.toNat < 128 && c ≠ ' ' && c ≠ '_' && c ≠ '-'
  let body := body.map Char.toLower
  if starts && body = ['c'] then "isc" else String.ofList body

end Rulebook.Unicode
