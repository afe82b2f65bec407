import HostExpr.Text.CharSet

/-!
# Sets of characters with names

* `NamedSet`: a table of characters with the names it goes by;
* `NamedSet.find?`: the set of a name.

Names are in lower case and without spaces, hyphens and underscores.  A table is read only when its
set is asked for.
-/

namespace HostExpr

/-- A table of characters with the names it goes by. -/
structure NamedSet where
  names : List String
  table : List String

/-- The set of a name. -/
def NamedSet.find? (sets : List NamedSet) (name : String) : Option CharSet :=
  (sets.find? (·.names.contains name)).map fun set => .ofTable set.table

end HostExpr
