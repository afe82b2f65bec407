import HostExpr.Text.Hex

/-!
# Tables of hexadecimal numbers

The data of the character properties are kept as lines of text: entries with a space between two,
each entry one or more lower-case hexadecimal numbers with a hyphen between two.

* `HexTable.entries`: the numbers of each entry, in order.
-/

namespace HostExpr.HexTable

/-- The entries of a line: `entry` holds the numbers of the current entry read so far, the last
one first, and `number` the one being read. -/
def readEntries : List Char → List Nat → Nat → List (List Nat)
  | [], entry, number => [(number :: entry).reverse]
  | ' ' :: cs, entry, number => (number :: entry).reverse :: readEntries cs [] 0
  | '-' :: cs, entry, number => readEntries cs (number :: entry) 0
  | c :: cs, entry, number => readEntries cs entry (16 * number + (Hex.value? c).getD 0)

/-- The numbers of each entry of a table. -/
def entries (table : List String) : List (List Nat) :=
  table.flatMap fun line => readEntries line.toList [] 0

end HostExpr.HexTable
