/-!
# The layout of JSON texts

* `Layout`: a JSON document whose scalars and keys are already written;
* `Layout.print`: its text, on one line or with an item a line.
-/

namespace HostExpr.Json

/-- How the items of a document are laid out. -/
inductive Style where
  | compact
  | indented
  deriving DecidableEq, Repr

/-- A JSON document whose scalars and keys are already written. -/
inductive Layout where
  | scalar (text : List Char)
  | list (items : List Layout)
  | map (entries : List (List Char × Layout))

namespace Layout

/-- What stands before an item: nothing, or a new line and two spaces for each level. -/
def lineBreak (style : Style) (level : Nat) : List Char :=
  match style with
  | .compact => []
  | .indented => '\n' :: List.replicate (2 * level) ' '

/-- What stands between a key and its value. -/
def colon : Style → List Char
  | .compact => [':']
  | .indented => [':', ' ']

mutual

/-- The text of a document that stands at the given level. -/
def print (style : Style) (level : Nat) : Layout → List Char
  | scalar text => text
  | list [] => ['[', ']']
  | list (item :: items) =>
    '[' :: (lineBreak style (level + 1) ++ print style (level + 1) item ++
      printItems style (level + 1) items ++ (lineBreak style level ++ [']']))
  | map [] => ['{', '}']
  | map ((key, value) :: entries) =>
    '{' :: (lineBreak style (level + 1) ++ key ++ colon style ++ print style (level + 1) value ++
      printEntries style (level + 1) entries ++ (lineBreak style level ++ ['}']))

/-- The text of further items, each after a comma. -/
def printItems (style : Style) (level : Nat) : List Layout → List Char
  | [] => []
  | item :: items =>
    ',' :: (lineBreak style level ++ print style level item ++ printItems style level items)

/-- The text of further entries, each after a comma. -/
def printEntries (style : Style) (level : Nat) : List (List Char × Layout) → List Char
  | [] => []
  | (key, value) :: entries =>
    ',' :: (lineBreak style level ++ key ++ colon style ++ print style level value ++
      printEntries style level entries)

end

/-- The text of a whole document. -/
def text (style : Style) (layout : Layout) : String :=
  String.ofList (layout.print style 0)

end Layout

end HostExpr.Json
