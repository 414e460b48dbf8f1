import LogViewer.Text.Decimal
import LogViewer.Text.Quoted
import LogViewer.Text.Shortest

/-!
# JSON values

A JSON value as the reader of saved rules sees it: whole numbers and fractions are kept apart, and
an object keeps the order of its keys. A key that is written twice keeps its first place and takes
the later value.

## Main definitions

- `Value`: the values
- `Value.put`: one more member for an object
- `Value.kindName`: the name of a kind of value in messages
- `Value.display`: a value as it is shown in messages
-/

namespace LogViewer.Json

/-- A JSON value. -/
inductive Value where
  | null
  | bool (b : Bool)
  | int (n : Int)
  | fraction (x : Float)
  | str (s : Text)
  | arr (items : List Value)
  | obj (members : List (Text × Value))

/-- The members of an object in the order of their first mention. -/
abbrev Members := List (Text × Value)

namespace Value

/-- Adds a member; a key that is there already keeps its place and takes the new value. -/
def put : Members → Text → Value → Members
  | [], key, value => [(key, value)]
  | (k, v) :: rest, key, value =>
    if k = key then (k, value) :: rest else (k, v) :: put rest key value

/-- The value of a key. -/
def get? (members : Members) (key : Text) : Option Value :=
  (members.find? fun m => m.1 = key).map (·.2)

/-- The name of a value's kind in messages. -/
def kindName : Value → Text
  | null => "NoneType"
  | bool _ => "bool"
  | int _ => "int"
  | fraction _ => "float"
  | str _ => "str"
  | arr _ => "list"
  | obj _ => "dict"

mutual

/-- A value as it is shown in messages. -/
def display : Value → Text
  | null => "None"
  | bool true => "True"
  | bool false => "False"
  | int n => toString n
  | fraction x => Text.writeDouble x
  | str s => Text.quoted s
  | arr items => "[" ++ displayItems items ++ "]"
  | obj members => "\x7b" ++ displayMembers members ++ "\x7d"

/-- Items separated by commas. -/
def displayItems : List Value → Text
  | [] => ""
  | [v] => v.display
  | v :: rest => v.display ++ ", " ++ displayItems rest

/-- Members separated by commas. -/
def displayMembers : Members → Text
  | [] => ""
  | [(k, v)] => Text.quoted k ++ ": " ++ v.display
  | (k, v) :: rest => Text.quoted k ++ ": " ++ v.display ++ ", " ++ displayMembers rest

end

end Value

end LogViewer.Json
