import FilterQuery.Binary64.Basic

/-!
# JSON values

The tree of a JSON text.  Members of an object keep their order and may repeat a name, so that no
information of the text is lost before somebody decides what a repetition means.
-/

namespace FilterQuery

/-- A JSON number: exact where it is written as an integer of 64 bits, a double otherwise. -/
inductive Json.Number where
  | integer (n : Int)
  | float (x : Binary64)
deriving DecidableEq

/-- A JSON value. -/
inductive Json where
  | null
  | boolean (b : Bool)
  | number (n : Json.Number)
  | string (s : String)
  | array (items : List Json)
  | object (members : List (String × Json))

namespace Json

/-- The text of a string value. -/
def text? : Json → Option String
  | .string s => some s
  | _ => none

/-- The texts of an array that holds nothing but strings. -/
def texts? : Json → Option (List String)
  | .array items => items.mapM text?
  | _ => none

end Json
end FilterQuery
