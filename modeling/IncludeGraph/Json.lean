/-! JSON values. Members of an object keep their order. -/

namespace IncludeGraph

inductive Json where
  | null
  | bool (value : Bool)
  | number (value : Nat)
  | string (value : String)
  | array (items : List Json)
  | object (members : List (String × Json))

namespace Json

def strings (items : List String) : Json := .array (items.map .string)

def member? (name : String) : Json → Option Json
  | .object members => members.lookup name
  | _ => none

end Json

end IncludeGraph
