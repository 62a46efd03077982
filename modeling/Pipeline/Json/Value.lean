/-!
# JSON values

The values of a JSON text. A string may hold escapes that name no character, half of a surrogate
pair without the other; such a string is well-formed but has no text. Members of an object keep
their order and may repeat a name.
-/

namespace Pipeline

inductive Json where
  | null
  | bool (value : Bool)
  | number (literal : String)
  | string (text : Option String)
  | array (items : List Json)
  | object (members : List (Option String × Json))
deriving Repr

/-- The text of a value that is a string with a text. -/
def Json.text? : Json → Option String
  | .string text => text
  | _ => none

end Pipeline
