import Pipeline.Dict
import Pipeline.Json.Printer
import Pipeline.Json.Reader
import Pipeline.Ref

/-!
# References and dictionaries of text as JSON

A reference is an object with the members `step` and `key`, or the array of the two. Members of
other names are passed over, a repeated one is refused, and an absent step is an input. A dictionary
of text is an object of strings; the last of several members of one name wins.
-/

namespace Pipeline

/-- A step, which may be null. -/
def Json.step? : Json → Option (Option String)
  | .null => some none
  | .string (some text) => some (some text)
  | _ => none

namespace Ref

/-- The members of a reference met so far: its step and its key. -/
structure Draft where
  step : Option (Option String)
  key : Option String

def Draft.member (p : Draft) (name : Option String) (value : Json) : Option Draft :=
  match name with
  | none => none
  | some "step" =>
    if p.step.isSome then none else value.step?.map fun s => { p with step := some s }
  | some "key" => if p.key.isSome then none else value.text?.map fun k => { p with key := some k }
  | some _ => some p

def ofJson? : Json → Option Ref
  | .array [step, key] => do return ⟨← step.step?, ← key.text?⟩
  | .object members => do
    let p ← members.foldlM (fun p m => p.member m.1 m.2) (⟨none, none⟩ : Draft)
    return ⟨p.step.getD none, ← p.key⟩
  | _ => none

def parse (text : String) : Option Ref := Json.parse text >>= ofJson?

def toJson (r : Ref) : String :=
  Json.renderObject
    [("step", (r.step.map Json.renderString).getD "null"), ("key", Json.renderString r.key)]

end Ref

namespace Dict

def ofJson? : Json → Option (Dict String)
  | .object members =>
    members.foldlM (fun d m => do return d.insert (← m.1) (← m.2.text?)) (Dict.empty : Dict String)
  | _ => none

/-- Reads an object of strings. -/
def parse (text : String) : Option (Dict String) := Json.parse text >>= ofJson?

def toJson (d : Dict String) : String :=
  Json.renderObject (d.toList.map fun e => (e.1, Json.renderString e.2))

end Dict
end Pipeline
