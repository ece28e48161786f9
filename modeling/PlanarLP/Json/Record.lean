import PlanarLP.Json.Number

set_option autoImplicit false

namespace PlanarLP

class Json.Form (α : Type) where
  write : α → Json
  read? : Json → Option α

namespace Json

instance : Form Float := ⟨ofDouble, double?⟩

instance {α : Type} [Form α] : Form (List α) where
  write items := .array (items.map Form.write)
  read?
    | .array items => items.mapM Form.read?
    | _ => none

abbrev Members := List (String × Json)

-- A name comes only once; other names are passed over, or refused by a strict record.
def members? (names : List String) (strict : Bool) : Json → Option Members
  | .array items => if items.length = names.length then some (names.zip items) else none
  | .object members => do
      let named ← members.mapM fun (name, value) => name.map (·, value)
      let known := named.filter fun (name, _) => names.contains name
      if strict && known.length != named.length then none
      else if (known.map (·.1)).Nodup then some known
      else none
  | _ => none

namespace Members

variable {α : Type} [Form α]

def field? (members : Members) (name : String) : Option α := (members.lookup name).bind Form.read?

def optional? (members : Members) (name : String) : Option (Option α) :=
  match members.lookup name with
  | none | some .null => some none
  | some json => (Form.read? json).map some

end Members

def writeOptional {α : Type} [Form α] : Option α → Json
  | some value => Form.write value
  | none => .null

def choice? : Json → Option (String × Option Json)
  | .string (some name) => some (name, none)
  | .object [(some name, payload)] => some (name, some payload)
  | _ => none

def named? {α : Type} (name : α → String) (values : List α) (json : Json) : Option α := do
  let (chosen, payload) ← choice? json
  match payload with
  | none | some .null => values.find? fun value => name value == chosen
  | _ => none

end Json

end PlanarLP
