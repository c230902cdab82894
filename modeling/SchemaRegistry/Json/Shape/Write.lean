import SchemaRegistry.Json.Printer
import SchemaRegistry.Json.Shape
/-!
# Writing shapes

The tree of a value: records as objects with their fields in order, choices by name, tagged records
with the tag in front.
-/

set_option autoImplicit false

namespace SchemaRegistry.Json

/-- Whether writing leaves the value of a field out. -/
def Need.leavesOut (need : Need) : (s : Shape) → s.Val → Bool
  | .list _, items => need = .omissible && items.isEmpty
  | .optional _, v => need = .omissible && v.isNone
  | _, _ => false

mutual

def Shape.tree : (s : Shape) → s.Val → Json
  | .text, s => .text s
  | .flag, b => .bool b
  | .word w, n => .number (.integer (w.toInt n))
  | .instant, t => .text t.text
  | .list item, items => .array (items.map item.tree)
  | .optional _, none => .null
  | .optional inner, some v => inner.tree v
  | .record _ fields, v => .object (fields.members v)
  | .choice names, i => .text (names.get i)
  | .tagged _ tag cases, v => cases.tree tag v

/-- The members of a record. -/
def Fields.members : (fs : Fields) → fs.Val → List (String × Json)
  | .nil, _ => []
  | .cons key need shape rest, (v, vs) =>
    if need.leavesOut shape v then rest.members vs
    else (key, shape.tree v) :: rest.members vs

/-- The object of a tagged record. -/
def Cases.tree : (cs : Cases) → String → cs.Val → Json
  | .nil, _, v => nomatch v
  | .cons name _ fields _, tag, .inl v => .object ((tag, .text name) :: fields.members v)
  | .cons _ _ _ rest, tag, .inr v => rest.tree tag v

end

/-- The compact document of a value. -/
def Shape.write (s : Shape) (v : s.Val) : String :=
  (s.tree v).compact

end SchemaRegistry.Json
