import LangServer.Json.Value
import LangServer.Uri.Reader

/-!
# Shapes of Parameters

Which JSON values a method takes. A record takes an object in which every field that must be
there is there, and every field that is there has its shape; fields of other names are passed
over. A record also takes the list of its fields in their order, and such a list leaves none out:
a field that may be absent from the object is `null` in the list.

An object proper is a record that is never sent as a list.

## Main definitions

* `Shape.accepts`: whether a value has a shape.
-/

namespace LangServer

/-- Whether a field may be left out. -/
inductive Presence where
  | required
  /-- It may be absent from an object, and it may be `null`. -/
  | optional
  /-- It may be absent from an object and from the end of a list. -/
  | defaulted
  deriving DecidableEq, Repr

/-- A set of JSON values. -/
inductive Shape where
  | any
  | null
  | text
  | bool
  | number
  /-- A whole number that fits an unsigned word. -/
  | word
  /-- A whole number that fits a signed word. -/
  | int
  | uri
  | oneOf (names : List String)
  | either (a b : Shape)
  | list (item : Shape)
  /-- A list of two values of a shape. -/
  | pair (item : Shape)
  /-- An object whose fields all have a shape. -/
  | map (item : Shape)
  /-- An object whose fields are named by URIs and all have a shape. -/
  | uriMap (item : Shape)
  /-- The fields of a record, as an object or in their order. -/
  | record (fields : List (String × Presence × Shape))
  /-- The fields of a record, as an object only. -/
  | object (fields : List (String × Presence × Shape))
  /-- An object with some fields, in which all other fields have a shape. -/
  | objectWith (fields : List (String × Presence × Shape)) (others : Shape)
  /-- A record with one more field, before all others, that says which record it is. -/
  | tagged (tag : String) (cases : List (String × Shape))
  deriving Repr, Inhabited

namespace Shape

/-- A field that must be there. -/
def req (name : String) (shape : Shape) : String × Presence × Shape :=
  (name, .required, shape)

/-- A field that may be absent or `null`. -/
def opt (name : String) (shape : Shape) : String × Presence × Shape :=
  (name, .optional, shape)

/-- Whether a value is `null`. -/
def isNull : Json → Bool
  | .null => true
  | _ => false

/-- The name that a tag stands for: itself, or the one whose number it is. -/
def caseName? (names : List String) : Json → Option String
  | .str s => some s
  | .int n => if 0 ≤ n then names[n.toNat]? else none
  | _ => none

mutual

/-- Whether a value has a shape. -/
def accepts : Shape → Json → Bool
  | .any, _ => true
  | .null, j => isNull j
  | .text, j => j.str?.isSome
  | .bool, j => j.bool?.isSome
  | .number, .int _ => true
  | .number, .decimal _ => true
  | .number, _ => false
  | .word, j => j.word32?.isSome
  | .int, j => j.int32?.isSome
  | .uri, j => (j.str?.bind Uri.parse?).isSome
  | .oneOf names, j => j.name?.any names.contains
  | .either a b, j => a.accepts j || b.accepts j
  | .list item, .arr js => js.all (accepts item)
  | .list _, _ => false
  | .pair item, .arr [a, b] => item.accepts a && item.accepts b
  | .pair _, _ => false
  | .map item, .obj fs => fs.all fun f => item.accepts f.2
  | .map _, _ => false
  | .uriMap item, .obj fs => fs.all fun f => (Uri.parse? f.1).isSome && item.accepts f.2
  | .uriMap _, _ => false
  | .record fields, .obj fs => acceptsFields fields (.obj fs)
  | .record fields, .arr items => acceptsInOrder fields items
  | .record _, _ => false
  | .object fields, .obj fs => acceptsFields fields (.obj fs)
  | .object _, _ => false
  | .objectWith fields others, .obj fs =>
    acceptsFields fields (.obj fs) &&
      fs.all fun f => (fields.lookup f.1).isSome || others.accepts f.2
  | .objectWith _ _, _ => false
  | .tagged tag cases, .obj fs =>
    match (fs.lookup tag).bind (caseName? (cases.map (·.1))) with
    | some name => acceptsCase cases name (.obj fs)
    | none => false
  | .tagged _ cases, .arr (j :: js) =>
    match caseName? (cases.map (·.1)) j with
    | some name => acceptsCase cases name (.arr js)
    | none => false
  | .tagged _ _, _ => false

/-- Whether an object has fields as they are to be. -/
def acceptsFields : List (String × Presence × Shape) → Json → Bool
  | [], _ => true
  | (name, presence, shape) :: rest, j =>
    (match presence, j.field? name with
      | .required, none => false
      | .optional, none | .defaulted, none => true
      | .optional, some v => isNull v || shape.accepts v
      | _, some v => shape.accepts v) && acceptsFields rest j

/-- Whether a list has fields in their order as they are to be, and nothing more. -/
def acceptsInOrder : List (String × Presence × Shape) → List Json → Bool
  | [], items => items.isEmpty
  | (_, .defaulted, _) :: rest, [] => acceptsInOrder rest []
  | _ :: _, [] => false
  | (_, presence, shape) :: rest, item :: items =>
    ((presence = .optional && isNull item) || shape.accepts item) && acceptsInOrder rest items

/-- Whether a value has the shape of the case of a name. -/
def acceptsCase : List (String × Shape) → String → Json → Bool
  | [], _, _ => false
  | (name, shape) :: rest, wanted, j =>
    if name = wanted then shape.accepts j else acceptsCase rest wanted j

end

end Shape

end LangServer
