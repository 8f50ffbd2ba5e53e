/-!
# JSON values

Rule files, rule sets and requests are JSON documents. A `Json` value keeps the members of an
object in the order they were written. Numbers without a fraction or exponent are kept as
integers; any other number keeps its written form, since no field of the rule format accepts
one.
-/

namespace Proofreader

/-- A JSON document. -/
inductive Json where
  | null
  | bool (b : Bool)
  /-- A number written without fraction or exponent. -/
  | int (n : Int)
  /-- Any other number, as written. -/
  | float (text : String)
  | str (s : String)
  | arr (items : List Json)
  | obj (members : List (String × Json))
deriving Inhabited, Repr

namespace Json

/-- The member of an object with the given key: the last one written, as readers of JSON
objects usually keep it. -/
def field? (j : Json) (key : String) : Option Json :=
  match j with
  | obj members => (members.reverse.find? (·.1 = key)).map (·.2)
  | _ => none

/-- A natural number, when the value is one. -/
def nat? : Json → Option Nat
  | int n => if n ≥ 0 then some n.toNat else none
  | _ => none

/-- The text of a string value. -/
def str? : Json → Option String
  | str s => some s
  | _ => none

/-- The items of an array value. -/
def arr? : Json → Option (List Json)
  | arr xs => some xs
  | _ => none

/-- The value of a boolean. -/
def bool? : Json → Option Bool
  | bool b => some b
  | _ => none

/-- Whether the value is `null`. -/
def isNull : Json → Bool
  | null => true
  | _ => false

/-- A natural number as a JSON number. -/
def ofNat (n : Nat) : Json := int n

/-- A list of texts as a JSON array. -/
def ofStrings (xs : List String) : Json := arr (xs.map str)

/-- An optional value, `null` when absent. -/
def ofOption {α : Type} (f : α → Json) : Option α → Json
  | some a => f a
  | none => null

end Json

end Proofreader
