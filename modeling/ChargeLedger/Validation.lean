/-!
# Field rules

A request is checked field by field, in the order its fields are declared. A field's rules are
tried in order and the first one it breaks is reported for it, so a field has at most one
message. A rule `skipIfEmpty` ends the checks of an empty field without a message.

The messages: `"f" is required.`, `"f" must be one of [values].`, `"f" must be at most n.`,
`"f" must be at least n.`, `"f" must not be greater than "g".` Lengths count characters.
-/

set_option autoImplicit false

namespace ChargeLedger.Validation

/-- A rule on a text field. -/
inductive TextRule where
  /-- Must not be empty. -/
  | required
  /-- Must not be empty when the condition holds. -/
  | requiredWhen (condition : Bool)
  /-- No further rule applies to an empty value. -/
  | skipIfEmpty
  /-- One of the values; `shown` is how the rule writes them. -/
  | oneOf (shown : String) (values : List String)
  /-- At most this many characters. -/
  | maxLength (n : Nat)

/-- A rule on an integer field. -/
inductive IntRule where
  | atLeast (n : Int)
  | atMost (n : Int)
  /-- Not above another field's value, named by that field. -/
  | notAbove (other : Int) (otherName : String)

def quoted (f : String) : String := "\"" ++ f ++ "\""

def requiredMessage (f : String) : String := quoted f ++ " is required."

def checkText (f : String) (v : String) : List TextRule → Option String
  | [] => none
  | .required :: rs => if v.isEmpty then some (requiredMessage f) else checkText f v rs
  | .requiredWhen c :: rs =>
    if c && v.isEmpty then some (requiredMessage f) else checkText f v rs
  | .skipIfEmpty :: rs => if v.isEmpty then none else checkText f v rs
  | .oneOf shown values :: rs =>
    if values.contains v then checkText f v rs
    else some (quoted f ++ " must be one of [" ++ shown ++ "].")
  | .maxLength n :: rs =>
    if v.length > n then some (quoted f ++ " must be at most " ++ toString n ++ ".")
    else checkText f v rs

def checkInt (f : String) (v : Int) : List IntRule → Option String
  | [] => none
  | .atLeast n :: rs =>
    if v < n then some (quoted f ++ " must be at least " ++ toString n ++ ".") else checkInt f v rs
  | .atMost n :: rs =>
    if v > n then some (quoted f ++ " must be at most " ++ toString n ++ ".") else checkInt f v rs
  | .notAbove o name :: rs =>
    if v > o then some (quoted f ++ " must not be greater than " ++ quoted name ++ ".")
    else checkInt f v rs

def issues (checks : List (String × Option String)) : List (String × String) :=
  checks.filterMap fun c => c.2.map fun m => (c.1, m)

end ChargeLedger.Validation
