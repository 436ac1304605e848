/-!
# JSON values

A JSON value with the members of an object in the order in which they stand. A number is an
integer when it is written as one and fits 64 bits, signed or unsigned; every other number is
kept as it is written.
-/

namespace WorkloadForms

/-- A JSON value. -/
inductive Json where
  | null
  | bool (value : Bool)
  | int (value : Int)
  | decimal (literal : String)
  | text (value : String)
  | list (items : List Json)
  | object (members : List (String × Json))
  deriving Repr, Inhabited

namespace Json

/-- The value of the first member with this name. -/
def member? (name : String) : Json → Option Json
  | .object members => members.lookup name
  | _ => none

/-- The text of a text value. -/
def text? : Json → Option String
  | .text s => some s
  | _ => none

/-- The items of a list. -/
def items? : Json → Option (List Json)
  | .list items => some items
  | _ => none

/-- The members of an object. -/
def members? : Json → Option (List (String × Json))
  | .object members => some members
  | _ => none

/-- The members with those of `changes` in place of the ones of the same name, new names at the
end. -/
def overwrite (members changes : List (String × Json)) : List (String × Json) :=
  changes.foldl
    (fun acc change =>
      if acc.any (·.1 == change.1) then
        acc.map fun m => if m.1 == change.1 then change else m
      else acc ++ [change])
    members

end Json

end WorkloadForms
