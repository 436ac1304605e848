import WorkloadForms.Json.Printer
import WorkloadForms.Text.Ascii

/-!
# Requests and responses

A request has a method, a path, headers and a body; a response has a status, headers and a body.
Names of headers are compared without regard to the case of letters.
-/

namespace WorkloadForms.Console

/-- A request. -/
structure Request where
  method : String
  path : String
  headers : List (String × String) := []
  body : String := ""
  deriving DecidableEq, Repr, Inhabited

/-- The content of a response. -/
inductive Body where
  | empty
  | text (content : String)
  | json (content : Json)
  deriving Repr, Inhabited

/-- A response. -/
structure Response where
  status : Nat
  headers : List (String × String) := []
  body : Body := .empty
  deriving Repr, Inhabited

namespace Request

/-- The values of all headers with a name. -/
def headerValues (r : Request) (name : String) : List String :=
  (r.headers.filter fun h => Text.sameIgnoringCase h.1 name).map (·.2)

/-- The value of the first header with a name. -/
def header? (r : Request) (name : String) : Option String := (r.headerValues name).head?

end Request

/-- The number of octets of a body. -/
def Body.size : Body → Nat
  | .empty => 0
  | .text s => s.utf8ByteSize
  | .json j => j.compact.utf8ByteSize

namespace Response

/-- The response with a further header at the end. -/
def withHeader (r : Response) (name value : String) : Response :=
  { r with headers := r.headers ++ [(name, value)] }

/-- The values of the headers with a name, with commas between them. -/
def header? (r : Response) (name : String) : Option String :=
  match (r.headers.filter fun h => Text.sameIgnoringCase h.1 name).map (·.2) with
  | [] => none
  | values => some (String.intercalate ", " values)

/-- A response with a text. -/
def ofText (status : Nat) (s : String) : Response :=
  ⟨status, [("content-type", "text/plain; charset=utf-8")], .text s⟩

/-- A response with a JSON value. -/
def ofJson (status : Nat) (j : Json) : Response :=
  ⟨status, [("content-type", "application/json")], .json j⟩

end Response

/-- A character that may stand in the value of a header: no control character but the tab. -/
def isHeaderChar (c : Char) : Bool := c == '\t' || (32 ≤ c.toNat && c.toNat != 127)

/-- A text that may be the value of a header. -/
def isHeaderValue (s : String) : Bool := s.toList.all isHeaderChar

/-- A value of a header that can be read as a text: of visible ASCII characters, blanks and
tabs. -/
def isReadable (s : String) : Bool := s.toList.all fun c => isHeaderChar c && c.toNat < 127

end WorkloadForms.Console
