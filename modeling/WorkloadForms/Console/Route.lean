import WorkloadForms.Text.Token

/-!
# Routes of the console

A route is where a path leads. Two routes have a segment for the name of a kind, as it stands in
the path. That segment may be empty: such a path is about a kind without a name, which is refused
like any other kind that is not supported, and does not lead nowhere.
-/

namespace WorkloadForms.Console

/-- Where a path leads. -/
inductive Route where
  | health
  | ready
  | kinds
  | form
  | template (kind : String)
  | yaml (kind : String)
  deriving DecidableEq, Repr, Inhabited

namespace Route

/-- The segments of a path, without its query. -/
def segments (path : String) : List String :=
  (Text.split '/' (path.toList.takeWhile fun c => c != '?' && c != '#')).map String.ofList

/-- The route of a path. -/
def ofPath? (path : String) : Option Route :=
  match segments path with
  | ["", "healthz"] => some .health
  | ["", "readyz"] => some .ready
  | ["", "api", "v1", "workloads", "kinds"] => some .kinds
  | ["", "api", "v1", "workloads", "form"] => some .form
  | ["", "api", "v1", "workloads", kind, "template"] => some (.template kind)
  | ["", "api", "v1", "workloads", kind, "yaml"] => some (.yaml kind)
  | _ => none

example : ofPath? "/api/v1/workloads//template" = some (.template "") := by decide +kernel

/-- Whether a route takes a body. Every other route is looked at. -/
def takesBody : Route → Bool
  | .form => true
  | .yaml _ => true
  | _ => false

/-- The methods of a route. -/
def methods (r : Route) : List String := if r.takesBody then ["POST"] else ["GET", "HEAD"]

end Route

end WorkloadForms.Console
