import WorkloadForms.Console.Coding
import WorkloadForms.Console.Config
import WorkloadForms.Console.MediaType
import WorkloadForms.Console.Route
import WorkloadForms.Manifest
import WorkloadForms.Text.Percent

/-!
# The console

The console answers requests for the kinds, for the starting point of a new workload, for the
manifest of a descriptor and for the descriptor of a manifest. `Console.answer` is the response to
a request: what its route says, compressed where the request prefers that, and shared with the
origin of the settings.
-/

namespace WorkloadForms.Console

/-- Why a request is refused. -/
inductive RequestError where
  | notDeclared
  | tooLarge
  | malformed
  | mismatch
  | unsupportedKind (name : String)
  | manifest (e : ManifestError)
  deriving DecidableEq, Repr

namespace RequestError

/-- The name of an error. -/
def name : RequestError → String
  | .unsupportedKind _ => "UnsupportedKind"
  | .manifest _ => "InvalidManifest"
  | _ => "BadRequest"

/-- The wording of an error. The place of a fault in a body is left out. -/
def message : RequestError → String
  | .notDeclared => "Expected request with \x60Content-Type: application/json\x60"
  | .tooLarge => "Failed to buffer the request body: length limit exceeded"
  | .malformed => "Failed to parse the request body as JSON"
  | .mismatch => "Failed to deserialize the JSON body into the target type"
  | .unsupportedKind name => "Unsupported workload kind: " ++ name
  | .manifest _ => "Manifest could not be parsed"

/-- What is said beyond the wording. -/
def details? : RequestError → Option String
  | .manifest e => some e.message
  | _ => none

/-- The response to a request that is refused. -/
def response (e : RequestError) : Response :=
  .ofJson 400 <| .object <|
    [("error", .text e.name), ("message", .text e.message)]
      ++ (e.details?.map fun s => ("details", Json.text s)).toList

end RequestError

/-- The greatest number of octets of a body. -/
def bodyLimit : Nat := 2097152

/-- What the body of a request says in the form of a codec. -/
def Request.content (q : Request) (c : Codec α) : Except RequestError α :=
  if !(q.header? "content-type").any declaresJson then .error .notDeclared
  else if bodyLimit < q.body.utf8ByteSize then .error .tooLarge
  else (c.ofJsonText q.body).mapError fun
    | .malformed => .malformed
    | .mismatch => .mismatch

/-- A request to read a manifest. -/
structure FormRequest where
  yaml : String := ""
  deriving DecidableEq, Repr, Inhabited

/-- Requests to read a manifest as JSON. -/
def FormRequest.codec : Codec FormRequest :=
  .record [.needed "yaml" .text (·.yaml) fun v r => { r with yaml := v }] {}

/-- The kind of a segment of a path. -/
def kindNamed (name : String) : Except RequestError Kind :=
  match Kind.ofName? name with
  | some k => .ok k
  | none => .error (.unsupportedKind name)

/-- The list of kinds. -/
def kindsJson : Json :=
  .object [("kinds", .list (Kind.all.map fun k => .object
    [("kind", .text k.name), ("apiVersion", .text k.apiVersion),
     ("hasReplicas", .bool k.hasReplicas)]))]

/-- The starting point of a new workload and its manifest. -/
def templateJson (config : Config) (kindName : String) : Except RequestError Json := do
  let kind ← kindNamed kindName
  let d := Descriptor.template kind config.defaultNamespace
  return .object
    [("kind", .text kind.name), ("descriptor", Descriptor.codec.write d),
     ("yaml", .text (d.render kind))]

/-- The manifest of the descriptor in a body. -/
def renderJson (q : Request) (kindName : String) : Except RequestError Json := do
  let kind ← kindNamed kindName
  let d ← q.content Descriptor.codec
  return .object [("kind", .text kind.name), ("yaml", .text (d.render kind))]

/-- The descriptor of the manifest in a body. -/
def formJson (q : Request) : Except RequestError Json := do
  let m ← (Manifest.ofText (← q.content FormRequest.codec).yaml).mapError .manifest
  return .object <|
    (m.kind.map fun k => ("kind", Json.text k.name)).toList
      ++ [("descriptor", Descriptor.codec.write m.descriptor)]

/-- The response of a route that gives JSON. -/
def jsonResponse : Except RequestError Json → Response
  | .ok j => .ofJson 200 j
  | .error e => e.response

/-- The response of a route that has the name of a kind, which is decoded first. -/
def withKindName (segment : String) (answer : String → Except RequestError Json) : Response :=
  match Text.percentDecoded? segment with
  | some name => jsonResponse (answer name)
  | none => .ofText 400 "Invalid URL: Invalid UTF-8 in \x60kind\x60"

/-- What a route says to a request with one of its methods. -/
def Route.response (config : Config) (q : Request) : Route → Response
  | .health => .ofText 200 "OK"
  | .ready => .ofText 200 "Ready"
  | .kinds => .ofJson 200 kindsJson
  | .form => jsonResponse (formJson q)
  | .template segment => withKindName segment (templateJson config)
  | .yaml segment => withKindName segment (renderJson q)

/-- What the routes say to a request. -/
def routed (config : Config) (q : Request) : Option Route → Response
  | none => { status := 404 }
  | some route =>
    if route.methods.contains q.method then route.response config q else { status := 405 }

/-- The parts of a request that a response to another origin depends on. -/
def originVary : String := "origin, access-control-request-method, access-control-request-headers"

/-- The response shared with the origin of the settings, if that can be the value of a header. -/
def Response.shared (r : Response) (config : Config) : Response :=
  let r := r.withHeader "vary" originVary
  if isHeaderValue config.allowedOrigin then
    r.withHeader "access-control-allow-origin" config.allowedOrigin
  else r

/-- The response to the question which requests another origin may send. -/
def preflight (config : Config) : Response :=
  ((({ status := 200 } : Response).shared config).withHeader "access-control-allow-methods"
    "GET,POST,OPTIONS").withHeader "access-control-allow-headers" "content-type"

/-- The response with the methods of a route that does not have the method of the request. -/
def Response.withAllow (r : Response) (q : Request) : Option Route → Response
  | some route =>
    if route.methods.contains q.method then r
    else r.withHeader "allow" (String.intercalate "," route.methods)
  | none => r

/-- The response without its body, where the request asks for the headers only. -/
def Response.cut (r : Response) (q : Request) : Response :=
  if q.method == "HEAD" then { r with body := .empty } else r

/-- The response to a request. -/
def answer (config : Config) (q : Request) : Response :=
  let route := Route.ofPath? q.path
  let r :=
    if q.method == "OPTIONS" then preflight config
    else ((routed config q route).encoded q).shared config
  (r.withAllow q route).cut q

end WorkloadForms.Console
