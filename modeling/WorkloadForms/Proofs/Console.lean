import Mathlib.Data.List.TakeWhile
import WorkloadForms.Console
import WorkloadForms.Proofs.Restored.Descriptor
import WorkloadForms.Proofs.Text.Token

/-!
# The console is a faithful front end

What a client of the console can rely on: `Console.Faithful`. A descriptor that is posted is
rendered for the kind that the path names, a manifest that is posted is read, and what cannot be
done is refused with the name of the error, a kind that is not supported before anything else.
Every descriptor that the console gives out is taken back as it is. `Console.faithful` says that
this holds for all settings.
-/

namespace WorkloadForms

/-! ## Names of kinds -/

/-- Texts that differ at most in the case of letters have the same letters in lower case. -/
theorem Text.sameIgnoringCase_iff {a b : String} : Text.sameIgnoringCase a b = true ↔
    a.toList.map Text.lowerChar = b.toList.map Text.lowerChar := by
  rw [sameIgnoringCase, beq_iff_eq, ← String.toList_inj, lower, lower, String.toList_map,
    String.toList_map]

/-- A name differs at most in the case of letters from the name of one kind only. -/
theorem Kind.eq_of_sameIgnoringCase {s : String} {k k' : Kind}
    (h : Text.sameIgnoringCase k.name s = true) (h' : Text.sameIgnoringCase k'.name s = true) :
    k = k' := by
  rw [Text.sameIgnoringCase_iff] at h h'
  have same := h.trans h'.symm
  clear h h'
  -- Two kinds that are not the same have names that differ in lower case.
  cases k <;> cases k' <;> first | rfl | exact absurd same (by decide +kernel)

/-- The kind of a name is the one whose name differs from it at most in the case of letters. -/
theorem Kind.ofName?_eq_some_iff {s : String} {k : Kind} :
    Kind.ofName? s = some k ↔ Text.sameIgnoringCase k.name s = true := by
  constructor
  · exact fun h => by simpa using List.find?_some h
  · intro same
    cases found : Kind.all.find? fun k => Text.sameIgnoringCase k.name s with
    | none =>
      have bad := List.find?_eq_none.1 found k (by cases k <;> decide)
      exact absurd same bad
    | some k' =>
      have same' : Text.sameIgnoringCase k'.name s = true := by simpa using List.find?_some found
      rw [Kind.ofName?, found, Kind.eq_of_sameIgnoringCase same' same]

namespace Console

/-! ## Paths -/

/-- The path of something about the kind that a segment names. -/
def kindPath (segment last : String) : String :=
  "/api/v1/workloads/" ++ segment ++ "/" ++ last

/-- Whether a character separates neither segments nor what is behind the path. -/
def isPlain (c : Char) : Bool := c != '/' && c != '?' && c != '#'

/-- A segment of a path, which may be empty, that stands for a name. -/
structure Names (segment name : String) : Prop where
  plain : segment.toList.all isPlain = true
  decoded : Text.percentDecoded? segment = some name

section

variable {segment last : String}

/-- The characters of a path about a kind. -/
theorem toList_kindPath : (kindPath segment last).toList =
    "/api/v1/workloads".toList ++ '/' :: (segment.toList ++ '/' :: last.toList) := by
  unfold kindPath
  have slash : "/api/v1/workloads/".toList = "/api/v1/workloads".toList ++ ['/'] := by
    decide +kernel
  rw [String.toList_append, String.toList_append, String.toList_append, slash]
  simp

variable (plain : segment.toList.all isPlain = true) (plain' : last.toList.all isPlain = true)

include plain plain'

/-- Nothing is behind a path about a kind. -/
theorem takeWhile_kindPath :
    (kindPath segment last).toList.takeWhile (fun c => c != '?' && c != '#') =
      (kindPath segment last).toList := by
  have inside {s : String} (h : s.toList.all isPlain = true) :
      s.toList.all (fun c => c != '?' && c != '#') = true := by
    rw [List.all_eq_true] at h ⊢
    intro c mem
    have := h c mem
    simp_all [isPlain]
  refine List.takeWhile_eq_self_iff.2 (List.all_eq_true.1 ?_)
  rw [toList_kindPath, List.all_append, List.all_cons, List.all_append, List.all_cons, inside plain,
    inside plain']
  decide +kernel

/-- A path about a kind is split at its slashes. -/
theorem split_kindPath : Text.split '/' (kindPath segment last).toList =
    [[], "api".toList, "v1".toList, "workloads".toList, segment.toList, last.toList] := by
  have apart {s : String} (h : s.toList.all isPlain = true) :
      Text.split '/' s.toList = [s.toList] :=
    Text.split_eq_singleton fun mem => by simpa [isPlain] using List.all_eq_true.1 h '/' mem
  have start : Text.split '/' "/api/v1/workloads".toList =
      [[], "api".toList, "v1".toList, "workloads".toList] := by decide +kernel
  rw [toList_kindPath, Text.split_append_sep, Text.split_append_sep, start, apart plain,
    apart plain']
  rfl

/-- The segments of a path about a kind. -/
theorem segments_kindPath :
    Route.segments (kindPath segment last) = ["", "api", "v1", "workloads", segment, last] := by
  rw [Route.segments, takeWhile_kindPath plain plain', split_kindPath plain plain']
  simp

end

section

variable {segment name : String} (names : Names segment name)

include names

/-- The path at which a descriptor is rendered for a kind. -/
theorem ofPath?_yaml : Route.ofPath? (kindPath segment "yaml") = some (.yaml segment) := by
  have plain : "yaml".toList.all isPlain = true := by decide
  have segments := segments_kindPath names.plain plain
  simp [Route.ofPath?, segments]

/-- The path of the starting point of a new workload of a kind. -/
theorem ofPath?_template :
    Route.ofPath? (kindPath segment "template") = some (.template segment) := by
  have plain : "template".toList.all isPlain = true := by decide
  have segments := segments_kindPath names.plain plain
  simp [Route.ofPath?, segments]

end

/-- The path at which a manifest is read. -/
def formPath : String := "/api/v1/workloads/form"

/-- The path at which a manifest is read. -/
theorem ofPath?_formPath : Route.ofPath? formPath = some .form := by decide +kernel

/-! ## Responses -/

/-- A response with this status and this JSON value as its body. -/
structure Response.Gives (r : Response) (status : Nat) (j : Json) : Prop where
  status : r.status = status
  body : r.body = .json j

/-- A response that refuses a request with the name of an error. -/
def Response.Refuses (r : Response) (error : String) : Prop :=
  ∃ j, r.Gives 400 j ∧ j.member? "error" = some (.text error)

namespace Response

variable (r : Response) (config : Config) (q : Request)

@[simp] theorem status_encoded : (r.encoded q).status = r.status := by
  rw [encoded]
  split
  · rfl
  · dsimp only
    split <;> rfl

@[simp] theorem body_encoded : (r.encoded q).body = r.body := by
  rw [encoded]
  split
  · rfl
  · dsimp only
    split <;> rfl

@[simp] theorem status_shared : (r.shared config).status = r.status := by
  rw [shared]
  split <;> rfl

@[simp] theorem body_shared : (r.shared config).body = r.body := by
  rw [shared]
  split <;> rfl

end Response

/-- Whether a route answers requests with a method, other than the headers of an answer alone. -/
def Route.Answers (route : Route) (method : String) : Prop :=
  method = if route.takesBody then "POST" else "GET"

/-- The status and the body of an answer are those of the route. -/
theorem gives_answer_iff {config : Config} {q : Request} {route : Route}
    (path : Route.ofPath? q.path = some route) (method : route.Answers q.method) (status : Nat)
    (j : Json) :
    (answer config q).Gives status j ↔ (route.response config q).Gives status j := by
  have allowed : q.method ∈ route.methods := by
    rw [Route.methods, method]
    cases route.takesBody <;> decide
  have other : q.method ≠ "OPTIONS" ∧ q.method ≠ "HEAD" := by
    rw [method]
    cases route.takesBody <;> decide
  -- What is around a route adds headers and leaves out the body for other methods only.
  have same : (answer config q).status = (route.response config q).status ∧
      (answer config q).body = (route.response config q).body := by
    simp [answer, path, routed, Response.withAllow, Response.cut, allowed, other]
  constructor
  · exact fun h => ⟨same.1 ▸ h.status, same.2 ▸ h.body⟩
  · exact fun h => ⟨same.1.trans h.status, same.2.trans h.body⟩

/-- A result that is JSON is given with the status of success, and only such a result. -/
theorem gives_jsonResponse_iff {result : Except RequestError Json} {j : Json} :
    (jsonResponse result).Gives 200 j ↔ result = .ok j := by
  cases result with
  | ok j' =>
    constructor
    · rintro ⟨-, body⟩
      obtain rfl := Body.json.inj body
      rfl
    · intro h
      obtain rfl := Except.ok.inj h
      exact ⟨rfl, rfl⟩
  | error e =>
    constructor
    · rintro ⟨status, -⟩
      cases status
    · exact fun h => by cases h

/-- An error is given with its name. -/
theorem refuses_jsonResponse {result : Except RequestError Json} {e : RequestError}
    (h : result = .error e) : (jsonResponse result).Refuses e.name := by
  subst h
  exact ⟨_, ⟨rfl, rfl⟩, rfl⟩

/-! ## Bodies -/

/-- Whether the body of a request is declared as JSON and is no greater than the limit. -/
def Request.IsJson (q : Request) : Prop :=
  (q.header? "content-type").any declaresJson = true ∧ q.body.utf8ByteSize ≤ bodyLimit

/-- Whether the body of a request is JSON that a codec reads as a value. -/
def Request.Decodes (q : Request) (c : Codec α) (a : α) : Prop :=
  q.IsJson ∧ c.ofJsonText q.body = .ok a

/-- Whether the body of a request is a text of a JSON value. -/
def Request.Carries (q : Request) (j : Json) : Prop := q.IsJson ∧ Json.ofText? q.body = some j

section

variable {q : Request} {c : Codec α}

/-- The content of a body is what it decodes to. -/
theorem content_eq_ok_iff {a : α} : q.content c = .ok a ↔ q.Decodes c a := by
  rw [Request.content, Request.Decodes, Request.IsJson]
  cases (q.header? "content-type").any declaresJson with
  | false => simp
  | true =>
    by_cases large : bodyLimit < q.body.utf8ByteSize
    · have unread := Nat.not_le.2 large
      simp [large, unread]
    · have small := Nat.not_lt.1 large
      cases c.ofJsonText q.body <;> simp [large, small, Except.mapError]

/-- A body that does not decode is refused as a bad request. -/
theorem content_eq_error (h : ∀ a, ¬ q.Decodes c a) :
    ∃ e, q.content c = .error e ∧ e.name = "BadRequest" := by
  have name : ∀ e, q.content c = .error e → e.name = "BadRequest" := by
    intro e he
    rw [Request.content] at he
    split at he
    · obtain rfl := Except.error.inj he; rfl
    · split at he
      · obtain rfl := Except.error.inj he; rfl
      · cases read : c.ofJsonText q.body with
        | ok a => rw [read] at he; cases he
        | error fault =>
          rw [read] at he
          obtain rfl := Except.error.inj he
          cases fault <;> rfl
  cases content : q.content c with
  | ok a => exact absurd (content_eq_ok_iff.1 content) (h a)
  | error e => exact ⟨e, rfl, name e content⟩

end

/-- A text of a descriptor decodes to the descriptor. -/
theorem decodes_of_carries {q : Request} {d : Descriptor}
    (h : q.Carries (Descriptor.codec.write d)) : q.Decodes Descriptor.codec d :=
  ⟨h.1, Descriptor.ofJsonText_of_write h.2⟩

/-- A text of a request to read a manifest decodes to this request. -/
theorem decodes_formRequest {q : Request} {t : String}
    (h : q.Carries (.object [("yaml", .text t)])) : q.Decodes FormRequest.codec ⟨t⟩ := by
  have restores : FormRequest.codec.Restores (.document true id fun _ _ => rfl) 1 id :=
    .record (by decide) fun _ => .cons (.needed .text) .nil
  exact ⟨h.1, restores.ofJsonText h.2⟩

/-! ## What a client can rely on -/

/-- The answer with the manifest of a descriptor. -/
def renderedJson (k : Kind) (d : Descriptor) : Json :=
  .object [("kind", .text k.name), ("yaml", .text (d.render k))]

/-- The answer with a descriptor to start from and its manifest. -/
def startedJson (k : Kind) (d : Descriptor) : Json :=
  .object
    [("kind", .text k.name), ("descriptor", Descriptor.codec.write d), ("yaml", .text (d.render k))]

/-- The answer with what a manifest says; it has no kind if the manifest names none that is
supported. -/
def readJson (m : Manifest) : Json :=
  .object <| (m.kind.map fun k => ("kind", Json.text k.name)).toList
    ++ [("descriptor", Descriptor.codec.write m.descriptor)]

/-- The descriptor of a manifest is there with a kind and without one. -/
theorem member?_readJson (m : Manifest) :
    (readJson m).member? "descriptor" = some (Descriptor.codec.write m.descriptor) := by
  rw [readJson]
  cases m.kind <;> rfl

/-- A request with a method to a path. -/
structure Request.Asks (q : Request) (method path : String) : Prop where
  method : q.method = method
  path : q.path = path

/-- Whether a segment of a path names a kind, in letters of any case. -/
def NamesKind (segment : String) (k : Kind) : Prop :=
  ∃ name, Names segment name ∧ Text.sameIgnoringCase k.name name = true

/-- Whether a JSON value that the console gave out is taken back as a descriptor: sent in any text
of this value to be rendered for any kind, it gives the manifest of the descriptor. -/
def TakesBack (config : Config) (j : Json) (d : Descriptor) : Prop :=
  Json.ofText? j.compact = some j ∧
  ∀ q segment k, q.Asks "POST" (kindPath segment "yaml") → NamesKind segment k → q.Carries j →
    (answer config q).Gives 200 (renderedJson k d)

/-- What a client of the console can rely on. -/
structure Faithful (config : Config) : Prop where
  /-- A kind that is not supported is refused, whatever the body. -/
  unsupported : ∀ q segment name, q.Asks "POST" (kindPath segment "yaml") → Names segment name →
    (∀ k : Kind, Text.sameIgnoringCase k.name name = false) →
    (answer config q).Refuses "UnsupportedKind"
  /-- A body that is no descriptor is refused. -/
  undecoded : ∀ q segment k, q.Asks "POST" (kindPath segment "yaml") → NamesKind segment k →
    (∀ d, ¬ q.Decodes Descriptor.codec d) → (answer config q).Refuses "BadRequest"
  /-- A descriptor is rendered for the kind. -/
  rendered : ∀ q segment k d, q.Asks "POST" (kindPath segment "yaml") → NamesKind segment k →
    q.Decodes Descriptor.codec d → (answer config q).Gives 200 (renderedJson k d)
  /-- A manifest is read. -/
  read : ∀ q t m, q.Asks "POST" formPath → q.Carries (.object [("yaml", .text t)]) →
    Manifest.ofText t = .ok m → (answer config q).Gives 200 (readJson m)
  /-- A text that is no manifest is refused. -/
  unread : ∀ q t e, q.Asks "POST" formPath → q.Carries (.object [("yaml", .text t)]) →
    Manifest.ofText t = .error e → (answer config q).Refuses "InvalidManifest"
  /-- A new workload starts from the template of its kind. -/
  started : ∀ q segment k, q.Asks "GET" (kindPath segment "template") → NamesKind segment k →
    (answer config q).Gives 200 (startedJson k (.template k config.defaultNamespace))
  /-- The descriptor of every manifest that was read is taken back. -/
  readBack : ∀ q j, q.Asks "POST" formPath → (answer config q).Gives 200 j →
    ∃ t m, q.Decodes FormRequest.codec ⟨t⟩ ∧ Manifest.ofText t = .ok m ∧
      j.member? "descriptor" = some (Descriptor.codec.write m.descriptor) ∧
      TakesBack config (Descriptor.codec.write m.descriptor) m.descriptor
  /-- The descriptor of every template is taken back; for the same kind it gives the manifest that
  came with it. -/
  startedBack : ∀ q segment name j, q.Asks "GET" (kindPath segment "template") →
    Names segment name → (answer config q).Gives 200 j →
    ∃ k d, NamesKind segment k ∧ j.member? "descriptor" = some (Descriptor.codec.write d) ∧
      TakesBack config (Descriptor.codec.write d) d ∧
      ∀ q', q'.Asks "POST" (kindPath segment "yaml") → q'.Carries (Descriptor.codec.write d) →
        ∃ j', (answer config q').Gives 200 j' ∧ j'.member? "yaml" = j.member? "yaml" ∧
          (j.member? "yaml").isSome = true

section

variable {config : Config} {q : Request} {segment name : String} {k : Kind} {result : Json}

/-- The answer to a descriptor that is posted is that of the route that renders it. -/
theorem gives_yaml_iff (asks : q.Asks "POST" (kindPath segment "yaml")) (names : Names segment name)
    (status : Nat) (j : Json) : (answer config q).Gives status j ↔
      (jsonResponse (renderJson q name)).Gives status j := by
  have path : Route.ofPath? q.path = some (.yaml segment) := by rw [asks.path, ofPath?_yaml names]
  have method : (Route.yaml segment).Answers q.method := asks.method
  rw [gives_answer_iff path method, Route.response, withKindName, names.decoded]

/-- The answer to the question for a template is that of the route that gives it. -/
theorem gives_template_iff (asks : q.Asks "GET" (kindPath segment "template"))
    (names : Names segment name) (status : Nat) (j : Json) : (answer config q).Gives status j ↔
      (jsonResponse (templateJson config name)).Gives status j := by
  have path : Route.ofPath? q.path = some (.template segment) := by
    rw [asks.path, ofPath?_template names]
  have method : (Route.template segment).Answers q.method := asks.method
  rw [gives_answer_iff path method, Route.response, withKindName, names.decoded]

/-- The answer to a manifest that is posted is that of the route that reads it. -/
theorem gives_form_iff (asks : q.Asks "POST" formPath) (status : Nat) (j : Json) :
    (answer config q).Gives status j ↔ (jsonResponse (formJson q)).Gives status j := by
  have path : Route.ofPath? q.path = some .form := by rw [asks.path, ofPath?_formPath]
  have method : Route.form.Answers q.method := asks.method
  rw [gives_answer_iff path method, Route.response]

/-- Answers that give the same refuse the same. -/
theorem refuses_iff {r r' : Response} (same : ∀ status j, r.Gives status j ↔ r'.Gives status j)
    {error : String} : r.Refuses error ↔ r'.Refuses error :=
  exists_congr fun j => and_congr_left fun _ => same 400 j

/-- The kind that a name means is one without errors. -/
theorem kindNamed_eq_ok (same : Text.sameIgnoringCase k.name name = true) :
    kindNamed name = .ok k := by
  rw [kindNamed, Kind.ofName?_eq_some_iff.2 same]

/-- A name that means no kind is not supported. -/
theorem kindNamed_eq_error (other : ∀ k : Kind, Text.sameIgnoringCase k.name name = false) :
    kindNamed name = .error (.unsupportedKind name) := by
  have none : Kind.ofName? name = none := by
    cases found : Kind.ofName? name with
    | none => rfl
    | some k => exact absurd (Kind.ofName?_eq_some_iff.1 found) (by rw [other k]; decide)
  rw [kindNamed, none]

/-- A descriptor that a body decodes to is rendered. -/
theorem gives_of_decodes {d : Descriptor} (asks : q.Asks "POST" (kindPath segment "yaml"))
    (kind : NamesKind segment k) (decodes : q.Decodes Descriptor.codec d) :
    (answer config q).Gives 200 (renderedJson k d) := by
  obtain ⟨name, names, same⟩ := kind
  rw [gives_yaml_iff asks names, gives_jsonResponse_iff, renderJson, kindNamed_eq_ok same,
    content_eq_ok_iff.2 decodes]
  rfl

/-- Every descriptor is taken back. -/
theorem takesBack_write (config : Config) (d : Descriptor) :
    TakesBack config (Descriptor.codec.write d) d where
  left := by
    have fits := (Descriptor.restores (p := .json id fun _ _ => rfl) (k := 0)).fits d
    exact Json.ofText?_compact fits (by decide)
  right _ _ _ asks kind carries := gives_of_decodes asks kind (decodes_of_carries carries)

/-- What a route that reads manifests says if the body decodes to a request for it. -/
theorem formJson_eq {t : String} (decodes : q.Decodes FormRequest.codec ⟨t⟩) :
    formJson q = match Manifest.ofText t with
      | .ok m => .ok (readJson m)
      | .error e => .error (.manifest e) := by
  have read : formJson q = ((Manifest.ofText t).mapError RequestError.manifest).map readJson := by
    rw [formJson, content_eq_ok_iff.2 decodes]
    rfl
  rw [read]
  cases Manifest.ofText t <;> rfl

/-- The template of a kind that is supported. -/
theorem templateJson_eq (same : Text.sameIgnoringCase k.name name = true) :
    templateJson config name = .ok (startedJson k (.template k config.defaultNamespace)) := by
  rw [templateJson, kindNamed_eq_ok same]
  rfl

end

/-- The console is faithful, whatever its settings. -/
theorem faithful (config : Config) : Faithful config where
  unsupported q segment name asks names other := by
    rw [refuses_iff (gives_yaml_iff asks names)]
    refine refuses_jsonResponse (e := .unsupportedKind name) ?_
    rw [renderJson, kindNamed_eq_error other]
    rfl
  undecoded q segment k asks kind none := by
    obtain ⟨name, names, same⟩ := kind
    obtain ⟨e, content, bad⟩ := content_eq_error none
    rw [refuses_iff (gives_yaml_iff asks names), ← bad]
    refine refuses_jsonResponse ?_
    rw [renderJson, kindNamed_eq_ok same, content]
    rfl
  rendered _ _ _ _ := gives_of_decodes
  read q t m asks carries accepted := by
    rw [gives_form_iff asks, gives_jsonResponse_iff, formJson_eq (decodes_formRequest carries),
      accepted]
  unread q t e asks carries refused := by
    rw [refuses_iff (gives_form_iff asks)]
    refine refuses_jsonResponse (e := .manifest e) ?_
    rw [formJson_eq (decodes_formRequest carries), refused]
  started q segment k asks kind := by
    obtain ⟨name, names, same⟩ := kind
    rw [gives_template_iff asks names, gives_jsonResponse_iff, templateJson_eq same]
  readBack q j asks gives := by
    rw [gives_form_iff asks, gives_jsonResponse_iff] at gives
    cases content : q.content FormRequest.codec with
    | error e =>
      rw [formJson, content] at gives
      cases gives
    | ok request =>
      have decodes : q.Decodes FormRequest.codec request := content_eq_ok_iff.1 content
      rw [formJson_eq decodes] at gives
      cases read : Manifest.ofText request.yaml with
      | error e =>
        rw [read] at gives
        cases gives
      | ok m =>
        rw [read] at gives
        obtain rfl := Except.ok.inj gives
        exact ⟨request.yaml, m, decodes, read, member?_readJson m,
          takesBack_write config m.descriptor⟩
  startedBack q segment name j asks names gives := by
    rw [gives_template_iff asks names, gives_jsonResponse_iff] at gives
    cases kind : Kind.ofName? name with
    | none =>
      rw [templateJson, kindNamed, kind] at gives
      cases gives
    | some k =>
      have same := Kind.ofName?_eq_some_iff.1 kind
      rw [templateJson_eq same] at gives
      obtain rfl := Except.ok.inj gives
      have named : NamesKind segment k := ⟨name, names, same⟩
      have back := takesBack_write config (.template k config.defaultNamespace)
      refine ⟨k, .template k config.defaultNamespace, named, rfl, back, fun q' asks' carries => ?_⟩
      exact ⟨_, back.2 q' segment k asks' named carries, rfl, rfl⟩

/-- A request to render a descriptor with no more than a name for a kind in other letters. -/
def jobRequest : Request where
  method := "POST"
  path := "/api/v1/workloads/JOB/yaml"
  headers := [("content-type", "application/json")]
  body := "\x7b\"name\": \"web\"\x7d"

/-- The descriptor is rendered for the kind. -/
theorem faithful_job : (answer {} jobRequest).Gives 200 (renderedJson .job { name := "web" }) := by
  have names : Names "JOB" "JOB" := ⟨by decide, by decide +kernel⟩
  have kind : NamesKind "JOB" .job :=
    ⟨"JOB", names, Text.sameIgnoringCase_iff.2 (by decide +kernel)⟩
  have json : jobRequest.IsJson := ⟨by decide +kernel, by decide +kernel⟩
  have read : (Descriptor.codec.ofJsonText jobRequest.body).toOption = some { name := "web" } := by
    decide +kernel
  have decodes : jobRequest.Decodes Descriptor.codec { name := "web" } := by
    refine ⟨json, ?_⟩
    cases h : Descriptor.codec.ofJsonText jobRequest.body <;> simp_all [Except.toOption]
  exact (faithful {}).rendered jobRequest "JOB" .job _ ⟨rfl, rfl⟩ kind decodes

end Console

end WorkloadForms
