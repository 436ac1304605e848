import WorkloadForms.Proofs.Choice.Field
import WorkloadForms.Proofs.Words.Command

/-!
# One handler a probe

In a manifest a probe may have several handlers. Reading takes the first one that is there, and what
is written afterwards has that one and no other, unless there is nothing that it could perform
(`Probe.IsIdle`). `Probe.isCarriedOver_of_at?` says what becomes of a probe of a manifest, and
`Container.keepsProbes_ofYaml` of the probes of a container.

The port of a handler is the one that stands in the manifest, not the one that the object of a type
would have without it, so that a port that is missing is no port 0. It is looked up in the manifest
as that is written, where a key with a tag is another key (`Probe.portAt?`); all else of a probe is
taken from the object of its type, which has its fields under keys with any tags.
-/

namespace WorkloadForms.Form

open Yaml

namespace Probe

/-! ## What a manifest has for a probe -/

/-- The keys of the times and thresholds of a probe. -/
def timeKeys : List String :=
  ["initialDelaySeconds", "periodSeconds", "timeoutSeconds", "successThreshold",
   "failureThreshold"]

/-- The handler of a probe in a manifest: the first one that is there. -/
def firstHandler? (probe : Yaml) : Option ProbeType :=
  [ProbeType.exec, .tcpSocket, .httpGet].find? fun t => (probe.field? (Vocabulary.word t)).isSome

/-- The tokens of the command of a probe in a manifest. -/
def tokensOf (probe : Yaml) : List String :=
  ((probe.field? "exec").map (·.fieldTexts "command")).getD []

/-- The port that stands in a handler of a probe in a manifest. Null is no port, and neither is what
stands under a key with a tag: of a connection whose port stands there nothing is performed, and a
request whose port stands there is written with the port 80. -/
def portAt? (probe : Yaml) (handler : String) : Option Yaml :=
  (probe.at? [handler, "port"]).filter (!·.isNull)

/-- The path of the request of a probe in a manifest, unless it is empty. -/
def pathOf? (probe : Yaml) : Option String :=
  ((probe.field? "httpGet").bind (·.fieldText? "path")).filter (!·.isEmpty)

/-- The scheme of the request of a probe in a manifest, if it is one of the known ones. -/
def schemeOf? (probe : Yaml) : Option Scheme :=
  (probe.field? "httpGet").bind (·.fieldWord? "scheme")

/-- Whether there is nothing that a probe in a manifest could perform: a command without a token
that is not blank, a connection without a port, also if one stands under a key with a tag, or no
handler at all. -/
def IsIdle (probe : Yaml) : Prop :=
  match firstHandler? probe with
  | some .exec => ∀ token ∈ tokensOf probe, Text.blank token = true
  | some .tcpSocket => portAt? probe "tcpSocket" = none
  | some .httpGet => False
  | none => True

/-- The written probe `y` has what `probe` has in a manifest: its first handler, unless there is
nothing to perform, and its times. -/
structure Carries (probe y : Yaml) : Prop where
  handler : ∀ t : ProbeType, (y.get? (Vocabulary.word t)).isSome = true ↔
    firstHandler? probe = some t ∧ ¬ IsIdle probe
  command : ∀ action ∈ y.get? "exec",
    action.get? "command" = some (.texts ((tokensOf probe).flatMap Text.lines))
  connection : ∀ connection ∈ y.get? "tcpSocket",
    connection.get? "port" = portAt? probe "tcpSocket"
  request : ∀ request ∈ y.get? "httpGet",
    request.get? "path" = some (.text ((pathOf? probe).getD "/")) ∧
      request.get? "port" = some ((portAt? probe "httpGet").getD (.int 80)) ∧
      request.get? "scheme" = (schemeOf? probe).map ofWord
  unset : ∀ t : ProbeType, portAt? probe (Vocabulary.word t) = none →
    y.at? [Vocabulary.word t, "port"] ≠ some (.int 0)
  only : ∀ key, (∀ t : ProbeType, key ≠ Vocabulary.word t) → key ∉ timeKeys → y.get? key = none
  times : ∀ key ∈ timeKeys, y.get? key = (probe.field? key).map untagged

/-- What becomes of a probe of a manifest: nothing is written if there is nothing to perform and no
time is set, and otherwise what is written has the handler and the times. -/
structure IsCarriedOver (probe : Yaml) (written : Option Yaml) : Prop where
  omitted : written = none ↔ IsIdle probe ∧ ∀ key ∈ timeKeys, probe.field? key = none
  carried : ∀ y ∈ written, Carries probe y

/-! ## The handler that is read -/

/-- The handler that is read of a probe. -/
def handlerOf? (probe : Yaml) : Option Handler :=
  match firstHandler? probe with
  | some .exec =>
    let words := (tokensOf probe).flatMap Text.lines
    if words = [] then none else some (.exec words)
  | some .tcpSocket => (portOf? probe "tcpSocket").map .tcpSocket
  | some .httpGet => some (.httpGet ((pathOf? probe).getD defaultPath)
      ((portOf? probe "httpGet").getD defaultPort) (schemeOf? probe))
  | none => none

/-- A probe is read as one that is enabled and has the handler and the times. -/
theorem exists_of_at? {y probe : Yaml} {key : String}
    (there : Schema.probe.at? y key = some probe) :
    ∃ p, Probe.at? y key = some p ∧ p.enabled = true ∧ p.handler? = handlerOf? probe ∧
      p.times = timeKeys.map fun key => (key, probe.fieldInt32? key) := by
  refine ⟨_, by rw [Probe.at?, there]; rfl, rfl, ?_, rfl⟩
  rw [handlerOf?, firstHandler?]
  cases exec : probe.field? "exec" with
  | some exec =>
    simp [handler?, Vocabulary.word, exec, tokensOf, Command.ofObject, Text.lines_joined]
  | none =>
    cases tcpSocket : probe.field? "tcpSocket" with
    | some tcpSocket => simp [handler?, Vocabulary.word, exec, tcpSocket]
    | none =>
      cases httpGet : probe.field? "httpGet" with
      | some request =>
        simp [handler?, Vocabulary.word, exec, tcpSocket, httpGet, pathOf?, schemeOf?]
      | none => simp [handler?, Vocabulary.word, exec, tcpSocket, httpGet]

/-- The type of the handler that is read is that of the first one that is there. -/
theorem type_of_handlerOf? {probe : Yaml} {h : Handler} (read : handlerOf? probe = some h) :
    firstHandler? probe = some h.type := by
  rw [handlerOf?] at read
  split at read
  case h_1 first =>
    obtain ⟨-, read⟩ := Option.ite_none_left_eq_some.1 read
    obtain rfl := Option.some.inj read
    exact first
  case h_2 first =>
    obtain ⟨port, -, rfl⟩ := Option.map_eq_some_iff.1 read
    exact first
  case h_3 first =>
    obtain rfl := Option.some.inj read
    exact first
  case h_4 => cases read

/-- What a handler that is read has of the manifest. -/
def HasRead (probe : Yaml) : Handler → Prop
  | .exec words => words ≠ [] ∧ words = (tokensOf probe).flatMap Text.lines
  | .tcpSocket port => portOf? probe "tcpSocket" = some port
  | .httpGet path port scheme => path = (pathOf? probe).getD defaultPath ∧
      port = (portOf? probe "httpGet").getD defaultPort ∧ scheme = schemeOf? probe

/-- A handler that is read has its setting of the manifest. -/
theorem hasRead_of_handlerOf? {probe : Yaml} {h : Handler} (read : handlerOf? probe = some h) :
    HasRead probe h := by
  rw [handlerOf?] at read
  split at read
  case h_1 =>
    obtain ⟨filled, read⟩ := Option.ite_none_left_eq_some.1 read
    obtain rfl := Option.some.inj read
    exact ⟨filled, rfl⟩
  case h_2 =>
    obtain ⟨port, there, rfl⟩ := Option.map_eq_some_iff.1 read
    exact there
  case h_3 =>
    obtain rfl := Option.some.inj read
    exact ⟨rfl, rfl, rfl⟩
  case h_4 => cases read

/-- An object of a handler that is written is that of the handler that was read. -/
theorem exists_of_get?_object {p : Probe} {probe o : Yaml} {t : ProbeType}
    (handled : p.handler? = handlerOf? probe) (there : p.object.get? (Vocabulary.word t) = some o) :
    ∃ h, HasRead probe h ∧ h.entry = (Vocabulary.word t, o) := by
  have at? : p.object.get? (Vocabulary.word t) =
      Handler.at? (handlerOf? probe) (Vocabulary.word t) := by
    rw [object, handled]
    cases t <;> simp [Vocabulary.word]
  rw [at?, Handler.at?] at there
  obtain ⟨entry, has, there⟩ := Option.bind_eq_some_iff.1 there
  obtain ⟨h, read, rfl⟩ := Option.map_eq_some_iff.1 has
  obtain ⟨name, there⟩ := Option.ite_none_right_eq_some.1 there
  exact ⟨h, hasRead_of_handlerOf? read, Prod.ext (beq_iff_eq.1 name) (Option.some.inj there)⟩

/-- A command is written with the words of its tokens. -/
theorem command_object {p : Probe} {probe action : Yaml} (handled : p.handler? = handlerOf? probe)
    (there : p.object.get? "exec" = some action) :
    action.get? "command" = some (.texts ((tokensOf probe).flatMap Text.lines)) ∧
      action.get? "port" = none := by
  obtain ⟨h, read, entry⟩ := exists_of_get?_object (t := .exec) handled there
  cases h with
  | exec words =>
    obtain ⟨-, rfl⟩ := Prod.mk.inj entry
    obtain ⟨filled, rfl⟩ := read
    have written : ofTexts ((tokensOf probe).flatMap Text.lines) =
        some (.texts ((tokensOf probe).flatMap Text.lines)) := ofTexts_eq_some filled
    simp [commandYaml, written]
  | _ => simp [Handler.entry, Vocabulary.word] at entry

/-! ## Ports -/

section Ports

variable {probe : Yaml} {fields inner : List (String × Schema)} {handler : String}
  (accepted : (Schema.object fields).accepts probe = true)
  (part : (handler, Schema.object inner) ∈ fields) (known : ("port", Schema.intOrText) ∈ inner)

include accepted part known

/-- The port of a handler is written as it stands. -/
theorem map_portOf? : (portOf? probe handler).map ofIntOrText = portAt? probe handler := by
  have path : (probe.get? handler).bind (·.get? "port") = probe.at? [handler, "port"] := by
    simp [Yaml.at?]
  rw [portOf?, portAt?, path]
  cases found : probe.at? [handler, "port"] with
  | none => rfl
  | some v =>
    cases filled : v.isNull with
    | true =>
      -- null is neither a port that is read nor one that stands there
      cases v with
      | null => rfl
      | _ => cases filled
    | false =>
      have number := Schema.accepts_of_part accepted part known found filled
      obtain ⟨x, hx⟩ := Option.isSome_iff_exists.1 (by rwa [Schema.accepts] at number)
      obtain rfl := ofIntOrText_of_intOrText? hx
      simp [Option.filter_some, filled]

end Ports

section Probe

variable {probe : Yaml} (accepted : Schema.probe.accepts probe = true)

include accepted

theorem map_portOf?_tcpSocket :
    (portOf? probe "tcpSocket").map ofIntOrText = portAt? probe "tcpSocket" :=
  map_portOf? accepted (by simp [Schema.tcpSocketAction]; rfl) (by simp)

theorem map_portOf?_httpGet :
    (portOf? probe "httpGet").map ofIntOrText = portAt? probe "httpGet" :=
  map_portOf? accepted (by simp [Schema.httpGetAction]; rfl) (by simp)

/-- No handler is read exactly when there is nothing to perform. -/
theorem handlerOf?_eq_none_iff : handlerOf? probe = none ↔ IsIdle probe := by
  rw [handlerOf?, IsIdle]
  split
  case h_1 => simp [Text.lines_eq_nil_iff]
  case h_2 => simp [← map_portOf?_tcpSocket accepted]
  case h_3 => simp
  case h_4 => simp

/-- A probe has read the handler of its type. -/
theorem map_type_handlerOf?_eq_some_iff {t : ProbeType} :
    (handlerOf? probe).map Handler.type = some t ↔
      firstHandler? probe = some t ∧ ¬ IsIdle probe := by
  rw [← handlerOf?_eq_none_iff accepted]
  cases read : handlerOf? probe with
  | none => simp
  | some h => simp [type_of_handlerOf? read]

/-- A time is written as it stands, without tags. -/
theorem map_time {key : String} (mem : key ∈ timeKeys) :
    (probe.fieldInt32? key).map ofInt32 = (probe.field? key).map untagged := by
  refine Schema.map_ofInt32_fieldInt32? accepted ?_
  simp only [timeKeys, List.mem_cons, List.not_mem_nil, or_false] at mem
  rcases mem with rfl | rfl | rfl | rfl | rfl <;> simp

/-! ## What is written -/

section Written

variable {p : Probe} (handled : p.handler? = handlerOf? probe)

include handled

/-- A connection is written with its port. -/
theorem connection_object {connection : Yaml}
    (there : p.object.get? "tcpSocket" = some connection) :
    connection.get? "port" = portAt? probe "tcpSocket" ∧ portAt? probe "tcpSocket" ≠ none := by
  obtain ⟨h, read, entry⟩ := exists_of_get?_object (t := .tcpSocket) handled there
  cases h with
  | tcpSocket port =>
    obtain ⟨-, rfl⟩ := Prod.mk.inj entry
    have read : portOf? probe "tcpSocket" = some port := read
    simp [← map_portOf?_tcpSocket accepted, read]
  | _ => simp [Handler.entry, Vocabulary.word] at entry

/-- A request is written with its path, its port and its scheme. -/
theorem request_object {request : Yaml} (there : p.object.get? "httpGet" = some request) :
    request.get? "path" = some (.text ((pathOf? probe).getD "/")) ∧
      request.get? "port" = some ((portAt? probe "httpGet").getD (.int 80)) ∧
      request.get? "scheme" = (schemeOf? probe).map ofWord := by
  obtain ⟨h, read, entry⟩ := exists_of_get?_object (t := .httpGet) handled there
  cases h with
  | httpGet path port scheme =>
    obtain ⟨-, rfl⟩ := Prod.mk.inj entry
    obtain ⟨rfl, rfl, rfl⟩ := read
    have port : ofIntOrText ((portOf? probe "httpGet").getD defaultPort) =
        (portAt? probe "httpGet").getD (.int 80) := by
      rw [← map_portOf?_httpGet accepted]
      exact (Option.getD_map ofIntOrText defaultPort _).symm
    simp [port, defaultPath]
  | _ => simp [Handler.entry, Vocabulary.word] at entry

/-- What is written for a probe that was read has what the manifest has. -/
theorem carries_object
    (times : p.times = timeKeys.map fun key => (key, probe.fieldInt32? key)) :
    Carries probe p.object where
  handler t := by
    rw [p.isWrittenAs_object.only, handled]
    exact map_type_handlerOf?_eq_some_iff accepted
  command _ there := (command_object handled there).1
  connection _ there := (connection_object accepted handled there).1
  request _ := request_object accepted handled
  unset t missing := by
    intro zero
    obtain ⟨o, there, port⟩ := Option.bind_eq_some_iff.1 zero
    have port : o.get? "port" = some (.int 0) := by simpa [Yaml.at?] using port
    cases t with
    | exec => simp [(command_object handled there).2] at port
    | tcpSocket => exact (connection_object accepted handled there).2 missing
    | httpGet =>
      have missing : portAt? probe "httpGet" = none := missing
      simp [(request_object accepted handled there).2.1, missing] at port
  only key handler time := by
    have exec : key ≠ "exec" := handler .exec
    have httpGet : key ≠ "httpGet" := handler .httpGet
    have tcpSocket : key ≠ "tcpSocket" := handler .tcpSocket
    simp only [timeKeys, List.mem_cons, List.not_mem_nil, or_false, not_or] at time
    simp [object, exec.symm, httpGet.symm, tcpSocket.symm, time, eq_comm]
  times key mem := by
    rw [p.isWrittenAs_object.timed (key, probe.fieldInt32? key) (by simpa [times] using mem)]
    exact map_time accepted mem

/-- Nothing is written exactly if there is nothing to perform and no time is set. -/
theorem toYaml?_eq_none_iff (enabled : p.enabled = true)
    (times : p.times = timeKeys.map fun key => (key, probe.fieldInt32? key)) :
    p.toYaml? = none ↔ IsIdle probe ∧ ∀ key ∈ timeKeys, probe.field? key = none := by
  have silent : p.IsSilent ↔ IsIdle probe ∧ ∀ key ∈ timeKeys, probe.fieldInt32? key = none := by
    rw [IsSilent, enabled, handled, handlerOf?_eq_none_iff accepted, times]
    simp
  have unset : ∀ key ∈ timeKeys, (probe.fieldInt32? key = none ↔ probe.field? key = none) := by
    intro key mem
    rw [← Option.map_eq_none_iff (f := ofInt32), map_time accepted mem, Option.map_eq_none_iff]
  rw [toYaml?_eq, ite_eq_left_iff, silent, forall₂_congr unset]
  simp

end Written

end Probe

/-- A probe of a manifest is carried over by what is written for the one that is read of it. -/
theorem isCarriedOver_of_at? {y probe : Yaml} {key : String}
    (there : Schema.probe.at? y key = some probe) :
    IsCarriedOver probe ((Probe.at? y key).bind toYaml?) := by
  have accepted : Schema.probe.accepts probe = true := Schema.accepts_of_at? there
  obtain ⟨p, read, enabled, handled, times⟩ := exists_of_at? there
  rw [read, Option.bind_some]
  refine ⟨toYaml?_eq_none_iff accepted handled enabled times, fun y written => ?_⟩
  rw [toYaml?_eq] at written
  obtain ⟨-, same⟩ := Option.ite_none_left_eq_some.1 written
  obtain rfl := Option.some.inj same
  exact carries_object accepted handled times

/-- The port of a connection stands under a key with a tag. -/
example :
    let probe := dict [("tcpSocket", .map [(.tagged "!x" (.text "port"), .int 3306)])]
    firstHandler? probe = some .tcpSocket ∧ portAt? probe "tcpSocket" = none := by
  decide +kernel

end Probe

/-! ## Probes of a container -/

/-- What becomes of the probes of a container of a manifest: each is carried over, and one that is
not of its type is dropped. -/
structure Container.KeepsProbes (item y : Yaml) : Prop where
  carried : ∀ (role : ProbeRole), ∀ probe ∈ Schema.probe.at? item role.key,
    Probe.IsCarriedOver probe (y.get? role.key)
  dropped : ∀ role : ProbeRole, Schema.probe.at? item role.key = none → y.get? role.key = none

/-- The probes of a container that is read are kept in what is written for it. -/
theorem Container.keepsProbes_ofYaml (nameless : String) (item : Yaml) :
    KeepsProbes item (ofYaml nameless item).toYaml := by
  have written (role : ProbeRole) :
      (ofYaml nameless item).toYaml.get? role.key =
        (Probe.at? item role.key).bind Probe.toYaml? := by
    cases role <;> simp [ProbeRole.key, toYaml, ofYaml]
  constructor
  case carried =>
    intro role probe there
    rw [written]
    exact Probe.isCarriedOver_of_at? there
  case dropped =>
    intro role missing
    rw [written, Probe.at?, missing]
    rfl

end WorkloadForms.Form
