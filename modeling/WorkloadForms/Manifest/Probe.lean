import WorkloadForms.Form.Probe
import WorkloadForms.Manifest.Entry
import WorkloadForms.Schema.Container

/-!
# Probes in a manifest

A probe that is enabled is written with the handler of its type and nothing of the other ones. A
probe in a manifest is enabled; its type follows from the handler it has, a command before a
connection before a request. A port that is not there stays unset.
-/

namespace WorkloadForms.Form

/-- A command as it is run. -/
def commandYaml (command : List String) : Yaml :=
  .object [("command", Yaml.ofTexts command)]

/-- The entries of a handler. -/
def Handler.entry (h : Handler) : String × Yaml :=
  match h with
  | .httpGet path port scheme =>
    ("httpGet", .object
      [("path", some (.text path)), ("port", some (Yaml.ofIntOrText port)),
       ("scheme", scheme.map Yaml.ofWord)])
  | .exec command => ("exec", commandYaml command)
  | .tcpSocket port => ("tcpSocket", .object [("port", some (Yaml.ofIntOrText port))])

/-- The handler under its own name. -/
def Handler.at? (h : Option Handler) (name : String) : Option Yaml :=
  (h.map Handler.entry).bind fun e => if e.1 == name then some e.2 else none

/-- What is written for a probe. -/
def Probe.toYaml? (p : Probe) : Option Yaml :=
  let handler := p.handler?
  if !p.enabled || (handler.isNone && !p.hasTiming) then none
  else some <| .object
    [("exec", Handler.at? handler "exec"),
     ("failureThreshold", p.failureThreshold.map Yaml.ofInt32),
     ("httpGet", Handler.at? handler "httpGet"),
     ("initialDelaySeconds", p.initialDelaySeconds.map Yaml.ofInt32),
     ("periodSeconds", p.periodSeconds.map Yaml.ofInt32),
     ("successThreshold", p.successThreshold.map Yaml.ofInt32),
     ("tcpSocket", Handler.at? handler "tcpSocket"),
     ("timeoutSeconds", p.timeoutSeconds.map Yaml.ofInt32)]

/-- The command of an object that runs one. -/
def Command.ofObject (y : Yaml) : Command := ⟨Text.joined '\n' (y.fieldTexts "command")⟩

/-- The port of a handler of a probe. -/
def portOf? (probe : Yaml) (handler : String) : Option IntOrText :=
  (Schema.intOrText.read? ((probe.get? handler).bind (·.get? "port"))).bind Yaml.intOrText?

/-- The probe under a key. -/
def Probe.at? (y : Yaml) (key : String) : Option Probe := do
  let probe ← Schema.probe.at? y key
  let exec := probe.field? "exec"
  let tcpSocket := probe.field? "tcpSocket"
  return {
    enabled := true
    type := if exec.isSome then .exec else if tcpSocket.isSome then .tcpSocket else .httpGet
    httpGet := (probe.field? "httpGet").map fun h =>
      { path := h.fieldText? "path", port := portOf? probe "httpGet"
        scheme := h.fieldWord? "scheme" }
    exec := exec.map Command.ofObject
    tcpSocket := tcpSocket.map fun _ => { port := portOf? probe "tcpSocket" }
    initialDelaySeconds := probe.fieldInt32? "initialDelaySeconds"
    periodSeconds := probe.fieldInt32? "periodSeconds"
    timeoutSeconds := probe.fieldInt32? "timeoutSeconds"
    successThreshold := probe.fieldInt32? "successThreshold"
    failureThreshold := probe.fieldInt32? "failureThreshold" }

end WorkloadForms.Form
