import WorkloadForms.Form.Terms
import WorkloadForms.Record.Codec

/-!
# Probes as a form holds them

A probe form has a type and a sub-form for every handler; the ones that the type does not name may
be left over from earlier edits. `Probe.handler?` gives the one action that the probe performs.
-/

namespace WorkloadForms.Form

/-- A command, one word a line. -/
structure Command where
  lines : String := ""
  deriving DecidableEq, Repr, Inhabited

/-- The fields of a command. -/
def Command.fields : List (Field Command) :=
  [.always "command" (.separated '\n') (·.lines) fun v r => { r with lines := v }]

/-- Commands as JSON. -/
def Command.codec : Codec Command := .record fields {}

/-- A probe over HTTP. -/
structure HttpGet where
  path : Option String := none
  port : Option IntOrText := none
  scheme : Option Scheme := none
  deriving DecidableEq, Repr, Inhabited

/-- The fields of a probe over HTTP. -/
def HttpGet.fields : List (Field HttpGet) :=
  [.optional "path" .text (·.path) fun v r => { r with path := v },
   .optional "port" .intOrText (·.port) fun v r => { r with port := v },
   .optional "scheme" .word (·.scheme) fun v r => { r with scheme := v }]

/-- Probes over HTTP as JSON. -/
def HttpGet.codec : Codec HttpGet := .record fields {}

/-- A probe that opens a connection. -/
structure TcpSocket where
  port : Option IntOrText := none
  deriving DecidableEq, Repr, Inhabited

/-- The fields of a probe that opens a connection. -/
def TcpSocket.fields : List (Field TcpSocket) :=
  [.optional "port" .intOrText (·.port) fun v r => { r with port := v }]

/-- Probes that open a connection as JSON. -/
def TcpSocket.codec : Codec TcpSocket := .record fields {}

/-- A probe. A probe that is not enabled is not written to a manifest. -/
structure Probe where
  enabled : Bool := false
  type : ProbeType := .httpGet
  httpGet : Option HttpGet := none
  exec : Option Command := none
  tcpSocket : Option TcpSocket := none
  initialDelaySeconds : Option Int32 := none
  periodSeconds : Option Int32 := none
  timeoutSeconds : Option Int32 := none
  successThreshold : Option Int32 := none
  failureThreshold : Option Int32 := none
  deriving DecidableEq, Repr, Inhabited

/-- The one action of a probe. -/
inductive Handler where
  | httpGet (path : String) (port : IntOrText) (scheme : Option Scheme)
  | exec (command : List String)
  | tcpSocket (port : IntOrText)
  deriving DecidableEq, Repr, Inhabited

namespace Probe

/-- The fields of a probe. -/
def fields : List (Field Probe) :=
  [.always "enabled" .flag (·.enabled) fun v r => { r with enabled := v },
   .always "type" .word (·.type) fun v r => { r with type := v },
   .optional "httpGet" HttpGet.codec (·.httpGet) fun v r => { r with httpGet := v },
   .optional "exec" Command.codec (·.exec) fun v r => { r with exec := v },
   .optional "tcpSocket" TcpSocket.codec (·.tcpSocket) fun v r => { r with tcpSocket := v },
   .optional "initialDelaySeconds" .int32 (·.initialDelaySeconds)
     fun v r => { r with initialDelaySeconds := v },
   .optional "periodSeconds" .int32 (·.periodSeconds) fun v r => { r with periodSeconds := v },
   .optional "timeoutSeconds" .int32 (·.timeoutSeconds) fun v r => { r with timeoutSeconds := v },
   .optional "successThreshold" .int32 (·.successThreshold)
     fun v r => { r with successThreshold := v },
   .optional "failureThreshold" .int32 (·.failureThreshold)
     fun v r => { r with failureThreshold := v }]

/-- Probes as JSON. -/
def codec : Codec Probe := .record fields {}

/-- The path of a probe over HTTP that names none. -/
def defaultPath : String := "/"

/-- The port of a probe over HTTP that names none. -/
def defaultPort : IntOrText := .number 80

/-- The action of the type of the probe, absent when there is nothing to run. -/
def handler? (p : Probe) : Option Handler :=
  match p.type with
  | .httpGet => p.httpGet.map fun h =>
    .httpGet ((h.path.filter (!·.isEmpty)).getD defaultPath) (h.port.getD defaultPort) h.scheme
  | .exec => (p.exec.map fun c => Text.lines c.lines).bind fun command =>
    if command.isEmpty then none else some (.exec command)
  | .tcpSocket => (p.tcpSocket.bind (·.port)).map .tcpSocket

/-- Whether the probe sets a time or a threshold. -/
def hasTiming (p : Probe) : Bool :=
  p.initialDelaySeconds.isSome || p.periodSeconds.isSome || p.timeoutSeconds.isSome
    || p.successThreshold.isSome || p.failureThreshold.isSome

end Probe

end WorkloadForms.Form
