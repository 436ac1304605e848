import WorkloadForms.Schema.Meta

/-!
# Schemas of the parts of a container
-/

namespace WorkloadForms.Schema

/-- A port of a container. -/
def containerPort : Schema :=
  .object
    [("containerPort", .int32), ("hostIP", .text), ("hostPort", .int32), ("name", .text),
     ("protocol", .text)]

/-- A key of a configuration map or of a secret. -/
def keySelector : Schema := .object [("key", .text), ("name", .text), ("optional", .flag)]

/-- The source of a variable. -/
def envSource : Schema :=
  .object
    [("configMapKeyRef", keySelector), ("fieldRef", fieldSelector),
     ("resourceFieldRef", resourceSelector), ("secretKeyRef", keySelector)]

/-- The resources of a container. -/
def resources : Schema :=
  .object
    [("claims", .list (.object [("name", .text)])), ("limits", .dictionary .quantity),
     ("requests", .dictionary .quantity)]

/-- A volume at a path of a container. -/
def volumeMount : Schema :=
  .object
    [("mountPath", .text), ("mountPropagation", .text), ("name", .text), ("readOnly", .flag),
     ("recursiveReadOnly", .text), ("subPath", .text), ("subPathExpr", .text)]

/-- A command that is run. -/
def execAction : Schema := .object [("command", texts)]

/-- A header of a request. -/
def httpHeader : Schema := .object [("name", .text), ("value", .text)]

/-- A request over HTTP. -/
def httpGetAction : Schema :=
  .object
    [("host", .text), ("httpHeaders", .list httpHeader), ("path", .text), ("port", .intOrText),
     ("scheme", .text)]

/-- A connection that is opened. -/
def tcpSocketAction : Schema := .object [("host", .text), ("port", .intOrText)]

/-- What is run at a point of the life of a container. -/
def lifecycleHandler : Schema :=
  .object
    [("exec", execAction), ("httpGet", httpGetAction), ("sleep", .object [("seconds", .int64)]),
     ("tcpSocket", tcpSocketAction)]

/-- The hooks of a container. -/
def lifecycle : Schema := .object [("postStart", lifecycleHandler), ("preStop", lifecycleHandler)]

/-- A probe. -/
def probe : Schema :=
  .object
    [("exec", execAction), ("failureThreshold", .int32),
     ("grpc", .object [("port", .int32), ("service", .text)]), ("httpGet", httpGetAction),
     ("initialDelaySeconds", .int32), ("periodSeconds", .int32), ("successThreshold", .int32),
     ("tcpSocket", tcpSocketAction), ("terminationGracePeriodSeconds", .int64),
     ("timeoutSeconds", .int32)]

end WorkloadForms.Schema
