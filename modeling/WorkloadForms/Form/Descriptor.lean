import WorkloadForms.Form.Container
import WorkloadForms.Form.Scheduling
import WorkloadForms.Form.Volume
import WorkloadForms.Kind

/-!
# Descriptors

A descriptor is a workload as an editing form holds it: ordered rows for labels and annotations,
texts with separators for lists, and the settings of all kinds side by side, whether or not a kind
uses them. `Descriptor.template` is the descriptor that a new workload starts from.
-/

namespace WorkloadForms

namespace Form

/-- A row of labels or annotations. -/
structure Row where
  key : String := ""
  value : String := ""
  deriving DecidableEq, Repr, Inhabited

/-- The fields of a row. -/
def Row.fields : List (Field Row) :=
  [.always "key" .text (·.key) fun v r => { r with key := v },
   .always "value" .text (·.value) fun v r => { r with value := v }]

/-- Rows as JSON. -/
def Row.codec : Codec Row := .record fields {}

/-- A taint that the pods tolerate. -/
structure Toleration where
  key : Option String := none
  operator : TolerationOperator := .equal
  value : Option String := none
  effect : Option String := none
  tolerationSeconds : Option Int64 := none
  deriving DecidableEq, Repr, Inhabited

/-- The fields of a toleration. -/
def Toleration.fields : List (Field Toleration) :=
  [.optional "key" .text (·.key) fun v r => { r with key := v },
   .always "operator" .word (·.operator) fun v r => { r with operator := v },
   .optional "value" .text (·.value) fun v r => { r with value := v },
   .optional "effect" .text (·.effect) fun v r => { r with effect := v },
   .optional "tolerationSeconds" .int64 (·.tolerationSeconds)
     fun v r => { r with tolerationSeconds := v }]

/-- Tolerations as JSON. -/
def Toleration.codec : Codec Toleration := .record fields {}

/-- How far a rolling update goes at once. -/
structure RollingUpdate where
  maxUnavailable : Option IntOrText := none
  maxSurge : Option IntOrText := none
  deriving DecidableEq, Repr, Inhabited

/-- The fields of a rolling update. -/
def RollingUpdate.fields : List (Field RollingUpdate) :=
  [.optional "maxUnavailable" .intOrText (·.maxUnavailable)
     fun v r => { r with maxUnavailable := v },
   .optional "maxSurge" .intOrText (·.maxSurge) fun v r => { r with maxSurge := v }]

/-- Rolling updates as JSON. -/
def RollingUpdate.codec : Codec RollingUpdate := .record fields {}

/-- How pods are replaced by newer ones. -/
structure Strategy where
  type : StrategyType := .rollingUpdate
  rollingUpdate : Option RollingUpdate := none
  deriving DecidableEq, Repr, Inhabited

/-- The fields of a strategy. -/
def Strategy.fields : List (Field Strategy) :=
  [.always "type" .word (·.type) fun v r => { r with type := v },
   .optional "rollingUpdate" RollingUpdate.codec (·.rollingUpdate)
     fun v r => { r with rollingUpdate := v }]

/-- Strategies as JSON. -/
def Strategy.codec : Codec Strategy := .record fields {}

/-- An option of the resolver. -/
structure DnsOption where
  name : String := ""
  value : Option String := none
  deriving DecidableEq, Repr, Inhabited

/-- The fields of an option of the resolver. -/
def DnsOption.fields : List (Field DnsOption) :=
  [.always "name" .text (·.name) fun v r => { r with name := v },
   .optional "value" .text (·.value) fun v r => { r with value := v }]

/-- Options of the resolver as JSON. -/
def DnsOption.codec : Codec DnsOption := .record fields {}

/-- The settings of the resolver, its name servers and search domains in one text each. -/
structure DnsConfig where
  nameservers : String := ""
  searches : String := ""
  options : List DnsOption := []
  deriving DecidableEq, Repr, Inhabited

/-- The fields of the settings of the resolver. -/
def DnsConfig.fields : List (Field DnsConfig) :=
  [.always "nameservers" (.separated ',') (·.nameservers) fun v r => { r with nameservers := v },
   .always "searches" (.separated ',') (·.searches) fun v r => { r with searches := v },
   .list "options" DnsOption.codec (·.options) fun v r => { r with options := v }]

/-- Settings of the resolver as JSON. -/
def DnsConfig.codec : Codec DnsConfig := .record fields {}

end Form

open Form

/-- A workload as a form holds it. -/
structure Descriptor where
  name : String := ""
  namespaceName : String := ""
  description : Option String := none
  replicas : Option Int32 := none
  labels : List Row := []
  annotations : List Row := []
  containers : List Container := []
  initContainers : List Container := []
  volumes : List Volume := []
  imagePullSecrets : List String := []
  scheduling : Option Scheduling := none
  nodeSelector : Dictionary := .empty
  tolerations : List Toleration := []
  strategy : Option Strategy := none
  minReadySeconds : Option Int32 := none
  revisionHistoryLimit : Option Int32 := none
  progressDeadlineSeconds : Option Int32 := none
  terminationGracePeriodSeconds : Option Int64 := none
  dnsPolicy : Option DnsPolicy := none
  dnsConfig : Option DnsConfig := none
  hostNetwork : Bool := false
  hostPid : Bool := false
  hostIpc : Bool := false
  serviceName : Option String := none
  podManagementPolicy : Option PodManagement := none
  schedule : Option String := none
  suspend : Option Bool := none
  concurrencyPolicy : Option Concurrency := none
  successfulJobsHistoryLimit : Option Int32 := none
  failedJobsHistoryLimit : Option Int32 := none
  completions : Option Int32 := none
  parallelism : Option Int32 := none
  backoffLimit : Option Int32 := none
  activeDeadlineSeconds : Option Int64 := none
  ttlSecondsAfterFinished : Option Int32 := none
  deriving DecidableEq, Repr, Inhabited

namespace Descriptor

/-- The fields of a descriptor that name and describe the workload. -/
def metadataFields : List (Field Descriptor) :=
  [.always "name" .text (·.name) fun v r => { r with name := v },
   .always "namespace" .text (·.namespaceName) fun v r => { r with namespaceName := v },
   .optional "description" .text (·.description) fun v r => { r with description := v },
   .optional "replicas" .int32 (·.replicas) fun v r => { r with replicas := v },
   .always "labels" (.list Row.codec) (·.labels) fun v r => { r with labels := v },
   .always "annotations" (.list Row.codec) (·.annotations) fun v r => { r with annotations := v }]

/-- The fields of a descriptor that say what its pods are made of. -/
def contentFields : List (Field Descriptor) :=
  [.always "containers" (.list Container.codec) (·.containers)
     fun v r => { r with containers := v },
   .list "initContainers" Container.codec (·.initContainers)
     fun v r => { r with initContainers := v },
   .list "volumes" Volume.codec (·.volumes) fun v r => { r with volumes := v },
   .list "imagePullSecrets" .text (·.imagePullSecrets) fun v r => { r with imagePullSecrets := v }]

/-- The fields of a descriptor that say where its pods run. -/
def placementFields : List (Field Descriptor) :=
  [.optional "scheduling" Scheduling.codec (·.scheduling) fun v r => { r with scheduling := v },
   .of "nodeSelector" .dictionary (·.nodeSelector) (fun v r => { r with nodeSelector := v })
     Dictionary.isEmpty,
   .list "tolerations" Toleration.codec (·.tolerations) fun v r => { r with tolerations := v }]

/-- The fields of a descriptor that say how its pods are replaced. -/
def updateFields : List (Field Descriptor) :=
  [.optional "strategy" Strategy.codec (·.strategy) fun v r => { r with strategy := v },
   .optional "minReadySeconds" .int32 (·.minReadySeconds)
     fun v r => { r with minReadySeconds := v },
   .optional "revisionHistoryLimit" .int32 (·.revisionHistoryLimit)
     fun v r => { r with revisionHistoryLimit := v },
   .optional "progressDeadlineSeconds" .int32 (·.progressDeadlineSeconds)
     fun v r => { r with progressDeadlineSeconds := v }]

/-- The fields of a descriptor that set up its pods. -/
def podFields : List (Field Descriptor) :=
  [.optional "terminationGracePeriodSeconds" .int64 (·.terminationGracePeriodSeconds)
     fun v r => { r with terminationGracePeriodSeconds := v },
   .optional "dnsPolicy" .word (·.dnsPolicy) fun v r => { r with dnsPolicy := v },
   .optional "dnsConfig" DnsConfig.codec (·.dnsConfig) fun v r => { r with dnsConfig := v },
   .flag "hostNetwork" (·.hostNetwork) fun v r => { r with hostNetwork := v },
   .flag "hostPID" (·.hostPid) fun v r => { r with hostPid := v },
   .flag "hostIPC" (·.hostIpc) fun v r => { r with hostIpc := v }]

/-- The fields of a descriptor that stateful sets and cron jobs use. -/
def serviceFields : List (Field Descriptor) :=
  [.optional "serviceName" .text (·.serviceName) fun v r => { r with serviceName := v },
   .optional "podManagementPolicy" .word (·.podManagementPolicy)
     fun v r => { r with podManagementPolicy := v },
   .optional "schedule" .text (·.schedule) fun v r => { r with schedule := v },
   .optional "suspend" .flag (·.suspend) fun v r => { r with suspend := v },
   .optional "concurrencyPolicy" .word (·.concurrencyPolicy)
     fun v r => { r with concurrencyPolicy := v },
   .optional "successfulJobsHistoryLimit" .int32 (·.successfulJobsHistoryLimit)
     fun v r => { r with successfulJobsHistoryLimit := v },
   .optional "failedJobsHistoryLimit" .int32 (·.failedJobsHistoryLimit)
     fun v r => { r with failedJobsHistoryLimit := v }]

/-- The fields of a descriptor that jobs use. -/
def jobFields : List (Field Descriptor) :=
  [.optional "completions" .int32 (·.completions) fun v r => { r with completions := v },
   .optional "parallelism" .int32 (·.parallelism) fun v r => { r with parallelism := v },
   .optional "backoffLimit" .int32 (·.backoffLimit) fun v r => { r with backoffLimit := v },
   .optional "activeDeadlineSeconds" .int64 (·.activeDeadlineSeconds)
     fun v r => { r with activeDeadlineSeconds := v },
   .optional "ttlSecondsAfterFinished" .int32 (·.ttlSecondsAfterFinished)
     fun v r => { r with ttlSecondsAfterFinished := v }]

/-- The fields of a descriptor. -/
def fields : List (Field Descriptor) :=
  metadataFields ++ contentFields ++ placementFields ++ updateFields ++ podFields
    ++ serviceFields ++ jobFields

/-- Descriptors as JSON. -/
def codec : Codec Descriptor := .record fields {}

/-- The descriptor that a new workload of a kind starts from. -/
def template (kind : Kind) (space : String) : Descriptor :=
  { name := "example-" ++ Text.lower kind.name
    namespaceName := space
    replicas := if kind.hasReplicas then some 1 else none
    containers := [{ name := "main", image := "nginx:latest" }] }

end Descriptor

end WorkloadForms
