import WorkloadForms.Manifest.Affinity
import WorkloadForms.Manifest.Container
import WorkloadForms.Manifest.Volume

/-!
# Pod specifications

The part of a manifest that says what a pod is made of and how it runs. It is the same for all
kinds, but for the policy that pods of batch kinds are never restarted.
-/

namespace WorkloadForms

open Form

namespace Form

/-- What is written for a toleration. -/
def Toleration.toYaml (t : Toleration) : Yaml :=
  .object
    [("effect", t.effect.bind Yaml.ofFilled), ("key", t.key.bind Yaml.ofFilled),
     ("operator", some (Yaml.ofWord t.operator)),
     ("tolerationSeconds", t.tolerationSeconds.map Yaml.ofInt64),
     ("value", t.value.bind Yaml.ofFilled)]

/-- The form of a toleration. -/
def Toleration.ofObject (t : Yaml) : Toleration where
  key := t.fieldText? "key"
  operator := (t.fieldWord? "operator").getD .equal
  value := t.fieldText? "value"
  effect := t.fieldText? "effect"
  tolerationSeconds := (t.field? "tolerationSeconds").bind Yaml.int64?

/-- What is written for an option of the resolver, unless it has no name. -/
def DnsOption.toYaml? (o : DnsOption) : Option Yaml :=
  (filled o.name).map fun name =>
    .object [("name", some (.text name)), ("value", o.value.map .text)]

/-- What is written for the settings of the resolver, unless there are none. -/
def DnsConfig.toYaml? (d : DnsConfig) : Option Yaml :=
  match Yaml.ofTexts (Text.commas d.nameservers),
    Yaml.ofItems (d.options.filterMap DnsOption.toYaml?),
    Yaml.ofTexts (Text.commas d.searches) with
  | none, none, none => none
  | nameservers, options, searches => some <| .object
    [("nameservers", nameservers), ("options", options), ("searches", searches)]

/-- The form of an option of the resolver, which must have a name. -/
def DnsOption.ofObject? (o : Yaml) : Option DnsOption :=
  (o.fieldText? "name").map fun name => { name, value := o.fieldText? "value" }

/-- The settings of the resolver in a pod specification. -/
def DnsConfig.of? (pod : Yaml) : Option DnsConfig :=
  (Schema.dnsConfig.at? pod "dnsConfig").map fun d =>
    { nameservers := Text.joined ',' (d.fieldTexts "nameservers")
      searches := Text.joined ',' (d.fieldTexts "searches")
      options := (d.fieldItems "options").filterMap DnsOption.ofObject? }

end Form

namespace Descriptor

/-- The policy of pods that are never restarted. -/
def neverRestart : String := "Never"

/-- What is written for the names of the secrets that images are pulled with. -/
def pullSecretsYaml (names : List String) : Option Yaml :=
  Yaml.ofItems ((names.filterMap filled).map fun name => .dict [("name", .text name)])

/-- The pod specification of a descriptor. -/
def podSpec (d : Descriptor) (restartPolicy : Option String) : Yaml :=
  .object
    [("affinity", d.scheduling.bind Scheduling.toYaml?),
     ("containers", some (.seq (d.containers.map Container.toYaml))),
     ("dnsConfig", d.dnsConfig.bind DnsConfig.toYaml?),
     ("dnsPolicy", d.dnsPolicy.map Yaml.ofWord),
     ("hostIPC", Yaml.ofFlag d.hostIpc),
     ("hostNetwork", Yaml.ofFlag d.hostNetwork),
     ("hostPID", Yaml.ofFlag d.hostPid),
     ("imagePullSecrets", pullSecretsYaml d.imagePullSecrets),
     ("initContainers", Yaml.ofItems (d.initContainers.map Container.toYaml)),
     ("nodeSelector",
       if d.nodeSelector.isEmpty then none else some (Yaml.ofDictionary d.nodeSelector)),
     ("restartPolicy", restartPolicy.map .text),
     ("terminationGracePeriodSeconds", d.terminationGracePeriodSeconds.map Yaml.ofInt64),
     ("tolerations", Yaml.ofItems (d.tolerations.map Toleration.toYaml)),
     ("volumes", Yaml.ofItems (d.volumes.map Volume.toYaml))]

/-- The name of an initialising container that has none. -/
def defaultInitName : String := "init"

/-- The settings of a pod specification, put into a descriptor. -/
def withPodSpec (d : Descriptor) (pod : Yaml) : Descriptor :=
  { d with
    containers := Container.listAt Container.defaultName pod "containers"
    initContainers := Container.listAt defaultInitName pod "initContainers"
    volumes := Volume.listOf pod
    imagePullSecrets :=
      (Schema.localReference.itemsAt [] pod "imagePullSecrets").filterMap fun s =>
        filled (s.fieldText "name")
    scheduling := Scheduling.of? pod
    nodeSelector := Dictionary.ofList (pod.rowsAt "nodeSelector")
    tolerations := (Schema.toleration.itemsAt [] pod "tolerations").map Toleration.ofObject
    terminationGracePeriodSeconds := pod.int64At? "terminationGracePeriodSeconds"
    dnsPolicy := pod.wordAt? "dnsPolicy"
    dnsConfig := DnsConfig.of? pod
    hostNetwork := pod.flagAt "hostNetwork"
    hostPid := pod.flagAt "hostPID"
    hostIpc := pod.flagAt "hostIPC" }

end Descriptor

/-! ## The lists of containers -/

/-- The two lists of containers of a pod: those that run, and those that initialise it. -/
inductive Form.ContainerRole where
  | running
  | initialising
  deriving DecidableEq, Repr

namespace Form.ContainerRole

/-- The key of the list, in a pod specification and in JSON. -/
def key : ContainerRole → String
  | .running => "containers"
  | .initialising => "initContainers"

/-- The name of a container of the list that has none. -/
def nameless : ContainerRole → String
  | .running => Container.defaultName
  | .initialising => Descriptor.defaultInitName

/-- The list of a descriptor. -/
def containers (d : Descriptor) : ContainerRole → List Container
  | .running => d.containers
  | .initialising => d.initContainers

/-- The form of an item of the list, which must be a mapping. -/
def form? (role : ContainerRole) (y : Yaml) : Option Container :=
  if y.isMap then some (Container.ofYaml role.nameless y) else none

end Form.ContainerRole

end WorkloadForms
