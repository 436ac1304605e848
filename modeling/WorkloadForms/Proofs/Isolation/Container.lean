import WorkloadForms.Manifest.Container
import WorkloadForms.Proofs.Isolation.Difference

/-!
# Isolation of faults in a container

Every setting of a container is read from one key of its mapping, and every item of its ports,
variables and mounts is read by itself. `Form.Container.isolated_ofYaml` says what follows for two
containers that differ in one place.
-/

namespace WorkloadForms.Form

open Yaml

/-! ## Readings -/

theorem Resources.reads_at? {key : String} : Reads key (Resources.at? · key) := by
  intro a b same
  simp only [Resources.at?, Schema.reads_at? _ same]

theorem Lifecycle.reads_at? {key : String} : Reads key (Lifecycle.at? · key) := by
  intro a b same
  simp only [Lifecycle.at?, Schema.reads_at? _ same]

theorem Probe.reads_at? {key : String} : Reads key (Probe.at? · key) := by
  intro a b same
  simp only [Probe.at?, Schema.reads_at? _ same]

namespace Container

/-! ## Settings -/

/-- Two containers have the same settings, but for the one that is read from a key. -/
structure AgreeBut (key : String) (c e : Container) : Prop where
  name : "name" ≠ key → c.name = e.name
  image : "image" ≠ key → c.image = e.image
  imagePullPolicy : "imagePullPolicy" ≠ key → c.imagePullPolicy = e.imagePullPolicy
  command : "command" ≠ key → c.command = e.command
  args : "args" ≠ key → c.args = e.args
  workingDir : "workingDir" ≠ key → c.workingDir = e.workingDir
  ports : "ports" ≠ key → c.ports = e.ports
  env : "env" ≠ key → c.env = e.env
  resources : "resources" ≠ key → c.resources = e.resources
  volumeMounts : "volumeMounts" ≠ key → c.volumeMounts = e.volumeMounts
  lifecycle : "lifecycle" ≠ key → c.lifecycle = e.lifecycle
  livenessProbe : "livenessProbe" ≠ key → c.livenessProbe = e.livenessProbe
  readinessProbe : "readinessProbe" ≠ key → c.readinessProbe = e.readinessProbe
  startupProbe : "startupProbe" ≠ key → c.startupProbe = e.startupProbe
  stdin : "stdin" ≠ key → c.stdin = e.stdin
  tty : "tty" ≠ key → c.tty = e.tty

variable {key : String} {a b : Yaml}

/-- Containers that differ under one key are read alike, but for the setting of that key. -/
theorem agreeBut_ofYaml (nameless : String) (h : Yaml.AgreeBut key a b) :
    AgreeBut key (ofYaml nameless a) (ofYaml nameless b) where
  name ne := reads_textAt?.map (fun name => (name.bind filled).getD nameless) (h _ ne)
  image ne := reads_textAt?.map (·.getD "") (h _ ne)
  imagePullPolicy ne := reads_wordAt? (h _ ne)
  command ne := reads_linesAt (h _ ne)
  args ne := reads_linesAt (h _ ne)
  workingDir ne := reads_textAt? (h _ ne)
  ports ne := (Schema.reads_itemsAt _ _).map (·.map Port.ofObject) (h _ ne)
  env ne := reads_itemsAt.map (·.filterMap EnvVar.of?) (h _ ne)
  resources ne := Resources.reads_at? (h _ ne)
  volumeMounts ne := (Schema.reads_itemsAt _ _).map (·.map VolumeMount.ofObject) (h _ ne)
  lifecycle ne := Lifecycle.reads_at? (h _ ne)
  livenessProbe ne := Probe.reads_at? (h _ ne)
  readinessProbe ne := Probe.reads_at? (h _ ne)
  startupProbe ne := Probe.reads_at? (h _ ne)
  stdin ne := reads_flagAt (h _ ne)
  tty ne := reads_flagAt (h _ ne)

/-! ## Items -/

/-- The ports of a container. -/
def portListing (nameless : String) : Listing (ofYaml nameless) Port where
  part := []
  key := "ports"
  form? := Schema.containerPort.item? ["containerPort"] (some ∘ Port.ofObject)
  forms := ports
  reads y := Schema.map_itemsAt _ _ _ y _

/-- The variables of a container. -/
def envListing (nameless : String) : Listing (ofYaml nameless) EnvVar where
  part := []
  key := "env"
  form? := EnvVar.of?
  forms := env
  reads _ := rfl

/-- The mounts of a container. -/
def mountListing (nameless : String) : Listing (ofYaml nameless) VolumeMount where
  part := []
  key := "volumeMounts"
  form? := Schema.volumeMount.item? ["name", "mountPath"] (some ∘ VolumeMount.ofObject)
  forms := volumeMounts
  reads y := Schema.map_itemsAt _ _ _ y _

/-- How the readings `c` and `e` of two containers compare: what differs under one key shows in the
setting of that key only, and what differs in one item shows in its own form only. -/
structure Isolated (nameless : String) (a b : Yaml) (c e : Container) : Prop where
  settings : ∀ key, Yaml.AgreeBut key a b → c.AgreeBut key e
  ports : (portListing nameless).Isolates (AgreeBut "ports") a b c e
  env : (envListing nameless).Isolates (AgreeBut "env") a b c e
  volumeMounts : (mountListing nameless).Isolates (AgreeBut "volumeMounts") a b c e

/-- The readings of two containers compare so. -/
theorem isolated_ofYaml (nameless : String) (a b : Yaml) :
    Isolated nameless a b (ofYaml nameless a) (ofYaml nameless b) where
  settings _ h := agreeBut_ofYaml nameless h
  ports := (portListing nameless).isolates fun h => agreeBut_ofYaml nameless h.1
  env := (envListing nameless).isolates fun h => agreeBut_ofYaml nameless h.1
  volumeMounts := (mountListing nameless).isolates fun h => agreeBut_ofYaml nameless h.1

end Container

end WorkloadForms.Form
