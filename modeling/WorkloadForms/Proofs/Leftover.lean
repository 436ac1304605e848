import WorkloadForms.Manifest

/-!
# What is left over is not written

A descriptor keeps data from earlier edits: settings of other kinds, disabled probes, handlers and
sources that the type does not name, literal values of variables that have a source, limits of a
strategy that does not roll. `Descriptor.currentFor` is a descriptor without all of it, and
`Descriptor.manifest_currentFor` says that it is written to the same manifest, so that descriptors
that differ in such data only are rendered alike (`Descriptor.render_eq_of_currentFor_eq`).

A rollout has no type of strategy: it writes the limits even where the type is `Recreate`
(`Descriptor.recreate_keeps_limits`), and its type is left over instead.
-/

namespace WorkloadForms

open Form Yaml

namespace Form

/-! ## Probes -/

/-- A probe with the handler of its type and no other one, unless it is disabled. -/
def Probe.current? (p : Probe) : Option Probe :=
  if p.enabled then
    some { p with
      httpGet := if p.type = .httpGet then p.httpGet else none
      exec := if p.type = .exec then p.exec else none
      tcpSocket := if p.type = .tcpSocket then p.tcpSocket else none }
  else none

/-- A probe without what is left over is written like the probe. -/
theorem Probe.bind_current?_toYaml? (p : Option Probe) :
    (p.bind current?).bind toYaml? = p.bind toYaml? := by
  cases p with
  | none => rfl
  | some p =>
    simp only [Option.bind_some, current?]
    split
    · -- Of the sub-forms only the one of the type is looked at.
      rw [Option.bind_some, toYaml?, toYaml?]
      cases type : p.type <;> simp [handler?, hasTiming, type]
    · next disabled => simp [toYaml?, disabled]

/-! ## Volumes and variables -/

/-- A volume with the source of its type and no other one. -/
def Volume.current (v : Volume) : Volume :=
  { v with
    emptyDir := if v.type = .emptyDir then v.emptyDir else none
    hostPath := if v.type = .hostPath then v.hostPath else none
    configMap := if v.type = .configMap then v.configMap else none
    secret := if v.type = .secret then v.secret else none
    persistentVolumeClaim :=
      if v.type = .persistentVolumeClaim then v.persistentVolumeClaim else none }

/-- A volume without what is left over is written like the volume. -/
theorem Volume.toYaml_current (v : Volume) : v.current.toYaml = v.toYaml := by
  have source : v.current.source = v.source := by
    cases type : v.type <;> simp [Volume.source, current, type]
  rw [toYaml, source, toYaml]
  rfl

/-- A variable with its literal value, unless it has a source. -/
def EnvVar.current (e : EnvVar) : EnvVar :=
  { e with value := if e.valueFrom.isSome then none else e.value }

/-- A variable without what is left over is written like the variable. -/
theorem EnvVar.toYaml_current (e : EnvVar) : e.current.toYaml = e.toYaml := by
  cases source : e.valueFrom <;> simp [toYaml, current, source]

/-! ## Containers -/

/-- A container without what is left over in its variables and probes. -/
def Container.current (c : Container) : Container :=
  { c with
    env := c.env.map EnvVar.current
    livenessProbe := c.livenessProbe.bind Probe.current?
    readinessProbe := c.readinessProbe.bind Probe.current?
    startupProbe := c.startupProbe.bind Probe.current? }

/-- A container without what is left over is written like the container. -/
theorem Container.toYaml_current (c : Container) : c.current.toYaml = c.toYaml := by
  have env : EnvVar.toYaml ∘ EnvVar.current = EnvVar.toYaml := funext EnvVar.toYaml_current
  simp only [toYaml, current, List.map_map, env, Probe.bind_current?_toYaml?]

/-! ## Strategies -/

/-- A strategy without limits that do not count for a kind: a deployment that recreates its pods
has none, and a rollout has no type. -/
def Strategy.currentFor (k : Kind) (s : Strategy) : Strategy :=
  match k with
  | .rollout => { s with type := .rollingUpdate }
  | _ => { s with rollingUpdate := if s.type = .recreate then none else s.rollingUpdate }

/-- The strategy of a deployment without what is left over is written like the strategy. -/
theorem Strategy.toYaml_currentFor (s : Strategy) :
    (s.currentFor .deployment).toYaml = s.toYaml := by
  cases type : s.type <;> simp [toYaml, currentFor, type]

/-- The strategy of a rollout is written without its type. -/
theorem Strategy.toCanaryYaml_currentFor (s : Strategy) :
    (s.currentFor .rollout).toCanaryYaml = s.toCanaryYaml := rfl

end Form

namespace Descriptor

/-! ## Descriptors -/

/-- A descriptor without the settings that a kind does not have and without what is left over in
the others. -/
def currentFor (k : Kind) (d : Descriptor) : Descriptor :=
  { d with
    containers := d.containers.map Container.current
    initContainers := d.initContainers.map Container.current
    volumes := d.volumes.map Volume.current
    replicas := if k ∈ [.deployment, .statefulSet, .rollout] then d.replicas else none
    strategy :=
      if k ∈ [.deployment, .rollout] then d.strategy.map (Strategy.currentFor k) else none
    minReadySeconds := if k ∈ [.deployment, .daemonSet] then d.minReadySeconds else none
    revisionHistoryLimit := if k ∈ [.deployment, .daemonSet] then d.revisionHistoryLimit else none
    progressDeadlineSeconds := if k = .deployment then d.progressDeadlineSeconds else none
    serviceName := if k = .statefulSet then d.serviceName else none
    podManagementPolicy := if k = .statefulSet then d.podManagementPolicy else none
    schedule := if k = .cronJob then d.schedule else none
    suspend := if k = .cronJob then d.suspend else none
    concurrencyPolicy := if k = .cronJob then d.concurrencyPolicy else none
    successfulJobsHistoryLimit := if k = .cronJob then d.successfulJobsHistoryLimit else none
    failedJobsHistoryLimit := if k = .cronJob then d.failedJobsHistoryLimit else none
    completions := if k ∈ [.job, .cronJob] then d.completions else none
    parallelism := if k ∈ [.job, .cronJob] then d.parallelism else none
    backoffLimit := if k ∈ [.job, .cronJob] then d.backoffLimit else none
    activeDeadlineSeconds := if k ∈ [.job, .cronJob] then d.activeDeadlineSeconds else none
    ttlSecondsAfterFinished := if k ∈ [.job, .cronJob] then d.ttlSecondsAfterFinished else none }

variable (k : Kind) (d : Descriptor)

/-- The pods of a descriptor without what is left over are those of the descriptor. -/
theorem podTemplate_currentFor (restartPolicy : Option String) :
    (d.currentFor k).podTemplate restartPolicy = d.podTemplate restartPolicy := by
  have containers : Container.toYaml ∘ Container.current = Container.toYaml :=
    funext Container.toYaml_current
  have volumes : Volume.toYaml ∘ Volume.current = Volume.toYaml := funext Volume.toYaml_current
  have pod : (d.currentFor k).podSpec restartPolicy = d.podSpec restartPolicy := by
    simp only [podSpec, currentFor, List.map_map, containers, volumes]
    rfl
  rw [podTemplate, pod]
  rfl

/-- A batch kind has all settings of jobs. -/
theorem jobSpec_currentFor (batch : k ∈ [Kind.job, .cronJob]) :
    (d.currentFor k).jobSpec = d.jobSpec := by
  rw [jobSpec, podTemplate_currentFor, jobSpec]
  simp only [currentFor, if_pos batch]

/-- A specification is made of the settings that the kind has. -/
theorem spec_currentFor : (d.currentFor k).spec k = d.spec k := by
  have strategies (f : Strategy → Yaml) (same : ∀ s : Strategy, f (s.currentFor k) = f s) :
      (d.strategy.map (Strategy.currentFor k)).map f = d.strategy.map f := by
    rw [Option.map_map]
    exact congrArg (d.strategy.map ·) (funext same)
  cases k with
  | deployment =>
    rw [spec, podTemplate_currentFor]
    change _ = Yaml.object _
    rw [← strategies _ Strategy.toYaml_currentFor]
    rfl
  | statefulSet =>
    rw [spec, podTemplate_currentFor]
    rfl
  | daemonSet =>
    rw [spec, podTemplate_currentFor]
    rfl
  | job => exact jobSpec_currentFor .job d (by decide)
  | cronJob =>
    rw [spec, jobSpec_currentFor .cronJob d (by decide)]
    rfl
  | rollout =>
    rw [spec, podTemplate_currentFor]
    change _ = Yaml.object _
    rw [← strategies _ Strategy.toCanaryYaml_currentFor]
    rfl

/-- A descriptor without what is left over gives the same manifest. -/
theorem manifest_currentFor : (d.currentFor k).manifest k = d.manifest k := by
  rw [manifest, spec_currentFor]
  rfl

/-- Descriptors that differ only in what is left over are rendered alike. -/
theorem render_eq_of_currentFor_eq {k : Kind} {d e : Descriptor}
    (same : d.currentFor k = e.currentFor k) : d.render k = e.render k := by
  rw [render, ← manifest_currentFor, same, manifest_currentFor, render]

/-- A deployment is rendered without regard to a schedule, to the limits of a strategy that
recreates the pods, to a disabled probe, to a second handler, to a second source of a volume and to
the literal value of a variable with a source. -/
theorem render_eq_of_edits :
    let probe : Probe := { enabled := true, type := .exec, exec := some ⟨"true"⟩ }
    let node : EnvVar := { name := "NODE", valueFrom := some (.field ⟨"spec.nodeName"⟩) }
    let logs : Volume := { name := "logs", type := .hostPath, hostPath := some { path := "/log" } }
    let limits : RollingUpdate := { maxSurge := some (.number 1) }
    let d : Descriptor :=
      { containers := [{ env := [node], livenessProbe := some probe }], volumes := [logs]
        strategy := some { type := .recreate } }
    let edited : Descriptor :=
      { containers :=
          [{ env := [{ node with value := some "local" }]
             livenessProbe := some { probe with tcpSocket := some ⟨some (.number 80)⟩ }
             startupProbe := some { probe with enabled := false } }]
        volumes := [{ logs with secret := some { secretName := "key" } }]
        strategy := some { type := .recreate, rollingUpdate := some limits }
        schedule := some "@daily" }
    d.currentFor .deployment = edited.currentFor .deployment ∧
      d.render .deployment = edited.render .deployment :=
  ⟨by decide, render_eq_of_currentFor_eq (by decide)⟩

/-- The limits of a strategy that recreates its pods are written in a rollout. -/
theorem recreate_keeps_limits :
    ¬ ∀ (k : Kind) (d : Descriptor) (s : Strategy), d.strategy = some s → s.type = .recreate →
      ({ d with strategy := some { s with rollingUpdate := none } } : Descriptor).render k =
        d.render k := by
  intro alike
  let limits : RollingUpdate := { maxSurge := some (.number 1) }
  let s : Strategy := { type := .recreate, rollingUpdate := some limits }
  have same := alike .rollout { strategy := some s } s rfl rfl
  -- It is cheaper to compare the characters of the two texts than their octets.
  have lines : entryLines 0 _ = entryLines 0 _ := String.ofList_inj.1 same
  revert lines
  decide +kernel

end Descriptor

end WorkloadForms
