import WorkloadForms.Proofs.Choice.Probe
import WorkloadForms.Proofs.Choice.Volume
import WorkloadForms.Proofs.Words

/-!
# One choice a probe and a volume

In a manifest a probe may have several handlers and a volume several sources. A descriptor that is
read of the manifest has one of each, and so has what is written for it, whatever the kind
(`Descriptor.KeepsChoices`). `Manifest.choices_survive` says so of all probes and volumes of a
manifest.
-/

namespace WorkloadForms

open Form Yaml

namespace Descriptor

/-- The manifest of a kind for a descriptor has the probes and the volumes of a given pod
specification, one by one, each with one handler and one source. -/
def KeepsChoices (k : Kind) (d : Descriptor) (given : Yaml) : Prop :=
  ∃ pod, (d.manifest k).at? k.podSpecPath = some pod ∧
    (∀ role : ContainerRole, List.Forall₂ Container.KeepsProbes
      ((given.itemsAt role.key).filter isMap) (pod.itemsAt role.key)) ∧
    List.Forall₂ Volume.IsCarriedOver (Schema.volume.itemsAt ["name"] given "volumes")
      (pod.itemsAt "volumes")

/-- The probes and the volumes of a manifest are kept by its descriptor. -/
theorem keepsChoices_ofManifest (k : Kind) (kind : Option Kind) (root : Yaml) :
    KeepsChoices k (ofManifest kind root) ((root.at? (podPath kind)).getD .null) := by
  refine ⟨_, podSpec_manifest k _, fun role => ?containers, ?volumes⟩
  case containers =>
    rw [role.itemsAt_podSpec, role.containers_ofManifest, Container.listAt, List.map_map]
    exact forall₂_map (Container.keepsProbes_ofYaml role.nameless) _
  case volumes =>
    have listed : ((ofManifest kind root).podSpec (policyOf k)).itemsAt "volumes" =
        (ofManifest kind root).volumes.map Volume.toYaml := by
      simp [itemsAt, podSpec]
    have volumes : (ofManifest kind root).volumes =
        Volume.listOf ((root.at? (podPath kind)).getD .null) := rfl
    rw [listed, volumes, Volume.listOf, List.map_map, List.forall₂_map_right_iff,
      List.forall₂_same]
    intro volume mem
    obtain ⟨-, accepted⟩ := Bool.and_eq_true_iff.1 (List.mem_filter.1 mem).2
    exact Volume.isCarriedOver_toYaml accepted

end Descriptor

namespace Manifest

open Descriptor (podPath)

/-- What is read of a manifest, given as a value or as a text, is written for every kind with one
handler a probe and one source a volume. -/
theorem choices_survive (k : Kind) :
    (∀ root m, ofYaml root = .ok m →
      m.descriptor.KeepsChoices k ((root.at? (podPath m.kind)).getD .null)) ∧
    ∀ s m, ofText s = .ok m → ∃ root, Yaml.ofText? s = some root ∧
      m.descriptor.KeepsChoices k ((root.at? (podPath m.kind)).getD .null) := by
  have ofValue (root : Yaml) (m : Manifest) (read : ofYaml root = .ok m) :
      m.descriptor.KeepsChoices k ((root.at? (podPath m.kind)).getD .null) := by
    obtain rfl := eq_ofRoot_of_ofYaml read
    exact Descriptor.keepsChoices_ofManifest k _ root
  refine ⟨ofValue, fun s m read => ?_⟩
  obtain ⟨root, written, read⟩ := exists_of_ofText read
  exact ⟨root, written, ofValue root m read⟩

/-- A manifest with a container whose probes have a blank command beside a request, a connection
without a port beside a request, and a request that says nothing, and with a volume of two
sources. -/
def overlapping : Yaml :=
  let container := dict
    [("livenessProbe", dict
       [("exec", dict [("command", .texts [" "])]), ("httpGet", dict [("port", .int 1)]),
        ("periodSeconds", .int 5)]),
     ("readinessProbe", dict [("tcpSocket", dict []), ("httpGet", dict [("port", .int 1)])]),
     ("startupProbe", dict [("httpGet", dict [])])]
  let volume := dict
    [("name", .text "v"), ("secret", dict [("secretName", .text "s")]),
     ("hostPath", dict [("path", .text "/d")])]
  dict [("spec", dict [("template", dict [("spec", dict
    [("containers", .seq [container]), ("volumes", .seq [volume])])])])]

/-- The text of a manifest with a container that is probed by a connection without a port. -/
def portlessText : String :=
  "spec: \x7btemplate: \x7bspec: \x7bcontainers: ["
    ++ "\x7breadinessProbe: \x7btcpSocket: \x7b\x7d\x7d\x7d" ++ "]\x7d\x7d\x7d\n"

/-- Of the first probe of the manifest only the time is left, the second one is dropped, the third
one gets a port, and the volume is a directory of the node. The probe of the text is dropped. -/
theorem choices_survive_overlapping :
    let keys (y : Yaml) : List String := (y.entries?.getD []).filterMap (·.1.text?)
    let probes (c : Yaml) := [ProbeRole.liveness, .readiness, .startup].map fun role =>
      (c.get? role.key).map keys
    (∃ m, ofYaml overlapping = .ok m ∧
      m.descriptor.KeepsChoices .job ((overlapping.at? (podPath m.kind)).getD .null) ∧
      ∃ pod, (m.descriptor.manifest .job).at? Kind.job.podSpecPath = some pod ∧
        (pod.itemsAt "containers").map probes = [[some ["periodSeconds"], none, some ["httpGet"]]] ∧
        (pod.itemsAt "containers").map (fun c =>
          (c.at? ["startupProbe", "httpGet", "port"]).bind intOrText?) = [some (.number 80)] ∧
        (pod.itemsAt "volumes").map keys = [["hostPath", "name"]]) ∧
    ∃ m, ofText portlessText = .ok m ∧
      (∃ root, Yaml.ofText? portlessText = some root ∧
        m.descriptor.KeepsChoices .job ((root.at? (podPath m.kind)).getD .null)) ∧
      ∃ pod, (m.descriptor.manifest .job).at? Kind.job.podSpecPath = some pod ∧
        (pod.itemsAt "containers").map probes = [[none, none, none]] := by
  intro keys probes
  constructor
  case left =>
    refine ⟨_, rfl, (choices_survive .job).1 _ _ rfl, _, Descriptor.podSpec_manifest .job _, ?_⟩
    decide +kernel
  case right =>
    have known : (ofText portlessText).toOption.any (fun m =>
        ((m.descriptor.podSpec (Descriptor.policyOf .job)).itemsAt "containers").map probes =
          [[none, none, none]]) = true := by
      decide +kernel
    obtain ⟨m, accepted, dropped⟩ := exists_ok_of_any known
    exact ⟨m, accepted, (choices_survive .job).2 _ _ accepted, _,
      Descriptor.podSpec_manifest .job _, of_decide_eq_true dropped⟩

end Manifest

end WorkloadForms
