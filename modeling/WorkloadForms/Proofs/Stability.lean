import WorkloadForms.Proofs.Named

/-!
# Manifests are stable under reading and writing

A descriptor that is written for a kind, read back and written again gives the manifest it gave
before exactly when everything in it is named: `Descriptor.rewrite_iff`. What is read back is a
fixed point: `Descriptor.reread_fixed`. A descriptor that was read from a manifest without tags is
stable for every kind: `Manifest.rewrite_of_ofText`.
-/

namespace WorkloadForms

namespace Descriptor

/-- The text of a manifest starts with a word. -/
theorem blank_render (k : Kind) (d : Descriptor) : Text.blank (d.render k) = false := by
  have first : Yaml.keyChars 0 (.text "apiVersion") = "apiVersion".toList := by decide +kernel
  refine Text.blank_eq_false_of_mem (c := 'a') ?_ (by decide)
  simp [render, manifest, Yaml.dict, Yaml.write, Yaml.entryLines, first]

/-- The text of a manifest is read like the manifest, if it writes that. -/
theorem ofText_render {k : Kind} {d : Descriptor}
    (written : Yaml.ofText? (d.render k) = some (d.manifest k)) :
    Manifest.ofText (d.render k) = .ok ⟨some k, d.normal k⟩ := by
  rw [Manifest.ofText_eq_ofYaml (blank_render k d) written, ofYaml_manifest]

/-! ## Stability -/

/-- Written for a kind, read back and written again, a descriptor gives the same manifest exactly
when all its variables, mounts and volumes are named. -/
theorem rewrite_iff (k : Kind) (d : Descriptor) :
    ∃ n : Descriptor,
      Manifest.ofYaml (d.manifest k) = .ok ⟨some k, n⟩ ∧
      (Yaml.ofText? (d.render k) = some (d.manifest k) →
        Manifest.ofText (d.render k) = .ok ⟨some k, n⟩) ∧
      (n.manifest k = d.manifest k ↔ d.IsNamed) :=
  ⟨d.normal k, ofYaml_manifest k d, ofText_render, by rw [manifest_normal, manifest_named_iff]⟩

/-- What is read of a manifest that was written for a kind is read again of its own manifest. -/
theorem reread_fixed (k : Kind) (d : Descriptor) :
    ∃ n : Descriptor,
      Manifest.ofYaml (d.manifest k) = .ok ⟨some k, n⟩ ∧
      Manifest.ofYaml (n.manifest k) = .ok ⟨some k, n⟩ ∧
      (Yaml.ofText? (d.render k) = some (d.manifest k) →
        Manifest.ofText (d.render k) = .ok ⟨some k, n⟩) ∧
      (Yaml.ofText? (n.render k) = some (n.manifest k) →
        Manifest.ofText (n.render k) = .ok ⟨some k, n⟩) := by
  have fixed : Manifest.ofYaml ((d.normal k).manifest k) = .ok ⟨some k, d.normal k⟩ := by
    rw [ofYaml_manifest, normal_normal]
  refine ⟨d.normal k, ofYaml_manifest k d, fixed, ofText_render, fun written => ?_⟩
  rw [Manifest.ofText_eq_ofYaml (blank_render k _) written, fixed]

end Descriptor

/-- A descriptor that was read from a text without tags gives the same manifest, for every kind,
when it is written, read back and written again. -/
theorem Manifest.rewrite_of_ofText {s : String} {y : Yaml} {m : Manifest}
    (accepted : Manifest.ofText s = .ok m) (written : Yaml.ofText? s = some y) (free : y.TagFree)
    (k : Kind) :
    ∃ n : Descriptor,
      Manifest.ofYaml (m.descriptor.manifest k) = .ok ⟨some k, n⟩ ∧
      (Yaml.ofText? (m.descriptor.render k) = some (m.descriptor.manifest k) →
        Manifest.ofText (m.descriptor.render k) = .ok ⟨some k, n⟩) ∧
      n.manifest k = m.descriptor.manifest k ∧
      n.render k = m.descriptor.render k := by
  obtain ⟨y', written', read⟩ := Manifest.exists_of_ofText accepted
  obtain rfl := Option.some.inj (written.symm.trans written')
  have isNamed : m.descriptor.IsNamed := by
    rw [Manifest.eq_ofRoot_of_ofYaml read]
    exact Descriptor.isNamed_ofManifest _ free (Yaml.distinctKeys_of_ofText? written)
  have same : (m.descriptor.normal k).manifest k = m.descriptor.manifest k := by
    rw [Descriptor.manifest_normal, Descriptor.named_eq_self isNamed]
  refine ⟨m.descriptor.normal k, Descriptor.ofYaml_manifest k _, Descriptor.ofText_render, same, ?_⟩
  rw [Descriptor.render, same, Descriptor.render]

/-- A manifest with a variable from a source, a probe, a mount, a volume and an affinity. -/
def Manifest.pinned : String := String.join [
  "kind: Deployment\n", "spec:\n", "  template:\n", "    spec:\n", "      containers:\n",
  "      - env:\n", "        - name: NODE\n", "          valueFrom:\n",
  "            fieldRef:\n", "              fieldPath: spec.nodeName\n",
  "        livenessProbe:\n", "          tcpSocket:\n", "            port: 80\n",
  "        volumeMounts:\n", "        - mountPath: /data\n", "          name: data\n",
  "      volumes:\n", "      - name: data\n", "        hostPath:\n", "          path: /srv\n",
  "      affinity:\n", "        nodeAffinity:\n",
  "          requiredDuringSchedulingIgnoredDuringExecution:\n",
  "            nodeSelectorTerms:\n", "            - matchExpressions:\n",
  "              - key: disk\n", "                operator: Exists\n"]

/-- All of the manifest is read. As a job it is written as a text that is read back, and that is
written again. -/
theorem Manifest.rewrite_pinned :
    ∃ (y : Yaml) (m : Manifest), Manifest.ofText pinned = .ok m ∧
      Yaml.ofText? pinned = some y ∧ y.TagFree ∧
      (m.descriptor.containers.map (fun c =>
          (c.env.map (·.name), c.livenessProbe.isSome, c.volumeMounts.map (·.name))) =
        [(["NODE"], true, ["data"])] ∧
        m.descriptor.volumes.map (·.name) = ["data"] ∧ m.descriptor.scheduling.isSome = true) ∧
      ∃ n : Descriptor,
        Manifest.ofYaml (m.descriptor.manifest .job) = .ok ⟨some .job, n⟩ ∧
        Manifest.ofText (m.descriptor.render .job) = .ok ⟨some .job, n⟩ ∧
        n.manifest .job = m.descriptor.manifest .job ∧
        n.render .job = m.descriptor.render .job := by
  have known : (Yaml.ofText? pinned).any (fun y => (Manifest.ofYaml y).toOption.any fun m =>
      y.TagFree ∧
        (m.descriptor.containers.map (fun c =>
            (c.env.map (·.name), c.livenessProbe.isSome, c.volumeMounts.map (·.name))) =
          [(["NODE"], true, ["data"])] ∧
          m.descriptor.volumes.map (·.name) = ["data"] ∧ m.descriptor.scheduling.isSome = true) ∧
        Yaml.ofText? (m.descriptor.render .job) = some (m.descriptor.manifest .job)) = true := by
    rw [pinned, Yaml.ofText?_of_toList String.toList_join]
    simp only [Descriptor.render, Yaml.write, Yaml.ofText?_of_toList String.toList_ofList]
    decide +kernel
  obtain ⟨y, m, written, accepted, known⟩ :=
    Manifest.exists_of_any String.toList_join (by decide +kernel) known
  obtain ⟨free, parts, again⟩ := of_decide_eq_true known
  obtain ⟨n, read, readText, same⟩ := Manifest.rewrite_of_ofText accepted written free .job
  exact ⟨y, m, accepted, written, free, parts, n, read, readText again, same⟩

end WorkloadForms
