import WorkloadForms.Proofs.ReadBack.Container

/-!
# What comes back of the settings of pods

The settings of the pods of a workload, its containers and volumes apart, are written where they say
something and are read where they stand. `Descriptor.PodIsReadAs` says what becomes of each of them,
and `Descriptor.pod_survives` that this is so for every kind.
-/

namespace WorkloadForms

open Form Yaml

namespace Form

/-! ## How the settings come back -/

/-- A toleration comes back without empty texts. -/
structure Toleration.IsReadAs (t u : Toleration) : Prop where
  key : u.key = t.key.filter (· ≠ "")
  operator : u.operator = t.operator
  value : u.value = t.value.filter (· ≠ "")
  effect : u.effect = t.effect.filter (· ≠ "")
  tolerationSeconds : u.tolerationSeconds = t.tolerationSeconds

/-- Whether something is set for the resolver: a name server, a search domain, or an option with a
name. -/
def DnsConfig.IsSet (d : DnsConfig) : Prop :=
  Text.commas d.nameservers ≠ [] ∨ Text.commas d.searches ≠ [] ∨ ∃ o ∈ d.options, o.name ≠ ""

instance (d : DnsConfig) : Decidable d.IsSet := inferInstanceAs (Decidable (_ ∨ _ ∨ _))

/-- The settings of the resolver come back with trimmed name servers and search domains, and with
the options that have a name. -/
structure DnsConfig.IsReadAs (d e : DnsConfig) : Prop where
  nameservers : e.nameservers = Text.joined ',' (Text.commas d.nameservers)
  searches : e.searches = Text.joined ',' (Text.commas d.searches)
  options : e.options = d.options.filter (·.name ≠ "")

/-- Whether scheduling rules have no row. -/
def Scheduling.HasNoRow (s : Scheduling) : Prop :=
  s.nodeRequired = [] ∧ s.nodePreferred = [] ∧ s.podRequired = [] ∧ s.podPreferred = [] ∧
    s.antiRequired = [] ∧ s.antiPreferred = []

end Form

/-- The settings of pods that come back: as they were, but for what says nothing. -/
structure Descriptor.PodIsReadAs (d n : Descriptor) : Prop where
  tolerations : List.Forall₂ Toleration.IsReadAs d.tolerations n.tolerations
  nodeSelector : n.nodeSelector = d.nodeSelector
  imagePullSecrets : n.imagePullSecrets = d.imagePullSecrets.filter (· ≠ "")
  dnsPolicy : n.dnsPolicy = d.dnsPolicy
  dnsConfig : Option.Rel DnsConfig.IsReadAs (d.dnsConfig.filter (·.IsSet)) n.dnsConfig
  terminationGracePeriodSeconds :
    n.terminationGracePeriodSeconds = d.terminationGracePeriodSeconds
  hostNetwork : n.hostNetwork = d.hostNetwork
  hostPid : n.hostPid = d.hostPid
  hostIpc : n.hostIpc = d.hostIpc
  scheduling : n.scheduling = none ↔ ∀ s ∈ d.scheduling, s.HasNoRow

namespace Form

/-! ## The normal forms of the settings -/

theorem Toleration.isReadAs_normal (t : Toleration) : t.IsReadAs t.normal where
  key := bind_filled_eq_filter t.key
  operator := rfl
  value := bind_filled_eq_filter t.value
  effect := bind_filled_eq_filter t.effect
  tolerationSeconds := rfl

/-- The names that are not empty. -/
theorem filterMap_filled (names : List String) :
    names.filterMap filled = names.filter (· ≠ "") := by
  rw [← List.filterMap_eq_filter]
  congr 1
  funext s
  by_cases h : s = "" <;> simp [filled, h, Option.guard]

theorem DnsConfig.isReadAs_normal (d : DnsConfig) : d.IsReadAs d.normal where
  nameservers := rfl
  searches := rfl
  options := by
    have named : DnsOption.isNamed = fun o => decide (o.name ≠ "") := by
      funext o
      by_cases h : o.name = "" <;> simp [DnsOption.isNamed, h]
    rw [normal, named]

/-- Something is set for the resolver if something is left of the normal form. -/
theorem DnsConfig.isGiven_normal (d : DnsConfig) : d.normal.isGiven = true ↔ d.IsSet := by
  simp [isGiven, normal, IsSet, DnsOption.isNamed, or_assoc]

/-- The settings of the resolver that come back. -/
theorem DnsConfig.rel_normal? (d : Option DnsConfig) :
    Option.Rel IsReadAs (d.filter (·.IsSet)) (d.bind normal?) :=
  rel_filter_guard isGiven_normal isReadAs_normal d

theorem Scheduling.isEmpty_iff (s : Scheduling) : s.isEmpty = true ↔ s.HasNoRow := by
  simp [isEmpty, HasNoRow, and_assoc]

/-- Scheduling rules come back unless they have no row. -/
theorem Scheduling.bind_normal?_eq_none_iff (o : Option Scheduling) :
    o.bind normal? = none ↔ ∀ s ∈ o, s.HasNoRow := by
  simp [normal?, ← isEmpty_iff]

end Form

namespace Descriptor

/-- What comes back has the settings of the pods of the descriptor. -/
theorem podIsReadAs_normalPod (base d : Descriptor) : d.PodIsReadAs (base.normalPod d) where
  tolerations := forall₂_map Toleration.isReadAs_normal d.tolerations
  nodeSelector := rfl
  imagePullSecrets := filterMap_filled d.imagePullSecrets
  dnsPolicy := rfl
  dnsConfig := DnsConfig.rel_normal? d.dnsConfig
  terminationGracePeriodSeconds := rfl
  hostNetwork := rfl
  hostPid := rfl
  hostIpc := rfl
  scheduling := Scheduling.bind_normal?_eq_none_iff d.scheduling

/-- Every manifest is read back with the settings of the pods of its descriptor. -/
theorem pod_survives (k : Kind) (d : Descriptor) : ∃ n, ReadsBack k d n ∧ d.PodIsReadAs n := by
  refine ⟨d.normal k, readsBack_normal k d, ?_⟩
  rw [← normalPod_normal]
  exact podIsReadAs_normalPod _ d

end Descriptor

end WorkloadForms
