import Mathlib.Data.List.Forall2
import WorkloadForms.Proofs.ReadBack
import WorkloadForms.Proofs.ReadBack.Probe

/-!
# What comes back of containers

A container that is written to a manifest is read as one with the same settings
(`Container.IsReadAs`), but for what says nothing: empty texts, blank lines, variables and mounts
without a name, amounts and hooks and probes that are not written. A name and an image are filled
in. `Descriptor.containers_survive` says so of all containers of a descriptor, in their order.
-/

namespace WorkloadForms

open Form

/-! ## Values that may be missing -/

/-- Dropping what is not to be kept, and relating the rest one by one. -/
theorem rel_filter_bind {p : α → Prop} [DecidablePred p] {f : α → Option β} {R : α → β → Prop}
    (dropped : ∀ a, ¬p a → f a = none) (kept : ∀ a, p a → ∃ b, f a = some b ∧ R a b)
    (o : Option α) : Option.Rel R (o.filter (p ·)) (o.bind f) := by
  cases o with
  | none => exact .none
  | some a =>
    by_cases h : p a
    · obtain ⟨b, hb, related⟩ := kept a h
      simpa [Option.filter_some, h, hb] using Option.Rel.some related
    · simp [Option.filter_some, h, dropped a h]

/-- `rel_filter_bind` for a value that is reduced, and dropped if nothing is left of it. -/
theorem rel_filter_guard {p : α → Prop} [DecidablePred p] {test : β → Bool} {f : α → β}
    {R : α → β → Prop} (left : ∀ a, test (f a) = true ↔ p a) (related : ∀ a, R a (f a))
    (o : Option α) : Option.Rel R (o.filter (p ·)) (o.bind fun a => Option.guard test (f a)) := by
  refine rel_filter_bind (fun a ha => ?_) (fun a ha => ⟨f a, ?_, related a⟩) o
  · rw [Option.guard_eq_none_iff, Bool.eq_false_iff, Ne, left]
    exact ha
  · rw [Option.guard_eq_some_iff, left]
    exact ⟨rfl, ha⟩

/-- What is related to a value that is kept is there if that value is there and kept. -/
theorem isSome_iff_of_rel {p : α → Prop} [DecidablePred p] {R : α → β → Prop} {o : Option α}
    {b : Option β} (h : Option.Rel R (o.filter (p ·)) b) : b.isSome = true ↔ ∃ a ∈ o, p a := by
  have both : ∀ {kept : Option α}, Option.Rel R kept b → b.isSome = kept.isSome := by
    rintro _ (_ | _) <;> rfl
  rw [both h]
  cases o <;> simp [Option.isSome_filter]

/-- A text that is left out when it is empty. -/
theorem bind_filled_eq_filter (o : Option String) : o.bind filled = o.filter (· ≠ "") := by
  cases o with
  | none => rfl
  | some s => by_cases h : s = "" <;> simp [filled, h, Option.filter_some]

namespace Form

/-! ## How the parts of a container come back -/

/-- A port comes back with its number, without an empty name, and without the protocol that a port
has anyway. -/
structure Port.IsReadAs (p q : Port) : Prop where
  containerPort : q.containerPort = p.containerPort
  name : q.name = p.name.filter (· ≠ "")
  protocol : q.protocol = p.protocol.filter (· ≠ .tcp)

/-- A variable comes back with its source if it has one, and otherwise with its literal value, which
is empty if it is missing. -/
structure EnvVar.IsReadAs (e f : EnvVar) : Prop where
  name : f.name = e.name
  valueFrom : f.valueFrom = e.valueFrom
  value : f.value = if e.valueFrom = none then some (e.value.getD "") else none

/-- Whether an amount is given that is not empty. -/
def Quantities.HasAmount (q : Quantities) : Prop :=
  ∃ a ∈ [q.cpu, q.memory, q.gpu], ∃ s ∈ a, s ≠ ""

instance (q : Quantities) : Decidable q.HasAmount :=
  inferInstanceAs (Decidable (∃ a ∈ [q.cpu, q.memory, q.gpu], ∃ s ∈ a, s ≠ ""))

/-- Amounts come back without the empty ones. -/
structure Quantities.IsReadAs (q r : Quantities) : Prop where
  cpu : r.cpu = q.cpu.filter (· ≠ "")
  memory : r.memory = q.memory.filter (· ≠ "")
  gpu : r.gpu = q.gpu.filter (· ≠ "")

/-- Whether an amount is requested or limited that is not empty. -/
def Resources.HasAmount (r : Resources) : Prop :=
  (∃ q ∈ r.requests, q.HasAmount) ∨ ∃ q ∈ r.limits, q.HasAmount

instance (r : Resources) : Decidable r.HasAmount :=
  inferInstanceAs (Decidable ((∃ q ∈ r.requests, q.HasAmount) ∨ ∃ q ∈ r.limits, q.HasAmount))

/-- Resources come back with the requests and the limits that have an amount. -/
structure Resources.IsReadAs (r s : Resources) : Prop where
  requests : Option.Rel Quantities.IsReadAs (r.requests.filter (·.HasAmount)) s.requests
  limits : Option.Rel Quantities.IsReadAs (r.limits.filter (·.HasAmount)) s.limits

/-- A mount comes back without an empty path inside of its volume. -/
structure VolumeMount.IsReadAs (m n : VolumeMount) : Prop where
  name : n.name = m.name
  mountPath : n.mountPath = m.mountPath
  subPath : n.subPath = m.subPath.filter (· ≠ "")
  readOnly : n.readOnly = m.readOnly

/-- The words that a hook runs. -/
def Hook.words (h : Hook) : List String := (h.exec.map fun c => Text.lines c.lines).getD []

/-- A hook comes back with its words, one a line. -/
def Hook.IsReadAs (h g : Hook) : Prop := g.exec = some ⟨Text.joined '\n' h.words⟩

/-- Whether one of the hooks runs something. -/
def Lifecycle.Runs (l : Lifecycle) : Prop :=
  (∃ h ∈ l.postStart, h.words ≠ []) ∨ ∃ h ∈ l.preStop, h.words ≠ []

instance (l : Lifecycle) : Decidable l.Runs :=
  inferInstanceAs
    (Decidable ((∃ h ∈ l.postStart, h.words ≠ []) ∨ ∃ h ∈ l.preStop, h.words ≠ []))

/-- Hooks come back if they run something. -/
structure Lifecycle.IsReadAs (l m : Lifecycle) : Prop where
  postStart : Option.Rel Hook.IsReadAs (l.postStart.filter (·.words ≠ [])) m.postStart
  preStop : Option.Rel Hook.IsReadAs (l.preStop.filter (·.words ≠ [])) m.preStop

/-- A container comes back with a name and an image, with its commands in trimmed lines, and with
its other settings as far as they say something. -/
structure Container.IsReadAs (c n : Container) : Prop where
  name : n.name = if c.name = "" then "main" else c.name
  image : n.image = if c.image = "" then "nginx:latest" else c.image
  imagePullPolicy : n.imagePullPolicy = c.imagePullPolicy
  command : n.command = Text.joined '\n' (Text.lines c.command)
  args : n.args = Text.joined '\n' (Text.lines c.args)
  workingDir : n.workingDir = c.workingDir.filter (· ≠ "")
  ports : List.Forall₂ Port.IsReadAs c.ports n.ports
  env : List.Forall₂ EnvVar.IsReadAs (c.env.filter fun e => !Text.blank e.name) n.env
  resources : Option.Rel Resources.IsReadAs (c.resources.filter (·.HasAmount)) n.resources
  volumeMounts : List.Forall₂ VolumeMount.IsReadAs
    (c.volumeMounts.filter fun m => !Text.blank m.name && !Text.blank m.mountPath) n.volumeMounts
  lifecycle : Option.Rel Lifecycle.IsReadAs (c.lifecycle.filter (·.Runs)) n.lifecycle
  livenessProbe :
    Option.Rel Probe.IsReadAs (c.livenessProbe.filter (¬ ·.IsSilent)) n.livenessProbe
  readinessProbe :
    Option.Rel Probe.IsReadAs (c.readinessProbe.filter (¬ ·.IsSilent)) n.readinessProbe
  startupProbe : Option.Rel Probe.IsReadAs (c.startupProbe.filter (¬ ·.IsSilent)) n.startupProbe
  stdin : n.stdin = c.stdin
  tty : n.tty = c.tty

/-! ## The normal forms of the parts -/

theorem Port.isReadAs_normal (p : Port) : p.IsReadAs p.normal where
  containerPort := rfl
  name := bind_filled_eq_filter p.name
  protocol := by
    have other (q : Protocol) : (q != .tcp) = decide (q ≠ .tcp) := by cases q <;> rfl
    simp only [normal, other]

theorem EnvVar.isReadAs_normal (e : EnvVar) : e.IsReadAs e.normal := by
  cases h : e.valueFrom <;> constructor <;> simp [normal, h]

theorem VolumeMount.isReadAs_normal (m : VolumeMount) : m.IsReadAs m.normal where
  name := rfl
  mountPath := rfl
  subPath := bind_filled_eq_filter m.subPath
  readOnly := rfl

theorem Quantities.isReadAs_normal (q : Quantities) : q.IsReadAs q.normal where
  cpu := bind_filled_eq_filter q.cpu
  memory := bind_filled_eq_filter q.memory
  gpu := bind_filled_eq_filter q.gpu

/-- Amounts have one that is not empty if one is left of their normal form. -/
theorem Quantities.isGiven_normal (q : Quantities) : q.normal.isGiven = true ↔ q.HasAmount := by
  have left (o : Option String) : (o.bind filled).isSome = true ↔ ∃ s ∈ o, s ≠ "" := by
    cases o with
    | none => simp
    | some s => by_cases h : s = "" <;> simp [filled, h]
  simp only [isGiven, normal, Bool.or_eq_true, left, HasAmount, List.mem_cons, List.not_mem_nil,
    or_false, exists_eq_or_imp, exists_eq_left, or_assoc]

/-- The amounts that come back. -/
theorem Quantities.rel_normal? (q : Option Quantities) :
    Option.Rel IsReadAs (q.filter (·.HasAmount)) (q.bind normal?) :=
  rel_filter_guard isGiven_normal isReadAs_normal q

theorem Resources.isReadAs_normal (r : Resources) : r.IsReadAs r.normal where
  requests := Quantities.rel_normal? r.requests
  limits := Quantities.rel_normal? r.limits

/-- Resources have an amount if amounts are left of their normal form. -/
theorem Resources.isGiven_normal (r : Resources) : r.normal.isGiven = true ↔ r.HasAmount := by
  rw [isGiven, Bool.or_eq_true, isSome_iff_of_rel r.isReadAs_normal.requests,
    isSome_iff_of_rel r.isReadAs_normal.limits, HasAmount]

/-- The resources that come back. -/
theorem Resources.rel_normal? (r : Option Resources) :
    Option.Rel IsReadAs (r.filter (·.HasAmount)) (r.bind normal?) :=
  rel_filter_guard isGiven_normal isReadAs_normal r

/-- The hook that comes back. -/
theorem Hook.rel_normal? (h : Option Hook) :
    Option.Rel IsReadAs (h.filter (·.words ≠ [])) (h.bind normal?) := by
  refine rel_filter_bind (fun h hw => ?_) (fun h hw => ?_) h
  · rcases h with ⟨_ | c⟩
    · rfl
    · simp_all [words, normal?]
  · rcases h with ⟨_ | c⟩
    · exact absurd rfl hw
    · exact ⟨⟨some ⟨Text.joined '\n' (Text.lines c.lines)⟩⟩, by simp_all [words, normal?], rfl⟩

theorem Lifecycle.isReadAs_normal (l : Lifecycle) : l.IsReadAs l.normal where
  postStart := Hook.rel_normal? l.postStart
  preStop := Hook.rel_normal? l.preStop

/-- One of the hooks runs something if a hook is left of their normal form. -/
theorem Lifecycle.isGiven_normal (l : Lifecycle) : l.normal.isGiven = true ↔ l.Runs := by
  rw [isGiven, Bool.or_eq_true, isSome_iff_of_rel l.isReadAs_normal.postStart,
    isSome_iff_of_rel l.isReadAs_normal.preStop, Runs]

/-- The hooks that come back. -/
theorem Lifecycle.rel_normal? (l : Option Lifecycle) :
    Option.Rel IsReadAs (l.filter (·.Runs)) (l.bind normal?) :=
  rel_filter_guard isGiven_normal isReadAs_normal l

/-- The probe that comes back. -/
theorem Probe.rel_normal? (p : Option Probe) :
    Option.Rel IsReadAs (p.filter (¬ ·.IsSilent)) (p.bind normal?) := by
  refine rel_filter_bind (fun p silent => ?_) (fun p loud => ?_) p
  · rw [normal?_eq, if_pos (not_not.1 silent)]
  · exact ⟨_, by rw [normal?_eq, if_neg loud], p.isReadAs_withHandler⟩

/-! ## The normal form of a container -/

/-- A text that is filled in when it is empty. -/
theorem filled_getD_eq_ite (s default : String) :
    (filled s).getD default = if s = "" then default else s := by
  by_cases h : s = "" <;> simp [filled, h]

/-- The items of a list come back one by one if each one does. -/
theorem forall₂_map {R : α → β → Prop} {f : α → β} (h : ∀ a, R a (f a)) (l : List α) :
    List.Forall₂ R l (l.map f) := by
  rw [List.forall₂_map_right_iff, List.forall₂_same]
  exact fun a _ => h a

/-- A container comes back as its normal form. -/
theorem Container.isReadAs_normal (c : Container) : c.IsReadAs c.normal where
  name := filled_getD_eq_ite c.name _
  image := filled_getD_eq_ite c.image _
  imagePullPolicy := rfl
  command := rfl
  args := rfl
  workingDir := bind_filled_eq_filter c.workingDir
  ports := forall₂_map Port.isReadAs_normal c.ports
  env := forall₂_map EnvVar.isReadAs_normal _
  resources := Resources.rel_normal? c.resources
  volumeMounts := forall₂_map VolumeMount.isReadAs_normal _
  lifecycle := Lifecycle.rel_normal? c.lifecycle
  livenessProbe := Probe.rel_normal? c.livenessProbe
  readinessProbe := Probe.rel_normal? c.readinessProbe
  startupProbe := Probe.rel_normal? c.startupProbe
  stdin := rfl
  tty := rfl

end Form

namespace Descriptor

theorem containers_normal (k : Kind) (d : Descriptor) :
    (d.normal k).containers = d.containers.map Container.normal ∧
      (d.normal k).initContainers = d.initContainers.map Container.normal := by
  cases k <;> exact ⟨rfl, rfl⟩

/-- Every manifest is read back, with as many containers in the same order, each of which comes back
with its settings. -/
theorem containers_survive (k : Kind) (d : Descriptor) :
    ∃ n, ReadsBack k d n ∧ List.Forall₂ Container.IsReadAs d.containers n.containers ∧
      List.Forall₂ Container.IsReadAs d.initContainers n.initContainers := by
  obtain ⟨containers, initContainers⟩ := containers_normal k d
  refine ⟨d.normal k, readsBack_normal k d, ?_, ?_⟩
  · rw [containers]
    exact forall₂_map Container.isReadAs_normal d.containers
  · rw [initContainers]
    exact forall₂_map Container.isReadAs_normal d.initContainers

end Descriptor

end WorkloadForms
