import WorkloadForms.Proofs.WellFormed

/-!
# A probe keeps its meaning in a manifest

What a probe means is its handler and its times; the objects that its type does not name mean
nothing. A probe is written unless it says nothing (`Probe.IsSilent`), what is written carries its
handler and its times and no other handler (`Probe.IsWrittenAs`), and what is read of that means the
same (`Probe.IsReadAs`). `Probe.meaning_survives` puts these together, for every probe and whatever
is left over in it.
-/

namespace WorkloadForms.Form

open Yaml

/-! ## What a probe means -/

/-- The type of the probes that perform a handler. -/
def Handler.type : Handler → ProbeType
  | .httpGet .. => .httpGet
  | .exec _ => .exec
  | .tcpSocket _ => .tcpSocket

/-- The times and thresholds of a probe, each under its key in a manifest. -/
def Probe.times (p : Probe) : List (String × Option Int32) :=
  [("initialDelaySeconds", p.initialDelaySeconds), ("periodSeconds", p.periodSeconds),
   ("timeoutSeconds", p.timeoutSeconds), ("successThreshold", p.successThreshold),
   ("failureThreshold", p.failureThreshold)]

/-- Whether a probe says nothing: it is not enabled, or it neither performs a handler nor sets a
time. -/
def Probe.IsSilent (p : Probe) : Prop :=
  p.enabled = false ∨ (p.handler? = none ∧ ∀ t ∈ p.times, t.2 = none)

instance (p : Probe) : Decidable p.IsSilent := inferInstanceAs (Decidable (_ ∨ _))

/-- Whether a written probe has the object of a handler: the path, the port and the scheme of a
request, the words of a command, the port of a connection. -/
def Handler.IsWrittenIn (y : Yaml) : Handler → Prop
  | .httpGet path port scheme => ∃ request, y.get? "httpGet" = some request ∧
      request.get? "path" = some (.text path) ∧ request.get? "port" = some (ofIntOrText port) ∧
      request.get? "scheme" = scheme.map ofWord
  | .exec command => ∃ action, y.get? "exec" = some action ∧
      action.get? "command" = some (.texts command)
  | .tcpSocket port => ∃ connection, y.get? "tcpSocket" = some connection ∧
      connection.get? "port" = some (ofIntOrText port)

/-- What is written for a probe: its handler, no object of another type, and its times. -/
structure Probe.IsWrittenAs (p : Probe) (y : Yaml) : Prop where
  handled : ∀ h ∈ p.handler?, h.IsWrittenIn y
  only : ∀ t : ProbeType,
    (y.get? (Vocabulary.word t)).isSome = true ↔ p.handler?.map Handler.type = some t
  timed : ∀ t ∈ p.times, y.get? t.1 = t.2.map ofInt32

/-- What is read of a probe: one that is enabled, with the same handler and the same times, and with
the object of that handler alone. -/
structure Probe.IsReadAs (p q : Probe) : Prop where
  enabled : q.enabled = true
  handled : q.handler? = p.handler?
  only : ∀ t : ProbeType, q.has t = true ↔ p.handler?.map Handler.type = some t
  timed : q.times = p.times

namespace Probe

/-! ## Writing -/

theorem hasTiming_eq_false_iff (p : Probe) : p.hasTiming = false ↔ ∀ t ∈ p.times, t.2 = none := by
  simp [hasTiming, times, and_assoc]

theorem isSilent_iff (p : Probe) :
    (!p.enabled || (p.handler?.isNone && !p.hasTiming)) = true ↔ p.IsSilent := by
  simp [IsSilent, hasTiming_eq_false_iff]

/-- A probe that says nothing is not written, and any other one is written as its object. -/
theorem toYaml?_eq (p : Probe) : p.toYaml? = if p.IsSilent then none else some p.object := by
  simp only [toYaml?, isSilent_iff]
  rfl

/-- A probe that says nothing does not come back, and any other one comes back with its own handler
alone. -/
theorem normal?_eq (p : Probe) :
    p.normal? = if p.IsSilent then none else some (p.withHandler p.handler?) := by
  simp only [normal?, isSilent_iff]

/-- The object of a probe carries what the probe means. -/
theorem isWrittenAs_object (p : Probe) : p.IsWrittenAs p.object where
  handled h hh := by
    have written := handler?_isWritten hh
    rw [object, hh]
    cases h with
    | httpGet path port scheme => simp [Handler.IsWrittenIn, Handler.at?, Handler.entry]
    | exec command =>
      -- a list without words is not written, but a command has words
      obtain ⟨filled, -⟩ := written
      cases command with
      | nil => exact absurd rfl filled
      | cons =>
        simp [Handler.IsWrittenIn, Handler.at?, Handler.entry, commandYaml, ofTexts, texts]
    | tcpSocket port => simp [Handler.IsWrittenIn, Handler.at?, Handler.entry]
  only t := by
    rw [object]
    cases p.handler? with
    | none => cases t <;> simp [Vocabulary.word, Handler.at?]
    | some h =>
      cases h <;> cases t <;> simp [Vocabulary.word, Handler.at?, Handler.entry, Handler.type]
  timed := by simp [times, object]

/-! ## Reading -/

/-- A probe with its own handler alone means what the probe means. -/
theorem isReadAs_withHandler (p : Probe) : p.IsReadAs (p.withHandler p.handler?) where
  enabled := rfl
  handled := p.handler?_normal
  only t := by
    cases p.handler? with
    | none => cases t <;> simp [has, withHandler]
    | some h => cases h <;> cases t <;> simp [has, withHandler, Handler.type]
  timed := rfl

/-- A probe keeps its meaning: it is written unless it says nothing, what is written carries its
handler and its times, and under whatever key that stands, a probe with the same meaning is read
there. -/
theorem meaning_survives (p : Probe) :
    (p.toYaml? = none ↔ p.IsSilent) ∧
    ∀ y ∈ p.toYaml?, p.IsWrittenAs y ∧
      ∀ (owner : Yaml) (key : String), owner.get? key = some y →
        ∃ q, Probe.at? owner key = some q ∧ p.IsReadAs q := by
  rw [toYaml?_eq]
  split
  · next silent => simp [silent]
  · next loud =>
    refine ⟨by simp [loud], fun y hy => ?_⟩
    obtain rfl := Option.some.inj hy
    refine ⟨p.isWrittenAs_object, fun owner key written => ?_⟩
    have read : Probe.at? owner key = p.normal? :=
      Probe.at?_eq (p := some p) (by rw [written, Option.bind_some, toYaml?_eq, if_neg loud])
    exact ⟨_, by rw [read, normal?_eq, if_neg loud], p.isReadAs_withHandler⟩

end Probe

end WorkloadForms.Form
