import WorkloadForms.Manifest.Probe
import WorkloadForms.Proofs.Object
import WorkloadForms.Proofs.Text.Token

/-!
# The normal form of a probe

What becomes of a probe that is written to a manifest and read back: `Probe.normal?`. A probe that
is written is enabled, has the handler of its type and no other one, and its command in trimmed
lines without blank ones. `Probe.at?_eq` says that this is what is read, and
`Probe.bind_normal?_toYaml?` that it is written like the probe itself.
-/

namespace WorkloadForms.Form

open Yaml

/-- The probe that is enabled and has this handler alone. -/
def Probe.withHandler (p : Probe) (h : Option Handler) : Probe :=
  { p with
    enabled := true
    type := match h with
      | some (.exec _) => .exec
      | some (.tcpSocket _) => .tcpSocket
      | _ => .httpGet
    httpGet := match h with
      | some (.httpGet path port scheme) => some ⟨some path, some port, scheme⟩
      | _ => none
    exec := match h with
      | some (.exec command) => some ⟨Text.joined '\n' command⟩
      | _ => none
    tcpSocket := match h with
      | some (.tcpSocket port) => some ⟨some port⟩
      | _ => none }

/-- A probe as it comes back from a manifest, if it is written to one. -/
def Probe.normal? (p : Probe) : Option Probe :=
  if !p.enabled || (p.handler?.isNone && !p.hasTiming) then none
  else some (p.withHandler p.handler?)

/-! ## Commands -/

/-- A command object is one that the schema of commands takes. -/
@[simp] theorem accepts_commandYaml (command : List String) :
    Schema.execAction.accepts (commandYaml command) = true := by
  simp [Schema.execAction, commandYaml]

@[simp] theorem isNull_commandYaml (command : List String) : (commandYaml command).isNull = false :=
  rfl

/-- The command of a command object. -/
@[simp] theorem Command.ofObject_commandYaml (command : List String) :
    Command.ofObject (commandYaml command) = ⟨Text.joined '\n' command⟩ := by
  simp [Command.ofObject, commandYaml, fieldTexts]

/-! ## The handler of a normal form -/

/-- A handler as it is written: a path is not empty, and a command is made of words. -/
def Handler.IsWritten : Handler → Prop
  | .httpGet path _ _ => path ≠ ""
  | .exec command => command ≠ [] ∧ ∃ s, command = Text.lines s
  | .tcpSocket _ => True

/-- The handler of a probe is one as it is written. -/
theorem Probe.handler?_isWritten {p : Probe} {h : Handler} (hp : p.handler? = some h) :
    h.IsWritten := by
  rw [Probe.handler?] at hp
  split at hp
  · obtain ⟨g, -, rfl⟩ := Option.map_eq_some_iff.1 hp
    cases hg : g.path.filter (!·.isEmpty) with
    | none => simp [Handler.IsWritten, defaultPath]
    | some path =>
      obtain ⟨-, filled⟩ := Option.filter_eq_some_iff.1 hg
      simpa [Handler.IsWritten] using filled
  · obtain ⟨command, hc, hp⟩ := Option.bind_eq_some_iff.1 hp
    obtain ⟨c, -, rfl⟩ := Option.map_eq_some_iff.1 hc
    split at hp
    · cases hp
    · next filled =>
      cases hp
      exact ⟨by simpa using filled, c.lines, rfl⟩
  · obtain ⟨port, -, rfl⟩ := Option.map_eq_some_iff.1 hp
    trivial

/-- A probe with a handler as it is written has that handler. -/
theorem Probe.handler?_withHandler (p : Probe) {h : Handler} (hw : h.IsWritten) :
    (p.withHandler (some h)).handler? = some h := by
  cases h with
  | httpGet path port scheme =>
    have : path ≠ "" := hw
    simp [Probe.handler?, withHandler, Option.filter_some, this]
  | exec command =>
    obtain ⟨filled, s, rfl⟩ := hw
    simpa [Probe.handler?, withHandler] using filled
  | tcpSocket port => rfl

/-- The normal form of a probe has the handler of the probe. -/
@[simp] theorem Probe.handler?_normal (p : Probe) :
    (p.withHandler p.handler?).handler? = p.handler? := by
  cases h : p.handler? with
  | none => rfl
  | some h' => exact p.handler?_withHandler (handler?_isWritten h)

/-- The normal form of a probe is the probe with its own handler alone. -/
theorem Probe.eq_of_normal? {p n : Probe} (h : p.normal? = some n) :
    n = p.withHandler p.handler? := by
  rw [normal?] at h
  split at h
  · cases h
  · exact (Option.some.inj h).symm

/-- The normal form of a probe is its own normal form. -/
theorem Probe.normal?_of_normal? {p n : Probe} (h : p.normal? = some n) : n.normal? = some n := by
  have hn := eq_of_normal? h
  rw [normal?] at h
  split at h
  · cases h
  · next shown =>
    subst hn
    rw [normal?, if_neg, handler?_normal]
    · rfl
    · rw [handler?_normal]
      simp only [Bool.or_eq_true, not_or] at shown ⊢
      exact ⟨by simp [withHandler], shown.2⟩

@[simp] theorem Probe.bind_normal?_normal? (p : Option Probe) :
    (p.bind normal?).bind normal? = p.bind normal? := by
  cases p with
  | none => rfl
  | some p =>
    cases h : p.normal? with
    | none => simp [h]
    | some n => simp [h, normal?_of_normal? h]

/-! ## Writing and reading -/

/-- What is written for a probe that is its own normal form. -/
def Probe.object (p : Probe) : Yaml :=
  .object
    [("exec", Handler.at? p.handler? "exec"),
     ("failureThreshold", p.failureThreshold.map ofInt32),
     ("httpGet", Handler.at? p.handler? "httpGet"),
     ("initialDelaySeconds", p.initialDelaySeconds.map ofInt32),
     ("periodSeconds", p.periodSeconds.map ofInt32),
     ("successThreshold", p.successThreshold.map ofInt32),
     ("tcpSocket", Handler.at? p.handler? "tcpSocket"),
     ("timeoutSeconds", p.timeoutSeconds.map ofInt32)]

/-- A probe is written as the object of its normal form. -/
theorem Probe.bind_toYaml?_eq (p : Option Probe) :
    p.bind toYaml? = (p.bind normal?).map object := by
  cases p with
  | none => rfl
  | some p =>
    simp only [Option.bind_some, toYaml?, normal?]
    split
    · rfl
    · simp only [Option.map_some, object, handler?_normal]
      rfl

/-- The object of a probe is one that the schema of probes takes. -/
theorem Probe.accepts_object (p : Probe) : Schema.probe.accepts p.object = true := by
  rw [object]
  cases p.handler? with
  | none => simp [Schema.probe, Handler.at?]
  | some h =>
    cases h <;>
      simp [Schema.probe, Handler.at?, Handler.entry, Schema.httpGetAction, Schema.tcpSocketAction]

/-- Under a key where a probe was written there is its normal form. -/
theorem Probe.at?_eq {y : Yaml} {key : String} {p : Option Probe}
    (written : y.get? key = p.bind toYaml?) : Probe.at? y key = p.bind normal? := by
  rw [bind_toYaml?_eq] at written
  rw [Probe.at?, Schema.at?_eq_map written (fun _ => rfl) accepts_object]
  cases p with
  | none => rfl
  | some p =>
    rw [Option.bind_some]
    cases h : p.normal? with
    | none => rfl
    | some n =>
      rw [eq_of_normal? h]
      simp only [Option.map_some, Option.bind_eq_bind, Option.bind_some, object, handler?_normal]
      cases p.handler? with
      | none => simp [Handler.at?, withHandler, field?_eq]
      | some h =>
        cases h <;>
          simp [Handler.at?, Handler.entry, withHandler, field?_eq, Option.filter_some, fieldWord?,
            portOf?]

/-- A probe and its normal form are written alike. -/
theorem Probe.bind_normal?_toYaml? (p : Option Probe) :
    (p.bind normal?).bind toYaml? = p.bind toYaml? := by
  rw [bind_toYaml?_eq, bind_normal?_normal?, bind_toYaml?_eq]

end WorkloadForms.Form
