import WorkloadForms.Session
import WorkloadForms.Proofs.ReadBack

/-!
# What runs of a session keep

A step works on the descriptor or on the text of a session and leaves the other one as it is
(`Session.text_run`, `Session.descriptor_run`). Steps that only render and read make the round from
the form to the text and back: for one kind the first round is the only one that makes a difference
(`Session.descriptor_run_rounds`), and for changing kinds the content stays
(`Session.content_run_rounds`).
-/

namespace WorkloadForms.Session

open Descriptor (Switches ReadsBack)

/-- The session after some steps. -/
def run (s : Session) (ts : List Step) : Session := ts.foldl after s

@[simp] theorem run_nil (s : Session) : s.run [] = s := rfl

@[simp] theorem run_cons (s : Session) (t : Step) (ts : List Step) :
    s.run (t :: ts) = (s.after t).run ts := rfl

/-- What every step of a run keeps, the run keeps. -/
theorem run_induction {p : Session → Prop} {s : Session} {ts : List Step}
    (keeps : ∀ t ∈ ts, ∀ s, p s → p (s.after t)) (start : p s) : p (s.run ts) := by
  induction ts generalizing s with
  | nil => exact start
  | cons t ts ih =>
    exact ih (fun t mem => keeps t (List.mem_cons_of_mem _ mem))
      (keeps t List.mem_cons_self s start)

/-! ## The descriptor and the text -/

/-- Whether a step works on the text. -/
def Step.writesText : Step → Bool
  | .edit _ | .render _ => true
  | _ => false

/-- Whether a step works on the descriptor. -/
def Step.writesDescriptor : Step → Bool
  | .template .. | .load _ | .patch _ | .parse => true
  | _ => false

variable {s : Session} {t : Step} {ts : List Step}

theorem text_after (other : t.writesText = false) : (s.after t).text = s.text := by
  cases t with
  | edit text => cases other
  | render kind => cases other
  | patch members =>
    rw [after, step]
    cases patched? s.descriptor members <;> rfl
  | parse =>
    rw [after, step]
    cases Manifest.ofText s.text <;> rfl
  | _ => rfl

theorem descriptor_after (other : t.writesDescriptor = false) :
    (s.after t).descriptor = s.descriptor := by
  cases t with
  | edit text => rfl
  | render kind => rfl
  | look => rfl
  | _ => cases other

/-- A run of steps that do not work on the text leaves it as it is. -/
theorem text_run (other : ∀ t ∈ ts, t.writesText = false) : (s.run ts).text = s.text :=
  run_induction (p := fun s' => s'.text = s.text)
    (fun t mem _ same => (text_after (other t mem)).trans same) rfl

/-- A run of steps that do not work on the descriptor leaves it as it is. -/
theorem descriptor_run (other : ∀ t ∈ ts, t.writesDescriptor = false) :
    (s.run ts).descriptor = s.descriptor :=
  run_induction (p := fun s' => s'.descriptor = s.descriptor)
    (fun t mem _ same => (descriptor_after (other t mem)).trans same) rfl

/-! ## Rounds from the form to the text and back -/

/-- A step of the round for some kinds: it renders for one of them, reads the text, or looks at
it. -/
inductive Step.IsRound (kinds : Kind → Prop) : Step → Prop
  | render {kind : Kind} (listed : kinds kind) : IsRound kinds (.render kind)
  | parse : IsRound kinds .parse
  | look : IsRound kinds .look

/-- The descriptor is one of some descriptors, and so is what the text says, if it is a manifest. -/
structure Within (p : Descriptor → Prop) (s : Session) : Prop where
  descriptor : p s.descriptor
  text : ∀ m, Manifest.ofText s.text = .ok m → p m.descriptor

/-- A step of the round stays within descriptors whose manifests are read back as one of them. -/
theorem Within.after {kinds : Kind → Prop} {p : Descriptor → Prop} (within : s.Within p)
    (reads : ∀ kind, kinds kind → ∀ d, p d → ∀ m,
      Manifest.ofText (d.render kind) = .ok m → p m.descriptor)
    (round : t.IsRound kinds) : (s.after t).Within p := by
  cases round with
  | look => exact within
  | @render kind listed =>
    exact ⟨within.descriptor, reads kind listed s.descriptor within.descriptor⟩
  | parse =>
    rw [Session.after, step]
    cases read : Manifest.ofText s.text with
    | error e => exact within
    | ok m => exact ⟨within.text m read, within.text⟩

theorem Within.run {kinds : Kind → Prop} {p : Descriptor → Prop} (within : s.Within p)
    (reads : ∀ kind, kinds kind → ∀ d, p d → ∀ m,
      Manifest.ofText (d.render kind) = .ok m → p m.descriptor)
    (rounds : ∀ t ∈ ts, t.IsRound kinds) : (s.run ts).Within p :=
  run_induction (fun t mem _ within => within.after reads (rounds t mem)) within

/-- What is read of the text of a manifest is the normal form, if the text writes the manifest. -/
theorem descriptor_of_ofText {kind : Kind} {d : Descriptor} {m : Manifest}
    (written : Yaml.ofText? (d.render kind) = some (d.manifest kind))
    (read : Manifest.ofText (d.render kind) = .ok m) : m.descriptor = d.normal kind := by
  rw [Descriptor.ofText_render written] at read
  rw [← Except.ok.inj read]

/-- The first round for a kind gives the normal form, and further ones for the kind leave it, if
the two texts write their manifests. -/
theorem descriptor_run_rounds {kind : Kind}
    (written : Yaml.ofText? (s.descriptor.render kind) = some (s.descriptor.manifest kind))
    (again : Yaml.ofText? ((s.descriptor.normal kind).render kind)
      = some ((s.descriptor.normal kind).manifest kind))
    (rounds : ∀ t ∈ ts, t.IsRound (· = kind)) :
    (s.run (.render kind :: .parse :: ts)).descriptor = s.descriptor.normal kind := by
  have first : (s.after (.render kind)).after .parse
      = ⟨s.descriptor.normal kind, s.descriptor.render kind⟩ := by
    simp [after, step, Descriptor.ofText_render written]
  have start : Within (· = s.descriptor.normal kind)
      ⟨s.descriptor.normal kind, s.descriptor.render kind⟩ :=
    ⟨rfl, fun m read => descriptor_of_ofText written read⟩
  rw [run_cons, run_cons, first]
  refine (start.run ?_ rounds).descriptor
  rintro _ rfl _ rfl m read
  exact (descriptor_of_ofText again read).trans (Descriptor.normal_normal _ _)

example :
    let s : Session := { text := "kind: Job" }
    (s.run [.render .job, .parse, .look, .render .job, .parse]).descriptor
      = s.descriptor.normal .job := by
  refine descriptor_run_rounds ?_ ?_ ?_
  case refine_3 => simp [Step.IsRound.render, Step.IsRound.parse, Step.IsRound.look]
  all_goals
    simp only [Descriptor.render, Yaml.write, Yaml.ofText?_of_toList String.toList_ofList]
    decide +kernel

/-- However often a session is rendered and read for changing kinds, the content of a descriptor
that was read back stays, if the texts that come up write their manifests. -/
theorem content_run_rounds {kind first : Kind} {d : Descriptor}
    (readBack : ReadsBack kind d s.descriptor)
    (written : ∀ n, Relation.ReflTransGen Switches s.descriptor n → ∀ k,
      Yaml.ofText? (n.render k) = some (n.manifest k))
    (rounds : ∀ t ∈ ts, t.IsRound fun _ => True) :
    (s.run (.render first :: ts)).descriptor.content = s.descriptor.content := by
  have reads (k : Kind) (n : Descriptor) (reached : Relation.ReflTransGen Switches s.descriptor n)
      (m : Manifest) (read : Manifest.ofText (n.render k) = .ok m) :
      Relation.ReflTransGen Switches s.descriptor m.descriptor := by
    rw [descriptor_of_ofText (written n reached k) read]
    exact reached.tail ⟨k, Descriptor.readsBack_normal k n⟩
  have start : (s.after (.render first)).Within (Relation.ReflTransGen Switches s.descriptor) :=
    ⟨.refl, reads first s.descriptor .refl⟩
  exact Descriptor.content_of_switches readBack
    (start.run (fun k _ n reached => reads k n reached) rounds).descriptor

end WorkloadForms.Session
