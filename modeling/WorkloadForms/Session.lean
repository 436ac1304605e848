import WorkloadForms.Manifest

/-!
# Editing sessions

An editing session holds a descriptor and the text of a manifest. A step works on them and gives an
outcome; a step that fails leaves the session as it was.
-/

namespace WorkloadForms

/-- The state of an editing session. -/
structure Session where
  descriptor : Descriptor := {}
  text : String := ""
  deriving DecidableEq, Repr, Inhabited

namespace Session

/-- A step of a session. -/
inductive Step where
  /-- Starts over with the descriptor of a new workload. -/
  | template (kind : Kind) (space : String)
  /-- Takes over a descriptor. -/
  | load (descriptor : Descriptor)
  /-- Puts members in place of those of the descriptor. -/
  | patch (members : List (String × Json))
  /-- Takes over a text. -/
  | edit (text : String)
  /-- Renders the descriptor as the text. -/
  | render (kind : Kind)
  /-- Reads the text as the descriptor. -/
  | parse
  /-- Looks at what the text says. -/
  | look

/-- What a step gives. -/
inductive Outcome where
  | descriptor (d : Descriptor)
  | accepted
  | rendered (text : String)
  | parsed (m : Manifest)
  | looked (d : Option Descriptor)

/-- Why a step fails. -/
inductive Failure where
  | invalidDescriptor
  | manifest (e : ManifestError)

/-- The descriptor with other members. -/
def patched? (d : Descriptor) (changes : List (String × Json)) : Option Descriptor :=
  Descriptor.codec.ofJson?
    (.object (Json.overwrite ((Descriptor.codec.write d).members?.getD []) changes))

/-- The outcome of a step and the session after it. -/
def step (s : Session) : Step → Except Failure (Outcome × Session)
  | .template kind space =>
    let d := Descriptor.template kind space
    .ok (.descriptor d, { s with descriptor := d })
  | .load d => .ok (.descriptor d, { s with descriptor := d })
  | .patch changes =>
    match patched? s.descriptor changes with
    | some d => .ok (.descriptor d, { s with descriptor := d })
    | none => .error .invalidDescriptor
  | .edit text => .ok (.accepted, { s with text })
  | .render kind =>
    let text := s.descriptor.render kind
    .ok (.rendered text, { s with text })
  | .parse =>
    match Manifest.ofText s.text with
    | .ok m => .ok (.parsed m, { s with descriptor := m.descriptor })
    | .error e => .error (.manifest e)
  | .look => .ok (.looked ((Manifest.ofText s.text).toOption.map (·.descriptor)), s)

/-- The session after a step, whether or not it fails. -/
def after (s : Session) (t : Step) : Session :=
  match s.step t with
  | .ok (_, next) => next
  | .error _ => s

end Session

end WorkloadForms
