import WorkloadForms.Proofs.Normal.Container
import WorkloadForms.Proofs.ReadBack.Probe
import WorkloadForms.Proofs.Record.Field

/-!
# What becomes of the commands of a container

A container has a command and arguments, and it runs commands in its probes and its hooks
(`CommandPlace`). A form keeps each of them in one text, and what is written is the words of that
text (`CommandPlace.written`). A list that a manifest or JSON has in such a place is joined to that
text (`CommandPlace.text?_ofYaml`, `CommandPlace.text?_of_reads`), so that what is written is the
words of every text of the list (`CommandPlace.carries`).
-/

namespace WorkloadForms

/-- The value at the end of a path is at the end of its second part, from the end of the first. -/
theorem Yaml.at?_append (y : Yaml) (path further : List String) :
    y.at? (path ++ further) = (y.at? path).bind (·.at? further) := by
  induction path generalizing y with
  | nil => rfl
  | cons key path ih => simp only [List.cons_append, at?, ih, Option.bind_assoc]

/-- What becomes of a list of texts: its tokens are written, which are the list itself exactly when
every text of it may be a token. -/
structure Yaml.Tokenizes (sep : Char) (ts : List String) (written : Option Yaml) : Prop where
  tokens : written = ofTexts (ts.flatMap (Text.tokens sep))
  unchanged : written = ofTexts ts ↔ ∀ t ∈ ts, Text.IsToken sep t

/-- The tokens of the joined list are those of the list. -/
theorem Yaml.tokenizes_joined (sep : Char) (ts : List String) :
    Tokenizes sep ts (ofTexts (Text.tokens sep (Text.joined sep ts))) where
  tokens := by rw [Text.tokens_joined]
  unchanged := by
    rw [Text.tokens_joined, ← Text.flatMap_tokens_eq_self_iff, ofTexts, ofTexts, ofItems_inj]
    exact (List.map_injective_iff.2 fun _ _ => text.inj).eq_iff

namespace Form

open Yaml

/-! ## Places of commands -/

/-- What a probe of a container is for. -/
inductive ProbeRole where
  | liveness
  | readiness
  | startup

/-- The key of a probe. -/
def ProbeRole.key : ProbeRole → String
  | .liveness => "livenessProbe"
  | .readiness => "readinessProbe"
  | .startup => "startupProbe"

/-- The probe of a container. -/
def ProbeRole.probe? (c : Container) : ProbeRole → Option Probe
  | .liveness => c.livenessProbe
  | .readiness => c.readinessProbe
  | .startup => c.startupProbe

/-- When a hook of a container is run. -/
inductive HookRole where
  | postStart
  | preStop

/-- The key of a hook. -/
def HookRole.key : HookRole → String
  | .postStart => "postStart"
  | .preStop => "preStop"

/-- The hook among the hooks of a container. -/
def HookRole.hook? (l : Lifecycle) : HookRole → Option Hook
  | .postStart => l.postStart
  | .preStop => l.preStop

/-- A command of a container. -/
inductive CommandPlace where
  | command
  | args
  | probe (role : ProbeRole)
  | hook (role : HookRole)

namespace CommandPlace

/-- Where the command is written in a container. -/
def path : CommandPlace → List String
  | .command => ["command"]
  | .args => ["args"]
  | .probe role => [role.key, "exec", "command"]
  | .hook role => ["lifecycle", role.key, "exec", "command"]

/-- What is left out when the command has no words: its key, the handler of its probe, or its
hook. -/
def owner : CommandPlace → List String
  | .command => ["command"]
  | .args => ["args"]
  | .probe role => [role.key, "exec"]
  | .hook role => ["lifecycle", role.key]

/-- The text that a form has for the command; a probe that runs none has no text for it. -/
def text? (c : Container) : CommandPlace → Option String
  | .command => some c.command
  | .args => some c.args
  | .probe role => (role.probe? c).bind fun p =>
    if p.enabled = true ∧ p.type = .exec then p.exec.map (·.lines) else none
  | .hook role => ((c.lifecycle.bind role.hook?).bind (·.exec)).map (·.lines)

/-- Whether a container of a manifest has a list for the command. -/
def IsGivenInYaml (y : Yaml) (ts : List String) : CommandPlace → Prop
  | .command => y.get? "command" = some (.texts ts)
  | .args => y.get? "args" = some (.texts ts)
  | .probe role => ∃ probe ∈ Schema.probe.at? y role.key, ∃ exec ∈ probe.field? "exec",
    exec.field? "command" = some (.texts ts)
  | .hook role => ∃ hooks ∈ Schema.lifecycle.at? y "lifecycle", ∃ hook ∈ hooks.field? role.key,
    ∃ exec ∈ hook.field? "exec", exec.field? "command" = some (.texts ts)

/-- Whether JSON of a container has a list for the command. The type of a probe says whether it is
the command that it runs. -/
def IsGivenInJson (d : Json.Document) (ts : List String) : CommandPlace → Prop
  | .command => d.field? Container.fields "command" = some (.ofTexts ts)
  | .args => d.field? Container.fields "args" = some (.ofTexts ts)
  | .probe role => ∃ probe ∈ d.field? Container.fields role.key,
    probe.field? Probe.fields "enabled" = some (.bool true) ∧
    (probe.field? Probe.fields "type").bind Json.Document.word? =
      some (Vocabulary.word ProbeType.exec) ∧
    ∃ exec ∈ probe.field? Probe.fields "exec",
      exec.field? Command.fields "command" = some (.ofTexts ts)
  | .hook role => ∃ hooks ∈ d.field? Container.fields "lifecycle",
    ∃ hook ∈ hooks.field? Lifecycle.fields role.key, ∃ exec ∈ hook.field? Hook.fields "exec",
      exec.field? Command.fields "command" = some (.ofTexts ts)

/-- What becomes of a list for the command in a written container: the lines of its texts are
written one by one, and nothing if there are none. -/
structure Carries (place : CommandPlace) (ts : List String) (y : Yaml) : Prop where
  words : Tokenizes '\n' ts (y.at? place.path)
  omitted : ts.flatMap Text.lines = [] → y.at? place.owner = none

end CommandPlace

/-! ## Writing -/

/-- What is written for a command that is run, unless it has no words. -/
def actionYaml? (words : List String) : Option Yaml :=
  if words.isEmpty then none else some (commandYaml words)

/-- The words of a command that is run. -/
theorem bind_actionYaml? (words : List String) :
    (actionYaml? words).bind (·.get? "command") = ofTexts words := by
  cases words with
  | nil => rfl
  | cons => simp [actionYaml?, commandYaml]

/-- The action of a probe that runs a command. -/
theorem Probe.bind_toYaml?_exec {p : Probe} {c : Command} (enabled : p.enabled = true)
    (type : p.type = .exec) (exec : p.exec = some c) :
    p.toYaml?.bind (·.get? "exec") = actionYaml? (Text.lines c.lines) := by
  have handled : p.handler? =
      if (Text.lines c.lines).isEmpty then none else some (.exec (Text.lines c.lines)) := by
    rw [handler?, type, exec]
    rfl
  rw [toYaml?_eq]
  split
  · next silent =>
    -- an enabled probe that says nothing has no handler
    have none : p.handler? = none := (silent.resolve_left (by simp [enabled])).1
    rw [handled] at none
    rw [actionYaml?, if_pos (by simpa using none)]
    rfl
  · rw [Option.bind_some, object, handled, actionYaml?]
    cases (Text.lines c.lines).isEmpty <;> simp [Handler.at?, Handler.entry]

/-- A hook is written as the action of its command, unless that has no words. -/
theorem Hook.toYaml?_eq (h : Hook) :
    h.toYaml? = h.exec.bind fun c =>
      (actionYaml? (Text.lines c.lines)).map fun action => .dict [("exec", action)] := by
  obtain ⟨_ | c⟩ := h
  · rfl
  · by_cases filled : Text.lines c.lines = [] <;> simp [toYaml?, actionYaml?, filled]

/-- The hooks of a container are written under their keys. -/
theorem HookRole.bind_toYaml? (o : Option Lifecycle) (role : HookRole) :
    (o.bind Lifecycle.toYaml?).bind (·.get? role.key) =
      (o.bind role.hook?).bind Hook.toYaml? := by
  cases o with
  | none => rfl
  | some l =>
    simp only [Option.bind_some, Lifecycle.toYaml?]
    split
    · next start stop => cases role <;> simp [hook?, start, stop]
    · cases role <;> simp [hook?, key]

namespace CommandPlace

/-- The words of the text that a form has for a command are written for it, and nothing if there
are none. -/
theorem written {c : Container} {place : CommandPlace} {s : String} (h : place.text? c = some s) :
    c.toYaml.at? place.path = ofTexts (Text.lines s) ∧
      (Text.lines s = [] → c.toYaml.at? place.owner = none) := by
  cases place with
  | command =>
    obtain rfl := Option.some.inj h
    have written : c.toYaml.at? ["command"] = ofTexts (Text.lines c.command) := by
      simp [at?, Container.toYaml]
    exact ⟨written, fun none => by rw [owner, written, none]; rfl⟩
  | args =>
    obtain rfl := Option.some.inj h
    have written : c.toYaml.at? ["args"] = ofTexts (Text.lines c.args) := by
      simp [at?, Container.toYaml]
    exact ⟨written, fun none => by rw [owner, written, none]; rfl⟩
  | probe role =>
    obtain ⟨p, probe, h⟩ := Option.bind_eq_some_iff.1 h
    obtain ⟨⟨enabled, type⟩, h⟩ := Option.ite_none_right_eq_some.1 h
    obtain ⟨e, exec, rfl⟩ := Option.map_eq_some_iff.1 h
    have under : c.toYaml.get? role.key = p.toYaml? := by
      cases role <;> simp_all [ProbeRole.key, ProbeRole.probe?, Container.toYaml]
    have action : c.toYaml.at? [role.key, "exec"] = actionYaml? (Text.lines e.lines) := by
      simp only [at?, under, Option.bind_fun_some, Probe.bind_toYaml?_exec enabled type exec]
    constructor
    case left =>
      change c.toYaml.at? ([role.key, "exec"] ++ ["command"]) = _
      rw [at?_append, action, ← bind_actionYaml?]
      simp only [at?, Option.bind_fun_some]
    case right =>
      intro none
      rw [owner, action, none]
      rfl
  | hook role =>
    obtain ⟨e, exec, rfl⟩ := Option.map_eq_some_iff.1 h
    obtain ⟨hook, found, exec⟩ := Option.bind_eq_some_iff.1 exec
    have under : c.toYaml.get? "lifecycle" = c.lifecycle.bind Lifecycle.toYaml? := by
      simp [Container.toYaml]
    have handler : c.toYaml.at? ["lifecycle", role.key] =
        (actionYaml? (Text.lines e.lines)).map fun action => .dict [("exec", action)] := by
      simp only [at?, under, Option.bind_fun_some, role.bind_toYaml?, found, Option.bind_some,
        hook.toYaml?_eq, exec]
    constructor
    case left =>
      change c.toYaml.at? (["lifecycle", role.key] ++ ["exec", "command"]) = _
      rw [at?_append, handler, ← bind_actionYaml?, Option.bind_map]
      refine Option.bind_congr fun action _ => ?_
      simp [at?, dict_eq_object]
    case right =>
      intro none
      rw [owner, handler, none]
      rfl

/-- A list that is joined to the text that a form has for a command is carried by what is
written. -/
theorem carries {c : Container} {place : CommandPlace} {ts : List String}
    (h : place.text? c = some (Text.joined '\n' ts)) : place.Carries ts c.toYaml := by
  obtain ⟨path, owner⟩ := written h
  constructor
  case words =>
    rw [path]
    exact tokenizes_joined '\n' ts
  case omitted =>
    intro none
    exact owner ((Text.tokens_joined '\n' ts).trans none)

end CommandPlace

/-! ## Reading manifests -/

/-- A list of texts in a field of an object. -/
theorem fieldTexts_texts {y : Yaml} {key : String} {ts : List String}
    (given : y.field? key = some (.texts ts)) : y.fieldTexts key = ts := by
  simp [fieldTexts, fieldItems, given, texts]

/-- A list of texts under a key is joined to a command. -/
theorem linesAt_texts {y : Yaml} {key : String} {ts : List String}
    (given : y.get? key = some (.texts ts)) : y.linesAt key = Text.joined '\n' ts := by
  simp [linesAt, itemsAt, given, texts]

/-- A hook that runs a command has the texts of its list. -/
theorem Hook.ofField?_texts {hooks hook exec : Yaml} {key : String} {ts : List String}
    (there : hooks.field? key = some hook) (runs : hook.field? "exec" = some exec)
    (given : exec.field? "command" = some (.texts ts)) :
    Hook.ofField? hooks key = some ⟨some ⟨Text.joined '\n' ts⟩⟩ := by
  simp [Hook.ofField?, there, runs, Command.ofObject, fieldTexts_texts given]

/-- A list that a manifest has for a command is joined to the text that the form has for it. -/
theorem CommandPlace.text?_ofYaml {nameless : String} {y : Yaml} {place : CommandPlace}
    {ts : List String} (given : place.IsGivenInYaml y ts) :
    place.text? (Container.ofYaml nameless y) = some (Text.joined '\n' ts) := by
  cases place with
  | command => exact congrArg some (linesAt_texts given)
  | args => exact congrArg some (linesAt_texts given)
  | probe role =>
    obtain ⟨probe, there, exec, runs, given⟩ := given
    have under : role.probe? (Container.ofYaml nameless y) = Probe.at? y role.key := by
      cases role <;> rfl
    rw [text?, under, Probe.at?, Option.mem_def.1 there]
    simp [Option.mem_def.1 runs, Command.ofObject, fieldTexts_texts given]
  | hook role =>
    obtain ⟨hooks, there, hook, found, exec, runs, given⟩ := given
    have read := Hook.ofField?_texts found runs given
    have under : (Lifecycle.at? y "lifecycle").bind role.hook? = Hook.ofField? hooks role.key := by
      rw [Lifecycle.at?, Option.mem_def.1 there]
      cases role <;> simp_all [HookRole.key, HookRole.hook?]
    rw [text?]
    change (((Lifecycle.at? y "lifecycle").bind role.hook?).bind _).map _ = _
    rw [under, read]
    rfl

/-! ## Reading JSON -/

section Fields

open WorkloadForms.Field (IsFieldOf)

theorem Command.isFieldOf_command :
    IsFieldOf Command.fields "command" (.separated '\n') Command.lines := by
  constructor <;> simp [fields]

theorem Probe.isFieldOf_enabled : IsFieldOf Probe.fields "enabled" .flag Probe.enabled := by
  constructor <;> simp [fields]

theorem Probe.isFieldOf_type : IsFieldOf Probe.fields "type" .word Probe.type := by
  constructor <;> simp [fields]

theorem Probe.isFieldOf_exec : IsFieldOf Probe.fields "exec" Command.codec.option Probe.exec := by
  constructor <;> simp [fields]

theorem Hook.isFieldOf_exec : IsFieldOf Hook.fields "exec" Command.codec.option Hook.exec := by
  constructor <;> simp [fields]

theorem HookRole.isFieldOf_hook (role : HookRole) :
    IsFieldOf Lifecycle.fields role.key Hook.codec.option role.hook? := by
  cases role <;> constructor <;> simp [Lifecycle.fields, key, hook?]

theorem Container.isFieldOf_command :
    IsFieldOf Container.fields "command" (.separated '\n') Container.command := by
  constructor <;> simp [fields]

theorem Container.isFieldOf_args :
    IsFieldOf Container.fields "args" (.separated '\n') Container.args := by
  constructor <;> simp [fields]

theorem Container.isFieldOf_lifecycle :
    IsFieldOf Container.fields "lifecycle" Lifecycle.codec.option Container.lifecycle := by
  constructor <;> simp [fields]

theorem ProbeRole.isFieldOf_probe (role : ProbeRole) :
    IsFieldOf Container.fields role.key Probe.codec.option role.probe? := by
  cases role <;> constructor <;> simp [Container.fields, key, probe?]

end Fields

/-- A list that JSON has for a command is joined to the text of the command. -/
theorem Command.lines_of_reads {d : Json.Document} {c : Command} {ts : List String}
    (h : Command.codec.Reads d c) (given : d.field? Command.fields "command" = some (.ofTexts ts)) :
    c.lines = Text.joined '\n' ts :=
  (h.field isFieldOf_command given).separated

/-- A list that JSON has for a command is joined to the text that the form has for it. -/
theorem CommandPlace.text?_of_reads {d : Json.Document} {c : Container} {place : CommandPlace}
    {ts : List String} (h : Container.codec.Reads d c) (given : place.IsGivenInJson d ts) :
    place.text? c = some (Text.joined '\n' ts) := by
  cases place with
  | command => exact congrArg some (h.field Container.isFieldOf_command given).separated
  | args => exact congrArg some (h.field Container.isFieldOf_args given).separated
  | probe role =>
    obtain ⟨probe, there, enabled, type, exec, runs, given⟩ := given
    obtain ⟨p, found, h⟩ := (h.field role.isFieldOf_probe there).option
      (Json.Document.ne_null_of_field? enabled)
    obtain ⟨_, typed, word⟩ := Option.bind_eq_some_iff.1 type
    have type : p.type = .exec := by
      have named := (h.field Probe.isFieldOf_type typed).word word
      rw [LawfulVocabulary.ofWord?_word] at named
      exact (Option.some.inj named).symm
    obtain ⟨e, action, read⟩ := (h.field Probe.isFieldOf_exec runs).option
      (Json.Document.ne_null_of_field? given)
    rw [text?, found, Option.bind_some,
      if_pos ⟨(h.field Probe.isFieldOf_enabled enabled).flag, type⟩, action, Option.map_some,
      Command.lines_of_reads read given]
  | hook role =>
    obtain ⟨hooks, there, hook, named, exec, runs, given⟩ := given
    obtain ⟨l, lifecycle, h⟩ := (h.field Container.isFieldOf_lifecycle there).option
      (Json.Document.ne_null_of_field? named)
    obtain ⟨k, found, h⟩ := (h.field role.isFieldOf_hook named).option
      (Json.Document.ne_null_of_field? runs)
    obtain ⟨e, action, h⟩ := (h.field Hook.isFieldOf_exec runs).option
      (Json.Document.ne_null_of_field? given)
    rw [text?, lifecycle, Option.bind_some, found, Option.bind_some, action, Option.map_some,
      Command.lines_of_reads h given]

end Form

end WorkloadForms
