import WorkloadForms.Command.Files

/-!
# What writing a file changes

A file that is opened and written holds what was written and nothing else, every other file is as it
was, and all names but those of the place that was opened lead where they led before:
`Files.Replaces`. A file can be opened to be written where the tree has one that may be written, and
where a name is free in a directory that may be written: `Files.IsWritable`.
-/

namespace WorkloadForms.Files

variable {fs gs : Files}

/-! ## Where a name may lead -/

/-- Whether a place is one of a tree: its number is one of the tree, or its name is free in a
directory of the tree. -/
def Knows (fs : Files) : Place → Prop
  | .node number => number < fs.nodes.length
  | .free directory name => directory < fs.nodes.length ∧ fs.hop? directory name = some .none

theorem lt_of_lookup {key : Nat × String} {number : Nat}
    (found : fs.names.lookup key = some number) : number < fs.nodes.length := by
  obtain ⟨before, behind, names, -⟩ := List.lookup_eq_some_iff.1 found
  exact fs.named (key, number) (by simp [names])

theorem lt_of_searched? {directory above : Nat} (found : fs.searched? directory = some above) :
    above < fs.nodes.length := by
  rw [searched?] at found
  split at found
  case h_1 access above' there =>
    obtain ⟨-, found⟩ := Option.ite_none_right_eq_some.1 found
    obtain rfl := Option.some.inj found
    exact fs.nested _ (List.mem_of_getElem? there) _ rfl
  case h_2 => cases found

/-- A segment has a number of the tree, if it has one. -/
theorem lt_of_hop? {directory number : Nat} {segment : String} (there : directory < fs.nodes.length)
    (found : fs.hop? directory segment = some (some number)) : number < fs.nodes.length := by
  rw [hop?] at found
  split at found
  · obtain rfl := Option.some.inj (Option.some.inj found)
    exact there
  · obtain ⟨above, searched, found⟩ := Option.bind_eq_some_iff.1 found
    split at found
    · obtain rfl := Option.some.inj (Option.some.inj found)
      exact there
    split at found
    · obtain rfl := Option.some.inj (Option.some.inj found)
      exact lt_of_searched? searched
    · obtain ⟨-, found⟩ := Option.ite_none_left_eq_some.1 found
      exact lt_of_lookup (Option.some.inj found)

/-- Whether all that `follow` leads to from a directory of a tree is known there. -/
def KnowsAll (fs : Files) (follow : Nat → List String → Option Place) : Prop :=
  ∀ directory segments place, directory < fs.nodes.length →
    follow directory segments = some place → fs.Knows place

theorem lt_of_start? {directory start : Nat} {path : String} {first : List String}
    (there : directory < fs.nodes.length) (starts : start? directory path = some (start, first)) :
    start < fs.nodes.length := by
  rw [start?] at starts
  obtain ⟨-, starts⟩ := Option.ite_none_left_eq_some.1 starts
  obtain ⟨rfl, -⟩ := Prod.mk.inj (Option.some.inj starts)
  split
  · exact Nat.zero_lt_of_lt there
  · exact there

/-- A walk leads to known places. -/
theorem knowsAll_walk? {follow : Nat → List String → Option Place} (behind : fs.KnowsAll follow) :
    fs.KnowsAll (fs.walk? follow) := by
  intro directory segments place there leads
  fun_induction walk? fs follow directory segments with
  | case1 directory =>
    obtain rfl := Option.some.inj leads
    exact there
  | case2 | case4 | case7 | case9 => cases leads
  | case3 directory segment rest free =>
    obtain rfl := Option.some.inj leads
    exact ⟨there, free⟩
  | case5 directory segment rest number hop access above found ih =>
    exact ih (lt_of_hop? there hop) leads
  | case6 directory segment rest number hop access octets found =>
    obtain rfl := Option.some.inj leads
    exact lt_of_hop? there hop
  | case8 directory segment rest number hop target found =>
    obtain ⟨⟨start, first⟩, starts, leads⟩ := Option.bind_eq_some_iff.1 leads
    exact behind _ _ _ (lt_of_start? there starts) leads

theorem knowsAll_follow? (links : Nat) : fs.KnowsAll (fs.follow? links) := by
  induction links with
  | zero => exact knowsAll_walk? nofun
  | succ links ih => exact knowsAll_walk? ih

/-- A name leads to a known place. -/
theorem knows_of_find? {name : String} {place : Place} (found : fs.find? name = some place) :
    fs.Knows place := by
  obtain ⟨⟨start, first⟩, starts, leads⟩ := Option.bind_eq_some_iff.1 found
  exact knowsAll_follow? linkLimit _ _ _ (lt_of_start? fs.placed starts) leads

/-! ## Opening a file -/

/-- The tree `gs` has a file with a number where `fs` has a place, which is that file or a name that
is free, and otherwise has what `fs` has, but for the octets of files. -/
structure Opens (fs : Files) (place : Place) (number : Nat) (gs : Files) : Prop where
  here : gs.here = fs.here
  same : ∀ i, place = .node i → i = number
  hop : ∀ directory segment, gs.hop? directory segment = (fs.hop? directory segment).map
    (·.or (if place = .free directory segment then some number else .none))
  nodes : ∀ (i : Nat) (node : Inode), fs.nodes[i]? = some node →
    ∃ octets, gs.nodes[i]? = some (node.withOctets octets)
  file : ∃ access octets, gs.nodes[number]? = some (.file access octets)

/-- What a place is after one of them has been opened as the file with a number. -/
def placeAfter (opened : Place) (number : Nat) (place : Place) : Place :=
  if place = opened then .node number else place

namespace Opens

variable {opened : Place} {number : Nat} (opens : Opens fs opened number gs)

include opens

theorem placeAfter_node (i : Nat) : placeAfter opened number (.node i) = .node i := by
  rw [placeAfter, ite_eq_right_iff]
  rintro rfl
  rw [opens.same i rfl]

/-- A walk leads where it led before the file was opened, and to the file where it led to the place
of that. -/
theorem walk?_eq {follow gollow : Nat → List String → Option Place}
    (behind : ∀ directory segments, directory < fs.nodes.length →
      gollow directory segments = (follow directory segments).map (placeAfter opened number))
    (directory : Nat) (segments : List String) (there : directory < fs.nodes.length) :
    gs.walk? gollow directory segments =
      (fs.walk? follow directory segments).map (placeAfter opened number) := by
  fun_induction walk? fs follow directory segments with
  | case1 directory => rw [walk?, Option.map_some, opens.placeAfter_node]
  | case2 directory segment rest hop =>
    rw [walk?, opens.hop, hop]
    rfl
  | case3 directory segment rest free last =>
    obtain ⟨access, octets, file⟩ := opens.file
    by_cases here : opened = .free directory segment
    · simp [walk?, opens.hop, free, here, file, last, placeAfter]
    · simp [walk?, opens.hop, free, here, last, placeAfter, Ne.symm here]
  | case4 directory segment rest free more =>
    obtain ⟨access, octets, file⟩ := opens.file
    by_cases here : opened = .free directory segment
    · simp [walk?, opens.hop, free, here, file, more]
    · simp [walk?, opens.hop, free, here, more]
  | case5 directory segment rest i hop access above found ih =>
    obtain ⟨octets, found'⟩ := opens.nodes _ _ found
    simp [walk?, opens.hop, hop, found', Inode.withOctets, ih (lt_of_hop? there hop)]
  | case6 directory segment rest i hop access octets found last =>
    obtain ⟨octets, found'⟩ := opens.nodes _ _ found
    simp [walk?, opens.hop, hop, found', Inode.withOctets, last, opens.placeAfter_node]
  | case7 directory segment rest i hop access octets found more =>
    obtain ⟨octets, found'⟩ := opens.nodes _ _ found
    simp [walk?, opens.hop, hop, found', Inode.withOctets, more]
  | case8 directory segment rest i hop target found =>
    obtain ⟨octets, found'⟩ := opens.nodes _ _ found
    simp only [walk?, opens.hop, hop, found', Inode.withOctets, Option.map_some, Option.some_or,
      Option.map_bind]
    cases starts : start? directory target with
    | none => rfl
    | some start => exact behind _ _ (lt_of_start? there starts)
  | case9 directory segment rest i hop found =>
    exact absurd (lt_of_hop? there hop) (by simpa using found)

theorem follow?_eq (links directory : Nat) (segments : List String)
    (there : directory < fs.nodes.length) :
    gs.follow? links directory segments =
      (fs.follow? links directory segments).map (placeAfter opened number) := by
  induction links generalizing directory segments with
  | zero =>
    refine opens.walk?_eq ?_ directory segments there
    exact fun _ _ _ => rfl
  | succ links ih => exact opens.walk?_eq ih directory segments there

/-- A name leads where it led before the file was opened, and to the file where it led to the place
of that. -/
theorem find?_eq (name : String) :
    gs.find? name = (fs.find? name).map (placeAfter opened number) := by
  rw [find?, find?, opens.here]
  cases starts : start? fs.here name with
  | none => rfl
  | some start =>
    exact opens.follow?_eq linkLimit start.1 start.2 (lt_of_start? fs.placed starts)

end Opens

/-! ## Other octets in a file -/

theorem getElem?_put (fs : Files) (number : Nat) (octets : ByteArray) (i : Nat) :
    (fs.put number octets).nodes[i]? =
      fs.nodes[i]?.map fun node => if number = i then node.withOctets octets else node := by
  rw [put, List.getElem?_modify]
  rfl

theorem file?_put (fs : Files) (number : Nat) (octets : ByteArray) (i : Nat) :
    (fs.put number octets).file? i =
      (fs.file? i).map fun f => (f.1, if number = i then octets else f.2) := by
  rw [file?, file?, getElem?_put]
  cases fs.nodes[i]? with
  | none => rfl
  | some node => by_cases h : number = i <;> cases node <;> simp [h, Inode.withOctets]

theorem searched?_put (fs : Files) (number : Nat) (octets : ByteArray) (i : Nat) :
    (fs.put number octets).searched? i = fs.searched? i := by
  rw [searched?, searched?, getElem?_put]
  cases fs.nodes[i]? with
  | none => rfl
  | some node => by_cases h : number = i <;> cases node <;> simp [h, Inode.withOctets]

theorem hop?_put (fs : Files) (number : Nat) (octets : ByteArray) (directory : Nat)
    (segment : String) :
    (fs.put number octets).hop? directory segment = fs.hop? directory segment := by
  rw [hop?, hop?, searched?_put]
  rfl

/-- A file that is there has been opened. -/
theorem Opens.refl {number : Nat} {access : Access} {octets : ByteArray}
    (file : fs.file? number = some (access, octets)) : Opens fs (.node number) number fs where
  here := rfl
  same i same := (Place.node.inj same).symm
  hop directory segment := by simp
  nodes i node found := by
    obtain ⟨same, unchanged⟩ := node.exists_withOctets
    exact ⟨same, by rw [found, unchanged]⟩
  file := by
    rw [file?] at file
    split at file
    case h_1 access octets there => exact ⟨access, octets, there⟩
    case h_2 => cases file

/-- Other octets in a file that has been opened leave it opened. -/
theorem Opens.put {opened : Place} {number : Nat} (opens : Opens fs opened number gs)
    (octets : ByteArray) : Opens fs opened number (gs.put number octets) where
  here := opens.here
  same := opens.same
  hop directory segment := by rw [hop?_put, opens.hop]
  nodes i node found := by
    obtain ⟨old, found⟩ := opens.nodes i node found
    rw [getElem?_put, found, Option.map_some]
    by_cases h : number = i
    · exact ⟨octets, by cases node <;> simp [h, Inode.withOctets]⟩
    · exact ⟨old, by simp [h]⟩
  file := by
    obtain ⟨access, old, file⟩ := opens.file
    exact ⟨access, octets, by simp [getElem?_put, file, Inode.withOctets]⟩

/-! ## A new file under a name -/

/-- Where a directory may be searched as before and a name that was free has a number, segments have
what they had before, and the number. -/
theorem hop?_of_lookup {directory : Nat} {segment : String} {number : Option Nat}
    (searched : gs.searched? directory = fs.searched? directory)
    (lookup : gs.names.lookup (directory, segment) =
      (fs.names.lookup (directory, segment)).or number) :
    gs.hop? directory segment = (fs.hop? directory segment).map (·.or number) := by
  rw [hop?, hop?, searched, lookup]
  cases fs.searched? directory with
  | none => split <;> rfl
  | some above =>
    simp only [Option.bind_some]
    split
    · rfl
    split
    · rfl
    split
    · rfl
    split <;> rfl

theorem lookup_of_hop? {directory : Nat} {segment : String}
    (free : fs.hop? directory segment = some .none) :
    fs.names.lookup (directory, segment) = .none := by
  rw [hop?] at free
  split at free
  · cases free
  · obtain ⟨above, -, free⟩ := Option.bind_eq_some_iff.1 free
    split at free
    · cases free
    split at free
    · cases free
    · exact Option.some.inj (Option.ite_none_left_eq_some.1 free).2

section Add

variable (fs : Files) (directory : Nat) (name : String) (access : Access) (octets : ByteArray)

theorem getElem?_add (i : Nat) :
    (fs.add directory name (.file access octets) nofun).nodes[i]? =
      if i = fs.nodes.length then some (.file access octets) else fs.nodes[i]? := by
  have nodes : (fs.add directory name (.file access octets) nofun).nodes =
      fs.nodes ++ [.file access octets] := rfl
  rw [nodes, List.getElem?_append]
  grind

theorem file?_add (i : Nat) :
    (fs.add directory name (.file access octets) nofun).file? i =
      if i = fs.nodes.length then some (access, octets) else fs.file? i := by
  rw [file?, file?, getElem?_add]
  by_cases new : i = fs.nodes.length <;> simp [new]

/-- A new file is no directory, and there was none with its number. -/
theorem searched?_add (i : Nat) :
    (fs.add directory name (.file access octets) nofun).searched? i = fs.searched? i := by
  rw [searched?, searched?, getElem?_add]
  by_cases new : i = fs.nodes.length <;> simp [new]

/-- A segment has what it had before the name, which was free, was given to the new file, and that
where it is the name. -/
theorem hop?_add (free : fs.hop? directory name = some .none) (i : Nat) (segment : String) :
    (fs.add directory name (.file access octets) nofun).hop? i segment =
      (fs.hop? i segment).map
        (·.or (if Place.free directory name = .free i segment then some fs.nodes.length
          else .none)) := by
  refine hop?_of_lookup (fs.searched?_add directory name access octets i) ?_
  have names : (fs.add directory name (.file access octets) nofun).names =
      ((directory, name), fs.nodes.length) :: fs.names := rfl
  rw [names, List.lookup_cons]
  by_cases here : (i, segment) = (directory, name)
  · obtain ⟨rfl, rfl⟩ := Prod.mk.inj here
    simp [lookup_of_hop? free]
  · have other : Place.free directory name ≠ .free i segment := by
      rintro ⟨⟩
      exact here rfl
    simp [beq_eq_false_iff_ne.2 here, other]

/-- A name that is free is opened when a new file is made for it. -/
theorem opens_add (free : fs.hop? directory name = some .none) :
    Opens fs (.free directory name) fs.nodes.length
      (fs.add directory name (.file access octets) nofun) where
  here := rfl
  same := nofun
  hop := fs.hop?_add directory name access octets free
  nodes i node found := by
    have lt : i < fs.nodes.length := (List.getElem?_eq_some_iff.1 found).1
    obtain ⟨same, unchanged⟩ : ∃ same, node.withOctets same = node := node.exists_withOctets
    exact ⟨same, by rw [getElem?_add, if_neg (Nat.ne_of_lt lt), found, unchanged]⟩
  file := ⟨access, octets, by rw [getElem?_add, if_pos rfl]⟩

end Add

/-! ## Writing -/

/-- Octets are a text if they are those of the text. -/
theorem fromUTF8?_eq_some_iff {octets : ByteArray} {text : String} :
    String.fromUTF8? octets = some text ↔ octets = text.toByteArray := by
  rw [String.fromUTF8?]
  constructor
  · intro valid
    split at valid
    · obtain rfl := Option.some.inj valid
      rfl
    · cases valid
  · rintro rfl
    exact dif_pos text.isValidUTF8

/-- A name has a text to be read when it leads to a file with that text which may be read. -/
theorem read?_eq_some_iff {name text : String} :
    fs.read? name = some text ↔ ∃ number access, fs.find? name = some (.node number) ∧
      fs.file? number = some (access, text.toByteArray) ∧ access.read = true := by
  rw [read?]
  cases fs.find? name with
  | none => simp
  | some place =>
    cases place with
    | free => simp
    | node number =>
      cases found : fs.file? number with
      | none => simp [found]
      | some file =>
        obtain ⟨access, octets⟩ := file
        cases h : access.read with
        | false => simp [found, h]
        | true =>
          simp only [found, h, fromUTF8?_eq_some_iff, if_true, Option.bind_eq_bind,
            Option.bind_some, Option.some.injEq, Place.node.injEq]
          constructor
          · rintro rfl
            exact ⟨number, access, rfl, found, h⟩
          · rintro ⟨_, access', rfl, file, -⟩
            exact (Prod.mk.inj (Option.some.inj (found.symm.trans file))).2

/-- Whether a file can be opened by a name to be written: the name leads to a file that may be
written, or it is free in a directory that may be written. -/
def IsWritable (fs : Files) (name : String) : Prop :=
  (∃ number access octets, fs.find? name = some (.node number) ∧
    fs.file? number = some (access, octets) ∧ access.write = true) ∨
  ∃ directory last access above, fs.find? name = some (.free directory last) ∧
    fs.nodes[directory]? = some (.directory access above) ∧ access.write = true

/-- The octets of the file that a name leads to. -/
def content? (fs : Files) (name : String) : Option ByteArray :=
  match fs.find? name with
  | some (.node number) => (fs.file? number).map (·.2)
  | _ => .none

/-- The tree `gs` is the tree `fs` with `octets` in the file that `name` leads to. All names that
led to the same place lead to that file, which may be a new one, and hold the octets, all other
names lead where they led; and the files with other numbers are as they were, whether or not a name
leads to them. -/
structure Replaces (fs : Files) (name : String) (octets : ByteArray) (gs : Files) : Prop where
  contents : ∀ other, gs.content? other =
    if fs.find? other = fs.find? name then some octets else fs.content? other
  places : ∀ other, fs.find? other ≠ fs.find? name → gs.find? other = fs.find? other
  files : ∃ number, gs.find? name = some (.node number) ∧
    (∀ other, other ≠ number → gs.file? other = fs.file? other) ∧
    ∀ access old, fs.file? number = some (access, old) → gs.file? number = some (access, octets)

/-- A file can be opened exactly where one can be written. -/
theorem isSome_openToWrite?_iff (fs : Files) (name : String) :
    (fs.openToWrite? name).isSome = true ↔ fs.IsWritable name := by
  rw [openToWrite?, IsWritable]
  cases fs.find? name with
  | none => simp
  | some place =>
    cases place with
    | node number =>
      cases found : fs.file? number with
      | none => simp [found]
      | some file => obtain ⟨access, octets⟩ := file; cases h : access.write <;> simp [found, h]
    | free directory last =>
      cases found : fs.nodes[directory]? with
      | none => simp [found]
      | some node =>
        cases node with
        | directory access above => cases h : access.write <;> simp [found, h]
        | _ => simp [found]

/-- A file that has been opened where a name leads, and then holds octets, is the file of the
name. -/
theorem Opens.replaces {name : String} {opened : Place} {number : Nat} {octets : ByteArray}
    (opens : Opens fs opened number gs) (found : fs.find? name = some opened)
    (only : ∀ other, fs.find? other = some (.node number) → opened = .node number)
    (file : ∀ i, gs.file? i =
      if i = number then some (((fs.file? number).map (·.1)).getD {}, octets) else fs.file? i) :
    fs.Replaces name octets gs where
  contents other := by
    rw [content?, content?, opens.find?_eq, found]
    cases leads : fs.find? other with
    | none => simp
    | some place =>
      by_cases same : place = opened
      · simp [same, placeAfter, file]
      · cases place with
        | node i =>
          have apart : i ≠ number := by
            rintro rfl
            exact same (only other leads).symm
          simp [same, placeAfter, file, apart]
        | free => simp [same, placeAfter]
  places other apart := by
    rw [opens.find?_eq]
    cases leads : fs.find? other with
    | none => rfl
    | some place =>
      have apart : place ≠ opened := by
        rintro rfl
        exact apart (leads.trans found.symm)
      rw [Option.map_some, placeAfter, if_neg apart]
  files := by
    refine ⟨number, ?_, fun other apart => by rw [file, if_neg apart], fun access old there => ?_⟩
    · rw [opens.find?_eq, found, Option.map_some, placeAfter, if_pos rfl]
    · simp [file, there]

/-- A file that is opened was there, or is new under a name that was free. -/
theorem openToWrite?_cases {name : String} {number : Nat}
    (opened : fs.openToWrite? name = some (number, gs)) :
    (∃ access old, fs.find? name = some (.node number) ∧ fs.file? number = some (access, old) ∧
      gs = fs.put number .empty) ∨
    ∃ directory last, fs.find? name = some (.free directory last) ∧ number = fs.nodes.length ∧
      gs = fs.add directory last (.file {} .empty) nofun := by
  obtain ⟨place, leads, opened⟩ := Option.bind_eq_some_iff.1 opened
  cases place with
  | node i =>
    obtain ⟨⟨access, old⟩, file, opened⟩ := Option.bind_eq_some_iff.1 opened
    obtain ⟨-, opened⟩ := Option.ite_none_right_eq_some.1 opened
    obtain ⟨rfl, rfl⟩ := Prod.mk.inj (Option.some.inj opened)
    exact .inl ⟨access, old, leads, file, rfl⟩
  | free directory last =>
    dsimp only at opened
    split at opened
    · obtain ⟨-, opened⟩ := Option.ite_none_right_eq_some.1 opened
      obtain ⟨rfl, rfl⟩ := Prod.mk.inj (Option.some.inj opened)
      exact .inr ⟨directory, last, leads, rfl, rfl⟩
    · cases opened

/-- Of what is written to an empty file nothing is left over. -/
theorem write_of_empty {number : Nat} {access : Access}
    (file : fs.file? number = some (access, .empty)) (octets : ByteArray) :
    fs.write number octets = fs.put number octets := by
  have nothing : ByteArray.empty.extract octets.size ByteArray.empty.size = .empty := by
    simp
  rw [write, file]
  simp only [nothing, ByteArray.append_empty]

/-- What is written to a file that has been opened replaces what it held, however long that was. -/
theorem replaces_write {name : String} {number : Nat}
    (opened : fs.openToWrite? name = some (number, gs)) (octets : ByteArray) :
    fs.Replaces name octets (gs.write number octets) := by
  rcases openToWrite?_cases opened with
    ⟨access, old, found, file, rfl⟩ | ⟨directory, last, found, rfl, rfl⟩
  · have empty : (fs.put number .empty).file? number = some (access, .empty) := by
      simp [file?_put, file]
    rw [write_of_empty empty]
    refine (((Opens.refl file).put .empty).put octets).replaces found (fun _ _ => rfl) fun i => ?_
    by_cases same : i = number
    · simp [same, file?_put, file]
    · simp [file?_put, Ne.symm same, same]
  · have empty : (fs.add directory last (.file {} .empty) nofun).file? fs.nodes.length =
        some ({}, .empty) := by
      rw [file?_add, if_pos rfl]
    rw [write_of_empty empty]
    obtain ⟨there, free⟩ := knows_of_find? found
    have new : fs.file? fs.nodes.length = .none := by simp [file?]
    refine ((fs.opens_add directory last {} .empty free).put octets).replaces found
      (fun other leads => ?_) fun i => ?_
    · exact absurd (knows_of_find? leads) (Nat.lt_irrefl _)
    · by_cases same : i = fs.nodes.length
      · simp [same, file?_put, file?_add, new]
      · simp [file?_put, file?_add, same, Ne.symm same]

example : (ofList [("pods/pi.yaml", "name: pi")]).read? "/tmp/work/./pods/../pods/pi.yaml"
    = some "name: pi" := by decide +kernel

end WorkloadForms.Files
