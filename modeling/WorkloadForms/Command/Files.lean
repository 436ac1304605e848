import WorkloadForms.Text.Token

/-!
# Files

The tree of files that a command finds: directories, files and links under a root, and the directory
that the command works in. What stands in the tree has a number, so that one file may have several
names. A directory may be empty, what a file holds need not be a text, and the command may be denied
to read, to write or to search. Devices, pipes and sockets are not among the files.

A name leads through the tree from the root if it starts with a slash, and else from the working
directory (`Files.find?`). A file that is opened to be written is made where there is none and
emptied where there is one (`Files.openToWrite?`). The limits of names, paths and links are those of
Linux.
-/

namespace WorkloadForms

/-- What a command may do with a file or a directory. To search a directory is to look up a name in
it. -/
structure Access where
  read : Bool := true
  write : Bool := true
  search : Bool := true
  deriving DecidableEq, Repr, Inhabited

/-- What stands in a tree of files. -/
inductive Inode where
  /-- A directory, and the number of the one above it. -/
  | directory (access : Access) (above : Nat)
  /-- A file, and its octets. -/
  | file (access : Access) (octets : ByteArray)
  /-- A link, and the name that it leads on to. -/
  | link (target : String)

namespace Inode

/-- The number of the directory above a directory. -/
def above? : Inode → Option Nat
  | .directory _ above => some above
  | _ => none

/-- A file with other octets. -/
def withOctets (octets : ByteArray) : Inode → Inode
  | .file access _ => .file access octets
  | node => node

@[simp] theorem above?_withOctets (octets : ByteArray) (node : Inode) :
    (node.withOctets octets).above? = node.above? := by
  cases node <;> rfl

/-- What stands in a tree has the octets that it has. -/
theorem exists_withOctets (node : Inode) : ∃ octets, node.withOctets octets = node := by
  cases node with
  | file access octets => exact ⟨octets, rfl⟩
  | _ => exact ⟨.empty, rfl⟩

end Inode

/-- A tree of files: what stands in it by its number, the root first; the numbers that names have in
the directories; and the number of the working directory. -/
structure Files where
  nodes : List Inode
  names : List ((Nat × String) × Nat)
  here : Nat
  named : ∀ e ∈ names, e.2 < nodes.length
  nested : ∀ node ∈ nodes, ∀ above ∈ node.above?, above < nodes.length
  placed : here < nodes.length

/-- Where a name leads: to what stands in the tree, or to a name that is free in a directory. -/
inductive Place where
  | node (number : Nat)
  | free (directory : Nat) (name : String)
  deriving DecidableEq, Repr

namespace Files

/-- No files but the root, which is the working directory. -/
def none : Files where
  nodes := [.directory {} 0]
  names := []
  here := 0
  named := by decide
  nested := by decide
  placed := by decide

/-! ## Names -/

/-- The greatest number of octets of a name in a directory. -/
def nameLimit : Nat := 255

/-- The number of octets that a path does not reach. -/
def pathLimit : Nat := 4096

/-- The greatest number of links on a way. -/
def linkLimit : Nat := 40

/-- The segments of a path. -/
def segments (path : String) : List String := (Text.split '/' path.toList).map String.ofList

/-- The directory where a path starts, seen from a directory, and the segments to follow. -/
def start? (directory : Nat) (path : String) : Option (Nat × List String) :=
  if path.isEmpty || path.toList.contains '\x00' || pathLimit ≤ path.utf8ByteSize then .none
  else some (if path.toList.head? = some '/' then 0 else directory, segments path)

/-- The directory above a directory, if names may be looked up there. -/
def searched? (fs : Files) (directory : Nat) : Option Nat :=
  match fs.nodes[directory]? with
  | some (.directory access above) => if access.search then some above else .none
  | _ => .none

/-- What a segment has in a directory: a number, or none if it is a name that is free. A name has to
be looked up in the directory, and an empty segment has not. -/
def hop? (fs : Files) (directory : Nat) (segment : String) : Option (Option Nat) :=
  if segment.isEmpty then some (some directory)
  else (fs.searched? directory).bind fun above =>
    if segment == "." then some (some directory)
    else if segment == ".." then some (some above)
    else if nameLimit < segment.utf8ByteSize then .none
    else some (fs.names.lookup (directory, segment))

/-- Where segments lead from a directory, when `follow` says where they lead behind a link. -/
def walk? (fs : Files) (follow : Nat → List String → Option Place) (directory : Nat) :
    List String → Option Place
  | [] => some (.node directory)
  | segment :: rest =>
    match fs.hop? directory segment with
    | .none => .none
    | some .none => if rest.isEmpty then some (.free directory segment) else .none
    | some (some number) =>
      match fs.nodes[number]? with
      | some (.directory ..) => fs.walk? follow number rest
      | some (.file ..) => if rest.isEmpty then some (.node number) else .none
      | some (.link target) =>
        (start? directory target).bind fun (start, first) => follow start (first ++ rest)
      | .none => .none

/-- Where segments lead from a directory over at most so many links. -/
def follow? (fs : Files) : Nat → Nat → List String → Option Place
  | 0 => fs.walk? fun _ _ => .none
  | links + 1 => fs.walk? (fs.follow? links)

/-- Where a name leads. -/
def find? (fs : Files) (name : String) : Option Place :=
  (start? fs.here name).bind fun (start, first) => fs.follow? linkLimit start first

/-! ## Reading and writing -/

/-- What a file with a number may be used for, and its octets. -/
def file? (fs : Files) (number : Nat) : Option (Access × ByteArray) :=
  match fs.nodes[number]? with
  | some (.file access octets) => some (access, octets)
  | _ => .none

/-- The text of a file, if it may be read and holds a text. -/
def read? (fs : Files) (name : String) : Option String := do
  let .node number ← fs.find? name | .none
  let (access, octets) ← fs.file? number
  if access.read then String.fromUTF8? octets else .none

/-- The tree with other octets in a file. -/
def put (fs : Files) (number : Nat) (octets : ByteArray) : Files where
  nodes := fs.nodes.modify number (·.withOctets octets)
  names := fs.names
  here := fs.here
  named := by simpa using fs.named
  nested := by
    intro node mem above lies
    rw [List.length_modify]
    obtain ⟨i, there⟩ := List.mem_iff_getElem?.1 mem
    rw [List.getElem?_modify] at there
    obtain ⟨old, found, rfl⟩ := Option.map_eq_some_iff.1 there
    refine fs.nested old (List.mem_of_getElem? found) above ?_
    split at lies <;> simpa using lies
  placed := by simpa using fs.placed

/-- The tree with something new, under a name in a directory. -/
def add (fs : Files) (directory : Nat) (name : String) (node : Inode)
    (inside : ∀ above ∈ node.above?, above < fs.nodes.length) : Files where
  nodes := fs.nodes ++ [node]
  names := ((directory, name), fs.nodes.length) :: fs.names
  here := fs.here
  named := by
    simp only [List.length_append, List.length_singleton, List.forall_mem_cons]
    exact ⟨Nat.lt_succ_self _, fun e mem => Nat.lt_succ_of_lt (fs.named e mem)⟩
  nested := by
    simp only [List.length_append, List.length_singleton, List.forall_mem_append,
      List.forall_mem_singleton]
    exact ⟨fun node mem above lies => Nat.lt_succ_of_lt (fs.nested node mem above lies),
      fun above lies => Nat.lt_succ_of_lt (inside above lies)⟩
  placed := by simpa using Nat.lt_succ_of_lt fs.placed

/-- The number of a file that is opened to be written, and the tree in which it is empty. -/
def openToWrite? (fs : Files) (name : String) : Option (Nat × Files) := do
  match ← fs.find? name with
  | .node number =>
    let (access, _) ← fs.file? number
    if access.write then some (number, fs.put number .empty) else .none
  | .free directory last =>
    let some (.directory access _) := fs.nodes[directory]? | .none
    if access.write then
      some (fs.nodes.length, fs.add directory last (.file {} .empty) nofun)
    else .none

/-- The tree with octets in a file from its start on, over those that are there. -/
def write (fs : Files) (number : Nat) (octets : ByteArray) : Files :=
  match fs.file? number with
  | some (_, old) => fs.put number (octets ++ old.extract octets.size old.size)
  | .none => fs

/-! ## Trees of texts -/

/-- The tree of an empty working directory, which has a directory above it that is not the root. -/
def workplace : Files where
  nodes := [.directory {} 0, .directory {} 0, .directory {} 1]
  names := [((0, "tmp"), 1), ((1, "work"), 2)]
  here := 2
  named := by decide
  nested := by decide
  placed := by decide

/-- The tree with all directories on a path from a directory, but for its last segment. -/
def makeDirectories (fs : Files) (directory : Nat) : List String → Files
  | [] => fs
  | [_] => fs
  | segment :: rest =>
    match fs.names.lookup (directory, segment) with
    | some number => fs.makeDirectories number rest
    | .none =>
      if there : directory < fs.nodes.length then
        (fs.add directory segment (.directory {} directory)
          (by simpa [Inode.above?] using there)).makeDirectories fs.nodes.length rest
      else fs

/-- The tree with a file of a text, and with the directories on its path. -/
def withText (fs : Files) (path text : String) : Files :=
  let fs := fs.makeDirectories fs.here
    ((segments path).filter fun segment => !segment.isEmpty && segment != ".")
  match fs.openToWrite? path with
  | some (number, opened) => opened.write number text.toByteArray
  | .none => fs

/-- The tree of a working directory with files of these paths and texts. -/
def ofList (files : List (String × String)) : Files :=
  files.foldl (fun fs e => fs.withText e.1 e.2) workplace

end Files

end WorkloadForms
