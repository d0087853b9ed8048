/-
Stores: the files and directories of a disk, and the working directory.

A place is the list of names that lead to it from the root. The parts of a path are followed one by one, from the root
where the path is absolute and from the working directory where it is not. Each is followed from a directory, so a part
behind a file leads nowhere; above the root is the root itself.

Main statement: `held?_put`, what is put at a place is found there.
-/
import ApiTypes.Files.Path

namespace ApiTypes

inductive Entry where
  | directory
  | file (text : String)
  deriving DecidableEq, Repr

/-- what a path leads to, with the bytes of files -/
inductive Found where
  | nothing
  | directory
  | file (bytes : List UInt8)
  deriving Repr

structure Store where
  /-- the place of the working directory -/
  home : List String := []
  /-- the entries by place; of two for a place the first counts -/
  entries : List (List String × Entry) := []
  deriving Repr

namespace Store

/-- what is at a place; the working directory and those above it are always there -/
def held? (s : Store) (place : List String) : Option Entry :=
  if place.isPrefixOf s.home then some .directory else s.entries.lookup place

def put (s : Store) (place : List String) (entry : Entry) : Store := { s with entries := (place, entry) :: s.entries }

theorem held?_put {s : Store} {place : List String} (free : s.held? place ≠ some .directory) (entry : Entry) :
    (s.put place entry).held? place = some entry := by
  have below : place.isPrefixOf s.home = false :=
    Bool.eq_false_iff.2 fun above => free (by rw [held?, if_pos above])
  simp [held?, put, below]

/-! ## Places -/

/-- the place that a part of a path leads to, from a directory -/
def follow (s : Store) (place : List String) (part : String) : Except FileCause (List String) :=
  match s.held? place with
  | none => .error .missing
  | some (.file _) => .error .notDirectory
  | some .directory =>
    .ok (if Path.isHere part then place else if part = ".." then place.dropLast else place ++ [part])

/-- where a path starts: at the root, or at the working directory -/
def start (s : Store) (p : Path) : List String := if p.root = "" then s.home else []

/-- the place of a path, which need not hold anything -/
def place (s : Store) (p : Path) : Except FileCause (List String) := p.parts.foldlM s.follow (s.start p)

/-- what a word leads to that is given as a path -/
def look (s : Store) (word : String) : Found :=
  if word = "" then .nothing
  else match s.place ⟨Path.rootOf word.toList, Path.split word⟩ with
    | .error _ => .nothing
    | .ok place =>
      match s.held? place with
      | none => .nothing
      | some .directory => .directory
      | some (.file text) => .file text.toUTF8.toList

/-! ## Changes -/

/-- a directory at a path whose parent is there; one that is there already is kept -/
def makeDirectory (s : Store) (p : Path) : Except FileCause Store := do
  let place ← s.place p
  match s.held? place with
  | none => return s.put place .directory
  | some .directory => return s
  | some (.file _) => throw .taken

/-- a directory at a path and at those above it; `above` holds the parts in reverse -/
def makeDirectoriesFrom (root : String) : (above : List String) → Store → Except FileFault Store
  | [], s => (s.makeDirectory ⟨root, []⟩).mapError (⟨·, ⟨root, []⟩⟩)
  | part :: above, s =>
    let path : Path := ⟨root, (part :: above).reverse⟩
    match s.makeDirectory path with
    | .ok s => .ok s
    | .error .missing => do
      let s ← makeDirectoriesFrom root above s
      (s.makeDirectory path).mapError (⟨·, path⟩)
    | .error cause => .error ⟨cause, path⟩

def makeDirectories (s : Store) (p : Path) : Except FileFault Store :=
  makeDirectoriesFrom p.root p.parts.reverse s

/-- a file with this text, in place of one that was there -/
def write (s : Store) (p : Path) (text : String) : Except FileFault Store :=
  match s.place p with
  | .error cause => .error ⟨cause, p⟩
  | .ok place =>
    match s.held? place, s.held? place.dropLast with
    | some .directory, _ => .error ⟨.isDirectory, p⟩
    | some (.file _), _ => .ok (s.put place (.file text))
    | none, some .directory => .ok (s.put place (.file text))
    | none, _ => .error ⟨.missing, p⟩

/-! ## Contents -/

/-- put a file below the working directory, and the directories that lead to it -/
def addFile (s : Store) (path text : String) : Store :=
  let parts := (Path.ofText path).parts
  let above := ((List.range parts.length).drop 1).map fun n => s.home ++ parts.take n
  (above.foldl (fun s directory => s.put directory .directory) s).put (s.home ++ parts) (.file text)

/-- a working directory with these files, and nothing beside it -/
def ofFiles (files : List (String × String)) : Store :=
  files.foldl (fun s f => s.addFile f.1 f.2) { home := ["home"] }

/-- the files with their texts -/
def files (s : Store) : List (List String × String) :=
  (s.entries.map (·.1)).eraseDups.filterMap fun place =>
    match s.held? place with
    | some (.file text) => some (place, text)
    | _ => none

/-- the files below the working directory that `before` does not hold with the same text, by path -/
def changesSince (s before : Store) : List (String × String) :=
  (s.files.filter fun f => s.home.isPrefixOf f.1 && before.held? f.1 != some (.file f.2)).map fun f =>
    ("/".intercalate (f.1.drop s.home.length), f.2)

end Store

end ApiTypes
