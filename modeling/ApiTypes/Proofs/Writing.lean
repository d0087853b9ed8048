/-
Files written into a directory.

A write changes one place, which held no directory before. So all directories stay, paths lead to the same places as
before, and files of different names can be written into a directory one after the other.

Main statements: `KeepsDirectories.leads`, where paths lead while directories stay; `write_child`, what writing a file
into a directory does; `held?_withFiles`, what is found after several files.
-/
import ApiTypes.Bundle
import ApiTypes.Files.Store

namespace ApiTypes.Store

variable {s t : Store} {place base other : List String} {p : Path} {name text : String}

theorem held?_put_ne (entry : Entry) (ne : other ≠ place) : (s.put place entry).held? other = s.held? other := by
  simp [held?, put, List.lookup_cons, beq_false_of_ne ne]

/-- a file that is put makes no directory -/
theorem directory_of_put (free : s.held? place ≠ some .directory)
    (directory : (s.put place (.file text)).held? other = some .directory) : s.held? other = some .directory := by
  by_cases same : other = place
  · rw [same, held?_put free] at directory
    cases directory
  · rwa [held?_put_ne _ same] at directory

/-! ## Directories -/

/-- directories stay directories, and the working directory is the same -/
structure KeepsDirectories (s t : Store) : Prop where
  home : t.home = s.home
  stays : ∀ place, s.held? place = some .directory → t.held? place = some .directory

theorem keepsDirectories_put (free : s.held? place ≠ some .directory) (entry : Entry) :
    s.KeepsDirectories (s.put place entry) where
  home := rfl
  stays := by
    intro other directory
    have ne : other ≠ place := by
      rintro rfl
      exact free directory
    rw [held?_put_ne entry ne]
    exact directory

theorem follow_eq_ok {part : String} :
    s.follow place part = .ok other ↔ s.held? place = some .directory ∧
      (if Path.isHere part then place else if part = ".." then place.dropLast else place ++ [part]) = other := by
  unfold follow
  cases s.held? place with
  | none => simp
  | some entry => cases entry <;> simp

theorem KeepsDirectories.foldlM_follow (keeps : s.KeepsDirectories t) {parts start : List String}
    (leads : parts.foldlM s.follow start = .ok place) : parts.foldlM t.follow start = .ok place := by
  induction parts generalizing start with
  | nil => exact leads
  | cons part rest ih =>
    rw [List.foldlM_cons] at leads ⊢
    cases followed : s.follow start part with
    | error cause =>
      rw [followed] at leads
      cases leads
    | ok next =>
      obtain ⟨directory, step⟩ := follow_eq_ok.1 followed
      rw [followed] at leads
      rw [follow_eq_ok.2 ⟨keeps.stays _ directory, step⟩]
      exact ih leads

/-- a path leads to the same place as long as directories stay -/
theorem KeepsDirectories.leads (keeps : s.KeepsDirectories t) (leads : s.place p = .ok place) :
    t.place p = .ok place := by
  have same : t.start p = s.start p := by rw [start, start, keeps.home]
  unfold Store.place at leads ⊢
  rw [same]
  exact keeps.foldlM_follow leads

/-! ## Entries of a directory -/

/-- a name that leads from a directory to an entry of it -/
def IsEntryName (name : String) : Prop := Path.isHere name = false ∧ name ≠ ".."

instance : Decidable (IsEntryName name) := inferInstanceAs (Decidable (_ ∧ _))

theorem place_child (plain : IsEntryName name) :
    s.place (p.child name) = .ok place ↔
      ∃ base, s.place p = .ok base ∧ s.held? base = some .directory ∧ place = base ++ [name] := by
  have start : s.start (p.child name) = s.start p := rfl
  unfold Store.place
  rw [start, Path.child]
  dsimp only
  rw [List.foldlM_append]
  cases p.parts.foldlM s.follow (s.start p) with
  | error cause => simp [bind, Except.bind]
  | ok base =>
    have last : [name].foldlM s.follow base = s.follow base name := by
      rw [List.foldlM_cons]
      cases s.follow base name <;> rfl
    change [name].foldlM s.follow base = .ok place ↔ _
    rw [last, follow_eq_ok]
    simp [plain.1, plain.2, eq_comm]

/-- what a write that succeeds found at its place -/
theorem held?_of_write (written : s.write p text = .ok t) :
    ∃ place, s.place p = .ok place ∧ s.held? place ≠ some .directory := by
  unfold write at written
  split at written
  · cases written
  · rename_i place leads
    refine ⟨place, leads, ?_⟩
    intro directory
    rw [directory] at written
    cases written

/-- a file is written in a directory that does not hold a directory of its name -/
theorem write_child (text : String) (plain : IsEntryName name) (leads : s.place p = .ok base)
    (directory : s.held? base = some .directory) (free : s.held? (base ++ [name]) ≠ some .directory) :
    s.write (p.child name) text = .ok (s.put (base ++ [name]) (.file text)) := by
  have child : s.place (p.child name) = .ok (base ++ [name]) := (place_child plain).2 ⟨base, leads, directory, rfl⟩
  have parent : s.held? (base ++ [name]).dropLast = some .directory := by rw [List.dropLast_concat, directory]
  unfold write
  rw [child]
  dsimp only
  rw [parent]
  cases held : s.held? (base ++ [name]) with
  | none => rfl
  | some entry =>
    cases entry with
    | directory => exact absurd held free
    | file old => rfl

/-- the store with these files in a directory -/
def withFiles (s : Store) (base : List String) : Bundle → Store
  | [] => s
  | f :: rest => (s.put (base ++ [f.1]) (.file f.2)).withFiles base rest

theorem held?_withFiles_ne {files : Bundle} (ne : ∀ f ∈ files, other ≠ base ++ [f.1]) :
    (s.withFiles base files).held? other = s.held? other := by
  induction files generalizing s with
  | nil => rfl
  | cons f rest ih =>
    rw [withFiles, ih fun g mem => ne g (List.mem_cons_of_mem _ mem)]
    exact held?_put_ne _ (ne f List.mem_cons_self)

theorem held?_withFiles {files : Bundle} (distinct : (files.map (·.1)).Nodup)
    (free : ∀ f ∈ files, s.held? (base ++ [f.1]) ≠ some .directory) :
    ∀ f ∈ files, (s.withFiles base files).held? (base ++ [f.1]) = some (.file f.2) := by
  induction files generalizing s with
  | nil => simp
  | cons f rest ih =>
    have first := free f List.mem_cons_self
    rw [List.map_cons, List.nodup_cons] at distinct
    intro g mem
    rcases List.mem_cons.1 mem with rfl | later
    · have others : ∀ h ∈ rest, base ++ [g.1] ≠ base ++ [h.1] := by
        intro h hmem same
        have : g.1 = h.1 := by simpa using same
        exact distinct.1 (this ▸ List.mem_map_of_mem hmem)
      rw [withFiles, held?_withFiles_ne others]
      exact held?_put first _
    · exact ih distinct.2 (fun h hmem => mt (directory_of_put first) (free h (List.mem_cons_of_mem _ hmem))) g later

theorem keepsDirectories_withFiles {files : Bundle} (free : ∀ f ∈ files, s.held? (base ++ [f.1]) ≠ some .directory) :
    s.KeepsDirectories (s.withFiles base files) := by
  induction files generalizing s with
  | nil => exact ⟨rfl, fun _ directory => directory⟩
  | cons f rest ih =>
    have first := free f List.mem_cons_self
    have now := keepsDirectories_put first (.file f.2)
    have later : (s.put (base ++ [f.1]) (.file f.2)).KeepsDirectories (s.withFiles base (f :: rest)) :=
      ih fun g mem => mt (directory_of_put first) (free g (List.mem_cons_of_mem _ mem))
    exact ⟨later.home.trans now.home, fun other directory => later.stays other (now.stays other directory)⟩

/-- the file at a path, with its whole text -/
def Holds (s : Store) (p : Path) (text : String) : Prop :=
  ∃ place, s.place p = .ok place ∧ s.held? place = some (.file text)

/-- the directory at a path can be made, and in it a file of every name can be written, whatever its text -/
def Accepts (s : Store) (output : Path) (names : List String) : Prop :=
  ∃ made, s.makeDirectories output = .ok made ∧
    ∀ name ∈ names, ∀ text, ∃ t, made.write (output.child name) text = .ok t

end ApiTypes.Store
