import ModalLexer.CommandLine.FileSystem
import ModalLexer.Proofs.Fallible

/-!
# Places in a file system

A path leads from directory to directory to a place, or the walk along it stops on the way
(`FileSystem.Stops`). At the place there is a file or a directory, or nothing
(`FileSystem.hasPath_iff`).

A file is written at the place that its path leads to, and only there: everything else is as it was
before (`FileSystem.ChangedAt`), since all that is above the place is there already
(`FileSystem.Hangs`). Where the walk stops or leads to a directory, the path is refused and nothing
is written (`FileSystem.Refuses`), whatever the content would have been. There is no third case
(`FileSystem.opens_or_refuses`).
-/

namespace ModalLexer.CommandLine

namespace FileSystem

variable {fs fs' : FileSystem} {p q here : Path} {path part : String} {parts : List String}
  {content : ByteArray} {e : FileError}

/-! ## Walking -/

/-- In walking a path of allowed length, the part `part` is looked for at `here`. -/
structure Looks (fs : FileSystem) (path : String) (parts : List String) (here : Path)
    (part : String) : Prop where
  ne_empty : path ≠ ""
  size_le : path.utf8ByteSize ≤ maxPathSize
  reaches : ∃ front behind, parts = front ++ part :: behind ∧
    front.foldlM fs.enter (fs.base path) = .ok here

/-- How the walk along a path can stop on the way. -/
inductive Stops (fs : FileSystem) (path : String) (parts : List String) : FileError → Prop
  /-- There is no path. -/
  | empty (h : path = "") : Stops fs path parts .notFound
  /-- The path is too long. -/
  | longPath (h : maxPathSize < path.utf8ByteSize) : Stops fs path parts .nameTooLong
  /-- A part is looked for in a directory that is missing. -/
  | missing {here : Path} {part : String} (h : fs.Looks path parts here part)
    (hnode : fs.node? here = none) : Stops fs path parts .notFound
  /-- A part is looked for in a file. -/
  | inFile {here : Path} {part : String} {content : ByteArray} (h : fs.Looks path parts here part)
    (hnode : fs.node? here = some (.file content)) : Stops fs path parts .notDirectory
  /-- A part is too long for the name of anything in a directory. -/
  | longName {here : Path} {part : String} (h : fs.Looks path parts here part)
    (hnode : fs.node? here = some .directory) (hsize : maxNameSize < part.utf8ByteSize) :
    Stops fs path parts .nameTooLong

/-- It is possible to go on from a directory only. -/
theorem node?_of_enter (h : fs.enter here part = .ok p) : fs.node? here = some .directory := by
  unfold enter at h
  split at h
  · exact absurd h (by simp)
  · exact absurd h (by simp)
  · next hnode => exact hnode

/-- It fails for one of three reasons. -/
theorem enter_eq_error_iff : fs.enter here part = .error e ↔
    (fs.node? here = none ∧ e = .notFound) ∨
      (∃ content, fs.node? here = some (.file content) ∧ e = .notDirectory) ∨
        (fs.node? here = some .directory ∧ maxNameSize < part.utf8ByteSize ∧ e = .nameTooLong) := by
  unfold enter
  rcases hnode : fs.node? here with _ | content | _
  · simp [eq_comm]
  · simp [eq_comm]
  · by_cases hsize : maxNameSize < part.utf8ByteSize
    · -- The parts that do not name anything are short.
      have hshort {s : String} (hs : s.utf8ByteSize ≤ maxNameSize) : part ≠ s := by
        rintro rfl
        omega
      have hempty : part ≠ "" := hshort (by decide)
      have hdot : part ≠ "." := hshort (by decide)
      have hdots : part ≠ ".." := hshort (by decide)
      simp [hempty, hdot, hdots, hsize, eq_comm]
    · simp only [hsize, if_false, false_and, and_false, or_false, reduceCtorEq]
      by_cases hstay : part = "" ∨ part = "."
      · simp [hstay]
      · by_cases hup : part = ".." <;> simp [hstay, hup]

/-- A path of allowed length is walked part by part. -/
theorem walk_eq_foldlM (hne : path ≠ "") (hsize : path.utf8ByteSize ≤ maxPathSize) :
    fs.walk path parts = parts.foldlM fs.enter (fs.base path) := by
  unfold walk
  rw [if_neg hne, if_neg (Nat.not_lt.2 hsize)]

/-- The path `s` has one part. -/
theorem splitOn_s : "s".splitOn "/" = ["s"] := by
  rw [String.splitOn, if_neg (by decide), String.splitOnAux, if_neg (by decide),
    if_neg (by decide), String.splitOnAux, if_pos (by decide)]
  decide

/-- From the root, the path `s` leads to the place of that name. -/
theorem resolve_s (hworking : fs.working = []) (hroot : fs.node? [] = some .directory) :
    fs.resolve "s" = .ok ["s"] := by
  have hsize : ¬maxNameSize < "s".utf8ByteSize := by decide
  rw [resolve, walk_eq_foldlM (by decide) (by decide), splitOn_s, base, hworking, ite_self]
  simp [enter, hroot, hsize]

/-- A walk succeeds exactly if the path has an allowed length and all of its parts lead on. -/
theorem walk_eq_ok_iff : fs.walk path parts = .ok p ↔ path ≠ "" ∧
    path.utf8ByteSize ≤ maxPathSize ∧ parts.foldlM fs.enter (fs.base path) = .ok p := by
  constructor
  · intro h
    by_cases hne : path = ""
    · rw [walk, if_pos hne] at h
      exact absurd h (by simp)
    by_cases hsize : maxPathSize < path.utf8ByteSize
    · rw [walk, if_neg hne, if_pos hsize] at h
      exact absurd h (by simp)
    have hle : path.utf8ByteSize ≤ maxPathSize := Nat.le_of_not_lt hsize
    exact ⟨hne, hle, (walk_eq_foldlM hne hle).symm.trans h⟩
  · rintro ⟨hne, hle, h⟩
    exact (walk_eq_foldlM hne hle).trans h

/-- The walk fails where a part is looked for in vain. -/
theorem Looks.walk_eq_error (h : fs.Looks path parts here part)
    (hpart : fs.enter here part = .error e) : fs.walk path parts = .error e := by
  obtain ⟨hne, hsize, front, behind, hparts, hfront⟩ := h
  rw [walk_eq_foldlM hne hsize]
  exact foldlM_eq_error_iff.2 ⟨front, part, behind, here, hparts, hfront, hpart⟩

/-- A walk fails exactly if it stops on the way. -/
theorem walk_eq_error_iff : fs.walk path parts = .error e ↔ fs.Stops path parts e := by
  constructor
  · intro h
    by_cases hne : path = ""
    · rw [walk, if_pos hne] at h
      exact Except.error.inj h ▸ .empty hne
    by_cases hsize : maxPathSize < path.utf8ByteSize
    · rw [walk, if_neg hne, if_pos hsize] at h
      exact Except.error.inj h ▸ .longPath hsize
    rw [walk_eq_foldlM hne (Nat.le_of_not_lt hsize)] at h
    obtain ⟨front, part, behind, here, hparts, hfront, hpart⟩ := foldlM_eq_error_iff.1 h
    have hlooks : fs.Looks path parts here part :=
      ⟨hne, Nat.le_of_not_lt hsize, front, behind, hparts, hfront⟩
    rcases enter_eq_error_iff.1 hpart with
      ⟨hnode, rfl⟩ | ⟨content, hnode, rfl⟩ | ⟨hnode, hlong, rfl⟩
    · exact .missing hlooks hnode
    · exact .inFile hlooks hnode
    · exact .longName hlooks hnode hlong
  · intro h
    cases h with
    | empty hempty => rw [walk, if_pos hempty]
    | longPath hsize =>
      have hne : path ≠ "" := by
        rintro rfl
        exact absurd hsize (by decide)
      rw [walk, if_neg hne, if_pos hsize]
    | missing hlooks hnode => exact hlooks.walk_eq_error (enter_eq_error_iff.2 (.inl ⟨hnode, rfl⟩))
    | inFile hlooks hnode =>
      exact hlooks.walk_eq_error (enter_eq_error_iff.2 (.inr (.inl ⟨_, hnode, rfl⟩)))
    | longName hlooks hnode hlong =>
      exact hlooks.walk_eq_error (enter_eq_error_iff.2 (.inr (.inr ⟨hnode, hlong, rfl⟩)))

/-- Something stands at a path exactly if it leads to a directory or to a file that can be read. -/
theorem hasPath_iff : fs.hasPath path = true ↔
    fs.content path = .error .isDirectory ∨ ∃ bytes, fs.content path = .ok bytes := by
  unfold hasPath FileSystem.content
  cases hresolve : fs.resolve path with
  | error e =>
    have hne : e ≠ .isDirectory := by
      rintro rfl
      exact nomatch walk_eq_error_iff.1 hresolve
    simp [bind, Except.bind, hne]
  | ok place =>
    rcases hnode : fs.node? place with _ | bytes | _ <;> simp [bind, Except.bind, hnode]

/-! ## Opening a file -/

/-- A path leads to a place where a file can be written: to a file, or to a place in a directory
where nothing stands. -/
structure Opens (fs : FileSystem) (path : String) (place : Path) : Prop where
  not_endsWith : path.endsWith "/" = false
  resolve_eq : fs.resolve path = .ok place
  node_ne : fs.node? place ≠ some .directory

/-- Why no file can be written at a path. -/
inductive Refuses (fs : FileSystem) (path : String) : FileError → Prop
  /-- The walk along the path stops. -/
  | stops {e : FileError} (h : fs.Stops path (writtenParts path) e) : Refuses fs path e
  /-- The path leads to a directory. Every path that ends in a slash does so. -/
  | directory {place : Path} (h : fs.walk path (writtenParts path) = .ok place)
    (hdirectory : path.endsWith "/" = true ∨ fs.node? place = some .directory) :
    Refuses fs path .isDirectory

/-- Without a slash at its end, a path is walked to its end. -/
theorem resolve_eq_walk (hslash : path.endsWith "/" = false) :
    fs.resolve path = fs.walk path (writtenParts path) := by
  unfold resolve writtenParts
  rw [hslash]
  rfl

/-- A path leads to a place for a file, or it is refused. -/
theorem opens_or_refuses (fs : FileSystem) (path : String) :
    (∃ place, fs.Opens path place) ∨ ∃ e, fs.Refuses path e := by
  cases hwalk : fs.walk path (writtenParts path) with
  | error e => exact .inr ⟨e, .stops (walk_eq_error_iff.1 hwalk)⟩
  | ok place =>
    cases hslash : path.endsWith "/" with
    | true => exact .inr ⟨_, .directory hwalk (.inl hslash)⟩
    | false =>
      by_cases hnode : fs.node? place = some .directory
      · exact .inr ⟨_, .directory hwalk (.inr hnode)⟩
      · exact .inl ⟨place, hslash, (resolve_eq_walk hslash).trans hwalk, hnode⟩

/-- Where a path leads to a place for a file, the file is put there. -/
theorem Opens.write_eq {place : Path} (h : fs.Opens path place) (content : ByteArray) :
    fs.write path content = .ok (fs.put place content) := by
  rw [write, ← resolve_eq_walk h.not_endsWith, h.resolve_eq, h.not_endsWith]
  dsimp only [bind, Except.bind]
  rw [if_neg (by simp)]
  split
  · next hnode => exact absurd hnode h.node_ne
  · rfl

/-- Where it is refused, the write fails. -/
theorem Refuses.write_eq (h : fs.Refuses path e) (content : ByteArray) :
    fs.write path content = .error e := by
  cases h with
  | stops hstops =>
    rw [write, walk_eq_error_iff.2 hstops]
    rfl
  | directory hwalk hdirectory =>
    rw [write, hwalk]
    dsimp only [bind, Except.bind]
    split
    · rfl
    · next hslash => rw [hdirectory.resolve_left hslash]

/-! ## What a write changes -/

/-- Files or directories stand at a path or below it. The root is there in any case. -/
def Houses (fs : FileSystem) (p : Path) : Prop :=
  p = [] ∨ p <+: fs.working ∨ (∃ d ∈ fs.directories, p <+: d) ∨ ∃ f ∈ fs.files, p <+: f.1

/-- Where no file is stored, there is a directory if something stands below. -/
theorem node?_of_lookup_eq_none [Decidable (fs.Houses p)] (h : fs.files.lookup p = none) :
    fs.node? p = if fs.Houses p then some .directory else none := by
  unfold node?
  rw [h]
  simp only [Houses, List.any_eq_true, decide_eq_true_eq]
  congr

/-- So there is something in any case where something stands below. -/
theorem node?_ne_none_of_houses (h : fs.Houses p) : fs.node? p ≠ none := by
  classical
  cases hfile : fs.files.lookup p with
  | some content => simp [node?, hfile]
  | none => simp [node?_of_lookup_eq_none hfile, h]

/-- If it is no file, something stands below. -/
theorem houses_of_node?_ne_none (hfile : fs.files.lookup p = none) (h : fs.node? p ≠ none) :
    fs.Houses p := by
  classical
  rw [node?_of_lookup_eq_none hfile] at h
  exact Decidable.byContradiction fun hhouses => h (if_neg hhouses)

/-- So what stands at a path is known from the file stored there and from what stands below. -/
theorem node?_congr (hlookup : fs'.files.lookup q = fs.files.lookup q)
    (hhouses : fs.files.lookup q = none → (fs'.Houses q ↔ fs.Houses q)) :
    fs'.node? q = fs.node? q := by
  classical
  cases hfile : fs.files.lookup q with
  | some content => simp only [node?, hlookup, hfile]
  | none =>
    rw [node?_of_lookup_eq_none hfile, node?_of_lookup_eq_none (hlookup.trans hfile)]
    simp only [hhouses hfile]

/-- Everything above a place is there. -/
def Hangs (fs : FileSystem) (p : Path) : Prop := ∀ q, q <+: p → q ≠ p → fs.node? q ≠ none

/-- What is above a directory is above everything in it. -/
theorem Hangs.append (h : fs.Hangs here) (hnode : fs.node? here = some .directory) (part : String) :
    fs.Hangs (here ++ [part]) := by
  intro q hq hne
  rcases List.prefix_concat_iff.1 hq with rfl | hq
  · exact absurd rfl hne
  · by_cases heq : q = here
    · rw [heq, hnode]
      simp
    · exact h q hq heq

/-- Every part leads to a place below directories. -/
theorem Hangs.enter (h : fs.Hangs here) (hpart : fs.enter here part = .ok p) : fs.Hangs p := by
  have hnode : fs.node? here = some .directory := node?_of_enter hpart
  simp only [FileSystem.enter, hnode] at hpart
  -- The part stays in the directory, goes up from it, or names something in it.
  split at hpart
  · exact Except.ok.inj hpart ▸ h
  split at hpart
  · obtain rfl := Except.ok.inj hpart
    intro q hq hne
    refine h q (hq.trans (List.dropLast_prefix here)) ?_
    rintro rfl
    exact hne (List.IsPrefix.eq_of_length_le hq (by simp))
  split at hpart
  · exact absurd hpart (by simp)
  · exact Except.ok.inj hpart ▸ h.append hnode part

/-- So does every walk along a path. -/
theorem hangs_of_walk (h : fs.walk path parts = .ok p) : fs.Hangs p := by
  have hbase : fs.Hangs (fs.base path) := by
    intro q hq hne
    have hhouses : fs.Houses q := by
      unfold base at hq
      split at hq
      · exact .inl (List.prefix_nil.1 hq)
      · exact .inr (.inl hq)
    exact node?_ne_none_of_houses hhouses
  obtain ⟨-, -, hparts⟩ := walk_eq_ok_iff.1 h
  exact foldlM_kept (fun _ _ _ hhangs hpart => hhangs.enter hpart) hbase hparts

/-- What is stored under a path does not depend on what is stored under another one. -/
theorem lookup_filter_ne {files : List (Path × ByteArray)} (hq : q ≠ p) :
    (files.filter (·.1 ≠ p)).lookup q = files.lookup q := by
  induction files with
  | nil => rfl
  | cons f files ih =>
    obtain ⟨r, content⟩ := f
    by_cases hr : r = p
    · subst hr
      rw [List.filter_cons_of_neg (by simp), ih, List.lookup_cons, beq_false_of_ne hq]
    · rw [List.filter_cons_of_pos (by simpa using hr), List.lookup_cons, List.lookup_cons, ih]

/-- Above a new file there is something, and everywhere else there is what was there before. -/
theorem houses_put_iff : (fs.put p content).Houses q ↔ fs.Houses q ∨ q <+: p := by
  constructor
  · rintro (h | h | h | ⟨f, hf, hq⟩)
    · exact .inl (.inl h)
    · exact .inl (.inr (.inl h))
    · exact .inl (.inr (.inr (.inl h)))
    · rcases List.mem_cons.1 hf with rfl | hf
      · exact .inr hq
      · exact .inl (.inr (.inr (.inr ⟨f, (List.mem_filter.1 hf).1, hq⟩)))
  · rintro ((h | h | h | ⟨f, hf, hq⟩) | hq)
    · exact .inl h
    · exact .inr (.inl h)
    · exact .inr (.inr (.inl h))
    · -- A file that is replaced has the path of the new one.
      by_cases hp : f.1 = p
      · exact .inr (.inr (.inr ⟨_, List.mem_cons_self, hp ▸ hq⟩))
      · have hkept : f ∈ fs.files.filter (·.1 ≠ p) := List.mem_filter.2 ⟨hf, by simpa using hp⟩
        exact .inr (.inr (.inr ⟨f, List.mem_cons_of_mem _ hkept, hq⟩))
    · exact .inr (.inr (.inr ⟨_, List.mem_cons_self, hq⟩))

/-- Where a file was put, it is. -/
theorem node?_put_self (fs : FileSystem) (p : Path) (content : ByteArray) :
    (fs.put p content).node? p = some (.file content) := by
  have hlookup : (fs.put p content).files.lookup p = some content := List.lookup_cons_self
  simp only [node?, hlookup]

/-- Everywhere else, there is what was there before. -/
theorem node?_put_of_ne (h : fs.Hangs p) (hq : q ≠ p) (content : ByteArray) :
    (fs.put p content).node? q = fs.node? q := by
  refine node?_congr ?_ fun hfile => ?_
  · show ((p, content) :: fs.files.filter (·.1 ≠ p)).lookup q = fs.files.lookup q
    rw [List.lookup_cons, beq_false_of_ne hq, lookup_filter_ne hq]
  · rw [houses_put_iff]
    refine or_iff_left_of_imp fun hqp => ?_
    -- What is above the file was there before.
    exact houses_of_node?_ne_none hfile (h q hqp hq)

/-- Every path that leads somewhere still leads there if the new file takes no directory away. -/
theorem resolve_put (h : fs.Hangs p) (hnode : fs.node? p ≠ some .directory) (content : ByteArray)
    (hresolve : fs.resolve path = .ok q) : (fs.put p content).resolve path = .ok q := by
  obtain ⟨hne, hle, hparts⟩ := walk_eq_ok_iff.1 hresolve
  refine walk_eq_ok_iff.2 ⟨hne, hle, foldlM_eq_ok_of_imp (fun here part next hpart => ?_) hparts⟩
  -- The walk comes through directories, and the place of the file is none.
  have hhere : here ≠ p := by
    rintro rfl
    exact hnode (node?_of_enter hpart)
  unfold enter at hpart ⊢
  rwa [node?_put_of_ne h hhere content]

/-- The file system `fs'` holds the content at a place, and everything else as `fs` does. -/
structure ChangedAt (fs fs' : FileSystem) (place : Path) (content : ByteArray) : Prop where
  node?_place : fs'.node? place = some (.file content)
  node?_of_ne : ∀ q, q ≠ place → fs'.node? q = fs.node? q
  content_of_ne : ∀ path q, fs.resolve path = .ok q → q ≠ place → fs'.content path = fs.content path
  directories_eq : fs'.directories = fs.directories
  working_eq : fs'.working = fs.working
  input_eq : fs'.input = fs.input

/-- A file that is put where a path leads to changes nothing else. -/
theorem Opens.changedAt_put {place : Path} (h : fs.Opens path place) (content : ByteArray) :
    fs.ChangedAt (fs.put place content) place content where
  node?_place := fs.node?_put_self place content
  node?_of_ne q hq := node?_put_of_ne (hangs_of_walk h.resolve_eq) hq content
  content_of_ne other q hother hq := by
    have hhangs : fs.Hangs place := hangs_of_walk h.resolve_eq
    unfold FileSystem.content
    rw [resolve_put hhangs h.node_ne content hother, hother]
    dsimp only [bind, Except.bind]
    rw [node?_put_of_ne hhangs hq content]
  directories_eq := rfl
  working_eq := rfl
  input_eq := rfl

/-- The file that is put where a path leads to is then read from this path. -/
theorem Opens.content_put {place : Path} (h : fs.Opens path place) (content : ByteArray) :
    (fs.put place content).content path = .ok content := by
  unfold FileSystem.content
  rw [resolve_put (hangs_of_walk h.resolve_eq) h.node_ne content h.resolve_eq]
  dsimp only [bind, Except.bind]
  rw [node?_put_self]

end FileSystem

end ModalLexer.CommandLine
