import ReplicaSync.FileName
import ReplicaSync.Storage.PagedFile.Basic

/-!
# Folders for stores

A store is opened at a path below a folder. The path is followed step by step before anything is
opened. A step can stay in place, go up, or go on to a name. Where a step goes on, the name is
looked up: nothing is below a plain file, and a directory has no names that are too long. A name
that is missing may be passed, as long as the path leads back up from it.

What the path leads to has to be a name in a directory that is there, since no directories are
made for a store. A folder knows the plain files in it, since paths through them are barred, and
what they hold as far as a store can be opened on them. Looking a place up after a change is
described by `fileAt?_put` and `fileAt?_erase`.
-/

set_option autoImplicit false

namespace ReplicaSync

/-- A place is given by the names that lead to it from the root, innermost first. -/
abbrev Place := List FileName

/-- What a plain file holds, as far as a store can be opened on it. -/
inductive Holding where
  /-- Nothing yet. -/
  | blank
  /-- A store. -/
  | store
  /-- Something that cannot be opened, for the given reason. It may ask for a log to be read
  along with it. -/
  | foreign (cause : StorageFault) (asksForLog : Bool)
  deriving DecidableEq, Repr

/-- What a file with the given bytes holds. -/
def Holding.ofBytes (content : Bytes) : Holding :=
  if PagedFile.isBlank content then .blank
  else
    match PagedFile.open? content with
    | .ok _ => .store
    | .error refusal => .foreign refusal.cause refusal.asksForLog

/-- A directory to open stores in, with the plain files that are known to be in it and around
it. -/
structure Folder where
  /-- Where the directory is. -/
  place : Place
  /-- How messages write the directory. -/
  title : String
  /-- The plain files, each with what it holds. -/
  files : List (Place × Holding) := []
  /-- The place of the store that is held open. -/
  held : Option Place := none

namespace Folder

/-! ## Files -/

/-- What the file at a place holds, if there is one. -/
def fileAt? (folder : Folder) (place : Place) : Option Holding :=
  folder.files.lookup place

/-- Takes the files away from some places. -/
def erase (places : List Place) (folder : Folder) : Folder :=
  { folder with files := folder.files.filter fun file => !places.contains file.1 }

/-- Makes the file at a place hold something. -/
def put (place : Place) (holding : Holding) (folder : Folder) : Folder :=
  { folder with files := (place, holding) :: (folder.erase [place]).files }

/-- Whether a place is the directory or one above it. -/
def isDirectory (folder : Folder) (place : Place) : Bool :=
  place.isSuffixOf folder.place

/-- Whether a plain file is known to be at a place. -/
def isFile (folder : Folder) (place : Place) : Bool :=
  (folder.fileAt? place).isSome

theorem lookup_filter (places : List Place) (place : Place) (files : List (Place × Holding)) :
    (files.filter fun file => !places.contains file.1).lookup place =
      if places.contains place then none else files.lookup place := by
  induction files with
  | nil => simp only [List.filter_nil, List.lookup_nil, ite_self]
  | cons file rest ih =>
      obtain ⟨key, holding⟩ := file
      rw [List.filter_cons, List.lookup_cons]
      by_cases here : place = key
      · subst here
        by_cases removed : places.contains place
        · simp only [removed, Bool.not_true, Bool.false_eq_true, if_false, ih, if_true]
        · simp only [removed, Bool.not_false, Bool.false_eq_true, if_false, if_true,
            List.lookup_cons, beq_self_eq_true]
      · have elsewhere : (place == key) = false := beq_eq_false_iff_ne.mpr here
        split
        · rw [List.lookup_cons, elsewhere, ih]
        · rw [elsewhere, ih]

/-- A place that was erased has no file, and every other place the one it had. -/
theorem fileAt?_erase (folder : Folder) (places : List Place) (place : Place) :
    (folder.erase places).fileAt? place =
      if places.contains place then none else folder.fileAt? place :=
  lookup_filter places place folder.files

/-- A place that was put has the new file, and every other place the one it had. -/
theorem fileAt?_put (folder : Folder) (place other : Place) (holding : Holding) :
    (folder.put place holding).fileAt? other =
      if other = place then some holding else folder.fileAt? other := by
  have rest := fileAt?_erase folder [place] other
  by_cases same : other = place
  · simp [put, fileAt?, same]
  · have elsewhere : (other == place) = false := beq_eq_false_iff_ne.mpr same
    rw [if_neg same, ← rest.trans (if_neg (by simpa using same))]
    simp only [put, fileAt?, List.lookup_cons, elsewhere]

/-! ## Following paths -/

/-- The number of bytes of the path to a place from the root. -/
def pathSize : Place → Nat
  | [] => 0
  | name :: outer => pathSize outer + 1 + name.size

/-- The greatest number of bytes that a path can have on the way. -/
def maxPathSize : Nat := 511

/-- Whether going on from a place to a name fails. -/
def bars (folder : Folder) (outer : Place) (name : FileName) : Bool :=
  folder.isFile outer || (folder.isDirectory outer && name.isTooLong) ||
    maxPathSize < pathSize (name :: outer)

/-- Follows the steps of a path from a place. -/
def follow (folder : Folder) : Place → List FileName → Option Place
  | place, [] => some place
  | place, step :: rest =>
      if step = [] ∨ step = ['.'] then folder.follow place rest
      else if step = ['.', '.'] then folder.follow place.tail rest
      else if folder.bars place step then none
      else folder.follow (step :: place) rest

/-- Whether a path begins at the root. -/
def isAbsolute (path : String) : Bool :=
  path.toList.head? == some '/'

/-- The place of the file that a path leads to, if there is one or one can be made. -/
def locate? (folder : Folder) (path : String) : Option Place :=
  match folder.follow (if isAbsolute path then [] else folder.place) (FileName.steps path) with
  | none => none
  | some place =>
      if folder.isDirectory place.tail && !folder.isDirectory place then some place else none

/-- A path below the folder, as messages write it. -/
def written (folder : Folder) (path : String) : String :=
  if isAbsolute path then path else folder.title ++ "/" ++ path

/-- The position of the first null byte of a path below the folder. -/
def nullPosition? (folder : Folder) (path : String) : Option Nat :=
  let before := path.toList.takeWhile (· != '\x00')
  if before.length = path.toList.length then none
  else some ((if isAbsolute path then 0 else pathSize folder.place + 1) + FileName.size before)

end Folder

end ReplicaSync
