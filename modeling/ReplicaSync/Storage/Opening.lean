import ReplicaSync.Storage.Folder
import ReplicaSync.Storage.Store

/-!
# Opening stores in a folder

Beside its file a store can have three companions, files whose names are longer than its own. The
journal and the log are there to put right what was cut short, and the index goes with the log.
Opening a store that nobody holds and closing it again takes the companions away, and what they
hold does not matter to the store. So a file loses what is in it when a store beside it takes it
for a companion.

A blank journal is no journal: a store that is there leaves it alone. A store that is held open
keeps its log and the index to it, and while it is held nobody can act on a journal that is found
beside it.
-/

set_option autoImplicit false

namespace ReplicaSync

/-- What a store can have beside its file. -/
inductive Companion where
  | journal
  | log
  /-- The index to the log. -/
  | index
  deriving DecidableEq, Repr

namespace Companion

/-- What the name of a companion has beyond the name of its store. -/
def suffix : Companion → FileName
  | .journal => "-journal".toList
  | .log => "-wal".toList
  | .index => "-shm".toList

/-- The place of a companion of a store. -/
def beside (companion : Companion) : Place → Place
  | [] => []
  | name :: outer => (name ++ companion.suffix) :: outer

end Companion

namespace Folder

/-- Whether there is a journal to act on beside a place. -/
def hasJournal (folder : Folder) (place : Place) : Bool :=
  match folder.fileAt? (Companion.journal.beside place) with
  | none | some .blank => false
  | some _ => true

/-- Acts on the journal beside a place, if there is one. Then it is gone. -/
def settleJournal (place : Place) (folder : Folder) : Folder :=
  if folder.hasJournal place then folder.erase [Companion.journal.beside place] else folder

/-- Opens a store at a place and closes it again. Where there is no store yet, one is made,
unless there is no room for a journal beside it: then the file stays blank. -/
def openAt (place : Place) (folder : Folder) : Except StorageFault Unit × Folder :=
  let journal := Companion.journal.beside place
  let log := Companion.log.beside place
  let index := Companion.index.beside place
  match folder.fileAt? place with
  | none | some .blank =>
      let cleared := folder.erase [journal, log]
      if (journal.headD []).isTooLong then (.error .cannotKeepJournal, cleared.put place .blank)
      else (.ok (), (cleared.erase [index]).put place .store)
  | some .store =>
      if folder.held = some place then
        (if folder.hasJournal place then .error .locked else .ok (), folder)
      else (.ok (), (folder.settleJournal place).erase [log, index])
  | some (.foreign cause asksForLog) =>
      let settled := folder.settleJournal place
      (.error cause,
        if asksForLog || folder.isFile log then settled.erase [log, index] else settled)

/-- Opens a store at a path below the folder and closes it again. -/
def openStore (path : String) (folder : Folder) : Except Fault Unit × Folder :=
  match folder.nullPosition? path, folder.locate? path with
  | some position, _ => (.error (.storage (.nullInPath position)), folder)
  | none, none => (.error (.storage (.cannotOpen (folder.written path))), folder)
  | none, some place =>
      match folder.openAt place with
      | (answer, after) => (answer.mapError .storage, after)

/-! ## The store that is held -/

/-- What is seen of a log that is in use, and of an index. -/
def inUse : Holding := .foreign .notADatabase false

/-- Opens the store at a place and holds it. Its log is blank until something is written. -/
def hold (place : Place) (folder : Folder) : Folder :=
  let opened := (folder.settleJournal place).put place .store
  { (opened.put (Companion.log.beside place) .blank).put (Companion.index.beside place) inUse with
    held := some place }

/-- Closes the store that is held and opens it again. -/
def reopen (folder : Folder) : Folder :=
  match folder.held with
  | none => folder
  | some place => folder.hold place

/-- Brings the log of the held store up to what the store has written. -/
def keepLog (store : Store) (folder : Folder) : Folder :=
  match folder.held with
  | none => folder
  | some place =>
      if store.logged then folder.put (Companion.log.beside place) inUse else folder

end Folder

end ReplicaSync
