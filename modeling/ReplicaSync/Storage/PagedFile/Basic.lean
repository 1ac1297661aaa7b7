import ReplicaSync.Storage.Batch
import ReplicaSync.Storage.PagedFile.Record

/-!
# Paged files

Opening a store on a file reads its header and then its catalogue, the tree at the first page. The
catalogue names the tables and the pages of their trees. A table that is missing is added, and
for that the file has to be writable and its first page and its free pages in order. A file of at
most one byte is blank, and becomes a file of a store.
-/

set_option autoImplicit false

namespace ReplicaSync.PagedFile

/-- What is found when a store is opened on a file. -/
structure Contents where
  tables : Tables := {}
  /-- Whether no table had to be added. -/
  isComplete : Bool := false

/-- Why no store can be opened on a file. -/
structure Refusal where
  cause : StorageFault
  /-- Whether a log was read along with the file. -/
  asksForLog : Bool

/-- Whether a file is blank. -/
def isBlank (content : Bytes) : Bool :=
  content.length ≤ 1

/-! ## Tables -/

/-- The page of the tree of a table, if the catalogue names the table. -/
def rootOf? (catalogue : List (List Value)) (name : String) : Option Nat :=
  catalogue.findSome? fun
    | .text "table" :: .text named :: _ :: .number root :: _ =>
        if named.toLower = name then some root else none
    | _ => none

/-- The two texts that a row of a table begins with. -/
def pair? : List Value → Option (String × String)
  | .text key :: .text value :: _ => some (key, value)
  | _ => none

/-- The rows of a table in either order. A table that is not there has none. -/
def table? (content : Bytes) (catalogue : List (List Value)) (name : String) :
    Option (NameMap String) :=
  match rootOf? catalogue name with
  | none => some .empty
  | some root => do
      let rows ← records? content .byEntry root <|> records? content .byNumber root
      return .ofList (← rows.mapM pair?)

/-- The tables that a catalogue names. -/
def contents? (content : Bytes) (catalogue : List (List Value)) : Option Contents := do
  let files ← table? content catalogue "file_metadata"
  let settings ← table? content catalogue "config"
  let found (name : String) := (rootOf? catalogue name).isSome
  return ⟨⟨files, settings⟩, found "file_metadata" && found "config"⟩

/-! ## Adding tables -/

/-- The number of bytes that the first page has left when its cells begin where it says and it
counts so many loose bytes. Cells cannot begin at zero, which stands for the end of the largest
page. -/
def roomBehindHead (content : Bytes) : Nat :=
  let cellsBegin := content.numberAt 105 2
  content.numberAt 107 1 + if cellsBegin = 0 then 65536 else cellsBegin

/-- Whether an empty first page is in order: nothing in it was freed, and the room for cells is
on the page. -/
def hasSoundFirstPage (content : Bytes) : Bool :=
  content.numberAt 101 2 == 0 && 108 ≤ roomBehindHead content &&
    roomBehindHead content ≤ usableSize content

/-- Whether the free pages are in order: none, or fewer than there are pages, with the first one
in the file. -/
def hasSoundFreePages (content : Bytes) : Bool :=
  let count := content.numberAt 36 4
  let first := content.numberAt 32 4
  count == 0 || (count < pageCount content && 0 < first && first ≤ pageCount content)

/-- Whether tables can be added to a file. In a file that counts its trees, none can be counted
before there are tables. -/
def takesTables (content : Bytes) (catalogue : List (List Value)) : Bool :=
  hasSoundFreePages content &&
    (!catalogue.isEmpty || (hasSoundFirstPage content && content.numberAt 52 4 ≤ 1))

/-! ## Opening -/

/-- Opens a store on a file. A log is read along if the file asks for one, and from when on tables
are added. -/
def open? (content : Bytes) : Except Refusal Contents :=
  let refuse (cause : StorageFault) : Except Refusal Contents :=
    .error ⟨cause, asksForLog content⟩
  if isBlank content then .ok {}
  else
    match headerFault? content with
    | some cause => refuse cause
    | none =>
        match records? content .byNumber 1 with
        | none => refuse .malformed
        | some catalogue =>
            if isReadOnly content then refuse .readOnly
            else
              match contents? content catalogue with
              | none => refuse .malformed
              | some contents =>
                  if contents.isComplete || takesTables content catalogue then .ok contents
                  else .error ⟨.malformed, true⟩

end ReplicaSync.PagedFile
