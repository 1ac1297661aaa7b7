import ReplicaSync.Bytes
import ReplicaSync.Fault

/-!
# Headers of paged files

A store lives in a file of pages. The first page begins with a header of a hundred bytes: a mark,
the size of the pages, which formats a writer and a reader have to know, how many bytes of every
page are kept free, and how many pages there are. Numbers have their greatest digit first, and
where a file ends early it counts as going on with zeros.

`headerFault?` says why a header is refused. The checks have an order, since a header can be
wrong in several ways.
-/

set_option autoImplicit false

namespace ReplicaSync.PagedFile

/-- The bytes that a file begins with. -/
def mark : Bytes := Bytes.ofText "SQLite format 3\x00"

/-- Whether a file begins with the mark. -/
def isMarked (content : Bytes) : Bool :=
  content.take mark.length == mark

/-- The sizes that pages can have. -/
def pageSizes : List Nat := [512, 1024, 2048, 4096, 8192, 16384, 32768, 65536]

/-- The size of the pages of a file. The second byte of the field holds what is too large for
the field. -/
def pageSize (content : Bytes) : Nat :=
  256 * content.numberAt 16 1 + 65536 * content.numberAt 17 1

/-- The number of bytes of every page that are in use. -/
def usableSize (content : Bytes) : Nat :=
  pageSize content - content.numberAt 20 1

/-- The least number of bytes of a page that have to be in use. -/
def minUsableSize : Nat := 480

/-- The three shares of a page in the header, which are the same for all files. -/
def shares : Bytes := [64, 32, 32]

/-- The number of pages that a file has begun. -/
def pagesBegun (content : Bytes) : Nat :=
  (content.length + pageSize content - 1) / pageSize content

/-- The number of pages of a file. The header counts them, but the count is used only if it was
made together with the last change. -/
def pageCount (content : Bytes) : Nat :=
  let counted := content.numberAt 28 4
  if counted = 0 ∨ content.numberAt 24 4 ≠ content.numberAt 92 4 then pagesBegun content
  else counted

/-- Whether the writer of a file has to know formats that are too new. -/
def isReadOnly (content : Bytes) : Bool :=
  2 < content.numberAt 18 1

/-- Whether a file asks for a log to be read along with it. -/
def asksForLog (content : Bytes) : Bool :=
  isMarked content && content.numberAt 19 1 == 2

/-- The newest format of tables. -/
def newestFormat : Nat := 4

/-- Why a header is refused. -/
def headerFault? (content : Bytes) : Option StorageFault :=
  if !isMarked content then some .notADatabase
  else if 2 < content.numberAt 19 1 then some .notADatabase
  else if content.range 21 3 != shares then some .notADatabase
  else if !pageSizes.contains (pageSize content) then some .notADatabase
  else if pagesBegun content < pageCount content then some .malformed
  else if usableSize content < minUsableSize then some .notADatabase
  else if newestFormat < content.numberAt 47 1 then some .unsupportedFormat
  else none

end ReplicaSync.PagedFile
