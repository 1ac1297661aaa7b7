import ReplicaSync.Storage.PagedFile.Header

/-!
# Trees of pages

The pages of a file form trees, and a tree holds entries in an order. The cells of a leaf hold
entries. The cells of an inner page point to trees below it, and one more such pointer stands in
its head. Where entries go by number, only leaves hold entries. Where they go by their beginnings,
a cell of an inner page holds the entry behind the tree that it points to.

An entry that is too long for a page keeps its front there and goes on in a chain of pages. The
reader gives up where a page is not in the file or does not belong to such a tree.
-/

set_option autoImplicit false

namespace ReplicaSync.PagedFile

/-- What the entries of a tree are ordered by. -/
inductive Order where
  | byNumber
  | byEntry
  deriving DecidableEq, Repr

/-- Whether a page is a leaf, by the number that its head begins with. Only the pages of one order
can be in a tree. -/
def Order.isLeaf? : Order → Nat → Option Bool
  | .byNumber, 13 => some true
  | .byNumber, 5 => some false
  | .byEntry, 10 => some true
  | .byEntry, 2 => some false
  | _, _ => none

/-- The number of bytes of the head of a page. The head of an inner page ends with a pointer. -/
def headSize (isLeaf : Bool) : Nat :=
  if isLeaf then 8 else 12

/-- A page of a file. Pages are counted from one. -/
def page? (content : Bytes) (number : Nat) : Option Bytes :=
  if number = 0 ∨ pageCount content < number then none
  else some (content.filledRange ((number - 1) * pageSize content) (pageSize content))

/-- Where the head of a page begins. The first page has the header of the file in front. -/
def headOffset (number : Nat) : Nat :=
  if number = 1 then 100 else 0

/-! ## Entries -/

/-- Takes a number off a byte string. It is written in digits of seven bits, the greatest first,
and all bytes but the last have their highest bit set. After so many others a byte counts
whole. -/
def takeDigits : (others value : Nat) → Bytes → Option (Nat × Bytes)
  | _, _, [] => none
  | 0, value, byte :: rest => some (256 * value + byte.toNat, rest)
  | others + 1, value, byte :: rest =>
      if byte.toNat < 128 then some (128 * value + byte.toNat, rest)
      else takeDigits others (128 * value + (byte.toNat - 128)) rest

/-- Takes a number of at most nine bytes off a byte string. -/
def takeCount (bytes : Bytes) : Option (Nat × Bytes) :=
  takeDigits 8 0 bytes

/-- Taking a number leaves less than there was. -/
theorem length_of_takeDigits {others value taken : Nat} {bytes rest : Bytes}
    (found : takeDigits others value bytes = some (taken, rest)) : rest.length < bytes.length := by
  fun_induction takeDigits others value bytes with
  | case1 => cases found
  | case2 => cases found; simp
  | case3 => cases found; simp
  | case4 _ _ _ _ _ ih => exact Nat.lt_succ_of_lt (ih found)

/-- How many bytes of an entry stand on its page, when the page has so many bytes in use. -/
def sizeOnPage (usable : Nat) (order : Order) (size : Nat) : Nat :=
  let most := if order = .byNumber then usable - 35 else (usable - 12) * 64 / 255 - 23
  let least := (usable - 12) * 32 / 255 - 23
  if size ≤ most then size
  else
    let even := least + (size - least) % (usable - 4)
    if even ≤ most then even else least

/-- The bytes in a chain of at most so many pages. Every page begins with the number of the
next. -/
def chain? (content : Bytes) : (pages number size : Nat) → Option Bytes
  | _, _, 0 => some []
  | 0, _, _ => none
  | pages + 1, number, size => do
      let page ← page? content number
      let room := usableSize content - 4
      let rest ← chain? content pages (page.numberAt 0 4) (size - room)
      return page.range 4 (min size room) ++ rest

/-- The entry of a cell. Where entries go by number, the number is passed over. -/
def entryOf? (content : Bytes) (order : Order) (cell : Bytes) : Option Bytes := do
  let (size, cell) ← takeCount cell
  let (_, cell) ← if order = .byNumber then takeCount cell else some (0, cell)
  let onPage := sizeOnPage (usableSize content) order size
  let (front, cell) ← Bytes.takeField? onPage cell
  let rest ← chain? content (pageCount content) (cell.numberAt 0 4) (size - onPage)
  return front ++ rest

/-- The cells of a page whose head has the given offset, each with all that follows it. -/
def cells (isLeaf : Bool) (offset : Nat) (page : Bytes) : List Bytes :=
  (List.range (page.numberAt (offset + 3) 2)).map fun index =>
    page.drop (page.numberAt (offset + headSize isLeaf + 2 * index) 2)

/-- The entries of the tree below a page, in their order. The tree has at most the given number
of levels. -/
def entries? (content : Bytes) (order : Order) : (levels number : Nat) → Option (List Bytes)
  | 0, _ => none
  | levels + 1, number => do
      let page ← page? content number
      let offset := headOffset number
      let isLeaf ← order.isLeaf? (page.numberAt offset 1)
      let cells := cells isLeaf offset page
      if isLeaf then cells.mapM (entryOf? content order)
      else
        let below (pointer : Nat) := entries? content order levels pointer
        let parts ← cells.mapM fun cell => do
          let before ← below (cell.numberAt 0 4)
          match order with
          | .byNumber => return before
          | .byEntry => return before ++ [← entryOf? content order (cell.drop 4)]
        return parts.flatten ++ (← below (page.numberAt (offset + 8) 4))

end ReplicaSync.PagedFile
