/-!
# Names of files

A path is a row of steps with slashes between them. A step that is a name has at most 255 bytes,
or else no file can have it.
-/

set_option autoImplicit false

namespace ReplicaSync

/-- A name of a file. -/
abbrev FileName := List Char

namespace FileName

/-- The number of bytes of a name. -/
def size : FileName → Nat
  | [] => 0
  | c :: rest => c.utf8Size + size rest

/-- The greatest number of bytes that a name can have. -/
def maxSize : Nat := 255

/-- Whether no file can have a name. -/
def isTooLong (name : FileName) : Bool :=
  maxSize < size name

/-- The steps of a path. Every slash ends one. -/
def steps (path : String) : List FileName :=
  path.toList.splitOn '/'

end FileName

end ReplicaSync
