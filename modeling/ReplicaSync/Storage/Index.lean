import ReplicaSync.Revision.Properties

/-!
# Search indexes

An index keeps the properties of files a second time, so that they can be searched. It is told
of a file after the store has changed, and may lag behind until then. The question it answers
here is which files have an outstanding conflict.
-/

set_option autoImplicit false

namespace ReplicaSync

/-- An index that is told of the properties of files. -/
class SearchIndex (ι : Type) where
  update : String → Properties → ι → Except Fault Unit × ι

/-- The properties of files as last told. -/
structure Index where
  files : NameMap Properties := .empty

namespace Index

/-- Takes over the properties of a file. -/
def update (name : String) (properties : Properties) (index : Index) : Index :=
  ⟨index.files.insert name properties⟩

/-- The files with an outstanding conflict, in ascending order. -/
def conflicted (index : Index) : List String :=
  (index.files.entries.filter fun entry => entry.2.inConflict).map Prod.fst

end Index

instance : SearchIndex Index where
  update name properties index := (.ok (), index.update name properties)

end ReplicaSync
