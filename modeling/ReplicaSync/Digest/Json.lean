import ReplicaSync.Digest.Basic
import ReplicaSync.Json.Record

/-!
# Digests in JSON

A digest is written as the array of its 32 bytes.
-/

set_option autoImplicit false

namespace ReplicaSync.Digest

/-- The JSON form of a digest. -/
def toJson (digest : Digest) : Json :=
  .array (digest.bytes.map fun byte => .ofNat byte.toNat)

/-- The digest with the given JSON form. -/
def ofJson? (value : Json) : Option Digest :=
  (value.list? Json.uint8?).bind ofBytes?

end ReplicaSync.Digest
