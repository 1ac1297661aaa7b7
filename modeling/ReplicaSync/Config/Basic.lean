import ReplicaSync.Chunking.Limits
import ReplicaSync.Json.Record
import ReplicaSync.Revision.Json

/-!
# Configuration of a node

A node is configured by its limits on block sizes, its retention of history, and the number of
signatures it keeps at hand. Every part may be left out of the JSON form. Whether the values
make sense is checked apart from reading them.
-/

set_option autoImplicit false

namespace ReplicaSync

namespace Limits

/-- The JSON form of limits. -/
def toJson (limits : Limits) : Json :=
  .record [("min_block_size", .ofNat limits.minimum.toNat),
    ("avg_block_size", .ofNat limits.average.toNat),
    ("max_block_size", .ofNat limits.maximum.toNat)]

/-- The limits with the given JSON form. -/
def ofJson? (value : Json) : Option Limits :=
  match value.fields? ["min_block_size", "avg_block_size", "max_block_size"] with
  | some [some minimum, some average, some maximum] => do
      return ⟨← minimum.uint32?, ← average.uint32?, ← maximum.uint32?⟩
  | _ => none

end Limits

/-- The configuration of a node. -/
structure Config where
  limits : Limits := .standard
  retention : Retention := .standard
  /-- The number of signatures kept at hand. -/
  cacheCapacity : UInt64 := 64
  deriving DecidableEq, Repr

namespace Config

instance : Inhabited Config := ⟨{}⟩

/-- Accepts configurations with acceptable limits and some history. -/
def check (config : Config) : Except ConfigFault Unit := do
  config.limits.check
  if config.retention.limit = 0 then throw .noHistory

/-- The JSON form of a configuration. -/
def toJson (config : Config) : Json :=
  .record [("chunking", config.limits.toJson), ("history", config.retention.toJson),
    ("signature_cache_capacity", .ofNat config.cacheCapacity.toNat)]

/-- The configuration with the given JSON form. -/
def ofJson? (value : Json) : Option Config :=
  match value.fields? ["chunking", "history", "signature_cache_capacity"] with
  | some [limits, retention, cacheCapacity] => do
      return ⟨← Json.orDefault .standard Limits.ofJson? limits,
        ← Json.orDefault .standard Retention.ofJson? retention,
        ← Json.orDefault 64 Json.uint64? cacheCapacity⟩
  | _ => none

end Config

end ReplicaSync
