import ReplicaSync.Bytes
import ReplicaSync.Chunking.Generate
import ReplicaSync.Chunking.Limits
import ReplicaSync.Chunking.Reader
import ReplicaSync.Chunking.RollingHash
import ReplicaSync.Chunking.Scan
import ReplicaSync.Config.Basic
import ReplicaSync.Config.Directory
import ReplicaSync.Conflict.Artifact
import ReplicaSync.Conflict.Basic
import ReplicaSync.Conflict.Resolution
import ReplicaSync.Digest.Basic
import ReplicaSync.Digest.Hex
import ReplicaSync.Digest.Json
import ReplicaSync.Digest.Sha256
import ReplicaSync.Fault
import ReplicaSync.FileName
import ReplicaSync.Frame.Basic
import ReplicaSync.Frame.Bits
import ReplicaSync.Frame.Block
import ReplicaSync.Frame.Checksum
import ReplicaSync.Frame.Header
import ReplicaSync.Frame.Literals
import ReplicaSync.Frame.Older.Basic
import ReplicaSync.Frame.Older.Header
import ReplicaSync.Frame.Older.Literals
import ReplicaSync.Frame.Older.Sequences
import ReplicaSync.Frame.PrefixCode
import ReplicaSync.Frame.Sequences
import ReplicaSync.Frame.StateCode
import ReplicaSync.Json.Number
import ReplicaSync.Json.Printer
import ReplicaSync.Json.Reader
import ReplicaSync.Json.Record
import ReplicaSync.Json.Token
import ReplicaSync.Json.Value
import ReplicaSync.NameMap
import ReplicaSync.Node.Basic
import ReplicaSync.Node.Network
import ReplicaSync.Plan.Assemble
import ReplicaSync.Plan.Basic
import ReplicaSync.Plan.Json
import ReplicaSync.Plan.Reconcile
import ReplicaSync.Repository.Basic
import ReplicaSync.Repository.Cache
import ReplicaSync.Repository.FreshName
import ReplicaSync.Repository.Unreliable
import ReplicaSync.Revision.Basic
import ReplicaSync.Revision.Json
import ReplicaSync.Revision.Properties
import ReplicaSync.Round.Decision
import ReplicaSync.Round.Edit
import ReplicaSync.Signature.Basic
import ReplicaSync.Signature.Compression
import ReplicaSync.Signature.Encoding
import ReplicaSync.Signature.Json
import ReplicaSync.Storage.Batch
import ReplicaSync.Storage.Folder
import ReplicaSync.Storage.Index
import ReplicaSync.Storage.Opening
import ReplicaSync.Storage.Outage
import ReplicaSync.Storage.PagedFile.Basic
import ReplicaSync.Storage.PagedFile.Header
import ReplicaSync.Storage.PagedFile.Record
import ReplicaSync.Storage.PagedFile.Tree
import ReplicaSync.Storage.Store
import ReplicaSync.Text.Blank
import ReplicaSync.Text.Concealed
import ReplicaSync.Text.Numeral
import ReplicaSync.Text.Quoted
import ReplicaSync.Text.Units
import ReplicaSync.Proofs.Digest.Parts
import ReplicaSync.Proofs.Chunking.Reading
import ReplicaSync.Proofs.Chunking.Blocks
import ReplicaSync.Proofs.Chunking.Window
import ReplicaSync.Proofs.Chunking.Cuts
import ReplicaSync.Proofs.Chunking.Delivery
import ReplicaSync.Proofs.Plan.Coalescing
import ReplicaSync.Proofs.Plan.Assembly
import ReplicaSync.Proofs.Plan.Places
import ReplicaSync.Proofs.Plan.Rebuild
import ReplicaSync.Proofs.Revision.Numbers
import ReplicaSync.Proofs.Revision.Writing
import ReplicaSync.Proofs.Revision.Numbering
import ReplicaSync.Proofs.Revision.Rewriting
import ReplicaSync.Proofs.Json.Numbers
import ReplicaSync.Proofs.Json.Scanning
import ReplicaSync.Proofs.Json.RoundTrip
import ReplicaSync.Proofs.NameMap
import ReplicaSync.Proofs.Revision.Documents
import ReplicaSync.Proofs.Revision.Properties
import ReplicaSync.Proofs.Storage.Files
import ReplicaSync.Proofs.Conflict.Artifacts
import ReplicaSync.Proofs.Round.Evaluation
import ReplicaSync.Proofs.Round.Branches
import ReplicaSync.Proofs.Round.Recent
import ReplicaSync.Proofs.Fleet.Account
import ReplicaSync.Proofs.Fleet.Simulation
import ReplicaSync.Proofs.Fleet.Ancestry
import ReplicaSync.Proofs.Fleet.Continuity
import ReplicaSync.Proofs.Fleet.Standing
import ReplicaSync.Proofs.Fleet.Unresolved
import ReplicaSync.Proofs.Fleet.Observer
import ReplicaSync.Proofs.Fleet.Identity
import ReplicaSync.Proofs.Fleet.Networks
import ReplicaSync.Proofs.Chunking.Resumption
import ReplicaSync.Proofs.Signature.Payload
import ReplicaSync.Proofs.Signature.Capacity
import ReplicaSync.Proofs.Repository.Caching
import ReplicaSync.Proofs.Documents
import ReplicaSync.Proofs.Storage.Batches
import ReplicaSync.Proofs.Conflict.Calls
import ReplicaSync.Proofs.Round.Outstanding
import ReplicaSync.Proofs.Round.Spending
import ReplicaSync.Proofs.Repository.Agreement
import ReplicaSync.Proofs.Plan.Canonical
import ReplicaSync.Proofs.Plan.Stopping
import ReplicaSync.Proofs.Chunking.Boundaries
import ReplicaSync.Proofs.Chunking.Appending
import ReplicaSync.Proofs.Revision.Advancing
import ReplicaSync.Proofs.Signature.FirstFault
import ReplicaSync.Proofs.Json.Grammar
import ReplicaSync.Proofs.Config.Saving
import ReplicaSync.Proofs.Json.Records
import ReplicaSync.Proofs.Revision.Reading
import ReplicaSync.Proofs.Plan.Held
import ReplicaSync.Proofs.Plan.Sums
import ReplicaSync.Proofs.Digest.Hex
