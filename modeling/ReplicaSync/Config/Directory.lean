import ReplicaSync.Bytes
import ReplicaSync.Config.Basic
import ReplicaSync.FileName
import ReplicaSync.Json.Printer
import ReplicaSync.Json.Reader

/-!
# Configuration files

The configuration of a node stands in one file of a directory. Saving writes a second file
first and then puts it in the place of the first in one step, so that a saving that fails
leaves the configuration as it was. It can fail while the directory is made, when the second file
is opened, while it is written, or when the files change places. The second file may then be left
behind.

Loading takes a missing file for the standard configuration, and refuses one that cannot be
read, is no JSON document of a configuration, or does not pass the check.
-/

set_option autoImplicit false

namespace ReplicaSync

/-- What stands under a name in a directory. -/
inductive Entry where
  | absent
  | file (content : Bytes)
  | directory
  deriving DecidableEq

/-- What a node sees of the directory of its configuration. -/
structure ConfigDirectory where
  /-- What stands in the place of the configuration. -/
  config : Entry := .absent
  /-- What stands in the place of the second file. -/
  temporary : Entry := .absent

/-- Trouble from outside while a configuration is saved. -/
inductive Hindrance where
  /-- The directory cannot be made. -/
  | making (reason : String)
  /-- The second file cannot be opened. -/
  | opening (reason : String)
  /-- Writing the second file stops after so many bytes. -/
  | writing (kept : Nat) (reason : String)
  /-- The files cannot change places. -/
  | renaming (reason : String)

/-- Why a configuration cannot be loaded. -/
inductive LoadFault where
  | unreadable (reason : String)
  | malformed
  | refused (cause : ConfigFault)
  deriving DecidableEq, Repr

namespace ConfigDirectory

/-- The name of the file that holds the configuration. -/
def fileName : String := "rfs-config.json"

/-- The name of the second file. -/
def temporaryName : String := "rfs-config.tmp"

/-- What the system says of a directory in the place of a file. -/
def isDirectoryMessage : String := "Is a directory (os error 21)"

/-- What the system says of a text that is not UTF-8. -/
def notUtf8Message : String := "stream did not contain valid UTF-8"

/-- What the system says of a path with a null character. -/
def nullMessage : String := "file name contained an unexpected NUL byte"

/-- What the system says of a path that is too long, or has a name that is. -/
def longNameMessage : String := "File name too long (os error 36)"

/-- The greatest number of bytes that the path of a file can have. -/
def maxPathSize : Nat := 4095

/-- What keeps configurations from being saved in the directory at a path, if the path does. -/
def hindrance? (path : String) : Option Hindrance :=
  if path.toList.contains '\x00' then some (.making nullMessage)
  else if (FileName.steps path).any FileName.isTooLong ||
      maxPathSize < path.utf8ByteSize + 1 + fileName.utf8ByteSize then
    some (.making longNameMessage)
  else none

/-- Reads the document of a configuration. -/
def loadDocument (document : String) : Except LoadFault Config :=
  match (Json.parse? document).bind Config.ofJson? with
  | none => .error .malformed
  | some config =>
      match config.check with
      | .ok () => .ok config
      | .error cause => .error (.refused cause)

/-- Loads the configuration. -/
def load (directory : ConfigDirectory) : Except LoadFault Config :=
  match directory.config with
  | .absent => .ok {}
  | .directory => .error (.unreadable isDirectoryMessage)
  | .file content =>
      match Bytes.toText? content with
      | none => .error (.unreadable notUtf8Message)
      | some document => loadDocument document

/-- The document of a configuration. -/
def document (config : Config) : String :=
  config.toJson.indented

/-- Writes the second file. -/
def writeTemporary (directory : ConfigDirectory) (content : Bytes)
    (hindrance : Option Hindrance) : Except String Unit × ConfigDirectory :=
  match directory.temporary, hindrance with
  | .directory, _ => (.error isDirectoryMessage, directory)
  | _, some (.opening reason) => (.error reason, directory)
  | _, some (.writing kept reason) =>
      (.error reason, { directory with temporary := .file (content.take kept) })
  | _, _ => (.ok (), { directory with temporary := .file content })

/-- Puts the second file in the place of the configuration. -/
def rename (directory : ConfigDirectory) (hindrance : Option Hindrance) :
    Except String Unit × ConfigDirectory :=
  match directory.config, hindrance with
  | .directory, _ => (.error isDirectoryMessage, directory)
  | _, some (.renaming reason) => (.error reason, directory)
  | _, _ => (.ok (), { config := directory.temporary, temporary := .absent })

/-- Saves a configuration. A failure is given in the words of the system. -/
def save (config : Config) (directory : ConfigDirectory) (hindrance : Option Hindrance) :
    Except String Unit × ConfigDirectory :=
  match hindrance with
  | some (.making reason) => (.error reason, directory)
  | _ =>
      match directory.writeTemporary (Bytes.ofText (document config)) hindrance with
      | (.error reason, stopped) => (.error reason, stopped)
      | (.ok (), written) => written.rename hindrance

end ConfigDirectory

/-- The wording of a failure to load from the file at a path, outermost message first. -/
def LoadFault.messages (path : String) (fault : LoadFault) : List String :=
  let shown := Text.quoted path
  match fault with
  | .unreadable reason => [s!"Failed to read rfs config from {shown}", reason]
  | .malformed => ["Failed to parse rfs config JSON", jsonComplaint]
  | .refused cause => [s!"Invalid rfs config in {shown}", (Fault.config cause).message]

end ReplicaSync
