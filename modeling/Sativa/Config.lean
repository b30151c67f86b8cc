import Sativa.Prog
import Sativa.Toml
import Mathlib.Data.List.Dedup

/-!
`Config`: reading the configuration of the daemon.

The file system is a finite collection of nodes, and a function from path strings to them, so that
a file can have any number of paths. The state holds the static members of `Config`, with the
files that were opened, and a trace of what happened.
-/

namespace Sativa.Config

open Sativa

/-- What the operations throw. Messages only reach the log; what they name is kept. -/
inductive ConfigError
  /-- `recursion detected (I already parsed '{}'!)` -/
  | recursionDetected (nativePath : Bytes)
  /-- a `toml::parse_error` -/
  | parseError
  /-- a `std::filesystem::filesystem_error` -/
  | filesystemError (code : ℕ)
  /-- invalid `rpc` key -/
  | invalidRpc
  /-- missing `rpc` key -/
  | missingRpc
  /-- invalid `storage` key -/
  | invalidStorage
  /-- missing `storage` key -/
  | missingStorage
  /-- invalid `access` key -/
  | invalidAccess
  /-- invalid `include` directives (expected array of tables) -/
  | invalidInclude
  /-- unexpected `include` directive type -/
  | unexpectedInclude
  /-- invalid `rpc.listen` key (expected string) -/
  | invalidRpcListen
  /-- `invalid storage directory '{}'` -/
  | invalidStorageDirectory (dir : Bytes)
  /-- `invalid storage file` -/
  | invalidStorageFile
  /-- `invalid access.allow key (expected array of tables)` -/
  | invalidAllow
  /-- `invalid access.allow value (expected table)` -/
  | invalidAllowValue
  /-- a `std::system_error` of `getpwnam` or `getgrnam`; the text is `getpwnam` for both -/
  | getpwnam (errno : ℕ)
  /-- `invalid access.allow.user value (expected integer or string)` -/
  | invalidAllowUser
  /-- `invalid access.allow.group value (expected integer or string)` -/
  | invalidAllowGroup
  /-- `invalid access.allow specifier: neither user nor group specified` -/
  | neitherUserNorGroup
  /-- `invalid access.allow.paths key (expected array)` -/
  | invalidAllowPaths
  /-- `invalid access.allow.paths value (expected string)` -/
  | invalidAllowPath
  /-- `invalid empty include path` -/
  | emptyIncludePath
  /-- `include path '{}' does not exist` -/
  | includeDoesNotExist (path : Bytes)
  /-- no error of the code: the model has run out of fuel -/
  | outOfFuel
  deriving DecidableEq

/-! ### Paths -/

/-- `path::operator/=` on POSIX. -/
def pathAppend (path p : Bytes) : Bytes :=
  if p.head? = some 47 then p
  else if path = [] ∨ path.getLast? = some 47 then path ++ p
  else path ++ ascii "/" ++ p

/-- What follows the last slash. -/
def pathFilename (path : Bytes) : Bytes := (path.reverse.takeWhile (· != 47)).reverse

/-- `path::extension`: the file name from its last period on, unless that comes first. -/
def pathExtension (path : Bytes) : Bytes :=
  let name := pathFilename path
  let suffix := (name.reverse.takeWhile (· != 46)).reverse
  if name.length ≤ suffix.length + 1 ∨ name = ascii ".." then [] else ascii "." ++ suffix

/-! ### The host -/

inductive FileType
  | regular | directory | other
  deriving DecidableEq

/-- A file or a directory. -/
structure FileNode where
  type : FileType
  /-- what `toml::parse_file` returns for it; `none` is a `toml::parse_error` -/
  toml : Option TomlTable
  /-- the names that `directory_iterator` finds, or its error -/
  entries : Except ℕ (List Bytes)

/-- What `getpwnam` and `getgrnam` find: an id, or none and the `errno` they leave. -/
inductive Lookup
  | found (id : UInt32)
  | null (errno : ℕ)

/-- What `Config` finds outside of it. `resolve` follows a path to its node; an error is one other
than that nothing is there. `intValue` is `node::value<int>`. -/
structure Host (n : ℕ) where
  node : Fin n → FileNode
  resolve : Bytes → Except ℕ (Option (Fin n))
  getpwnam : Bytes → Lookup
  getgrnam : Bytes → Lookup
  intValue : Toml → Option Int32

/-! ### The state -/

/-- `Config::AccessDescriptor`. -/
structure AccessDescriptor where
  user : Option UInt32
  group : Option UInt32
  /-- an `unordered_set` -/
  allowed : List Bytes

/-- `Read` is called, `toml::parse_file` is called, or an entry of `access.allow` of a file is
appended to the allow list. -/
inductive Event
  | read (path : Bytes)
  | parse (path : Bytes)
  | allow (path : Bytes) (index : ℕ)
  deriving DecidableEq

structure State where
  gOpenedFiles : List Bytes
  gSocketPath : Bytes
  gSocketMode : ℕ
  gStoragePath : Bytes
  gAllowList : List AccessDescriptor
  trace : List Event

/-- Before the first call of `Read`. -/
def State.init : State where
  gOpenedFiles := []
  gSocketPath := []
  gSocketMode := 511
  gStoragePath := []
  gAllowList := []
  trace := []

abbrev ConfigProg := Prog ConfigError State

def record (e : Event) : ConfigProg Unit := .modify fun s => { s with trace := s.trace ++ [e] }

/-! ### The operations -/

section Operations

variable {n : ℕ} (host : Host n)

/-- `std::filesystem::status`, which throws for errors. -/
def status (path : Bytes) : ConfigProg (Option FileType) :=
  .ofExcept (((host.resolve path).mapError .filesystemError).map
    fun node => node.map fun i => (host.node i).type)

def isDirectory (path : Bytes) : ConfigProg Bool := do
  return (← status host path) = some .directory

/-- The document that a path leads to. -/
def tableAt (path : Bytes) : Option TomlTable :=
  match host.resolve path with
  | .ok (some i) => (host.node i).toml
  | _ => none

/-- `toml::parse_file`. -/
def parseFile (path : Bytes) : ConfigProg TomlTable := do
  record (.parse path)
  match tableAt host path with
  | none => .fail .parseError
  | some tbl => pure tbl

def readRpc (tbl : TomlTable) : ConfigProg Unit := do
  let path := tbl.stringOrEmpty "listen"
  .throwIf (path = []) .invalidRpcListen
  .modify fun s => { s with gSocketPath := path }
  let mode := ((tbl.entry "umode").bind host.intValue).getD (-1)
  .when (0 ≤ mode) (.modify fun s => { s with gSocketMode := mode.toNatClampNeg &&& 511 })

def readStorage (tbl : TomlTable) : ConfigProg Unit := do
  let dir := tbl.stringOrEmpty "dir"
  .modify fun s => { s with gStoragePath := dir }
  .throwIf ((← isDirectory host dir) = false) (.invalidStorageDirectory dir)
  let name := tbl.stringOrEmpty "db"
  .throwIf (name = []) .invalidStorageFile
  .modify fun s => { s with gStoragePath := pathAppend dir name }

/-- The visitor for `user` and `group`. A name goes to the look-up as a `const char *`; one that is
not found is only logged. -/
def accessId (lookup : Bytes → Lookup) (invalid : ConfigError) :
    Toml → Except ConfigError (Option UInt32)
  | .string name => match lookup (cstr name) with
    | .found id => .ok (some id)
    | .null errno => if errno ≠ 0 then .error (.getpwnam errno) else .ok none
  | .integer n => .ok (some n.toUInt64.toUInt32)
  | _ => .error invalid

/-- The visitor for an entry that may be missing. -/
def accessEntry (lookup : Bytes → Lookup) (invalid : ConfigError) :
    Option Toml → Except ConfigError (Option UInt32)
  | none => .ok none
  | some v => accessId lookup invalid v

/-- The strings of `paths`, as a set. -/
def accessPaths : List Toml → Except ConfigError (List Bytes)
  | [] => .ok []
  | el :: elems => match el.asString with
    | none => .error .invalidAllowPath
    | some s => (accessPaths elems).map (List.insert s)

def readAccessAllow (tbl : TomlTable) : ConfigProg Unit := do
  let user ← .ofExcept (accessEntry host.getpwnam .invalidAllowUser (tbl.entry "user"))
  let group ← .ofExcept (accessEntry host.getgrnam .invalidAllowGroup (tbl.entry "group"))
  .throwIf (user = none ∧ group = none) .neitherUserNorGroup
  match (tbl.entry "paths").bind Toml.asArray with
  | none => .fail .invalidAllowPaths
  | some elems => do
    let allowed ← .ofExcept (accessPaths elems)
    .modify fun s => { s with gAllowList := s.gAllowList ++ [⟨user, group, allowed⟩] }

/-- `ReadAccess`; the path of the file is for the trace. -/
def readAccess (path : Bytes) (tbl : TomlTable) : ConfigProg Unit :=
  match tbl.entry "allow" with
  | none => pure ()
  | some accesses => do
    .throwIf (accesses.isArrayOfTables = false) .invalidAllow
    (accesses.asArray.getD []).zipIdx.forM fun (el, index) => match el.asTable with
      | none => .fail .invalidAllowValue
      | some entry => do
        readAccessAllow host entry
        record (.allow path index)

/-- A part of the configuration that is a table of its own; `missing` is for one that has to be
there. -/
def readSection (tbl : TomlTable) (key : String) (invalid : ConfigError)
    (missing : Option ConfigError) (readTable : TomlTable → ConfigProg Unit) : ConfigProg Unit :=
  match tbl.entry key, missing with
  | some v, _ => match v.asTable with
    | none => .fail invalid
    | some part => readTable part
  | none, some e => .fail e
  | none, none => pure ()

/-- `directory_iterator`; 2 is `ENOENT`. -/
def directoryEntries (path : Bytes) : ConfigProg (List Bytes) :=
  .ofExcept (match host.resolve path with
    | .error code => .error (.filesystemError code)
    | .ok none => .error (.filesystemError 2)
    | .ok (some i) => (host.node i).entries.mapError .filesystemError)

/-- `ProcessIncludeDirectory`, where `read` is `Read` for a file that is not the root. -/
def processIncludeDirectory (read : Bytes → ConfigProg Unit) (path : Bytes) :
    ConfigProg Unit := do
  (← directoryEntries host path).forM fun name => do
    let dentPath := pathAppend path name
    let type ← status host dentPath
    .when (type = some .regular ∧ pathExtension dentPath = ascii ".toml") (read dentPath)

def readInclude (read : Bytes → ConfigProg Unit) (tbl : TomlTable) : ConfigProg Unit := do
  let path := tbl.stringOrEmpty "path"
  .throwIf (path = []) .emptyIncludePath
  .throwIf ((← status host path) = none) (.includeDoesNotExist path)
  if (← isDirectory host path) = true then processIncludeDirectory host read path else read path

def readIncludes (read : Bytes → ConfigProg Unit) (tbl : TomlTable) : ConfigProg Unit :=
  match tbl.entry "include" with
  | none => pure ()
  | some includes => do
    .throwIf (includes.isArrayOfTables = false) .invalidInclude
    (includes.asArray.getD []).forM fun directive => match directive.asTable with
      | none => .fail .unexpectedInclude
      | some entry => readInclude host read entry

/-- The part of `Read` for the keys of the document that are tables. -/
def readSections (path : Bytes) (isRoot : Bool) (tbl : TomlTable) : ConfigProg Unit := do
  readSection tbl "rpc" .invalidRpc (if isRoot then some .missingRpc else none) (readRpc host)
  readSection tbl "storage" .invalidStorage (if isRoot then some .missingStorage else none)
    (readStorage host)
  readSection tbl "access" .invalidAccess none (readAccess host path)

/-- The part of `Read` for a path that it has not seen. -/
def readFile (read : Bytes → ConfigProg Unit) (path : Bytes) (isRoot : Bool) :
    ConfigProg Unit := do
  .modify fun s => { s with gOpenedFiles := s.gOpenedFiles ++ [path] }
  let tbl ← parseFile host path
  readSections host path isRoot tbl
  readIncludes host read tbl

/-- `Read`. The fuel bounds the depth of includes. -/
def read : ℕ → Bytes → Bool → ConfigProg Unit
  | 0, _, _ => .fail .outOfFuel
  | fuel + 1, path, isRoot => do
    record (.read path)
    .throwIf (path ∈ (← Prog.get).gOpenedFiles) (.recursionDetected path)
    readFile host (fun p => read fuel p false) path isRoot

end Operations

end Sativa.Config
