import Sativa.HexDump
import Sativa.RoundTrip

/-!
`confd-util`: one operation on one key, from the command line to what it prints.

The command line is what `getopt_long` makes of it. The formats of real numbers and the texts of
`strerror` are parameters.
-/

namespace Sativa.Util

open Sativa Sativa.Rpc Sativa.Cbor Sativa.Confd Sativa.HexDump

inductive Operation
  | none
  | read
  | write
  | delete
  deriving DecidableEq

/-- `Type`. -/
inductive ValueType
  | null
  | string
  | blob
  | integer
  | real
  | bool
  deriving DecidableEq

/-- What `getopt_long` returns: an option with its argument. -/
inductive Opt
  | socket (path : CString)
  | key (name : CString)
  | read
  | write (value : CString)
  | delete
  | type (name : CString)
  /-- an option that it does not know, or without its argument, with what it prints on `stderr` -/
  | refused (report : Bytes)

/-- What the program finds outside: the files, or the text of the exception, the conversions of real
numbers and the texts of system errors. -/
structure UtilEnv where
  fileSize : CString → Except Bytes ℕ
  fileRead : CString → (size : ℕ) → Except Bytes { buf : Region // buf.bytes.length = size }
  stod : Bytes → Option Double
  formatReal : Double → Bytes
  strerror : ℕ → Bytes

/-- A connection, and what was printed. -/
structure Session (σ : Type) where
  conn : Endpoint σ
  stdout : OStream
  stderr : Bytes

/-- An exception with its text, or a crash. -/
inductive Stop
  | thrown (what : Bytes)
  | crash
  deriving DecidableEq

abbrev UtilProg (σ : Type) := Prog Stop (Session σ)

def empty : CString := ⟨[], by simp, by simp⟩

/-! ### Numbers as texts -/

def decimal (n : ℤ) : Bytes := if n < 0 then 45 :: numeral 10 n.natAbs else numeral 10 n.natAbs

def isspace (c : UInt8) : Bool := c = 32 || 9 ≤ c && c ≤ 13

def isdigit (c : UInt8) : Bool := 48 ≤ c && c ≤ 57

/-- The sign and the digits at the start of a text, behind spaces. -/
def scanNumber (b : Bytes) : Bool × Bytes :=
  match b.dropWhile isspace with
  | 45 :: rest => (true, rest.takeWhile isdigit)
  | 43 :: rest => (false, rest.takeWhile isdigit)
  | rest => (false, rest.takeWhile isdigit)

def ofDigits (digits : Bytes) : ℕ := digits.foldl (fun n c => 10 * n + (c.toNat - 48)) 0

/-- `std::stoll`; what is behind the number does not matter. -/
def stoll (b : Bytes) : Option Int64 :=
  let (negative, digits) := scanNumber b
  let n : ℤ := if negative then -ofDigits digits else ofDigits digits
  if digits = [] ∨ n < -2 ^ 63 ∨ 2 ^ 63 ≤ n then none else some (.ofInt n)

/-- Whether `std::stoul` is not `0`, with an `unsigned long` of 32 bits. -/
def stoulIsSet (b : Bytes) : Option Bool :=
  let (_, digits) := scanNumber b
  if digits = [] ∨ 2 ^ 32 ≤ ofDigits digits then none else some (ofDigits digits ≠ 0)

section Program

variable {σ : Type} (cbor : Libcbor) (sock : Socket σ) (env : UtilEnv)

def strerrors : List Bytes :=
  [ascii "success", ascii "value type mismatch", ascii "access denied", ascii "key not found",
    ascii "operation is not supported", ascii "invalid confd response", ascii "value is null",
    ascii "out of memory", ascii "invalid arguments"]

def confdStrerror (error : ℤ) : Bytes :=
  if 0 ≤ error then strerrors.getD error.toNat (ascii "(unknown)") else env.strerror error.natAbs

/-- `EnsureSuccess`. -/
def ensureSuccess (err : ℤ) (ignoreNull : Bool) : UtilProg σ Unit :=
  .throwIf (¬ (ignoreNull = true ∧ err = Status.nullValue.code) ∧ err ≠ 0)
    (.thrown (ascii "confd error: " ++ confdStrerror env err ++ ascii " (" ++ decimal err ++
      ascii ")"))

def exitCode : Exit → UtilProg σ ℤ
  | .status code => pure code
  | .crash => .fail .crash

/-- A call of a getter. -/
def getter {β : Type} (call : Endpoint σ → Result β × Endpoint σ) : UtilProg σ (ℤ × Option β) := do
  let s ← .get
  let (result, conn) := call s.conn
  .modify fun s => { s with conn }
  let code ← exitCode result.exit
  pure (code, result.out)

/-- A call of a setter. -/
def setter (call : Endpoint σ → Exit × Endpoint σ) : UtilProg σ ℤ := do
  let s ← .get
  let (exit, conn) := call s.conn
  .modify fun s => { s with conn }
  exitCode exit

def toStdout (b : Bytes) : UtilProg σ Unit := .modify fun s => { s with stdout := s.stdout.put b }

def toStderr (b : Bytes) : UtilProg σ Unit := .modify fun s => { s with stderr := s.stderr ++ b }

/-- `{}:{}={}` and the end of the line. -/
def entry (key : CString) (type : String) (value : Bytes) : Bytes :=
  key.bytes ++ ascii ":" ++ ascii type ++ ascii "=" ++ value ++ [10]

def backquoted (b : Bytes) : Bytes := ascii "`" ++ b ++ ascii "`"

def sized (n : ℕ) : Bytes := ascii "(" ++ numeral 10 n ++ ascii " bytes)"

def formatBool (b : Bool) : Bytes := if b then ascii "true" else ascii "false"

def stringBuffer : ℕ := 1024 * 64

def blobBuffer : ℕ := 128 * 1024

/-- What is said when `actual` bytes do not fit in the buffer. -/
def truncated (what : String) (actual size : ℕ) : UtilProg σ Unit :=
  .when (size < actual) (toStderr (ascii "NOTE: " ++ ascii what ++ ascii " is truncated (total " ++
    numeral 10 actual ++ ascii " bytes, showing " ++ numeral 10 (size - 1) ++ ascii ")"))

/-- Reading and printing a scalar. A getter that returns `0` has written the value. -/
def readScalar {β : Type} (key : CString) (type : String) (format : β → Bytes)
    (call : Endpoint σ → Result β × Endpoint σ) : UtilProg σ Unit := do
  let (err, value) ← getter call
  ensureSuccess env err true
  if err = Status.nullValue.code then toStdout (entry key type (ascii "(null)"))
  else toStdout (entry key type (value.elim [] format))

def readString (key : CString) : UtilProg σ Unit := do
  let (err, out) ← getter (confdGetString cbor sock key stringBuffer)
  ensureSuccess env err true
  let actual := out.elim 0 OutBytes.actualLen
  let buffer := splice (List.replicate stringBuffer 0) 0 (out.elim [] OutBytes.written)
  truncated "string" actual stringBuffer
  if err = Status.nullValue.code then toStdout (entry key "string" (ascii "(null)"))
  else toStdout (entry key "string" (backquoted (cstr buffer)))

def readBlob (key : CString) : UtilProg σ Unit := do
  let (err, out) ← getter (confdGetBlob cbor sock key blobBuffer)
  ensureSuccess env err true
  let actual := out.elim 0 OutBytes.actualLen
  let buffer := splice (List.replicate blobBuffer 0) 0 (out.elim [] OutBytes.written)
  truncated "blob" actual blobBuffer
  if err = Status.nullValue.code then toStdout (entry key "blob" (ascii "(null)"))
  else do
    toStdout (entry key "blob" (sized actual))
    .modify fun s => { s with stdout := dumpBuffer s.stdout (resize buffer actual) }

/-- `ReadKey`. -/
def readKey (key : CString) (type : ValueType) : UtilProg σ Unit := do
  .throwIf (key.bytes = []) (.thrown (ascii "key name cannot be empty"))
  match type with
  | .null => .fail (.thrown (ascii "cannot read NULL type keys"))
  | .string => readString cbor sock env key
  | .integer => readScalar env key "integer" (fun n => decimal n.toInt) (confdGetInt cbor sock key)
  | .real => readScalar env key "real" env.formatReal (confdGetReal cbor sock key)
  | .bool => readScalar env key "bool" formatBool (confdGetBool cbor sock key)
  | .blob => readBlob cbor sock env key

/-- Writing and printing a value. -/
def writeValue (key : CString) (type : String) (printed : Bytes)
    (call : Endpoint σ → Exit × Endpoint σ) : UtilProg σ Unit := do
  let err ← setter call
  ensureSuccess env err false
  toStdout (entry key type printed)

def CString.region (s : CString) : Region := ⟨s.bytes, s.sized⟩

/-- `confd_set_blob` with the data of a vector, which is a null pointer if the vector is empty. -/
def setVector (key : CString) (buf : Region) (c : Endpoint σ) : Exit × Endpoint σ :=
  if buf.bytes = [] then (.status Status.invalidArguments.code, c)
  else confdSetBlob cbor sock key buf c

/-- A value that cannot be parsed. -/
def parsed {α : Type} (what : Bytes) (value : Option α) : UtilProg σ α :=
  .ofExcept (value.elim (.error (.thrown what)) .ok)

def parseBool (b : Bytes) : Option Bool :=
  if b = ascii "false" ∨ b = ascii "n" ∨ b = ascii "f" then some false
  else if b = ascii "true" ∨ b = ascii "y" ∨ b = ascii "t" then some true
  else stoulIsSet b

/-- A path is printed in quotes. -/
def quoted (b : Bytes) : Bytes :=
  34 :: b.flatMap (fun c => if c = 34 ∨ c = 92 then [92, c] else [c]) ++ [34]

def reading (path : CString) (size : ℕ) : Bytes :=
  ascii "Reading " ++ numeral 10 size ++ ascii " bytes from " ++ quoted path.bytes ++
    [0xe2, 0x80, 0xa6, 10]

/-- `WriteKey`. -/
def writeKey (key value : CString) (type : ValueType) : UtilProg σ Unit := do
  .throwIf (key.bytes = []) (.thrown (ascii "key name cannot be empty"))
  match type with
  | .string =>
    writeValue env key "string" (backquoted value.bytes)
      (confdSetString cbor sock key (CString.region value))
  | .integer => do
    let n ← parsed (ascii "stoll") (stoll value.bytes)
    writeValue env key "integer" (decimal n.toInt) (confdSetInt cbor sock key n)
  | .real => do
    let d ← parsed (ascii "stod") (env.stod value.bytes)
    writeValue env key "real" (env.formatReal d) (confdSetReal cbor sock key d)
  | .bool => do
    let b ← parsed (ascii "failed to parse bool from " ++ backquoted value.bytes)
      (parseBool value.bytes)
    writeValue env key "bool" (formatBool b) (confdSetBool cbor sock key b)
  | .blob => do
    let size ← .ofExcept ((env.fileSize value).mapError .thrown)
    toStdout (reading value size)
    let ⟨buf, _⟩ ← .ofExcept ((env.fileRead value size).mapError .thrown)
    writeValue env key "blob" (sized buf.bytes.length) (setVector cbor sock key buf)
    .modify fun s => { s with stdout := dumpBuffer s.stdout buf.bytes }
  | .null => .fail (.thrown (ascii "unsupported write type (wtf)"))

/-! ### The command line -/

structure Settings where
  socketPath : CString
  what : Operation
  keyName : CString
  valueType : Option ValueType
  writeValue : CString
  /-- what `getopt_long` has printed -/
  reported : Bytes

def Settings.init : Settings where
  socketPath := ⟨ascii "/var/run/confd/rpc.sock", by decide, by decide⟩
  what := .none
  keyName := empty
  valueType := none
  writeValue := empty
  reported := []

def typeNames : List (Bytes × ValueType) :=
  [(ascii "string", .string), (ascii "int", .integer), (ascii "integer", .integer),
    (ascii "real", .real), (ascii "float", .real), (ascii "double", .real),
    (ascii "decimal", .real), (ascii "blob", .blob), (ascii "binary", .blob),
    (ascii "data", .blob), (ascii "bool", .bool), (ascii "boolean", .bool), (ascii "null", .null)]

/-- `main` is left with a message. -/
def Settings.fail (s : Settings) (message : Bytes) : Except Bytes Settings :=
  .error (s.reported ++ message)

/-- The operation, of which there may be one. -/
def Settings.operate (s : Settings) (what : Operation) (value : CString) : Except Bytes Settings :=
  if s.what ≠ .none then s.fail (ascii "--read, --write and --delete are mutually exclusive")
  else .ok { s with what, writeValue := value }

def Settings.option (s : Settings) : Opt → Except Bytes Settings
  | .socket path => .ok { s with socketPath := path }
  | .key name => .ok { s with keyName := name }
  | .read => s.operate .read s.writeValue
  | .write value => s.operate .write value
  | .delete => s.operate .delete s.writeValue
  | .type name => match typeNames.lookup name.bytes with
    | none => s.fail (ascii "invalid type: " ++ backquoted name.bytes ++ [10])
    | some type => .ok { s with valueType := some type }
  | .refused report => .ok { s with reported := s.reported ++ report }

/-- What is checked before the connection is opened. -/
def settings (opts : List Opt) : Except Bytes Settings := do
  let s ← opts.foldlM Settings.option .init
  if s.keyName.bytes = [] then s.fail (ascii "key name is required (--key)\n")
  else if (s.what = .read ∨ s.what = .write) ∧ s.valueType = none then
    s.fail (ascii "value type is required (--type)\n")
  else .ok s

def perform (s : Settings) : UtilProg σ Unit :=
  match s.what, s.valueType with
  | .read, some type => readKey cbor sock env s.keyName type
  | .write, some type => writeKey cbor sock env s.keyName s.writeValue type
  | .delete, _ => .fail (.thrown (ascii "not yet implemented"))
  | _, _ => .fail (.thrown (ascii "unknown operation"))

/-- What the caller of the program sees; there is no exit code if it crashes. -/
structure Outcome where
  code : Option ℕ
  stdout : Bytes
  stderr : Bytes
  deriving DecidableEq

/-- `main`, with the result of `confd_open`; and the connection before it is closed. -/
def main (opts : List Opt) (opened : CString → Except ℤ (Endpoint σ)) :
    Outcome × Option (Endpoint σ) :=
  match settings opts with
  | .error message => (⟨some 1, [], message⟩, none)
  | .ok s => match opened s.socketPath with
    | .error err =>
      (⟨some 1, [], s.reported ++ ascii "failed to connect to confd: " ++ decimal err ++ [10]⟩,
        none)
    | .ok conn => match (perform cbor sock env s).run ⟨conn, .plain [], s.reported⟩ with
      | (.ok (), s') => (⟨some 0, s'.stdout.out, s'.stderr⟩, some s'.conn)
      | (.error (.thrown what), s') => (⟨some 1, s'.stdout.out,
          s'.stderr ++ ascii "operation failed: " ++ what ++ [10]⟩, some s'.conn)
      | (.error .crash, s') => (⟨none, s'.stdout.out, s'.stderr⟩, some s'.conn)

end Program

end Sativa.Util
