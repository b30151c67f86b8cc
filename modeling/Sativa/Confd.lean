import Sativa.RpcConnection
import Sativa.RpcServe

/-!
The calls of libconfd.

A getter sends a query and hands the value of the reply to its handler; a setter sends an
update and takes any reply that decodes for a confirmation. What a handler writes to the
caller's variables is kept even when it throws afterwards. Pointers are valid here.
-/

namespace Sativa.Confd

open Sativa Sativa.Rpc Sativa.Cbor Sativa.RpcServer

/-- How a call ends. -/
inductive Exit
  | status (code : ℤ)
  | crash
  deriving DecidableEq

/-- The status code that an exception becomes. -/
def LibError.exit : LibError → Exit
  | confd status => .status status.code
  | system errno => .status (-(errno.val : ℤ))
  | crash => .crash
  | _ => .status (-1)

/-- The end of a call, and what it wrote to the caller's variables. -/
structure Result (β : Type) where
  exit : Exit
  out : Option β

variable {σ β : Type}

section Calls

variable (cbor : Libcbor) (sock : Socket σ)

def serializeKeyRequest (key : CString) : Bytes := cbor.serialize (.map (queryPairs key.bytes))

def serializeUpdateRequest (key : CString) (value : Item) : Bytes :=
  cbor.serialize (.map (updatePairs key.bytes value))

/-- What becomes of an item that is to be a bool and is none: of a float, `cbor_is_bool` reads a
control value that it does not have. -/
def notBool (item : Item) (e : LibError) : LibError := if item.isFloat then .crash else e

/-- The loop of `ExtractValue`: the flag `found` and the last `value`. -/
def scanReply : List (Item × Item) → Bool × Option Item → Except LibError (Bool × Option Item)
  | [], acc => .ok acc
  | (key, value) :: pairs, (found, result) => match key.text? with
    | none => .error (.confd .invalidResponse)
    | some keyStr =>
      if strncmpEq keyStr (ascii "found") keyStr.length then match value.bool? with
        | none => .error (notBool value (.confd .invalidResponse))
        | some b => scanReply pairs (b, result)
      else if strncmpEq keyStr (ascii "value") keyStr.length then
        scanReply pairs (found, some value)
      else scanReply pairs (found, result)

/-- `ExtractValue`. A reply that claims to have a value and has none is a null item. -/
def extractValue : Item → Except LibError Item
  | .map pairs => do
    let (found, value) ← scanReply pairs (false, none)
    if found = false then .error (.confd .notFound)
    else match value with
      | none => .error .crash
      | some value => if value.isNull then .error (.confd .nullValue) else .ok value
  | _ => .error (.confd .invalidResponse)

/-- What a handler makes of the value: an exception or success, and what it wrote. -/
abbrev Handler (β : Type) := Item → Except LibError Unit × Option β

/-- What `DoQuery` makes of the payload of the reply. -/
def handleReply (replyHandler : Handler β) (replyPayload : Bytes) : Result β :=
  match cbor.load replyPayload with
  | none => ⟨.status Status.invalidResponse.code, none⟩
  | some root => match extractValue root with
    | .error e => ⟨e.exit, none⟩
    | .ok value => match replyHandler value with
      | (.ok (), out) => ⟨.status 0, out⟩
      | (.error e, out) => ⟨e.exit, out⟩

/-- `DoQuery`. -/
def doQuery (key : CString) (replyHandler : Handler β) (c : Endpoint σ) :
    Result β × Endpoint σ :=
  let r := (sendPacketWithReply sock kConfigQuery (serializeKeyRequest cbor key)).run c
  (match r.1 with
    | .error e => ⟨e.exit, none⟩
    | .ok replyPayload => handleReply cbor replyHandler replyPayload, r.2)

/-- `DoUpdate`; the response is not looked into. -/
def doUpdate (key : CString) (value : Item) (c : Endpoint σ) : Exit × Endpoint σ :=
  let r := (sendPacketWithReply sock kConfigUpdate (serializeUpdateRequest cbor key value)).run c
  (match r.1 with
    | .error e => e.exit
    | .ok replyPayload => match cbor.load replyPayload with
      | none => .status Status.invalidResponse.code
      | some _ => .status 0, r.2)

/-! ### Getters -/

/-- What a getter of strings or blobs writes: the actual length, and the bytes at the start of
the caller's buffer. -/
structure OutBytes where
  actualLen : ℕ
  written : Bytes
  deriving DecidableEq

def typeMismatch : Except LibError Unit := .error (.confd .typeMismatch)

def stringHandler (outStrLen : ℕ) : Handler OutBytes := fun value => match value.text? with
  | none => (typeMismatch, none)
  | some str => (.ok (), some ⟨str.length, str.take (outStrLen - 1) ++ [0]⟩)

def confdGetString (key : CString) (outStrLen : ℕ) (c : Endpoint σ) :
    Result OutBytes × Endpoint σ :=
  if outStrLen = 0 then (⟨.status Status.invalidArguments.code, none⟩, c)
  else doQuery cbor sock key (stringHandler outStrLen) c

/-- An indefinite blob has the length `0`. -/
def blobHandler (outBlobLen : ℕ) : Handler OutBytes
  | .bytestring blob => (.ok (), some ⟨blob.length, blob.take outBlobLen⟩)
  | .bytestringIndef _ => (.ok (), some ⟨0, []⟩)
  | _ => (typeMismatch, none)

def confdGetBlob (key : CString) (outBlobLen : ℕ) (c : Endpoint σ) :
    Result OutBytes × Endpoint σ :=
  if outBlobLen = 0 then (⟨.status Status.invalidArguments.code, none⟩, c)
  else doQuery cbor sock key (blobHandler outBlobLen) c

def intHandler : Handler Int64
  | .uint _ v => (.ok (), some v.toInt64)
  | _ => (typeMismatch, none)

def confdGetInt (key : CString) (c : Endpoint σ) : Result Int64 × Endpoint σ :=
  doQuery cbor sock key intHandler c

def realHandler : Handler Double
  | .float2 b => (.ok (), some (Ieee.ofHalf b))
  | .float4 b => (.ok (), some (Ieee.ofSingle b))
  | .float8 b => (.ok (), some b)
  | _ => (typeMismatch, none)

def confdGetReal (key : CString) (c : Endpoint σ) : Result Double × Endpoint σ :=
  doQuery cbor sock key realHandler c

/-- After an integer was written, the handler goes on to the check for a bool. -/
def boolHandler : Handler Bool := fun value =>
  let out := match value with
    | .uint _ v => some (v != 0)
    | _ => none
  match value.bool? with
  | none => (.error (notBool value (.confd .typeMismatch)), out)
  | some b => (.ok (), some b)

def confdGetBool (key : CString) (c : Endpoint σ) : Result Bool × Endpoint σ :=
  doQuery cbor sock key boolHandler c

/-! ### Setters -/

def confdSetString (key : CString) (str : Region) (c : Endpoint σ) : Exit × Endpoint σ :=
  doUpdate cbor sock key (.string str.bytes) c

def confdSetBlob (key : CString) (blob : Region) (c : Endpoint σ) : Exit × Endpoint σ :=
  doUpdate cbor sock key (.bytestring blob.bytes) c

def confdSetInt (key : CString) (value : Int64) (c : Endpoint σ) : Exit × Endpoint σ :=
  doUpdate cbor sock key (.uint .int64 value.toUInt64) c

def confdSetReal (key : CString) (value : Double) (c : Endpoint σ) : Exit × Endpoint σ :=
  doUpdate cbor sock key (.float8 value) c

def confdSetBool (key : CString) (value : Bool) (c : Endpoint σ) : Exit × Endpoint σ :=
  doUpdate cbor sock key (buildBool value) c

def confdSetNull (key : CString) (c : Endpoint σ) : Exit × Endpoint σ :=
  doUpdate cbor sock key ctrlNull c

end Calls

end Sativa.Confd
