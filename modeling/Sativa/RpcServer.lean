import Sativa.Rpc
import Sativa.Cbor
import Sativa.DataStore

/-!
The server: decoding of requests, the two endpoints, and the callbacks of a client's socket.

A callback gets an environment with what the server does not control: the database's clock
and failures, the bytes that lie behind a decoded string or behind the receive buffer in
memory, and whether the socket takes the reply.
-/

namespace Sativa.RpcServer

open Sativa Sativa.Rpc Sativa.Cbor Sativa.Store

/-- What the handlers throw. Messages only reach the log. -/
inductive RpcError where
  /-- `clients.at(ev)` without such a client -/
  | outOfRange
  /-- `read too few bytes ({}) from client` -/
  | tooFewBytes (read : ℕ)
  /-- `unsupported rpc version ${:04x}` -/
  | unsupportedVersion (version : UInt16)
  /-- `invalid header length ({}, too short)` -/
  | lengthTooShort (length : UInt16)
  /-- `invalid header length ({}, too long)` -/
  | lengthTooLong (length : UInt16)
  /-- `cbor_load failed: {} (at ${:x})` -/
  | cborLoad
  /-- `unknown rpc endpoint ${:02x}` -/
  | unknownEndpoint (endpoint : UInt8)
  /-- `invalid payload: expected map` -/
  | expectedMap
  /-- `invalid payload: map has no keys` -/
  | mapHasNoKeys
  /-- `invalid map key type (expected string)` -/
  | mapKeyType
  /-- `` invalid type for `key` (expected string) `` -/
  | keyType
  /-- `indefinite strings not supported` -/
  | indefiniteString
  /-- `indefinite bytestrings not supported` -/
  | indefiniteBytestring
  /-- `failed to get key name (wtf)` -/
  | noKeyName
  /-- `` invalid type for `key` (expected bool) `` -/
  | forceFloatType
  /-- `invalid value type {}` -/
  | valueType
  /-- thrown by the data store -/
  | store (e : StoreError)
  /-- `write rpc reply` -/
  | writeReply
  deriving DecidableEq

/-- What a callback finds outside the server. -/
structure CallbackEnv where
  sql : SqlEnv
  /-- the memory behind the text of the `i`-th entry's value, up to some NUL -/
  heap : ℕ → Bytes
  /-- the memory behind the receive buffer -/
  slack : Fin headerSize → UInt8
  writeOk : Bool

/-- Nothing goes wrong at `now`. -/
def CallbackEnv.ok (now : ℕ) : CallbackEnv := ⟨.ok now, fun _ => [], fun _ => 0, true⟩

/-! ### Requests -/

/-- The loop over the entries of a map: `f` handles those whose key matches `field`, and gets
their position. Every key has to be a string. -/
def scanFields {α : Type} (field : Bytes) (f : ℕ → Item → α → Except RpcError α) :
    ℕ → List (Item × Item) → α → Except RpcError α
  | _, [], acc => .ok acc
  | i, (key, value) :: pairs, acc => match key.text? with
    | none => .error .mapKeyType
    | some keyStr =>
      if strncmpEq keyStr field keyStr.length then do
        scanFields field f (i + 1) pairs (← f i value acc)
      else scanFields field f (i + 1) pairs acc

def expectMap : Item → Except RpcError (List (Item × Item))
  | .map pairs => .ok pairs
  | _ => .error .expectedMap

/-- The value of `key`. -/
def keyNameValue : Item → Except RpcError Bytes
  | .string b => .ok b
  | .stringIndef _ => .error .indefiniteString
  | _ => .error .keyType

def extractKeyName (pairs : List (Item × Item)) : Except RpcError Bytes :=
  if pairs = [] then .error .mapHasNoKeys
  else scanFields (ascii "key") (fun _ value _ => keyNameValue value) 0 pairs []

structure Flags where
  singlePrecisionFloat : Bool
  isSetRequest : Bool
  excludeValue : Bool

def Flags.none : Flags := ⟨false, false, false⟩

/-- The value of `forceFloat`. -/
def forceFloatValue (value : Item) (flags : Flags) : Except RpcError Flags :=
  match value.bool? with
  | some b => .ok (if b then { flags with singlePrecisionFloat := true } else flags)
  | none => .error .forceFloatType

def getCfgQueryFlags (pairs : List (Item × Item)) : Except RpcError Flags :=
  scanFields (ascii "forceFloat") (fun _ value flags => forceFloatValue value flags) 0 pairs .none

/-- The value of an update. A text is assigned from a `const char *`. `cbor_get_bool` is applied to
any simple value, and is taken to be false for all but `true`: a libcbor with assertions aborts at
null and the others. -/
def updateValue (heap : ℕ → Bytes) (i : ℕ) : Item → Except RpcError PropertyValue
  | .string b => .ok (.string (cstr (b ++ heap i)))
  | .stringIndef _ => .error .indefiniteString
  | .bytestring b => .ok (.blob b)
  | .bytestringIndef _ => .error .indefiniteBytestring
  | .uint _ v => .ok (.uint64 v)
  | .ctrl v => .ok (.bool (v == 21))
  | .float2 b => .ok (.double (Ieee.ofHalf b))
  | .float4 b => .ok (.double (Ieee.ofSingle b))
  | .float8 b => .ok (.double b)
  | _ => .error .valueType

/-! ### Replies -/

/-- `cbor_map_add` to a definite map, which adds nothing to a full one. -/
def mapAdd (capacity : ℕ) (pairs : List (Item × Item)) (key : String) (value : Item) :
    List (Item × Item) :=
  if pairs.length < capacity then pairs ++ [(.string (ascii key), value)] else pairs

/-- The item of a value, if there is a value. -/
def valueItem (flags : Flags) : PropertyValue → Option Item
  | .null => some ctrlNull
  | .string s => some (.string (cstr s))
  | .blob b => some (.bytestring b)
  | .uint64 n => some (.uint .int64 n)
  | .double d => some (if flags.singlePrecisionFloat then .float4 (Ieee.toSingle d) else .float8 d)
  | .bool b => some (buildBool b)
  | .monostate => none

/-- The map that `sendKeyValue` builds. -/
def replyPairs (key : Bytes) (value : PropertyValue) (flags : Flags) : List (Item × Item) :=
  let found := !value.isMonostate
  let outputValue := !flags.excludeValue
  let capacity := (if found then 3 else 2) - (if outputValue then 0 else 1)
  let root := mapAdd capacity [] "key" (.string (cstr key))
  let (root, hasValue) :=
    if outputValue then match valueItem flags value with
      | some item => (mapAdd capacity root "value" item, true)
      | none => (root, false)
    else (root, !value.isMonostate)
  mapAdd capacity root (if flags.isSetRequest then "updated" else "found") (buildBool hasValue)

/-! ### State -/

/-- A connected client. -/
structure Client where
  receiveBuf : Bytes
  transmitBuf : Bytes

/-- The server, with the store it serves and the packets it has handed to the sockets. Clients
are known by their `bufferevent`. -/
structure Server where
  clients : ℕ → Option Client
  store : Db
  written : List (ℕ × Bytes)

abbrev ServerProg := Prog RpcError Server

/-- `clients.at(ev)`. -/
def clientAt (ev : ℕ) : ServerProg Client :=
  .reads fun s => match s.clients ev with
    | none => .error .outOfRange
    | some client => .ok client

def Server.setClient (s : Server) (ev : ℕ) (client : Client) : Server :=
  { s with clients := Function.update s.clients ev (some client) }

/-- `clients.erase(ev)`. -/
def Server.erase (s : Server) (ev : ℕ) : Server :=
  { s with clients := Function.update s.clients ev none }

/-- A call of the data store. -/
def onStore {α : Type} (x : SqlProg α) : ServerProg α :=
  .zoom Server.store (fun store s => { s with store }) .store x

/-! ### Handlers -/

section Handlers

variable (cbor : Libcbor) (env : CallbackEnv)

/-- `Client::send`. -/
def send (ev : ℕ) (buf : Bytes) : ServerProg Unit := do
  .throwIf (env.writeOk = false) .writeReply
  .modify fun s => { s with written := s.written ++ [(ev, buf)] }

/-- The header of the reply of `msgSize` bytes to `req`. -/
def replyHeader (req : RpcHeader) (msgSize : ℕ) : RpcHeader where
  version := kRpcVersionLatest
  length := UInt16.ofNat msgSize
  endpoint := req.endpoint
  tag := req.tag
  flags := 1
  reserved := 0

/-- `Client::replyTo`. -/
def replyTo (ev : ℕ) (req : RpcHeader) (payload : Bytes) : ServerProg Unit := do
  let client ← clientAt ev
  let hdr := replyHeader req (headerSize + payload.length)
  let transmitBuf := splice (clearedBuffer client.transmitBuf payload) 0 hdr.bytes
  let transmitBuf := splice transmitBuf headerSize payload
  .modify fun s => s.setClient ev { client with transmitBuf }
  send env ev transmitBuf

def sendKeyValue (ev : ℕ) (hdr : RpcHeader) (key : Bytes) (value : PropertyValue) (flags : Flags) :
    ServerProg Unit :=
  replyTo env ev hdr (cbor.serialize (.map (replyPairs key value flags)))

def doCfgQuery (packet : Bytes) (item : Item) (ev : ℕ) : ServerProg Unit := do
  let pairs ← .ofExcept (expectMap item)
  let keyName ← .ofExcept (extractKeyName pairs)
  .throwIf (keyName = []) .noKeyName
  let flags ← .ofExcept (getCfgQueryFlags pairs)
  let result ← onStore (.reads fun db => getKey db keyName)
  sendKeyValue cbor env ev (RpcHeader.read packet) keyName result flags

def doCfgUpdate (packet : Bytes) (item : Item) (ev : ℕ) : ServerProg Unit := do
  let pairs ← .ofExcept (expectMap item)
  let keyName ← .ofExcept (extractKeyName pairs)
  .throwIf (keyName = []) .noKeyName
  let value ← .ofExcept (scanFields (ascii "value") (fun i item _ => updateValue env.heap i item)
    0 pairs .monostate)
  onStore (setKey env.sql keyName value)
  sendKeyValue cbor env ev (RpcHeader.read packet) keyName value
    { Flags.none with isSetRequest := true, excludeValue := true }

/-- `cbor_load`; any error code is thrown. -/
def loadItem (b : Bytes) : Except RpcError Item := (cbor.load b).elim (.error .cborLoad) .ok

/-- The `n` bytes behind the header, which may lie behind the receive buffer `b`. -/
def payloadBytes (b : Bytes) (n : ℕ) : Bytes := ((b ++ List.ofFn env.slack).drop headerSize).take n

/-- `handleClientRead`, when the bytes `pending` are in the input buffer. -/
def handleClientRead (ev : ℕ) (pending : Bytes) : ServerProg Unit := do
  let client ← clientAt ev
  .modify fun s => s.setClient ev { client with receiveBuf := pending }
  .throwIf (pending.length < headerSize) (.tooFewBytes pending.length)
  let hdr := RpcHeader.read pending
  .throwIf (hdr.version ≠ kRpcVersionLatest) (.unsupportedVersion hdr.version)
  .throwIf (hdr.length.toNat < headerSize) (.lengthTooShort hdr.length)
  let payloadLen := hdr.length.toNat - headerSize
  .throwIf (pending.length < payloadLen) (.lengthTooLong hdr.length)
  let item ← .ofExcept (loadItem cbor (payloadBytes env pending payloadLen))
  if hdr.endpoint = kConfigQuery then doCfgQuery cbor env pending item ev
  else if hdr.endpoint = kConfigUpdate then doCfgUpdate cbor env pending item ev
  else .fail (.unknownEndpoint hdr.endpoint)

end Handlers

/-! ### Events -/

inductive Event
  | accept (ev : ℕ)
  | read (ev : ℕ) (pending : Bytes) (env : CallbackEnv)
  /-- end of file or an error on the socket -/
  | close (ev : ℕ)

/-- `acceptClient`, with the new client's `bufferevent`. -/
def acceptClient (s : Server) (ev : ℕ) : Server :=
  match s.clients ev with
  | none => s.setClient ev ⟨[], []⟩
  | some _ => s

def abortClient (s : Server) (ev : ℕ) : Server := s.erase ev

/-- The read callback: a client whose request is refused is dropped. -/
def readCallback (cbor : Libcbor) (env : CallbackEnv) (s : Server) (ev : ℕ) (pending : Bytes) :
    Except RpcError Unit × Server :=
  match (handleClientRead cbor env ev pending).run s with
  | (.ok (), s') => (.ok (), s')
  | (.error e, s') => (.error e, abortClient s' ev)

/-- `handleClientEvent`; in the callback a client that is missing is dropped all the same. -/
def handleClientEvent (s : Server) (ev : ℕ) : Server := s.erase ev

def step (cbor : Libcbor) (s : Server) : Event → Except RpcError Unit × Server
  | .accept ev => (.ok (), acceptClient s ev)
  | .read ev pending env => readCallback cbor env s ev pending
  | .close ev => (.ok (), handleClientEvent s ev)

end Sativa.RpcServer
