import Sativa.RealValues
import Sativa.Util

/-!
What `confd-util` writes it can read: a later read prints what the write printed.
-/

namespace Sativa.Util

open Sativa Sativa.Rpc Sativa.Cbor Sativa.RpcServer Sativa.Store Sativa.Confd Sativa.HexDump

/-- What is in a file that can be read. -/
def fileBytes (env : UtilEnv) (path : CString) : Option Bytes :=
  Except.toOption do
    let size ← env.fileSize path
    let buf ← env.fileRead path size
    return buf.1.bytes

/-- The value that a write is about. -/
def argument (env : UtilEnv) (value : CString) : ValueType → Option PropertyValue
  | .string => some (.string value.bytes)
  | .integer => (stoll value.bytes).map fun n => .uint64 n.toUInt64
  | .real => (env.stod value.bytes).map .double
  | .bool => (parseBool value.bytes).map .bool
  | .blob => (fileBytes env value).map .blob
  | .null => none

/-- What is printed before the value is written. -/
def announced (value : CString) : PropertyValue → Bytes
  | .blob b => reading value b.length
  | _ => []

/-- What is printed of a value. -/
def shown (env : UtilEnv) (key : CString) : PropertyValue → Bytes
  | .string s => entry key "string" (backquoted s)
  | .uint64 n => entry key "integer" (decimal n.toInt64.toInt)
  | .double d => entry key "real" (env.formatReal d)
  | .bool b => entry key "bool" (formatBool b)
  | .blob b => entry key "blob" (sized b.length) ++ (dumpBuffer (.plain []) b).out
  | _ => []

/-- The server keeps these values, given the memory behind what it decodes. -/
def Kept (heap : ℕ → Bytes) : PropertyValue → Prop
  | .string _ => cstr (heap 1) = []
  | .double d => Ieee.isNaN64 d = false ∧ d ≠ Ieee.negZero
  | .uint64 _ | .blob _ => True
  | _ => False

/-- As long as no other update of the key is accepted, any command that reads the key exits with `0`
and prints the text, on any connection that is idle. -/
def Reads (cbor : Libcbor) (env : UtilEnv) (key : CString) (type : ValueType) (s : Server)
    (text : Bytes) : Prop :=
  ∀ (opts : List Opt) (r : Settings) (c : Endpoint Link) (env₂ : CallbackEnv),
    settings opts = .ok r → r.what = .read → r.keyName = key → r.valueType = some type →
    Quiet cbor key.bytes s c.sock.server → c.sock.Idle → env₂.writeOk = true →
    c.sock.server.store.seq < 2 ^ 32 →
    (main cbor (linkSocket cbor env₂) env opts fun _ => .ok c).1 = ⟨some 0, text, r.reported⟩

section Runs

variable {σ β : Type} {cbor : Libcbor} {sock : Socket σ} {env : UtilEnv} {key value : CString}
  {type : ValueType} {st st' : Session σ} {opts : List Opt} {s : Settings}

lemma put_plain (a b : Bytes) : (OStream.plain a).put b = .plain (a ++ b) := rfl

lemma shown_blob (b : Bytes) :
    shown env key (.blob b) = entry key "blob" (sized b.length) ++ dumpOf 0 b := by
  rw [shown, dumpBuffer_plain]
  rfl

/-! ### Writing -/

lemma writeValue_ok {name : String} {printed : Bytes} {call : Endpoint σ → Exit × Endpoint σ}
    (h : (writeValue env key name printed call).run st = (.ok (), st')) :
    call st.conn = (.status 0, st'.conn) ∧ st'.stdout = st.stdout.put (entry key name printed) ∧
      st'.stderr = st.stderr := by
  obtain ⟨err, st₁, hset, h⟩ := Prog.bind_ok.mp h
  obtain ⟨⟨⟩, st₂, hensure, h⟩ := Prog.bind_ok.mp h
  obtain ⟨hok, rfl⟩ := Prog.throwIf_ok.mp hensure
  have herr : err = 0 := by simpa using hok
  obtain ⟨hst, rfl⟩ := Prod.mk.inj h
  rcases hcall : call st.conn with ⟨code | _, conn⟩
  · simp only [setter, Prog.run_bind, Prog.run_get, Prog.run_modify, hcall, exitCode,
      Prog.run_pure, Prod.mk.injEq, Except.ok.injEq] at hset
    obtain ⟨rfl, rfl⟩ := hset
    exact ⟨by rw [herr], rfl, rfl⟩
  · simp [setter, Prog.run_bind, hcall, exitCode] at hset

lemma parsed_ok {α : Type} {what : Bytes} {v : Option α} {a : α}
    (h : (parsed what v : UtilProg σ α).run st = (.ok a, st')) : v = some a ∧ st' = st := by
  obtain ⟨hv, rfl⟩ := Prog.ofExcept_ok.mp h
  rcases v with _ | b
  · cases hv
  · exact ⟨congrArg some (Except.ok.inj hv), rfl⟩

lemma ofExcept_mapError_ok {α : Type} {x : Except Bytes α} {a : α}
    (h : (.ofExcept (x.mapError .thrown) : UtilProg σ α).run st = (.ok a, st')) :
    x = .ok a ∧ st' = st := by
  obtain ⟨hx, rfl⟩ := Prog.ofExcept_ok.mp h
  rcases x with _ | b
  · cases hx
  · exact ⟨congrArg Except.ok (Except.ok.inj hx), rfl⟩

lemma setVector_ok {buf : Region} {c c' : Endpoint σ}
    (h : setVector cbor sock key buf c = (.status 0, c')) :
    doUpdate cbor sock key (.bytestring buf.bytes) c = (.status 0, c') := by
  unfold setVector at h
  split_ifs at h
  · cases h
  · exact h

lemma parsedWrite_ok {α : Type} {what : Bytes} {v : Option α} {name : String} {format : α → Bytes}
    {call : α → Endpoint σ → Exit × Endpoint σ}
    (h : (parsed what v >>= fun a => writeValue env key name (format a) (call a)).run st =
      (.ok (), st')) :
    ∃ a, v = some a ∧ call a st.conn = (.status 0, st'.conn) ∧
      st'.stdout = st.stdout.put (entry key name (format a)) ∧ st'.stderr = st.stderr := by
  obtain ⟨a, st₁, hparsed, hwrite⟩ := Prog.bind_ok.mp h
  obtain ⟨ha, rfl⟩ := parsed_ok hparsed
  exact ⟨a, ha, writeValue_ok hwrite⟩

lemma writeKey_blob_ok {out : Bytes} (hout : st.stdout = .plain out)
    (h : (writeKey cbor sock env key value .blob).run st = (.ok (), st')) :
    ∃ buf : Region, fileBytes env value = some buf.bytes ∧
      doUpdate cbor sock key (.bytestring buf.bytes) st.conn = (.status 0, st'.conn) ∧
      st'.stdout = .plain (out ++ announced value (.blob buf.bytes) ++
        shown env key (.blob buf.bytes)) ∧
      st'.stderr = st.stderr := by
  obtain ⟨⟨⟩, st₁, hkey, hblob⟩ := Prog.bind_ok.mp h
  obtain ⟨-, rfl⟩ := Prog.throwIf_ok.mp hkey
  obtain ⟨size, st₁, hopen, hwrite⟩ := Prog.bind_ok.mp hblob
  -- the size of the file is said before it is read, its content is dumped after the call
  obtain ⟨⟨⟩, st₂, hsaid, hread⟩ := Prog.bind_ok.mp hwrite
  obtain ⟨⟨buf, hlen⟩, st₃, hbuf, hrest⟩ := Prog.bind_ok.mp hread
  obtain ⟨⟨⟩, st₄, hset, hdump⟩ := Prog.bind_ok.mp hrest
  obtain ⟨hsize, rfl⟩ := ofExcept_mapError_ok hopen
  obtain ⟨-, rfl⟩ := Prod.mk.inj hsaid
  obtain ⟨hcontent, rfl⟩ := ofExcept_mapError_ok hbuf
  obtain ⟨-, rfl⟩ := Prod.mk.inj hdump
  obtain ⟨hvector, hprinted, hstderr⟩ := writeValue_ok hset
  refine ⟨buf, ?_, setVector_ok hvector, ?_, hstderr⟩
  -- fileBytes is the same size and the same read, without what is printed
  · rw [fileBytes, hsize]
    change Except.toOption (env.fileRead value size >>= fun buf => .ok buf.1.bytes) = _
    rw [hcontent]
    rfl
  · dsimp only at hprinted ⊢
    rw [hprinted, hout, put_plain, put_plain, dumpBuffer_plain, shown_blob, List.append_assoc,
      ← hlen]
    rfl

/-- A write that returns has parsed its argument, and the server has confirmed the update. -/
lemma writeKey_ok {out : Bytes} (hout : st.stdout = .plain out)
    (h : (writeKey cbor sock env key value type).run st = (.ok (), st')) :
    ∃ v item, argument env value type = some v ∧ valueItem .none v = some item ∧ item.Scalar ∧
      doUpdate cbor sock key item st.conn = (.status 0, st'.conn) ∧
      st'.stdout = .plain (out ++ announced value v ++ shown env key v) ∧
      st'.stderr = st.stderr := by
  obtain ⟨⟨⟩, st₁, hkey, htype⟩ := Prog.bind_ok.mp h
  obtain ⟨-, rfl⟩ := Prog.throwIf_ok.mp hkey
  -- integer, real and bool parse their argument, a blob is the file it names; null has no writer
  cases type with
  | null => cases htype
  | string =>
    obtain ⟨hcall, hprinted, hstderr⟩ := writeValue_ok htype
    refine ⟨.string value.bytes, .string value.bytes, rfl, ?_, value.sized, hcall, ?_, hstderr⟩
    · simp [valueItem, value.cstr_bytes]
    · simp [hprinted, hout, put_plain, announced, shown]
  | integer =>
    obtain ⟨n, hn, hcall, hprinted, hstderr⟩ := parsedWrite_ok htype
    refine ⟨.uint64 n.toUInt64, .uint .int64 n.toUInt64, ?_, rfl, trivial, hcall, ?_, hstderr⟩
    · simp [argument, hn]
    · simp [hprinted, hout, put_plain, announced, shown]
  | real =>
    obtain ⟨d, hd, hcall, hprinted, hstderr⟩ := parsedWrite_ok htype
    refine ⟨.double d, .float8 d, ?_, rfl, trivial, hcall, ?_, hstderr⟩
    · simp [argument, hd]
    · simp [hprinted, hout, put_plain, announced, shown]
  | bool =>
    obtain ⟨b, hb, hcall, hprinted, hstderr⟩ := parsedWrite_ok htype
    refine ⟨.bool b, buildBool b, ?_, rfl, scalar_buildBool b, hcall, ?_, hstderr⟩
    · simp [argument, hb]
    · simp [hprinted, hout, put_plain, announced, shown]
  | blob =>
    obtain ⟨buf, hfile, hcall, hprinted, hstderr⟩ := writeKey_blob_ok hout h
    refine ⟨.blob buf.bytes, .bytestring buf.bytes, ?_, rfl, buf.sized, hcall, hprinted, hstderr⟩
    simp [argument, hfile]

/-! ### Reading -/

lemma getter_run {call : Endpoint σ → Result β × Endpoint σ} {code : ℤ} {out : Option β}
    (h : (call st.conn).1 = ⟨.status code, out⟩) :
    (getter call).run st = (.ok (code, out), { st with conn := (call st.conn).2 }) := by
  simp [getter, Prog.run_bind, Prog.run_map, h, exitCode, Except.map]

lemma ensureSuccess_zero {ignoreNull : Bool} :
    (ensureSuccess env 0 ignoreNull : UtilProg σ Unit) = pure () :=
  Prog.throwIf_neg (by simp)

lemma readScalar_run {name : String} {format : β → Bytes} {a : β}
    {call : Endpoint σ → Result β × Endpoint σ} (h : (call st.conn).1 = ⟨.status 0, some a⟩) :
    (readScalar env key name format call).run st =
      (.ok (), ⟨(call st.conn).2, st.stdout.put (entry key name (format a)), st.stderr⟩) := by
  rw [readScalar, Prog.run_bind_of_ok (getter_run h)]
  simp [ensureSuccess_zero, toStdout, Status.code]

lemma resize_splice {n : ℕ} {b : Bytes} :
    resize (splice (List.replicate n 0) 0 b) b.length = b := by
  simp [resize, splice]

lemma cstr_splice {n : ℕ} {b : Bytes} (h0 : 0 ∉ b) :
    cstr (splice (List.replicate n 0) 0 (b ++ [0])) = b := by
  simp [splice, cstr_append_of_not_mem h0, cstr]

lemma readString_run {b : Bytes} (h0 : 0 ∉ b) (hlen : b.length < stringBuffer)
    (h : (confdGetString cbor sock key stringBuffer st.conn).1 =
      ⟨.status 0, some ⟨b.length, b ++ [0]⟩⟩) :
    (readString cbor sock env key).run st =
      (.ok (), ⟨(confdGetString cbor sock key stringBuffer st.conn).2,
        st.stdout.put (entry key "string" (backquoted b)), st.stderr⟩) := by
  rw [readString, Prog.run_bind_of_ok (getter_run h)]
  have hnote : ¬ stringBuffer < b.length := by omega
  simp [ensureSuccess_zero, truncated, Prog.when, hnote, cstr_splice h0, toStdout, Status.code]

lemma readBlob_run {b : Bytes} (hlen : b.length ≤ blobBuffer)
    (h : (confdGetBlob cbor sock key blobBuffer st.conn).1 = ⟨.status 0, some ⟨b.length, b⟩⟩) :
    (readBlob cbor sock env key).run st =
      (.ok (), ⟨(confdGetBlob cbor sock key blobBuffer st.conn).2,
        dumpBuffer (st.stdout.put (entry key "blob" (sized b.length))) b, st.stderr⟩) := by
  rw [readBlob, Prog.run_bind_of_ok (getter_run h)]
  have hnote : ¬ blobBuffer < b.length := by omega
  simp [ensureSuccess_zero, truncated, Prog.when, hnote, resize_splice, toStdout, Status.code,
    Prog.run_bind]

/-! ### The command line -/

lemma settings_ok (h : settings opts = .ok s) : s.keyName.bytes ≠ [] ∧
    (s.what = .read ∨ s.what = .write → ∃ type, s.valueType = some type) := by
  obtain ⟨s', -, hcheck⟩ := except_bind_ok.mp h
  unfold Settings.fail at hcheck
  split_ifs at hcheck with hkey htype
  obtain rfl : s' = s := Except.ok.inj hcheck
  refine ⟨hkey, fun hwhat => Option.ne_none_iff_exists'.mp fun hnone => htype ⟨hwhat, hnone⟩⟩

lemma main_of_run {c : Endpoint σ} (hs : settings opts = .ok s)
    (hrun : (perform cbor sock env s).run ⟨c, .plain [], s.reported⟩ = (.ok (), st')) :
    main cbor sock env opts (fun _ => .ok c) =
      (⟨some 0, st'.stdout.out, st'.stderr⟩, some st'.conn) := by
  simp [main, hs, hrun]

/-- The exit code is `0` only if nothing is thrown. -/
lemma main_zero {c : Endpoint σ} (hs : settings opts = .ok s)
    (h : (main cbor sock env opts fun _ => .ok c).1.code = some 0) :
    ∃ st', (perform cbor sock env s).run ⟨c, .plain [], s.reported⟩ = (.ok (), st') := by
  rcases hrun : (perform cbor sock env s).run ⟨c, .plain [], s.reported⟩ with ⟨(_ | _) | _, st'⟩
  · simp [main, hs, hrun] at h
  · simp [main, hs, hrun] at h
  · exact ⟨st', rfl⟩

end Runs

/-! ### Reading what was written -/

section RoundTrip

variable {cbor : Libcbor} {env : CallbackEnv} {uenv : UtilEnv} {key value : CString}
  {type : ValueType} {c c' : Endpoint Link} {v : PropertyValue} {item : Item} {server : Server}
  {text : Bytes}

lemma reads_of_run (h : ∀ (c : Endpoint Link) (env : CallbackEnv) (reported : Bytes),
    Quiet cbor key.bytes server c.sock.server → c.sock.Idle → env.writeOk = true →
    c.sock.server.store.seq < 2 ^ 32 → ∃ st',
      (readKey cbor (linkSocket cbor env) uenv key type).run ⟨c, .plain [], reported⟩ =
        (.ok (), st') ∧ st'.stdout = .plain text ∧ st'.stderr = reported) :
    Reads cbor uenv key type server text := by
  intro opts r c env hs hwhat hkey htype hq hidle hw hseq
  obtain ⟨st', hrun, hstdout, hstderr⟩ := h c env r.reported hq hidle hw hseq
  have hperform : (perform cbor (linkSocket cbor env) uenv r).run ⟨c, .plain [], r.reported⟩ =
      (.ok (), st') := by
    simpa only [perform, hwhat, htype, hkey] using hrun
  rw [main_of_run hs hperform, hstdout, hstderr]
  rfl

lemma size_lt (hidle : c.sock.Idle) (hw : env.writeOk = true) (hscalar : item.Scalar)
    (hset : doUpdate cbor (linkSocket cbor env) key item c = (.status 0, c')) :
    item.size < 2 ^ 16 := by
  obtain ⟨-, hrequest, -⟩ := doUpdate_ok hidle hw hscalar hset
  rw [serializeUpdateRequest, cbor.length_serialize (simple_updatePairs hscalar)] at hrequest
  simp only [mapSize, updatePairs, List.map_cons, List.map_nil, List.sum_cons, List.sum_nil]
    at hrequest
  omega

/-- A value that the server keeps is stored as it was written, and is no NaN and not null. -/
lemma stored_of_kept (hv : argument uenv value type = some v)
    (hitem : valueItem .none v = some item) (hkept : Kept env.heap v) :
    updateValue env.heap 1 item = .ok v ∧ env.sql.kept v = v ∧ v.fetch = v ∧
      item.isNaN = false ∧ item.isNull = false := by
  cases v with
  | string text =>
    have hfree : 0 ∉ text := by
      cases type <;> simp [argument] at hv
      exact hv ▸ value.nulFree
    obtain rfl : item = .string text := by
      simpa [valueItem, cstr_of_not_mem hfree] using hitem.symm
    -- the text is read up to a NUL, which the heap behind it begins with
    have hheap : cstr (env.heap 1) = [] := hkept
    have hvalue : updateValue env.heap 1 (.string text) = .ok (.string text) := by
      simp [updateValue, cstr_append_of_not_mem hfree, hheap]
    exact ⟨hvalue, rfl, rfl, rfl, rfl⟩
  | double d =>
    cases hitem
    obtain ⟨hnan, hzero⟩ : Ieee.isNaN64 d = false ∧ d ≠ Ieee.negZero := hkept
    have hsame : env.sql.kept (.double d) = .double d :=
      kept_of_ne fun h => hzero (PropertyValue.double.inj h)
    exact ⟨rfl, hsame, fetch_double hnan, hnan, rfl⟩
  | uint64 n =>
    cases hitem
    exact ⟨rfl, rfl, rfl, rfl, rfl⟩
  | blob b =>
    cases hitem
    exact ⟨rfl, rfl, rfl, rfl, rfl⟩
  | bool b | null | monostate => exact hkept.elim

lemma reads_of_kept (hr : Store.machine.Reachable c.sock.server.store) (hidle : c.sock.Idle)
    (hw : env.writeOk = true) (hne : key.bytes ≠ []) (hv : argument uenv value type = some v)
    (hitem : valueItem .none v = some item) (hscalar : item.Scalar)
    (hset : doUpdate cbor (linkSocket cbor env) key item c = (.status 0, c'))
    (hkept : Kept env.heap v) (hfit : ReplyFits cbor key v) :
    Reads cbor uenv key type c'.sock.server (shown uenv key v) := by
  obtain ⟨hvalue, hsame, hfetch, hnan, hnull⟩ := stored_of_kept hv hitem hkept
  -- whatever the getter, it is handed the item that was written
  have hback : ∀ {β : Type} {handler : Handler β} {out : Option β},
      handler item = (.ok (), out) → ReadsBack cbor key c'.sock.server
        (fun sock => doQuery cbor sock key handler) ⟨.status 0, out⟩ :=
    fun hhandler => readsBack_of_spared hidle hw hscalar hset fun hid =>
      readsSpared_of_item hr hidle hw hscalar hnan hset hid hvalue hsame (hfetch.symm ▸ hitem)
        ⟨hnan, hnull⟩ id (hfetch.symm ▸ hfit) hhandler
  -- the request fitted into a packet, hence the value into the buffer of the reader
  have hsize : item.size < 2 ^ 16 := size_lt hidle hw hscalar hset
  refine reads_of_run fun c₂ env₂ reported hq hidle₂ hw₂ hseq => ?_
  unfold readKey
  rw [Prog.throwIf_neg hne, pure_bind]
  cases type with
  | null => cases hv
  | integer =>
    obtain ⟨n, -, rfl⟩ := Option.map_eq_some_iff.mp hv
    cases hitem
    have hhandler : intHandler (.uint .int64 n.toUInt64) = (.ok (), some n) := by simp [intHandler]
    have hget := hback hhandler c₂ env₂ hq hidle₂ hw₂ hseq
    exact ⟨_, readScalar_run hget, by simp [put_plain, shown], rfl⟩
  | real =>
    obtain ⟨d, -, rfl⟩ := Option.map_eq_some_iff.mp hv
    cases hitem
    have hhandler : realHandler (.float8 d) = (.ok (), some d) := rfl
    have hget := hback hhandler c₂ env₂ hq hidle₂ hw₂ hseq
    exact ⟨_, readScalar_run hget, rfl, rfl⟩
  | bool =>
    obtain ⟨b, -, rfl⟩ := Option.map_eq_some_iff.mp hv
    -- a bool is never kept
    exact hkept.elim
  | string =>
    obtain rfl : PropertyValue.string value.bytes = v := Option.some.inj hv
    obtain rfl : item = .string value.bytes := by simpa [valueItem] using hitem.symm
    have hlen : value.bytes.length < stringBuffer := by
      simp only [Item.size, stringBuffer] at hsize ⊢
      omega
    have hhandler : stringHandler stringBuffer (.string value.bytes) =
        (.ok (), some ⟨value.bytes.length, value.bytes ++ [0]⟩) := by
      simp [stringHandler, Item.text?, List.take_of_length_le (Nat.le_sub_one_of_lt hlen)]
    have hget := hback hhandler c₂ env₂ hq hidle₂ hw₂ hseq
    exact ⟨_, readString_run value.nulFree hlen hget, rfl, rfl⟩
  | blob =>
    obtain ⟨blob, -, rfl⟩ := Option.map_eq_some_iff.mp hv
    cases hitem
    have hlen : blob.length ≤ blobBuffer := by
      simp only [Item.size, blobBuffer] at hsize ⊢
      omega
    have hhandler : blobHandler blobBuffer (.bytestring blob) =
        (.ok (), some ⟨blob.length, blob⟩) := by
      simp [blobHandler, List.take_of_length_le hlen]
    have hget := hback hhandler c₂ env₂ hq hidle₂ hw₂ hseq
    refine ⟨_, readBlob_run hlen hget, ?_, rfl⟩
    rw [put_plain, dumpBuffer_plain, shown_blob]
    rfl

/-- **What was written can be read**: if a command writes a key and exits with `0`, it has printed
nothing but the value it was given, apart from what `getopt_long` said of the options. As long as no
other update of the key is accepted, a command that reads the key prints the same, if it is a value
that the server keeps. -/
theorem written_is_read {opts : List Opt} {s : Settings} (hs : settings opts = .ok s)
    (hwhat : s.what = .write) (hr : Store.machine.Reachable c.sock.server.store)
    (hidle : c.sock.Idle) (hw : env.writeOk = true) {o : Outcome}
    (hmain : main cbor (linkSocket cbor env) uenv opts (fun _ => .ok c) = (o, some c'))
    (hcode : o.code = some 0) :
    ∃ type v, s.valueType = some type ∧ argument uenv s.writeValue type = some v ∧
      o.stdout = announced s.writeValue v ++ shown uenv s.keyName v ∧ o.stderr = s.reported ∧
      (Kept env.heap v → ReplyFits cbor s.keyName v →
        Reads cbor uenv s.keyName type c'.sock.server (shown uenv s.keyName v)) := by
  obtain ⟨hne, htyped⟩ := settings_ok hs
  obtain ⟨type, htype⟩ := htyped (.inr hwhat)
  obtain ⟨st', hrun⟩ := main_zero hs ((congrArg (fun x => x.1.code) hmain).trans hcode)
  obtain ⟨rfl, hconn⟩ := Prod.mk.inj ((main_of_run hs hrun).symm.trans hmain)
  obtain rfl : st'.conn = c' := Option.some.inj hconn
  simp only [perform, hwhat, htype] at hrun
  obtain ⟨v, item, hv, hitem, hscalar, hset, hstdout, hstderr⟩ := writeKey_ok rfl hrun
  refine ⟨type, v, htype, hv, ?_, hstderr, fun hkept hfit => ?_⟩
  · rw [hstdout]
    rfl
  · exact reads_of_kept hr hidle hw hne hv hitem hscalar hset hkept hfit

/-- Files and real numbers are not needed for integers. -/
def sampleEnv : UtilEnv :=
  ⟨fun _ => .error [], fun _ _ => .error [], fun _ => none, fun _ => [], fun _ => []⟩

def sampleWrite : List Opt :=
  [.key sampleKey, .type ⟨ascii "int", by decide, by decide⟩,
    .write ⟨ascii " -5 ", by decide, by decide⟩]

def unrecognized : Bytes := ascii "confd-util: unrecognized option: verbose\n"

def sampleRead : List Opt :=
  [.refused unrecognized, .key sampleKey, .read, .type ⟨ascii "integer", by decide, by decide⟩]

theorem written_is_read_sample :
    (main codec (linkSocket codec (.ok 0)) sampleEnv sampleWrite fun _ => .ok sampleConn).1 =
        ⟨some 0, ascii "a:integer=-5\n", []⟩ ∧
      (main codec (linkSocket codec (.ok 0)) sampleEnv sampleRead fun _ => .ok sampleInt.2).1 =
        ⟨some 0, ascii "a:integer=-5\n", unrecognized⟩ := by
  have hwritten : (main codec (linkSocket codec (.ok 0)) sampleEnv sampleWrite
      fun _ => .ok sampleConn).1 = ⟨some 0, ascii "a:integer=-5\n", []⟩ := by decide
  have hset : main codec (linkSocket codec (.ok 0)) sampleEnv sampleWrite
      (fun _ => .ok sampleConn) = (⟨some 0, ascii "a:integer=-5\n", []⟩, some sampleInt.2) :=
    Prod.ext hwritten rfl
  have hfit : ReplyFits codec sampleKey (.uint64 (-5 : Int64).toUInt64) := by
    unfold ReplyFits
    decide
  obtain ⟨type, v, htype, hv, -, -, hreads⟩ :=
    written_is_read (show settings sampleWrite = .ok _ from rfl) rfl .init ⟨by decide, rfl⟩ rfl hset
      rfl
  obtain rfl : ValueType.integer = type := Option.some.inj htype
  obtain rfl : PropertyValue.uint64 (-5 : Int64).toUInt64 = v := Option.some.inj hv
  have hread := hreads trivial hfit sampleRead _ sampleInt.2 (.ok 0) rfl rfl rfl rfl .refl
    ⟨by decide, by decide⟩ rfl (by decide)
  exact ⟨hwritten, hread.trans (by decide)⟩

end RoundTrip

end Sativa.Util
