import Sativa.RoundTrip

/-!
Round trip of a real.

All doubles but the NaNs and `-0.0` come back bit for bit. SQLite has no NaN: it stores null, which
is read as `0.0`, and nothing tells the caller so. Nor does it keep the sign of a zero. This does
not depend on the number of keys, as long as the row of the key is not taken for that of another.
-/

namespace Sativa.Confd

open Sativa Sativa.Rpc Sativa.Cbor Sativa.RpcServer Sativa.Store

/-- As long as no other update of the key is accepted, and none of a key that clashes with it, the
getter returns `0` with `d`, or with some NaN if `d` is one. -/
def ReadsReal (cbor : Libcbor) (key : CString) (s : Server) (d : Double) : Prop :=
  ∀ (c : Endpoint Link) (env : CallbackEnv), Spared cbor key.bytes s c.sock.server →
    c.sock.Idle → env.writeOk = true →
    ∃ d', (confdGetReal cbor (linkSocket cbor env) key c).1 = ⟨.status 0, some d'⟩ ∧
      (d' = d ∨ Ieee.isNaN64 d = true ∧ Ieee.isNaN64 d' = true)

section RealValues

variable {cbor : Libcbor} {env : CallbackEnv} {c c' : Endpoint Link} {key : CString} {d : Double}

/-- What the server made of a real that was set: the same, or some NaN. The request for it is
shorter than the update was. -/
lemma setReal_ok (hidle : c.sock.Idle) (hw : env.writeOk = true)
    (hset : confdSetReal cbor (linkSocket cbor env) key d c = (.status 0, c')) :
    (key.bytes ≠ [] ∧ headerSize + (serializeKeyRequest cbor key).length < 2 ^ 16) ∧
    Utf8.Valid key.bytes ∧ ∃ d', (d' = d ∨ Ieee.isNaN64 d = true ∧ Ieee.isNaN64 d' = true) ∧
      (setKey env.sql key.bytes (.double d')).run c.sock.server.store =
        (.ok (), c'.sock.server.store) ∧ c'.sock.Idle := by
  have hitem : (Item.float8 d).Scalar := trivial
  obtain ⟨hne, hrequest, ⟨h8, -⟩, item', value, hsame, hvalue, hsql, hidle', -⟩ :=
    doUpdate_ok hidle hw hitem hset
  have hle := @length_keyRequest_le cbor key (.float8 d) hitem
  refine ⟨⟨hne, by omega⟩, h8, ?_⟩
  cases hsame with
  | refl =>
    cases hvalue
    exact ⟨d, .inl rfl, hsql, hidle'⟩
  | nan8 ha hb =>
    cases hvalue
    exact ⟨_, .inr ⟨ha, hb⟩, hsql, hidle'⟩

lemma fetch_double (h : Ieee.isNaN64 d = false) : (PropertyValue.double d).fetch = .double d := by
  simp [PropertyValue.fetch, h]

lemma handleReply_real {db : Db} (h8 : Utf8.Valid key.bytes)
    (hget : getKey db key.bytes = .ok (.double d)) (hnan : Ieee.isNaN64 d = false) :
    handleReply cbor realHandler (queryReply cbor key (.double d)) = ⟨.status 0, some d⟩ := by
  have hstored : valueItem .none (.double d) = some (.float8 d) := rfl
  obtain ⟨item', root, hsame, hload, hextract⟩ :=
    @load_reply_value cbor key _ _ h8 hstored (valueItem_of_getKey hget hstored).1 trivial
  obtain rfl : Item.float8 d = item' := hsame.eq hnan
  exact handleReply_ok hload hextract rfl

/-- What is read of a stored double. -/
def storedReal (sql : SqlEnv) (d : Double) : Double :=
  if Ieee.isNaN64 d = true ∨ d = Ieee.negZero ∧ sql.signedZero = false then 0 else d

lemma fetch_kept (sql : SqlEnv) (d : Double) :
    (sql.kept (.double d)).fetch = .double (storedReal sql d) := by
  unfold storedReal SqlEnv.kept PropertyValue.fetch
  by_cases hzero : d = Ieee.negZero ∧ sql.signedZero = false
  · simp [hzero]
  · by_cases hnan : Ieee.isNaN64 d = true <;> simp [hzero, hnan]

lemma isNaN_storedReal (sql : SqlEnv) (d : Double) : Ieee.isNaN64 (storedReal sql d) = false := by
  unfold storedReal
  split_ifs with h
  · decide
  · exact Bool.eq_false_of_not_eq_true fun hnan => h (.inl hnan)

lemma storedReal_eq_iff {sql : SqlEnv} : storedReal sql d = d ↔
    Ieee.isNaN64 d = false ∧ (d = Ieee.negZero → sql.signedZero = true) := by
  constructor
  · intro h
    refine ⟨h ▸ isNaN_storedReal sql d, fun hzero => ?_⟩
    by_contra hsign
    rw [Bool.not_eq_true] at hsign
    rw [storedReal, if_pos (.inr ⟨hzero, hsign⟩), hzero] at h
    cases h
  · rintro ⟨hnan, hzero⟩
    refine if_neg ?_
    rintro (h | ⟨hd, hsign⟩)
    · cases h.symm.trans hnan
    · cases (hzero hd).symm.trans hsign

/-- **Reals** come back exactly if they are no NaN and their reply fits in a packet, and `-0.0` if
SQLite keeps the sign of a zero. -/
theorem real_reads_back_iff (hr : Store.machine.Reachable c.sock.server.store)
    (hidle : c.sock.Idle) (hw : env.writeOk = true)
    (hid : c.sock.server.store.rowId key.bytes < 2 ^ 32)
    (hset : confdSetReal cbor (linkSocket cbor env) key d c = (.status 0, c')) :
    ReadsReal cbor key c'.sock.server d ↔
      (Ieee.isNaN64 d = false ∧ (d = Ieee.negZero → env.sql.signedZero = true)) ∧
        ReplyFits cbor key (.double d) := by
  have hitem : (Item.float8 d).Scalar := trivial
  obtain ⟨⟨hne, hrequest⟩, h8, d₁, hd₁, hsql, hidle'⟩ := setReal_ok hidle hw hset
  have hfound : ∀ {s : Server}, Spared cbor key.bytes c'.sock.server s →
      getKey s.store key.bytes = .ok (.double (storedReal env.sql d₁)) := fun hs =>
    (getKey_of_spared hr hsql hid hs).trans (congrArg _ (fetch_kept _ _))
  -- only a NaN may become another one on the way
  have hsent : Ieee.isNaN64 d = false → d₁ = d := by
    intro hnan
    rcases hd₁ with rfl | ⟨h₁, -⟩
    · rfl
    · cases hnan.symm.trans h₁
  constructor
  · intro h
    obtain ⟨d₂, hx, hd₂⟩ := h c' (.ok 0) .refl hidle' rfl
    have hnow := hfound (.refl : Spared cbor _ _ c'.sock.server)
    have hok : (CallbackEnv.ok 0).writeOk = true := rfl
    -- the getter returned `0`, so it got the reply for what is stored
    rcases doQuery_after realHandler hidle hw hitem hset rfl hidle' hok with
      ⟨code, -, hx'⟩ | ⟨value, hget, hfit, hx'⟩
    · cases congrArg Result.out (hx'.symm.trans hx)
    cases hnow.symm.trans hget
    rw [handleReply_real h8 hnow (isNaN_storedReal _ _)] at hx'
    obtain rfl : storedReal env.sql d₁ = d₂ := Option.some.inj (congrArg Result.out
      (hx'.symm.trans hx))
    rcases hd₂ with heq | ⟨-, hnan⟩
    · have hnan : Ieee.isNaN64 d = false := heq ▸ isNaN_storedReal _ _
      obtain rfl := hsent hnan
      rw [heq] at hfit
      exact ⟨storedReal_eq_iff.mp heq, hfit⟩
    · cases (isNaN_storedReal _ _).symm.trans hnan
  · rintro ⟨hkept, hfit⟩ c₂ env₂ hs hidle₂ hw₂
    obtain rfl := hsent hkept.1
    have hget := hfound hs
    rw [storedReal_eq_iff.mpr hkept] at hget
    have hquery := @doQuery_fits _ cbor env₂ c₂ key _ realHandler hidle₂ hw₂ hne h8 hrequest hget
      hfit
    exact ⟨d₁, hquery.trans (handleReply_real h8 hget hkept.1), .inl rfl⟩

abbrev sampleReal (d : Double) : Exit × Endpoint Link :=
  confdSetReal codec (linkSocket codec (.ok 0)) sampleKey d sampleConn

/-- The double `-1.5`. -/
abbrev negOneHalf : Double := 0xbff8000000000000

theorem real_reads_back_iff_sample :
    ∃ d', (confdGetReal codec (linkSocket codec (.ok 0)) sampleKey (sampleReal negOneHalf).2).1 =
      ⟨.status 0, some d'⟩ ∧
        (d' = negOneHalf ∨ Ieee.isNaN64 negOneHalf = true ∧ Ieee.isNaN64 d' = true) := by
  have hset : sampleReal negOneHalf = (.status 0, (sampleReal negOneHalf).2) :=
    Prod.ext (by decide) rfl
  have hfit : ReplyFits codec sampleKey (.double negOneHalf) := by
    unfold ReplyFits
    decide
  have hzero : negOneHalf = Ieee.negZero → (CallbackEnv.ok 0).sql.signedZero = true := by decide
  exact (real_reads_back_iff .init ⟨by decide, rfl⟩ rfl (by decide) hset).mpr
    ⟨⟨by decide, hzero⟩, hfit⟩ _ (.ok 0) .refl ⟨by decide, by decide⟩ rfl

/-- A quiet NaN. -/
abbrev quietNaN : Double := 0x7ff8000000000000

/-- A NaN comes back as `0.0`. -/
theorem nan_lost : ¬ ∀ (key : CString) (d : Double) (env : CallbackEnv) (c c' : Endpoint Link),
    Store.machine.Reachable c.sock.server.store → c.sock.Idle → env.writeOk = true →
    c.sock.server.store.rowId key.bytes < 2 ^ 32 →
    confdSetReal codec (linkSocket codec env) key d c = (.status 0, c') →
    ReplyFits codec key (.double d) → ReadsReal codec key c'.sock.server d := by
  intro h
  have hfit : ReplyFits codec sampleKey (.double quietNaN) := by
    unfold ReplyFits
    decide
  obtain ⟨d', hx, hd'⟩ := h sampleKey quietNaN (.ok 0) sampleConn (sampleReal quietNaN).2 .init
    ⟨by decide, rfl⟩ rfl (by decide) (Prod.ext (by decide) rfl) hfit (sampleReal quietNaN).2 (.ok 0)
    .refl ⟨by decide, by decide⟩ rfl
  have hzero : (confdGetReal codec (linkSocket codec (.ok 0)) sampleKey
    (sampleReal quietNaN).2).1.out = some 0 := by decide
  rw [hx] at hzero
  obtain rfl : d' = 0 := Option.some.inj hzero
  exact absurd hd' (by decide)

end RealValues

end Sativa.Confd
