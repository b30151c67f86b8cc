import Sativa.StoreRuns

/-!
Row ids that do not fit in 32 bits.

A key is looked up with its id, which is read into a `uint32_t`. From the key number `2 ^ 32` on, an
update goes to the row with the id modulo `2 ^ 32`. It is still all or nothing, but not on the rows
of the key.
-/

namespace Sativa.Store

open Sativa

/-- The type is one that the code knows. -/
def Db.Typed (db : Db) : Prop :=
  ∀ name r, db.keyRow name = some r → ∃ type : PropertyValueType, r.valueType = type.code

/-- No table has a value for the row, except that of its type. -/
def Db.NoStray (db : Db) (r : KeyRow) : Prop :=
  ∀ t, valueTableName r.valueType ≠ some t → db.valueRow t r.id = none

section SetKey

variable {env : SqlEnv} {db db' : Db} {name n : Bytes} {value : PropertyValue} {r : KeyRow}

/-- A key row after a `setKey` that returned: it was there before, with a type that is the same or
that of the value, or it was created with the value. -/
lemma setKey_keyRow (h : (setKey env name value).run db = (.ok (), db'))
    (hr : db'.keyRow n = some r) :
    (∃ r₀, db.keyRow n = some r₀ ∧ r.id = r₀.id ∧
      (r.valueType = r₀.valueType ∨ r.valueType = (typeForValue value).code)) ∨
    n = cstr name ∧ db.keyRow n = none ∧ db'.HoldsAt r (env.kept value) := by
  -- an INSERT for a new name, an UPDATE by row id for a known one
  rcases setKey_inv h with ⟨hnew, hinsert⟩ | ⟨r₁, -, hupdate, -⟩
  · obtain ⟨-, ⟨r₁, hr₁, -, hat⟩, hother⟩ := insertKey_ok hinsert
    by_cases hn : n = cstr name
    · subst hn
      cases hr₁.symm.trans hr
      exact .inr ⟨rfl, hnew, hat⟩
    · exact .inl ⟨r, (hother n hn).1.symm.trans hr, rfl, .inl rfl⟩
  · have honly := updateKey_only hupdate
    rcases hr₀ : db.keyRow n with _ | r₀
    · rw [honly.absent n hr₀] at hr
      cases hr
    · refine .inl ⟨r₀, rfl, ?_⟩
      -- the id goes through a uint32_t, so that the UPDATE need not reach the row it was read from
      by_cases hid : r₀.id = uint32 r₁.id
      · rw [← hid] at hupdate
        obtain ⟨⟨r', hr', hid', htype⟩, -⟩ := updateKey_row hr₀ hupdate
        cases hr'.symm.trans hr
        refine ⟨hid', ?_⟩
        split_ifs at htype
        · exact .inl htype
        · exact .inr htype
      · rw [honly.rows n r₀ hr₀ hid] at hr
        cases hr
        exact ⟨rfl, .inl rfl⟩

/-- The rows of a key with an id that fits hold the value, unless another table has one too. -/
lemma holds_updateKey_iff (hr : db.keyRow n = some r)
    (hset : typeForValue value = .null ∨ r.valueType = (typeForValue value).code)
    (h : (updateKey env r.id r.valueType value).run db = (.ok (), db')) :
    db'.Holds n (env.kept value) ↔ db.NoStray r := by
  obtain ⟨-, hvalue, hrest⟩ := updateKey_row hr h
  obtain ⟨r', hr', hid, htype⟩ := updateKey_row_own hr h
  constructor
  · rintro ⟨r'', hr'', hat⟩ t ht
    cases hr'.symm.trans hr''
    -- a stray row sits in a table other than that of the old type and of the new one
    have hnew : valueTableName (typeForValue (env.kept value)).code ≠ some t := by
      rcases hset with hnull | hsame
      · rw [typeForValue_kept, hnull]
        exact fun he => by cases he
      · rwa [typeForValue_kept, ← hsame]
    have hnone := hat.noRow t hnew
    rw [typeForValue_kept] at hnew
    rwa [hid, hrest t hnew, if_neg ht] at hnone
  · intro hstray
    refine ⟨r', hr', ?_, fun t ht => ?_, fun t ht => ?_⟩
    · rw [htype, typeForValue_kept]
    · rw [typeForValue_kept] at ht
      rw [hid]
      exact hvalue t ht
    · rw [typeForValue_kept] at ht
      rw [hid, hrest t ht]
      split_ifs with hold
      · rfl
      · exact hstray t hold

lemma holds_only_iff {id : ℕ} (hr : db.keyRow n = some r) (honly : Db.Only id db db')
    (hid : r.id ≠ id) : db'.Holds n value ↔ db.Holds n value := by
  have hr' : db'.keyRow n = some r := honly.rows n r hr hid
  have hvalues : ∀ t, db'.valueRow t r.id = db.valueRow t r.id := fun t => honly.values t r.id hid
  constructor
  · rintro ⟨r₁, hr₁, hat⟩
    cases hr'.symm.trans hr₁
    exact ⟨r, hr, hat.of_valueRow fun t => (hvalues t).symm⟩
  · rintro ⟨r₁, hr₁, hat⟩
    cases hr.symm.trans hr₁
    exact ⟨r, hr', hat.of_valueRow hvalues⟩

/-! ### Every type is known -/

/-- A key row after a step was there before with the same id, maybe with another type, or it is
created by a `setKey`. -/
lemma step_keyRow (e : SqlEnv × Call) (hr : (machine.step db e).2.keyRow n = some r) :
    (∃ r₀, db.keyRow n = some r₀ ∧ r.id = r₀.id ∧
      (r.valueType = r₀.valueType ∨ ∃ type : PropertyValueType, r.valueType = type.code)) ∨
    ∃ env name value, e = (env, .setKey name value) ∧ n = cstr name ∧ db.keyRow n = none ∧
      (machine.step db e).2.HoldsAt r (env.kept value) := by
  -- only setKey changes a key row, and only a deletion of subkeys removes one
  obtain ⟨env, call⟩ := e
  cases call with
  | getKey name =>
    rw [step_getKey] at hr
    exact .inl ⟨r, hr, rfl, .inl rfl⟩
  | deleteKey name =>
    rw [step_deleteKey] at hr
    exact .inl ⟨r, hr, rfl, .inl rfl⟩
  | setKey name value =>
    rw [step_setKey] at hr ⊢
    rcases hs : (setKey env name value).run db with ⟨e | ⟨⟩, d⟩
    · rw [hs, setKey_error hs] at hr
      exact .inl ⟨r, hr, rfl, .inl rfl⟩
    · rw [hs] at hr
      rcases setKey_keyRow hs hr with ⟨r₀, hr₀, hid, htype | htype⟩ | ⟨hn, hnew, hat⟩
      · exact .inl ⟨r₀, hr₀, hid, .inl htype⟩
      · exact .inl ⟨r₀, hr₀, hid, .inr ⟨_, htype⟩⟩
      · exact .inr ⟨env, name, value, rfl, hn, hnew, hat⟩
  | deleteSubkeys name =>
    rcases @step_deleteSubkeys env db name with hs | ⟨k, hs⟩
    · rw [hs] at hr
      exact .inl ⟨r, hr, rfl, .inl rfl⟩
    · rw [Db.keyRow_deleteKeyRows hs, Option.filter_eq_some_iff] at hr
      exact .inl ⟨r, hr.1, rfl, .inl rfl⟩

lemma typed_step (ht : db.Typed) (e : SqlEnv × Call) : (machine.step db e).2.Typed := by
  intro n r hr
  rcases step_keyRow e hr with ⟨r₀, hr₀, -, htype | htype⟩ | ⟨_, _, _, -, -, -, hat⟩
  · obtain ⟨type, h⟩ := ht n r₀ hr₀
    exact ⟨type, htype.trans h⟩
  · exact htype
  · exact ⟨_, hat.type⟩

lemma reachable_typed (h : machine.Reachable db) : db.Typed :=
  h.invariant (fun name r hr => by cases hr) fun _ e _ ht => typed_step ht e

/-- The id that the key has, or is given when it is created. -/
def Db.rowId (db : Db) (name : Bytes) : ℕ := (db.keyRow name).elim (db.seq + 1) KeyRow.id

lemma setKey_reads (h : machine.Reachable db)
    (hset : (setKey env name value).run db = (.ok (), db')) (hid : db.rowId (cstr name) < 2 ^ 32) :
    db'.Reads (cstr name) (env.kept value) := by
  unfold Db.rowId at hid
  rcases setKey_inv hset with ⟨hnew, hinsert⟩ | ⟨r, hr, hupdate, -⟩
  · rw [hnew] at hid
    obtain ⟨-, ⟨r, hr, hrid, hat⟩, -⟩ := insertKey_ok hinsert
    exact ⟨r, hr, hrid.trans_lt hid, hat.type, hat.row⟩
  · rw [hr] at hid
    have hlt : r.id < 2 ^ 32 := hid
    obtain ⟨type, htype⟩ := reachable_typed h _ r hr
    rw [uint32_of_lt hlt, htype, uint32_code, ← htype] at hupdate
    obtain ⟨-, hvalue, -⟩ := updateKey_row hr hupdate
    obtain ⟨r', hr', hrid, hcode⟩ := updateKey_row_own hr hupdate
    refine ⟨r', hr', hrid.trans_lt hlt, by rw [hcode, typeForValue_kept], fun t ht => ?_⟩
    rw [typeForValue_kept] at ht
    rw [hrid]
    exact hvalue t ht

/-- **Atomicity**: a `setKey` that throws leaves everything as it was, wherever it failed. One
that returns made the key hold the value if the key is new, if its id fits in 32 bits and no other
table has a value for it, or if it held the value before; and otherwise not. -/
theorem setKey_atomic {result : Except StoreError Unit} (h : machine.Reachable db)
    (hrun : (setKey env name value).run db = (result, db')) :
    (∀ e, result = .error e → db' = db) ∧
    (result = .ok () → (db'.Holds (cstr name) (env.kept value) ↔
      db.keyRow (cstr name) = none ∨
      (∃ r, db.keyRow (cstr name) = some r ∧ r.id < 2 ^ 32 ∧ db.NoStray r) ∨
      db.Holds (cstr name) (env.kept value))) := by
  constructor
  · rintro e rfl
    exact setKey_error hrun
  · rintro rfl
    rcases setKey_inv hrun with ⟨hnew, hinsert⟩ | ⟨r, hr, hupdate, hset⟩
    · obtain ⟨-, ⟨r, hr, -, hat⟩, -⟩ := insertKey_ok hinsert
      exact iff_of_true ⟨r, hr, hat⟩ (.inl hnew)
    · obtain ⟨type, htype⟩ := reachable_typed h _ r hr
      rw [htype, uint32_code, ← htype] at hupdate hset
      -- below 2^32 the row read is the row written; from there on the update misses it
      by_cases hid : r.id < 2 ^ 32
      · rw [uint32_of_lt hid] at hupdate
        rw [holds_updateKey_iff hr hset hupdate]
        constructor
        · exact fun hstray => .inr (.inl ⟨r, hr, hid, hstray⟩)
        · rintro (hnew | ⟨r', hr', -, hstray⟩ | ⟨r', hr', hat⟩)
          · cases hnew.symm.trans hr
          · cases hr.symm.trans hr'
            exact hstray
          · cases hr.symm.trans hr'
            intro t ht
            exact hat.noRow t (hat.type ▸ ht)
      · have hne : r.id ≠ uint32 r.id := by
          have hlt : uint32 r.id < 2 ^ 32 := Nat.mod_lt _ (Nat.two_pow_pos 32)
          omega
        rw [holds_only_iff hr (updateKey_only hupdate) hne]
        constructor
        · exact fun hholds => .inr (.inr hholds)
        · rintro (hnew | ⟨r', hr', hlt, -⟩ | hholds)
          · cases hnew.symm.trans hr
          · cases hr.symm.trans hr'
            exact absurd hlt hid
          · exact hholds

/-- A key is changed, once with success and once up to a `COMMIT` that fails. -/
theorem setKey_atomic_sample :
    let db := (machine.step .initSchema (.ok 1, .setKey (ascii "a") (.uint64 5))).2
    let stuck : SqlEnv := ⟨2, fun site => if site = .commit then some .error else none, false⟩
    ((setKey (.ok 2) (ascii "a") (.uint64 8)).run db).2.Holds (ascii "a") (.uint64 8) ∧
      ((setKey stuck (ascii "a") (.uint64 8)).run db).2 = db := by
  intro db stuck
  have hdb : machine.Reachable db := .step .init _
  have hr : db.keyRow (cstr (ascii "a")) = some
      ⟨1, ascii "a", PropertyValueType.integer.code, 1, 1⟩ := rfl
  constructor
  · have hrun := @setKey_atomic (.ok 2) db _ (ascii "a") (.uint64 8) _ hdb rfl
    refine (hrun.2 rfl).mpr (.inr (.inl ⟨_, hr, by decide, fun t ht => ?_⟩))
    cases t <;> first | rfl | exact absurd rfl ht
  · exact (@setKey_atomic stuck db _ (ascii "a") (.uint64 8) _ hdb rfl).1 .sqlite rfl

end SetKey

/-! ### A store that has handed out many ids -/

/-- The row of the first key. -/
def firstRow : KeyRow := ⟨1, ascii "a", PropertyValueType.integer.code, 1, 1⟩

/-- The only key is `a`, which holds the number 5, and `n` ids were handed out. -/
structure Aged (n : ℕ) (db : Db) : Prop where
  reachable : machine.Reachable db
  seq : db.seq = n
  rows : db.keys.rows = [firstRow]
  value : db.valueRow .propertyValuesInteger 1 = some ⟨1, 5⟩

section Aged

variable {db : Db} {n : ℕ}

lemma aged_one : ∃ db, Aged 1 db :=
  ⟨_, ⟨.step .init (.ok 1, .setKey (ascii "a") (.uint64 5)), rfl, rfl, rfl⟩⟩

lemma Aged.keyRow_none (h : Aged n db) {name : Bytes} (hname : name ≠ ascii "a") :
    db.keyRow name = none := by
  refine Table.find?_eq_none.mpr fun r hr => ?_
  rw [h.rows, List.mem_singleton] at hr
  rw [hr]
  exact Ne.symm hname

lemma Aged.next (h : Aged n db) (hn : n < 2 ^ 62) : ∃ db', Aged (n + 1) db' := by
  have hseq : db.seq < 2 ^ 63 - 1 := by rw [h.seq]; omega
  have hnew : db.keyRow (cstr (ascii "p.x")) = none := h.keyRow_none (by decide)
  obtain ⟨d, hins⟩ := @Db.insertKeyRow_of_none _ 2 _ PropertyValueType.null.code hnew hseq
  obtain ⟨-, -, hdseq, hdvalues, hdrows⟩ := Db.insertKeyRow_some hins
  have hset : (machine.step db (.ok 2, .setKey (ascii "p.x") .null)).2 = d := by
    rw [step_setKey, setKey_run, hnew]
    exact congrArg Prod.snd (insertKey_null (by decide) hins)
  obtain ⟨⟨d', k⟩, hdel⟩ : ∃ x, d.deleteKeyRows (fun r =>
    Like.like (subkeyPattern (ascii "p")) r.key) = some x := ⟨_, rfl⟩
  have hdelete : (machine.step d (.ok 3, .deleteSubkeys (ascii "p"))).2 = d' := by
    rw [step_deleteSubkeys_run]
    exact congrArg Prod.snd (deleteSubkeys_of_some 3 hdel)
  have hfirst : firstRow ∈ d.keys.rows := by rw [hdrows, h.rows]; simp
  refine ⟨d', ?_, ?_, ?_, ?_⟩
  · have hstep := (h.reachable.step (.ok 2, .setKey (ascii "p.x") .null)).step
      (.ok 3, .deleteSubkeys (ascii "p"))
    rwa [hset, hdelete] at hstep
  · rw [Db.seq_deleteKeyRows hdel, hdseq, h.seq]
  · rw [(Db.rows_deleteKeyRows hdel).1, hdrows, h.rows]
    rfl
  · rw [← h.value]
    exact (Db.valueRow_deleteKeyRows hdel hfirst (by decide) _).trans
      (Db.valueRow_insertKeyRow hins _ _)

lemma exists_aged (hn : n < 2 ^ 62) : ∃ db, Aged (n + 1) db := by
  induction n with
  | zero => exact aged_one
  | succ n ih =>
    obtain ⟨db, h⟩ := ih (by omega)
    exact h.next hn

/-- After `2 ^ 32` keys, the key `b` is created with the number 7. Its id is that of `a` modulo
`2 ^ 32`. -/
lemma exists_second : ∃ db r, machine.Reachable db ∧ db.keyRow (cstr (ascii "b")) = some r ∧
    r.id = 2 ^ 32 + 1 ∧ db.HoldsAt r (.uint64 7) ∧ firstRow ∈ db.keys.rows := by
  obtain ⟨db, haged⟩ : ∃ db, Aged (2 ^ 32) db := exists_aged (n := 2 ^ 32 - 1) (by omega)
  have hseq : db.seq < 2 ^ 63 - 1 := by rw [haged.seq]; omega
  have hnew : db.keyRow (cstr (ascii "b")) = none := haged.keyRow_none (by decide)
  obtain ⟨d, hinsert⟩ := @insertKey_of_bind _ (ascii "b") (.uint64 7) false _ _ 4 (by decide) hseq
    hnew
    rfl rfl (Db.rowFits_of_le (by decide))
  have hset : (setKey (.ok 4) (ascii "b") (.uint64 7)).run db = (.ok (), d) := by
    rw [setKey_run, hnew]
    exact hinsert
  obtain ⟨-, ⟨r, hr, hid, hat⟩, hother⟩ := insertKey_ok hinsert
  rw [haged.seq] at hid
  have hfirst : db.keyRow (ascii "a") = some firstRow :=
    Table.find?_eq_some.mpr ⟨by rw [haged.rows]; simp, rfl⟩
  have hkept : firstRow ∈ d.keys.rows :=
    (Db.keyRow_mem ((hother (ascii "a") (by decide)).1.trans hfirst)).1
  exact ⟨d, r, reachable_setKey haged.reachable hset, hr, hid, hat, hkept⟩

/-- Setting `b` to 8 returns, but sets `a` instead. -/
theorem setKey_lost : ¬ ∀ (env : SqlEnv) (db db' : Db) (name : Bytes) (value : PropertyValue),
    machine.Reachable db → (setKey env name value).run db = (.ok (), db') →
    db'.Holds (cstr name) value := by
  intro h
  obtain ⟨db, r, hreach, hr, hid, hat, hfirst⟩ := exists_second
  obtain ⟨db', hupdate⟩ := @updateKey_of_bind db (.uint64 8) false _ _ 1 5
    ⟨firstRow, hfirst, rfl⟩ rfl rfl (Db.rowFits_of_le (by decide))
  have hset : (setKey (.ok 5) (ascii "b") (.uint64 8)).run db = (.ok (), db') := by
    rw [setKey_run, hr]
    simp only [hid, hat.type, uint32_code]
    exact hupdate
  have hholds := h _ _ _ _ _ hreach hset
  rw [holds_only_iff hr (updateKey_only hupdate) (by omega)] at hholds
  obtain ⟨r', hr', hat'⟩ := hholds
  cases hr.symm.trans hr'
  exact absurd (hat.fetch_eq hat') (by decide)

end Aged

end Sativa.Store
