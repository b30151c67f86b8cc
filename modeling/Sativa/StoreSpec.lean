import Sativa.DataStore

/-!
What the operations of `DataStore` do to the tables, one lemma for each.

`Db.HoldsAt` says that a key row and the value tables together hold a value. The operations
are specified by it: after `setKey` returns, the key holds the value, and what the tables
say of any other key is as before.
-/

namespace Sativa.Store

namespace PropertyValue

/-- What `getKey` returns for a key that holds the value; a NaN is stored as `NULL`. -/
def fetch : PropertyValue → PropertyValue
  | double d => double (if Ieee.isNaN64 d then 0 else d)
  | v => v.readBack

lemma fetch_of_isNaN_false {v : PropertyValue} (h : v.isNaN = false) : v.fetch = v.readBack := by
  cases v with
  | double d =>
    have hd : Ieee.isNaN64 d = false := h
    simp [fetch, readBack, hd]
  | _ => rfl

end PropertyValue

@[simp] lemma typeForValue_kept (env : SqlEnv) (v : PropertyValue) :
    typeForValue (env.kept v) = typeForValue v := by cases v <;> rfl

lemma kept_of_ne {env : SqlEnv} {v : PropertyValue} (h : v ≠ .double Ieee.negZero) :
    env.kept v = v := by
  cases v with
  | double d =>
    have hd : d ≠ Ieee.negZero := fun hd => h (congrArg _ hd)
    simp [SqlEnv.kept, hd]
  | _ => rfl

lemma isNaN_kept (env : SqlEnv) (v : PropertyValue) : (env.kept v).isNaN = v.isNaN := by
  by_cases h : v = .double Ieee.negZero
  · subst h
    cases hsign : env.signedZero with
    | true => simp [SqlEnv.kept, hsign]
    | false =>
      simp only [SqlEnv.kept, hsign, and_self, if_true]
      decide
  · rw [kept_of_ne h]

lemma exists_valueTableName {type : PropertyValueType} (h : type ≠ .null) :
    ∃ t, valueTableName type.code = some t := by
  cases type with
  | null => exact absurd rfl h
  | string => exact ⟨.propertyValuesString, rfl⟩
  | blob => exact ⟨.propertyValuesBlob, rfl⟩
  | integer => exact ⟨.propertyValuesInteger, rfl⟩
  | real => exact ⟨.propertyValuesReal, rfl⟩

lemma code_inj {a b : PropertyValueType} (h : a.code = b.code) : a = b := by
  cases a <;> cases b <;> first | rfl | simp [PropertyValueType.code] at h

lemma uint32_code (type : PropertyValueType) : uint32 type.code = type.code := by
  cases type <;> rfl

lemma typeForValue_null {v : PropertyValue} (h : v.isNull = true) : typeForValue v = .null := by
  cases v <;> first | rfl | simp [PropertyValue.isNull] at h

/-- Reading a column undoes binding it. -/
lemma readColumn_bindValue {t : ValueTable} {v : PropertyValue} {column : t.Column}
    (h : bindValue t v = .ok column) : readColumn t column = v.fetch := by
  have hbytes : ∀ {b : Bytes} {c : SqlBytes}, sqlBytes b = .ok c → c.val = b := by
    intro b c hc
    unfold sqlBytes at hc
    -- the cases of bindValue: the column of the table, and the value it is made from
    split at hc
    · cases hc; rfl
    · cases hc
  unfold bindValue at h
  split at h
  · next s => exact congrArg PropertyValue.string (hbytes h)
  · next b =>
    split at h
    · next hb => cases h; rw [hb]; rfl
    · rcases hs : sqlBytes b with e | c
      · rw [hs] at h; cases h
      · rw [hs] at h
        cases h
        exact congrArg PropertyValue.blob (hbytes hs)
  · next n =>
    cases h
    exact congrArg PropertyValue.uint64 (UInt64.toUInt64_toInt64 n)
  · next d =>
    cases h
    -- a NaN is bound as NULL, which is read as 0.0
    by_cases hd : Ieee.isNaN64 d = true <;> simp [readColumn, PropertyValue.fetch, hd]
  · next b => cases h; cases b <;> rfl
  · cases h

namespace Db

variable {db db' : Db}

/-- The row `r` is that of a key which holds `value`: it has the type of the value, and of the
value tables only that of the type has a row for it, with the value bound. -/
structure HoldsAt (db : Db) (r : KeyRow) (value : PropertyValue) : Prop where
  type : r.valueType = (typeForValue value).code
  row : ∀ t, valueTableName (typeForValue value).code = some t →
    ∃ column, bindValue t value = .ok column ∧ db.valueRow t r.id = some ⟨r.id, column⟩
  noRow : ∀ t, valueTableName (typeForValue value).code ≠ some t → db.valueRow t r.id = none

/-- The key `name` is in the store and holds `value`. -/
def Holds (db : Db) (name : Bytes) (value : PropertyValue) : Prop :=
  ∃ r, db.keyRow name = some r ∧ db.HoldsAt r value

/-- The row of the key, whose id has 32 bits, has the type of the value, and the table of the type
has the value for it. -/
def Reads (db : Db) (name : Bytes) (value : PropertyValue) : Prop :=
  ∃ r, db.keyRow name = some r ∧ r.id < 2 ^ 32 ∧ r.valueType = (typeForValue value).code ∧
    ∀ t, valueTableName (typeForValue value).code = some t →
      ∃ column, bindValue t value = .ok column ∧ db.valueRow t r.id = some ⟨r.id, column⟩

/-- Every key holds a value. The constraints of the tables do not say this. -/
def Coherent (db : Db) : Prop := ∀ r ∈ db.keys.rows, ∃ value, db.HoldsAt r value

/-- The tables of `db` and `db'` say the same of the key `name`. -/
def SameKey (name : Bytes) (db db' : Db) : Prop :=
  db'.keyRow name = db.keyRow name ∧
    ∀ r, db.keyRow name = some r → ∀ t, db'.valueRow t r.id = db.valueRow t r.id

lemma SameKey.refl (name : Bytes) (db : Db) : SameKey name db db := ⟨rfl, fun _ _ _ => rfl⟩

lemma SameKey.trans {name : Bytes} {db₁ db₂ db₃ : Db} (h : SameKey name db₁ db₂)
    (h' : SameKey name db₂ db₃) : SameKey name db₁ db₃ :=
  ⟨h'.1.trans h.1, fun r hr t => (h'.2 r (h.1 ▸ hr) t).trans (h.2 r hr t)⟩

lemma HoldsAt.of_valueRow {r : KeyRow} {value : PropertyValue} (h : db.HoldsAt r value)
    (hv : ∀ t, db'.valueRow t r.id = db.valueRow t r.id) : db'.HoldsAt r value where
  type := h.type
  row t ht := by rw [hv]; exact h.row t ht
  noRow t ht := by rw [hv]; exact h.noRow t ht

lemma SameKey.holds {name : Bytes} {value : PropertyValue} (h : SameKey name db db')
    (hh : db.Holds name value) : db'.Holds name value := by
  obtain ⟨r, hr, hv⟩ := hh
  exact ⟨r, h.1.trans hr, hv.of_valueRow (h.2 r hr)⟩

lemma SameKey.reads {name : Bytes} {value : PropertyValue} (h : SameKey name db db')
    (hh : db.Reads name value) : db'.Reads name value := by
  obtain ⟨r, hr, hlt, htype, hrow⟩ := hh
  refine ⟨r, h.1.trans hr, hlt, htype, fun t ht => ?_⟩
  rw [h.2 r hr]
  exact hrow t ht

lemma Coherent.holds {name : Bytes} {r : KeyRow} (h : db.Coherent) (hr : db.keyRow name = some r) :
    ∃ value, db.HoldsAt r value := h r (keyRow_mem hr).1

lemma coherent_of_names (h : ∀ name r, db.keyRow name = some r → ∃ value, db.Holds name value) :
    db.Coherent := by
  intro r hr
  have hf : db.keyRow r.key = some r := Table.find?_of_mem hr
  obtain ⟨value, r', hr', hv⟩ := h _ _ hf
  cases hf.symm.trans hr'
  exact ⟨value, hv⟩

lemma id_le_seq {name : Bytes} {r : KeyRow} (h : db.keyRow name = some r) : r.id ≤ db.seq :=
  db.ids_le r (keyRow_mem h).1

lemma valueRow_eq_none {t : ValueTable} {id : ℕ} (h : db.seq < id) : db.valueRow t id = none := by
  rw [valueRow, Table.find?_eq_none]
  rintro v hv rfl
  obtain ⟨r, hr, hrv⟩ := db.refers t v hv
  have := db.ids_le r hr
  omega

lemma id_ne {name name' : Bytes} {r r' : KeyRow} (h : db.keyRow name = some r)
    (h' : db.keyRow name' = some r') (hn : name' ≠ name) : r'.id ≠ r.id := by
  intro hid
  have hr := db.eq_of_id (keyRow_mem h').1 (keyRow_mem h).1 hid
  exact hn ((keyRow_mem h').2.symm.trans (hr ▸ (keyRow_mem h).2))

/-- `db'` differs from `db` at most in what belongs to the id `id`. -/
structure Only (id : ℕ) (db db' : Db) : Prop where
  seq : db'.seq = db.seq
  rows : ∀ name r, db.keyRow name = some r → r.id ≠ id → db'.keyRow name = some r
  absent : ∀ name, db.keyRow name = none → db'.keyRow name = none
  values : ∀ t, ∀ i ≠ id, db'.valueRow t i = db.valueRow t i

section Only

variable {id : ℕ}

lemma Only.refl (id : ℕ) (db : Db) : Only id db db :=
  ⟨rfl, fun _ _ h _ => h, fun _ h => h, fun _ _ _ => rfl⟩

lemma Only.trans {db₁ db₂ db₃ : Db} (h : Only id db₁ db₂) (h' : Only id db₂ db₃) :
    Only id db₁ db₃ where
  seq := h'.seq.trans h.seq
  rows name r hr hid := h'.rows name r (h.rows name r hr hid) hid
  absent name hn := h'.absent name (h.absent name hn)
  values t i hi := (h'.values t i hi).trans (h.values t i hi)

lemma only_modifyKey {f : KeyRow → KeyRow} {hk hi} : Only id db (db.modifyKey id f hk hi) where
  seq := rfl
  rows name r hr hid := by rw [keyRow_modifyKey, hr]; simp [hid]
  absent name hn := by rw [keyRow_modifyKey, hn]; rfl
  values _ _ _ := rfl

lemma keyRow_modifyKey_self {f : KeyRow → KeyRow} {hk hi} {name : Bytes} {r : KeyRow}
    (hr : db.keyRow name = some r) : (db.modifyKey r.id f hk hi).keyRow name = some (f r) := by
  rw [keyRow_modifyKey, hr]
  simp

lemma only_deleteValueRows {t : ValueTable} {n : ℕ}
    (h : db.deleteValueRows t id = some (db', n)) : Only id db db' := by
  obtain ⟨hkeys, hseq⟩ := keys_deleteValueRows h
  have hk : ∀ name, db'.keyRow name = db.keyRow name := fun name => by rw [keyRow, hkeys, keyRow]
  refine ⟨hseq, fun name r hr _ => (hk name).trans hr, fun name hn => (hk name).trans hn, ?_⟩
  intro t' i hi
  by_cases ht : t' = t
  · subst ht
    rw [valueRow_deleteValueRows h, if_neg hi]
  · exact valueRow_deleteValueRows_of_ne ht h i

lemma PutValue.keyRow {t : ValueTable} {column : t.Column} (h : PutValue db t id column db')
    (name : Bytes) : db'.keyRow name = db.keyRow name := by rw [Db.keyRow, h.keys, Db.keyRow]

lemma PutValue.only {t : ValueTable} {column : t.Column} (h : PutValue db t id column db') :
    Only id db db' := by
  refine ⟨h.seq, fun name r hr _ => (h.keyRow name).trans hr,
    fun name hn => (h.keyRow name).trans hn, ?_⟩
  intro t' i hi
  by_cases ht : t' = t
  · subst ht
    exact h.elsewhere i hi
  · exact h.tables t' ht i

/-- The row with the id `id` gets the type `new` for `old`, and its value in the table of the old
type is deleted. If the types are the same, nothing is done. -/
inductive Retyped (id old new : ℕ) (db : Db) : Db → Prop
  | same (h : old = new) : Retyped id old new db db
  | changed {t : ValueTable} {d db' : Db} {n n' : ℕ} (hne : old ≠ new)
      (ht : valueTableName old = some t) (hu : db.updateValueType id new = some (d, n))
      (hd : d.deleteValueRows t id = some (db', n')) : Retyped id old new db db'

lemma Retyped.only {old new : ℕ} (h : Retyped id old new db db') : Only id db db' := by
  cases h with
  | same => exact .refl _ _
  | changed hne ht hu hd =>
    cases hu
    exact only_modifyKey.trans (only_deleteValueRows hd)

lemma Retyped.keyRow {old new : ℕ} {name : Bytes} {r : KeyRow} (h : Retyped r.id old new db db')
    (hr : db.keyRow name = some r) : ∃ r', db'.keyRow name = some r' ∧ r'.id = r.id ∧
      r'.valueType = if old = new then r.valueType else new := by
  cases h with
  | same hsame => exact ⟨r, hr, rfl, by rw [if_pos hsame]⟩
  | changed hne ht hu hd =>
    cases hu
    refine ⟨{ r with valueType := new }, ?_, rfl, by rw [if_neg hne]⟩
    rw [Db.keyRow, (keys_deleteValueRows hd).1]
    exact keyRow_modifyKey_self hr

lemma Retyped.valueRow {old new : ℕ} {t : ValueTable} (h : Retyped id old new db db')
    (ht : valueTableName new ≠ some t) : db'.valueRow t id =
      if valueTableName old = some t then none else db.valueRow t id := by
  cases h with
  | same hsame => rw [hsame, if_neg ht]
  | @changed t' _ _ _ _ hne hold hu hd =>
    cases hu
    by_cases htt : t = t'
    · subst htt
      rw [valueRow_deleteValueRows hd, if_pos rfl, if_pos hold]
    · rw [valueRow_deleteValueRows_of_ne htt hd, valueRow_modifyKey, hold,
        if_neg fun he => htt (Option.some.inj he).symm]

lemma Only.sameKey_of_ne {name : Bytes} (h : Only id db db')
    (hid : ∀ r, db.keyRow name = some r → r.id ≠ id) : SameKey name db db' := by
  rcases hr : db.keyRow name with _ | r
  · exact ⟨(h.absent name hr).trans hr.symm, by simp [hr]⟩
  · refine ⟨(h.rows name r hr (hid r hr)).trans hr.symm, fun x hx t => ?_⟩
    cases hr.symm.trans hx
    exact h.values t r.id (hid r hr)

lemma Only.sameKey {r : KeyRow} {name name' : Bytes} (h : Only r.id db db')
    (hr : db.keyRow name = some r) (hn : name' ≠ name) : SameKey name' db db' :=
  h.sameKey_of_ne fun _ hr' => id_ne hr hr' hn

end Only

end Db

/-! ### Lookup -/

section Lookup

variable {db db' : Db} {name : Bytes}

lemma Db.HoldsAt.fetch_eq {r : KeyRow} {v v' : PropertyValue} (h : db.HoldsAt r v)
    (h' : db.HoldsAt r v') : v.fetch = v'.fetch := by
  have htype : typeForValue v = typeForValue v' := code_inj (h.type.symm.trans h'.type)
  by_cases hnull : typeForValue v = .null
  · have hfetch : ∀ w : PropertyValue, typeForValue w = .null → w.fetch = .null := by
      intro w hw
      cases w <;> first | rfl | cases hw
    rw [hfetch v hnull, hfetch v' (htype ▸ hnull)]
  · obtain ⟨t, ht⟩ := exists_valueTableName hnull
    obtain ⟨column, hbind, hrow⟩ := h.row t ht
    obtain ⟨column', hbind', hrow'⟩ := h'.row t (htype ▸ ht)
    cases hrow.symm.trans hrow'
    rw [← readColumn_bindValue hbind, readColumn_bindValue hbind']

lemma getKey_of_none (h : db.keyRow (cstr name) = none) : getKey db name = .ok .monostate := by
  simp [getKey, h]

lemma getKey_of_reads {value : PropertyValue} (h : db.Reads (cstr name) value) :
    getKey db name = .ok value.fetch := by
  obtain ⟨r, hr, hlt, hcode, hrow⟩ := h
  have hid : uint32 r.id = r.id := uint32_of_lt hlt
  have htype : uint32 r.valueType = (typeForValue value).code := by rw [hcode, uint32_code]
  unfold getKey
  simp only [hr, hid, htype]
  by_cases hn : typeForValue value = .null
  · rw [if_pos (congrArg _ hn)]
    cases value <;> first | rfl | cases hn
  · rw [if_neg fun hc => hn (code_inj hc)]
    obtain ⟨t, ht⟩ := exists_valueTableName hn
    obtain ⟨column, hc, hrow⟩ := hrow t ht
    simp only [ht, hrow]
    exact congrArg Except.ok (readColumn_bindValue hc)

lemma getKey_of_holds {value : PropertyValue} (hseq : db.seq < 2 ^ 32)
    (h : db.Holds (cstr name) value) : getKey db name = .ok value.fetch := by
  obtain ⟨r, hr, hv⟩ := h
  exact getKey_of_reads ⟨r, hr, (Db.id_le_seq hr).trans_lt hseq, hv.type, hv.row⟩

lemma getKey_ok {value : PropertyValue} (h : getKey db name = .ok value) :
    db.keyRow (cstr name) = none ∧ value = .monostate ∨
    ∃ r, db.keyRow (cstr name) = some r ∧
      (uint32 r.valueType = PropertyValueType.null.code ∧ value = .null ∨
        ∃ t column, valueTableName (uint32 r.valueType) = some t ∧
          value = readColumn t column) := by
  unfold getKey at h
  rcases hr : db.keyRow (cstr name) with _ | r
  · simp only [hr] at h
    cases h
    exact .inl ⟨rfl, rfl⟩
  · simp only [hr] at h
    refine .inr ⟨r, rfl, ?_⟩
    -- a null key has no value row and is answered from its type alone
    by_cases hn : uint32 r.valueType = PropertyValueType.null.code
    · rw [if_pos hn] at h
      cases h
      exact .inl ⟨hn, rfl⟩
    · rw [if_neg hn] at h
      rcases ht : valueTableName (uint32 r.valueType) with _ | t
      · simp [ht] at h
      · simp only [ht] at h
        rcases hv : db.valueRow t (uint32 r.id) with _ | row
        · simp [hv] at h
        · simp only [hv] at h
          cases h
          exact .inr ⟨t, row.value, rfl, rfl⟩

lemma getKey_congr (hid : ∀ r, db.keyRow (cstr name) = some r → r.id < 2 ^ 32)
    (h : Db.SameKey (cstr name) db db') : getKey db' name = getKey db name := by
  unfold getKey
  rw [h.1]
  rcases hr : db.keyRow (cstr name) with _ | r
  · rfl
  · simp only [uint32_of_lt (hid r hr), h.2 r hr]

end Lookup

/-! ### The operations that change something -/

section Operations

variable {env : SqlEnv} {db db' : Db} {name : Bytes} {value : PropertyValue} {sign : Bool}

lemma transaction_ok {body : SqlProg Unit} (h : (transaction env body).run db = (.ok (), db')) :
    body.run db = (.ok (), db') := by
  unfold transaction at h
  simp only [Prog.atomically_ok, Prog.bind_ok, exec_ok] at h
  obtain ⟨_, d, ⟨_, hd, -⟩, _, d', hbody, _, _, ⟨_, hd', -⟩, h⟩ := h
  cases hd
  cases hd'
  cases h
  exact hbody

lemma bindColumn_ok {t : ValueTable} {column : t.Column}
    (h : (bindColumn env t value).run db = (.ok column, db')) :
    bindValue t (env.kept value) = .ok column ∧ db = db' := by
  unfold bindColumn at h
  simp only [Prog.bind_ok, exec_ok, Prog.ofExcept_ok] at h
  obtain ⟨_, d, ⟨_, hd, -⟩, hc, rfl⟩ := h
  cases hd
  exact ⟨hc, rfl⟩

lemma tableFor_ok {type : ℕ} {t : ValueTable} (h : (tableFor type).run db = (.ok t, db')) :
    valueTableName type = some t ∧ db = db' := by
  unfold tableFor at h
  rcases ht : valueTableName type with _ | t₀
  · rw [ht] at h; cases h
  · rw [ht] at h; cases h; exact ⟨rfl, rfl⟩

/-- The statements of an `insertKey` that returned: the key row, and the value under its id. -/
lemma insertKey_steps (h : (insertKey env name value).run db = (.ok (), db')) :
    name ≠ [] ∧ value ≠ .monostate ∧ ∃ d k,
      db.insertKeyRow env.now (cstr name) (typeForValue value).code = some (d, k) ∧
        (typeForValue value = .null ∧ db' = d ∨ ∃ t column,
          valueTableName (typeForValue value).code = some t ∧
            bindValue t (env.kept value) = .ok column ∧ Db.PutValue d t d.seq column db') := by
  unfold insertKey at h
  simp only [Prog.bind_ok, Prog.throwIf_ok] at h
  obtain ⟨_, _, ⟨hname, rfl⟩, _, _, ⟨hvalue, rfl⟩, h⟩ := h
  have h := transaction_ok h
  simp only [Prog.bind_ok, Prog.throwIf_ok, Prog.when_ok, exec_ok, Prog.run_get] at h
  obtain ⟨_, d, ⟨k, hins, -, -⟩, _, _, ⟨-, rfl⟩, _, _, hget, h⟩ := h
  cases hget
  refine ⟨hname, fun he => hvalue (he ▸ rfl), d, k, hins, ?_⟩
  rcases h with ⟨-, h⟩ | ⟨htype, rfl⟩
  · obtain ⟨t, _, htab, column, _, hbind, _, _, ⟨_, hput, -, -⟩, -, rfl⟩ := h
    obtain ⟨ht, rfl⟩ := tableFor_ok htab
    obtain ⟨hcol, rfl⟩ := bindColumn_ok hbind
    exact .inr ⟨t, column, ht, hcol, (Db.insertValueRow_some hput).2⟩
  · exact .inl ⟨not_not.mp htype, rfl⟩

lemma insertKey_ok (h : (insertKey env name value).run db = (.ok (), db')) :
    db'.seq = db.seq + 1 ∧
      (∃ r, db'.keyRow (cstr name) = some r ∧ r.id = db.seq + 1 ∧
        db'.HoldsAt r (env.kept value)) ∧
      ∀ n ≠ cstr name, Db.SameKey n db db' := by
  obtain ⟨-, -, d, k, hins, h⟩ := insertKey_steps h
  obtain ⟨-, hnew, hseq, -, -⟩ := Db.insertKeyRow_some hins
  have hkey := Db.keyRow_insertKeyRow hins
  have hval := Db.valueRow_insertKeyRow hins
  -- the new id is above all ids of value rows
  have hfresh : ∀ t, d.valueRow t d.seq = none := fun t => by
    rw [hval]
    exact Db.valueRow_eq_none (by omega)
  have hother : ∀ n ≠ cstr name, Db.SameKey n db d := fun n hn =>
    ⟨by rw [hkey, if_neg (Ne.symm hn)], fun _ _ t => hval t _⟩
  have hrow : d.keyRow (cstr name) = some ⟨d.seq, cstr name, (typeForValue value).code, env.now,
      env.now⟩ := by rw [hkey, if_pos rfl, hseq]
  -- a null value is not put into any table
  rcases h with ⟨htype, rfl⟩ | ⟨t, column, ht, hcol, hput⟩
  · refine ⟨hseq, ⟨_, hrow, hseq, ?_, fun t ht => ?_, fun t _ => hfresh t⟩, hother⟩
    · rw [typeForValue_kept]
    · rw [typeForValue_kept, htype] at ht
      cases ht
  · refine ⟨hput.seq.trans hseq, ⟨_, (hput.keyRow _).trans hrow, hseq, ?_, ?_, ?_⟩, ?_⟩
    · rw [typeForValue_kept]
    · intro t' ht'
      rw [typeForValue_kept] at ht'
      cases ht.symm.trans ht'
      exact ⟨column, hcol, hput.here⟩
    · intro t' ht'
      rw [typeForValue_kept] at ht'
      rw [hput.tables t' fun e => ht' (e ▸ ht)]
      exact hfresh t'
    · exact fun n hn => (hother n hn).trans (hput.only.sameKey hrow hn)

lemma exec_of_some {now n : ℕ} {site : Site} {stmt : Db → Option (Db × ℕ)}
    (h : stmt db = some (db', n)) : (exec (.faultless now sign) site stmt).run db = (.ok n, db') :=
  exec_ok.mpr ⟨n, h, by simp, by simp⟩

lemma exec_skip {now : ℕ} (site : Site) (db : Db) :
    (exec (.faultless now sign) site fun db => some (db, 0)).run db = (.ok 0, db) :=
  exec_of_some rfl

lemma transaction_run {now : ℕ} {body : SqlProg Unit} :
    (transaction (.faultless now sign) body).run db = match body.run db with
    | (.ok (), db') => (.ok (), db')
    | (.error e, _) => (.error e, db) := by
  unfold transaction Prog.atomically
  dsimp only
  rw [Prog.run_bind_of_ok (exec_skip _ _)]
  rcases hbody : body.run db with ⟨e | ⟨⟩, db'⟩
  · rw [Prog.run_bind_of_error hbody]
  · rw [Prog.run_bind_of_ok hbody, Prog.run_bind_of_ok (exec_skip _ _)]
    rfl

lemma transaction_of_ok {now : ℕ} {body : SqlProg Unit} (h : body.run db = (.ok (), db')) :
    (transaction (.faultless now sign) body).run db = (.ok (), db') := by
  rw [transaction_run, h]

lemma tableFor_run {type : ℕ} {t : ValueTable} (ht : valueTableName type = some t) :
    (tableFor type).run db = (.ok t, db) := by
  unfold tableFor
  rw [ht]
  rfl

lemma bindColumn_run {now : ℕ} {t : ValueTable} {column : t.Column}
    (hbind : bindValue t ((SqlEnv.faultless now sign).kept value) = .ok column) :
    (bindColumn (.faultless now sign) t value).run db = (.ok column, db) :=
  (Prog.run_bind_of_ok (exec_of_some rfl)).trans (by rw [hbind]; rfl)

lemma insertKey_of_bind {t : ValueTable} {column : t.Column} (now : ℕ) (hname : name ≠ [])
    (hseq : db.seq < 2 ^ 63 - 1) (hnew : db.keyRow (cstr name) = none)
    (ht : valueTableName (typeForValue value).code = some t)
    (hbind : bindValue t ((SqlEnv.faultless now sign).kept value) = .ok column)
    (hfits : RowFits t (db.seq + 1) column) :
    ∃ db', (insertKey (.faultless now sign) name value).run db = (.ok (), db') := by
  -- null has no table, and a monostate has the type of null
  have htype : typeForValue value ≠ .null := by
    intro hnull
    rw [hnull] at ht
    cases ht
  have hvalue : ¬ value.isMonostate = true := by
    cases value <;> first | exact Bool.false_ne_true | exact absurd rfl htype
  obtain ⟨d, hins⟩ := @Db.insertKeyRow_of_none _ now _ (typeForValue value).code hnew hseq
  obtain ⟨-, -, hdseq, -, hrows⟩ := Db.insertKeyRow_some hins
  have hkey : ∃ r ∈ d.keys.rows, r.id = d.seq :=
    ⟨_, by rw [hrows]; exact List.mem_append_right _ (List.mem_singleton_self _), hdseq.symm⟩
  -- the new key row is there for the foreign key, and no value row has its id yet
  have hnone : d.valueRow t d.seq = none := by
    rw [Db.valueRow_insertKeyRow hins]
    exact Db.valueRow_eq_none (by omega)
  obtain ⟨d', hput⟩ := @Db.insertValueRow_of_none _ _ _ column hkey (hdseq.symm ▸ hfits) hnone
  refine ⟨d', ?_⟩
  unfold insertKey
  rw [Prog.throwIf_neg hname, pure_bind, Prog.throwIf_neg hvalue, pure_bind]
  refine transaction_of_ok ?_
  rw [Prog.run_bind_of_ok (exec_of_some hins), Prog.throwIf_neg (by simp), pure_bind,
    Prog.run_bind_of_ok Prog.run_get]
  refine Prog.when_ok.mpr (.inl ⟨htype, ?_⟩)
  rw [Prog.run_bind_of_ok (tableFor_run ht), Prog.run_bind_of_ok (bindColumn_run hbind),
    Prog.run_bind_of_ok (exec_of_some hput), Prog.throwIf_neg (by simp), Prog.run_pure]

lemma insertKey_null {now : ℕ} {k : ℕ} (hname : name ≠ [])
    (hins : db.insertKeyRow now (cstr name) PropertyValueType.null.code = some (db', k)) :
    (insertKey (.faultless now sign) name .null).run db = (.ok (), db') := by
  obtain ⟨rfl, -⟩ := Db.insertKeyRow_some hins
  unfold insertKey
  rw [Prog.throwIf_neg hname, pure_bind, Prog.throwIf_neg (by simp [PropertyValue.isMonostate]),
    pure_bind]
  refine transaction_of_ok ?_
  rw [Prog.run_bind_of_ok (exec_of_some hins), Prog.throwIf_neg (by simp), pure_bind,
    Prog.run_bind_of_ok Prog.run_get]
  exact Prog.when_ok.mpr (.inr ⟨by simp [typeForValue], rfl⟩)

lemma updateKeyTimestamp_run {now keyId : ℕ} :
    (updateKeyTimestamp (.faultless now sign) keyId).run db =
      (if ∃ r ∈ db.keys.rows, r.id = keyId then .ok () else .error .updateTimestamp,
      db.modifyKey keyId (fun r => { r with updatedAt := now }) (fun _ => rfl) fun _ => rfl) := by
  have hcount : (db.keys.rows.countP fun r => r.id == keyId) = 0 ↔
      ¬ ∃ r ∈ db.keys.rows, r.id = keyId := by
    simp [List.countP_eq_zero]
  unfold updateKeyTimestamp
  rw [Prog.run_bind_of_ok (exec_of_some rfl)]
  by_cases h : ∃ r ∈ db.keys.rows, r.id = keyId
  · rw [Prog.throwIf_neg fun h0 => hcount.mp h0 h, if_pos h]
    rfl
  · rw [Prog.throwIf_pos (hcount.mpr h), if_neg h]
    rfl

lemma updateKey_of_bind {t : ValueTable} {column : t.Column} {keyId : ℕ} (now : ℕ)
    (hkey : ∃ r ∈ db.keys.rows, r.id = keyId)
    (ht : valueTableName (typeForValue value).code = some t)
    (hbind : bindValue t ((SqlEnv.faultless now sign).kept value) = .ok column)
    (hfits : RowFits t keyId column) :
    ∃ db', (updateKey (.faultless now sign) keyId (typeForValue value).code value).run db =
      (.ok (), db') := by
  have htype : typeForValue value ≠ .null := by
    intro hnull
    rw [hnull] at ht
    cases ht
  obtain ⟨d, hput⟩ := @Db.upsertValueRow_of_key db keyId t column hkey hfits
  have hkeys : d.keys = db.keys := (Db.upsertValueRow_some hput).2.keys
  have hvalue : (Prog.when (typeForValue value ≠ .null) (do
      let table ← tableFor (typeForValue value).code
      let column ← bindColumn (.faultless now sign) table value
      let n ← exec (.faultless now sign) .upsertValue fun db => db.upsertValueRow table keyId column
      .throwIf (n = 0) .upsertValue)).run db = (.ok (), d) := by
    refine Prog.when_ok.mpr (.inl ⟨htype, ?_⟩)
    rw [Prog.run_bind_of_ok (tableFor_run ht), Prog.run_bind_of_ok (bindColumn_run hbind),
      Prog.run_bind_of_ok (exec_of_some hput), Prog.throwIf_neg (by simp), Prog.run_pure]
  refine ⟨d.modifyKey keyId (fun r => { r with updatedAt := now }) (fun _ => rfl) fun _ => rfl,
    transaction_of_ok ?_⟩
  rw [Prog.run_bind_of_ok (a := ()) (Prog.when_ok.mpr (.inr ⟨by simp, rfl⟩)),
    Prog.run_bind_of_ok hvalue,
    updateKeyTimestamp_run, if_pos (by rw [hkeys]; exact hkey)]

/-- The statements of an `updateKey` that returned, on whatever id it was given: the change of type
with the deletion from the old table, the value, the timestamp. -/
lemma updateKey_steps {keyId oldValueType : ℕ}
    (h : (updateKey env keyId oldValueType value).run db = (.ok (), db')) :
    ∃ d₁ d₂, Db.Retyped keyId oldValueType (typeForValue value).code db d₁ ∧
      (typeForValue value = .null ∧ d₂ = d₁ ∨ ∃ t column,
        valueTableName (typeForValue value).code = some t ∧
          bindValue t (env.kept value) = .ok column ∧ Db.PutValue d₁ t keyId column d₂) ∧
      db' = d₂.modifyKey keyId (fun r => { r with updatedAt := env.now }) (fun _ => rfl)
        fun _ => rfl := by
  unfold updateKey updateKeyTimestamp at h
  have h := transaction_ok h
  simp only [Prog.bind_ok, Prog.throwIf_ok, Prog.when_ok, exec_ok] at h
  obtain ⟨_, d₁, hfirst, _, d₂, hsecond, _, _, ⟨_, hstamp, -, -⟩, -, rfl⟩ := h
  -- the three parts of the update: the type, the value, the timestamp
  refine ⟨d₁, d₂, ?_, ?_, ?_⟩
  · rcases hfirst with ⟨hne, hfirst⟩ | ⟨hsame, rfl⟩
    · obtain ⟨_, d, ⟨_, hu, -, -⟩, _, _, ⟨-, rfl⟩, t, _, htab, _, _, ⟨_, hd, -, -⟩, hp⟩ := hfirst
      obtain ⟨ht, rfl⟩ := tableFor_ok htab
      cases hp
      exact .changed hne ht hu hd
    · exact .same (not_not.mp hsame)
  · rcases hsecond with ⟨-, hsecond⟩ | ⟨hnull, rfl⟩
    · obtain ⟨t, _, htab, column, _, hbind, _, _, ⟨_, hput, -, -⟩, -, rfl⟩ := hsecond
      obtain ⟨ht, rfl⟩ := tableFor_ok htab
      obtain ⟨hcol, rfl⟩ := bindColumn_ok hbind
      exact .inr ⟨t, column, ht, hcol, (Db.upsertValueRow_some hput).2⟩
    · exact .inl ⟨not_not.mp hnull, rfl⟩
  · cases hstamp
    rfl

lemma updateKey_only {keyId oldValueType : ℕ}
    (h : (updateKey env keyId oldValueType value).run db = (.ok (), db')) :
    Db.Only keyId db db' := by
  obtain ⟨d₁, d₂, hfirst, hsecond, rfl⟩ := updateKey_steps h
  have honly₂ : Db.Only keyId d₁ d₂ := by
    rcases hsecond with ⟨-, rfl⟩ | ⟨t, column, -, -, hput⟩
    · exact .refl _ _
    · exact hput.only
  exact (hfirst.only.trans honly₂).trans Db.only_modifyKey

/-- Updating a key stores the value under its id, with its type; of the other tables, the one of the
old type is cleared. -/
lemma updateKey_row {n : Bytes} {r : KeyRow} {oldValueType : ℕ} (hr : db.keyRow n = some r)
    (h : (updateKey env r.id oldValueType value).run db = (.ok (), db')) :
    (∃ r', db'.keyRow n = some r' ∧ r'.id = r.id ∧ r'.valueType =
      if oldValueType = (typeForValue value).code then r.valueType else (typeForValue value).code) ∧
    (∀ t, valueTableName (typeForValue value).code = some t → ∃ column,
      bindValue t (env.kept value) = .ok column ∧ db'.valueRow t r.id = some ⟨r.id, column⟩) ∧
    ∀ t, valueTableName (typeForValue value).code ≠ some t → db'.valueRow t r.id =
      if valueTableName oldValueType = some t then none else db.valueRow t r.id := by
  obtain ⟨d₁, d₂, hfirst, hsecond, rfl⟩ := updateKey_steps h
  obtain ⟨r₁, hr₁, hid, htype⟩ := hfirst.keyRow hr
  have hrow₂ : d₂.keyRow n = some r₁ := by
    rcases hsecond with ⟨-, rfl⟩ | ⟨t, column, -, -, hput⟩
    · exact hr₁
    · exact (hput.keyRow n).trans hr₁
  -- the timestamp is the last to change and no part of what is read
  refine ⟨⟨{ r₁ with updatedAt := env.now }, ?_, hid, htype⟩, fun t ht => ?_, fun t ht => ?_⟩
  · rw [← hid]
    exact Db.keyRow_modifyKey_self hrow₂
  · rw [Db.valueRow_modifyKey]
    rcases hsecond with ⟨hnull, -⟩ | ⟨t', column, ht', hcol, hput⟩
    · rw [hnull] at ht
      cases ht
    · cases ht.symm.trans ht'
      exact ⟨column, hcol, hput.here⟩
  · rw [Db.valueRow_modifyKey, ← hfirst.valueRow ht]
    rcases hsecond with ⟨-, rfl⟩ | ⟨t', column, ht', -, hput⟩
    · rfl
    · exact hput.tables t (fun he => ht (he ▸ ht')) r.id

lemma updateKey_row_own {n : Bytes} {r : KeyRow} (hr : db.keyRow n = some r)
    (h : (updateKey env r.id r.valueType value).run db = (.ok (), db')) :
    ∃ r', db'.keyRow n = some r' ∧ r'.id = r.id ∧ r'.valueType = (typeForValue value).code := by
  obtain ⟨⟨r', hr', hid, htype⟩, -⟩ := updateKey_row hr h
  refine ⟨r', hr', hid, ?_⟩
  rw [htype]
  split_ifs with hsame
  · exact hsame
  · rfl

lemma updateKey_ok {n : Bytes} {r : KeyRow} {old : PropertyValue}
    (hr : db.keyRow n = some r) (hold : db.HoldsAt r old)
    (h : (updateKey env r.id r.valueType value).run db = (.ok (), db')) :
    Db.Only r.id db db' ∧ db'.Holds n (env.kept value) := by
  obtain ⟨-, hvalue, hrest⟩ := updateKey_row hr h
  obtain ⟨r', hr', hid, htype⟩ := updateKey_row_own hr h
  refine ⟨updateKey_only h, r', hr', ?_, fun t ht => ?_, fun t ht => ?_⟩
  · rw [htype, typeForValue_kept]
  · rw [typeForValue_kept] at ht
    rw [hid]
    exact hvalue t ht
  · rw [typeForValue_kept] at ht
    rw [hid, hrest t ht, hold.type]
    split_ifs with hold'
    · rfl
    · exact hold.noRow t hold'

lemma setKey_run : (setKey env name value).run db = (match db.keyRow (cstr name) with
    | none => insertKey env name value
    | some info =>
      if uint32 info.valueType = PropertyValueType.null.code then
        updateKey env (uint32 info.id) (uint32 info.valueType) value
      else if value.isNull then updateKey env (uint32 info.id) (uint32 info.valueType) value
      else if uint32 info.valueType = (typeForValue value).code then
        updateKey env (uint32 info.id) (uint32 info.valueType) value
      else .fail (.changingType name)).run db := rfl

lemma updateKey_same {keyId : ℕ}
    (h : (updateKey env keyId (typeForValue value).code value).run db = (.ok (), db'))
    {n : Bytes} {r : KeyRow} (hr : db.keyRow n = some r) :
    ∃ r', db'.keyRow n = some r' ∧ r'.valueType = r.valueType := by
  by_cases hid : r.id = keyId
  · subst hid
    obtain ⟨⟨r', hr', -, htype⟩, -⟩ := updateKey_row hr h
    exact ⟨r', hr', htype.trans (if_pos rfl)⟩
  · exact ⟨r, (updateKey_only h).rows n r hr hid, rfl⟩

/-- A key of type null accepts no other type: the old value is to be deleted from a table
without a name. -/
lemma updateKey_of_null {keyId : ℕ} (hv : typeForValue value ≠ .null) :
    (updateKey env keyId PropertyValueType.null.code value).run db ≠ (.ok (), db') := by
  intro h
  obtain ⟨d₁, d₂, hfirst, -⟩ := updateKey_steps h
  cases hfirst with
  | same hsame => exact hv (code_inj hsame).symm
  | changed hne ht hu hd => cases ht

/-- A `setKey` that returned created the key, or it updated the row with the id that it read. -/
lemma setKey_inv (h : (setKey env name value).run db = (.ok (), db')) :
    db.keyRow (cstr name) = none ∧ (insertKey env name value).run db = (.ok (), db') ∨
    ∃ r, db.keyRow (cstr name) = some r ∧
      (updateKey env (uint32 r.id) (uint32 r.valueType) value).run db = (.ok (), db') ∧
      (typeForValue value = .null ∨ uint32 r.valueType = (typeForValue value).code) := by
  rw [setKey_run] at h
  rcases hr : db.keyRow (cstr name) with _ | r
  · rw [hr] at h
    exact .inl ⟨rfl, h⟩
  · simp only [hr] at h
    refine .inr ⟨r, rfl, ?_⟩
    split_ifs at h with hold hnull hsame
    · refine ⟨h, ?_⟩
      by_contra hne
      rw [hold] at h
      exact updateKey_of_null (fun hv => hne (.inl hv)) h
    · exact ⟨h, .inl (typeForValue_null hnull)⟩
    · exact ⟨h, .inr hsame⟩
    · cases h

lemma setKey_sameKey (h : (setKey env name value).run db = (.ok (), db')) {n : Bytes}
    (hn : n ≠ cstr name) (hid : ∀ r r', db.keyRow n = some r → db.keyRow (cstr name) = some r' →
      r.id ≠ uint32 r'.id) : Db.SameKey n db db' := by
  rcases setKey_inv h with ⟨-, hinsert⟩ | ⟨r', hr', hupdate, -⟩
  · obtain ⟨-, -, hother⟩ := insertKey_ok hinsert
    exact hother n hn
  · exact (updateKey_only hupdate).sameKey_of_ne fun r hr => hid r r' hr hr'

/-- **A `setKey` that returns**: the key holds the value, and other keys are as before. -/
lemma setKey_ok (hc : db.Coherent) (hseq : db.seq < 2 ^ 32)
    (h : (setKey env name value).run db = (.ok (), db')) :
    db'.Holds (cstr name) (env.kept value) ∧ ∀ n ≠ cstr name, Db.SameKey n db db' := by
  rcases setKey_inv h with ⟨-, hinsert⟩ | ⟨r, hr, hupdate, -⟩
  · obtain ⟨-, ⟨r, hr, -, hat⟩, hother⟩ := insertKey_ok hinsert
    exact ⟨⟨r, hr, hat⟩, hother⟩
  · obtain ⟨old, hold⟩ := hc.holds hr
    have hid : uint32 r.id = r.id := uint32_of_lt (by have := Db.id_le_seq hr; omega)
    have htype : uint32 r.valueType = r.valueType := by rw [hold.type, uint32_code]
    rw [hid, htype] at hupdate
    obtain ⟨honly, hholds⟩ := updateKey_ok hr hold hupdate
    exact ⟨hholds, fun n hn => honly.sameKey hr hn⟩

lemma setKey_valueType (hv : typeForValue value ≠ .null)
    (h : (setKey env name value).run db = (.ok (), db')) :
    ∃ r, db'.keyRow (cstr name) = some r ∧ uint32 r.valueType = (typeForValue value).code := by
  rcases setKey_inv h with ⟨-, hinsert⟩ | ⟨r, hr, hupdate, hnull | htype⟩
  · obtain ⟨-, ⟨r, hr, -, hat⟩, -⟩ := insertKey_ok hinsert
    exact ⟨r, hr, by rw [hat.type, uint32_code, typeForValue_kept]⟩
  · exact absurd hnull hv
  · rw [htype] at hupdate
    obtain ⟨r', hr', hsame⟩ := updateKey_same hupdate hr
    exact ⟨r', hr', by rw [hsame, htype]⟩

/-- **A `setKey` that throws**: nothing is different. -/
lemma setKey_error {e : StoreError} (h : (setKey env name value).run db = (.error e, db')) :
    db' = db := by
  have htxn : ∀ body, Prog.Atomic (transaction env body) := fun body => Prog.atomic_atomically _
  have hinsert : Prog.Atomic (insertKey env name value) :=
    (Prog.readOnly_throwIf _).bind_atomic fun _ => (Prog.readOnly_throwIf _).bind_atomic fun _ =>
      htxn _
  rw [setKey_run] at h
  rcases hr : db.keyRow (cstr name) with _ | r
  · rw [hr] at h
    exact hinsert _ _ _ h
  · simp only [hr] at h
    split_ifs at h
    · exact htxn _ _ _ _ h
    · exact htxn _ _ _ _ h
    · exact htxn _ _ _ _ h
    · exact Prog.readOnly_fail.atomic _ _ _ h

/-! ### Statements that write nothing -/

lemma readOnly_skip {site : Site} : (exec env site fun db => some (db, 0)).ReadOnly := by
  intro db
  rcases exec_cases env site (fun db => some (db, 0)) db with h | ⟨n, h⟩
  · exact h
  · exact (Prod.mk.inj (Option.some.inj h)).1.symm

lemma readOnly_tableFor {type : ℕ} : (tableFor type).ReadOnly := by
  unfold tableFor
  cases valueTableName type <;> exact fun _ => rfl

lemma readOnly_bindColumn {t : ValueTable} : (bindColumn env t value).ReadOnly :=
  readOnly_skip.bind fun _ => Prog.readOnly_ofExcept _

/-! ### Ids are never taken back -/

section Mono

variable {β : Type} [Preorder β] {g : Db → β}

lemma exec_mono {site : Site} {stmt : Db → Option (Db × ℕ)}
    (h : ∀ {db db' n}, stmt db = some (db', n) → g db ≤ g db') :
    Prog.Mono g (exec env site stmt) := by
  intro db
  rcases exec_cases env site stmt db with hsame | ⟨n, hs⟩
  · exact hsame.symm ▸ le_refl _
  · exact h hs

lemma exec_check_mono {site : Site} {stmt : Db → Option (Db × ℕ)} {e : StoreError}
    (h : ∀ {db db' n}, stmt db = some (db', n) → g db ≤ g db') :
    Prog.Mono g (exec env site stmt >>= fun n => .throwIf (n = 0) e) :=
  (exec_mono h).bind fun _ => (Prog.readOnly_throwIf _).mono

lemma transaction_mono {body : SqlProg Unit} (h : Prog.Mono g body) :
    Prog.Mono g (transaction env body) :=
  (readOnly_skip.mono.bind fun _ => h.bind fun _ =>
    readOnly_skip.mono.bind fun _ _ => le_refl _).atomically

end Mono

lemma insertKey_mono : Prog.Mono Db.seq (insertKey env name value) := by
  refine (Prog.readOnly_throwIf _).mono.bind fun _ =>
    (Prog.readOnly_throwIf _).mono.bind fun _ => transaction_mono ?_
  refine (exec_mono fun hs => ?_).bind fun _ => (Prog.readOnly_throwIf _).mono.bind fun _ =>
    Prog.readOnly_get.mono.bind fun _ => .when fun _ => ?_
  · have := (Db.insertKeyRow_some hs).2.2.1
    omega
  · refine readOnly_tableFor.mono.bind fun t => readOnly_bindColumn.mono.bind fun column =>
      exec_check_mono fun hs => ?_
    exact (Db.insertValueRow_some hs).2.seq.ge

lemma updateKey_mono {keyId oldValueType : ℕ} :
    Prog.Mono Db.seq (updateKey env keyId oldValueType value) := by
  refine transaction_mono (Prog.Mono.bind (.when fun _ => ?_) fun _ =>
    Prog.Mono.bind (.when fun _ => ?_) fun _ => ?_)
  · refine (exec_mono fun hs => ?_).bind fun _ => (Prog.readOnly_throwIf _).mono.bind fun _ =>
      readOnly_tableFor.mono.bind fun t => (exec_mono fun hs => ?_).bind fun _ _ => le_refl _
    · cases hs
      exact le_refl _
    · exact (Db.keys_deleteValueRows hs).2.ge
  · refine readOnly_tableFor.mono.bind fun t => readOnly_bindColumn.mono.bind fun column =>
      exec_check_mono fun hs => ?_
    exact (Db.upsertValueRow_some hs).2.seq.ge
  · refine exec_check_mono fun hs => ?_
    cases hs
    exact le_refl _

lemma setKey_mono : Prog.Mono Db.seq (setKey env name value) := by
  intro db
  rw [setKey_run]
  rcases db.keyRow (cstr name) with _ | r
  · exact insertKey_mono db
  · dsimp only
    split_ifs
    · exact updateKey_mono db
    · exact updateKey_mono db
    · exact updateKey_mono db
    · exact le_refl _

/-! ### Deletion -/

lemma deleteKeyRows_sameKey {p : KeyRow → Bool} {n : ℕ} {r : KeyRow}
    (h : db.deleteKeyRows p = some (db', n)) (hr : db.keyRow name = some r) (hp : p r = false) :
    Db.SameKey name db db' := by
  refine ⟨?_, fun x hx t => ?_⟩
  · rw [Db.keyRow_deleteKeyRows h, hr]
    simp [hp]
  · cases hr.symm.trans hx
    exact Db.valueRow_deleteKeyRows h (Db.keyRow_mem hr).1 hp t

lemma deleteSubkeys_run (env : SqlEnv) (namePrefix : Bytes) (db : Db) :
    ((deleteSubkeys env namePrefix).run db).2 = db ∨ ∃ n, db.deleteKeyRows (fun r =>
      Like.like (subkeyPattern namePrefix) r.key) =
        some (((deleteSubkeys env namePrefix).run db).2, n) := by
  unfold deleteSubkeys
  rw [bindParameter, Prog.throwIf_neg (by simp), pure_bind]
  exact exec_cases ..

lemma deleteSubkeys_of_some {n : ℕ} {namePrefix : Bytes} (now : ℕ)
    (h : db.deleteKeyRows (fun r => Like.like (subkeyPattern namePrefix) r.key) = some (db', n)) :
    (deleteSubkeys (.ok now) namePrefix).run db = (.ok n, db') := by
  unfold deleteSubkeys
  rw [bindParameter, Prog.throwIf_neg (by simp), pure_bind]
  exact exec_of_some h

/-- `deleteKey` never gets past `hasChildren`. -/
lemma deleteKey_run (env : SqlEnv) (name : Bytes) (db : Db) :
    (deleteKey env name).run db = (.error .sqlite, db) := by
  have hchildren : (hasChildren name).run db = (.error .sqlite, db) := by
    unfold hasChildren
    rw [bindParameter, Prog.throwIf_pos (by simp), Prog.fail_bind, Prog.run_fail]
  exact Prog.run_bind_of_error hchildren

end Operations

end Sativa.Store
