import Sativa.StoreRuns

/-!
The types of keys.

A key that has a type other than null keeps it until it is set to null or deleted. A key of
type null accepts null only: updating it deletes the old value from a table without a name.
-/

namespace Sativa.Store

open Sativa

/-- The key is there, with the type. -/
def Db.HasType (db : Db) (name : Bytes) (type : PropertyValueType) : Prop :=
  ∃ r, db.keyRow name = some r ∧ r.valueType = type.code

/-- The call sets the key to null, and returns. -/
def SetsNull (db : Db) (name : Bytes) : SqlEnv × Call → Prop
  | (env, .setKey n .null) => cstr n = name ∧
    (machine.step db (env, .setKey n .null)).1 = .ok .done
  | _ => False

/-- The call deletes the key. -/
def Deletes (db : Db) (name : Bytes) (e : SqlEnv × Call) : Prop :=
  db.keyRow name ≠ none ∧ (machine.step db e).2.keyRow name = none

section Types

variable {db db' : Db} {env : SqlEnv} {name : Bytes} {value : PropertyValue}
  {type : PropertyValueType}

lemma setKey_hasType (h : db.HasType (cstr name) type) (htype : type ≠ .null)
    (hset : (setKey env name value).run db = (.ok (), db')) :
    value = .null ∨ typeForValue value = type := by
  obtain ⟨r, hr, hcode⟩ := h
  rw [setKey_run, hr] at hset
  simp only [hcode, uint32_code] at hset
  split_ifs at hset with hnull hv hsame
  · exact absurd (code_inj hnull) htype
  · left
    cases value <;> first | rfl | cases hv
  · exact .inr (code_inj hsame).symm
  · cases hset

lemma run_setKey_of_step (h : (machine.step db (env, .setKey name value)).1 = .ok .done) :
    (setKey env name value).run db = (.ok (), (machine.step db (env, .setKey name value)).2) := by
  rw [step_setKey] at h ⊢
  rcases hrun : (setKey env name value).run db with ⟨e | ⟨⟩, d⟩
  · rw [hrun] at h
    cases h
  · rfl

lemma Db.Holds.hasType (h : db.Holds name value) : db.HasType name (typeForValue value) := by
  obtain ⟨r, hr, hat⟩ := h
  exact ⟨r, hr, hat.type⟩

lemma Db.SameKey.hasType (hs : Db.SameKey name db db') (h : db.HasType name type) :
    db'.HasType name type := by
  obtain ⟨r, hr, hcode⟩ := h
  exact ⟨r, hs.1.trans hr, hcode⟩

lemma Db.HasType.unique {type' : PropertyValueType} (h : db.HasType name type)
    (h' : db.HasType name type') : type = type' := by
  obtain ⟨r, hr, hcode⟩ := h
  obtain ⟨r', hr', hcode'⟩ := h'
  cases hr.symm.trans hr'
  exact code_inj (hcode.symm.trans hcode')

/-- One call: the key keeps its type, or the call is one of those that may change it. -/
lemma step_hasType {e : SqlEnv × Call} (hr : machine.Reachable db) (hseq : db.seq < 2 ^ 32)
    (h : db.HasType name type) (htype : type ≠ .null) :
    (SetsNull db name e ∨ Deletes db name e) ∨ (machine.step db e).2.HasType name type := by
  obtain ⟨env, call⟩ := e
  cases call with
  | getKey n =>
    right
    rwa [step_getKey]
  | setKey n value =>
    rcases @step_setKey_cases env db n value (reachable_coherent hr hseq) hseq with
      ⟨hok, hholds, hother⟩ | ⟨e, hs⟩
    · by_cases hn : name = cstr n
      · subst hn
        -- a typed key keeps its type under setKey, but for null
        rcases setKey_hasType h htype (run_setKey_of_step hok) with rfl | rfl
        · exact .inl (.inl ⟨rfl, hok⟩)
        · rw [← typeForValue_kept env value]
          exact .inr hholds.hasType
      · exact .inr ((hother name hn).hasType h)
    · right
      rwa [hs]
  | deleteKey n =>
    right
    rwa [step_deleteKey]
  | deleteSubkeys n =>
    obtain ⟨r, hrow, hcode⟩ := h
    -- whether the key is still there decides: a deletion takes whole key rows
    rcases hafter : (machine.step db (env, .deleteSubkeys n)).2.keyRow name with _ | r'
    · exact .inl (.inr ⟨by simp [hrow], hafter⟩)
    · right
      rcases @step_deleteSubkeys env db n with hs | ⟨k, hs⟩
      · rw [hs]
        exact ⟨r, hrow, hcode⟩
      · rw [Db.keyRow_deleteKeyRows hs, hrow] at hafter
        obtain ⟨hrr, -⟩ := Option.filter_eq_some_iff.mp hafter
        cases hrr
        exact ⟨r, by rw [Db.keyRow_deleteKeyRows hs, hrow, hafter], hcode⟩

lemma after_mono (calls : List (SqlEnv × Call)) : db.seq ≤ (machine.after db calls).seq := by
  induction calls generalizing db with
  | nil => exact le_refl _
  | cons e calls ih => exact (step_mono db e).trans ih

lemma after_hasType (calls : List (SqlEnv × Call)) (hr : machine.Reachable db)
    (h : db.HasType name type) (htype : type ≠ .null)
    (hseq : (machine.after db calls).seq < 2 ^ 32) :
    (machine.after db calls).HasType name type ∨ ∃ before e rest, calls = before ++ e :: rest ∧
      (SetsNull (machine.after db before) name e ∨ Deletes (machine.after db before) name e) := by
  have hstep : ∀ s e, machine.Reachable s → (s.seq < 2 ^ 32 → s.HasType name type) →
      (SetsNull s name e ∨ Deletes s name e) ∨
        ((machine.step s e).2.seq < 2 ^ 32 → (machine.step s e).2.HasType name type) := by
    intro s e hs ih
    by_cases hlt : s.seq < 2 ^ 32
    · exact (step_hasType hs hlt (ih hlt) htype).imp_right fun hkept _ => hkept
    · right
      intro hlt'
      have hmono : s.seq ≤ (machine.step s e).2.seq := step_mono s e
      omega
  exact (Machine.after_or_break calls hr (fun _ => h) hstep).imp_left fun hkept => hkept hseq

/-- **Types are kept**: between two calls that set a key to values of different types, other than
null, the key was set to null or deleted. -/
theorem type_kept {env₁ env₂ : SqlEnv} {name₁ name₂ : Bytes} {v₁ v₂ : PropertyValue}
    (calls : List (SqlEnv × Call)) (hr : machine.Reachable db)
    (h₁ : (machine.step db (env₁, .setKey name₁ v₁)).1 = .ok .done)
    (h₂ : (machine.step (machine.after db ((env₁, .setKey name₁ v₁) :: calls))
      (env₂, .setKey name₂ v₂)).1 = .ok .done)
    (hseq : (machine.after db ((env₁, .setKey name₁ v₁) :: calls)).seq < 2 ^ 32)
    (hname : cstr name₁ = cstr name₂) (hv₁ : typeForValue v₁ ≠ .null)
    (hv₂ : typeForValue v₂ ≠ .null) (hne : typeForValue v₁ ≠ typeForValue v₂) :
    ∃ before e rest, calls = before ++ e :: rest ∧
      let db' := machine.after db ((env₁, .setKey name₁ v₁) :: before)
      SetsNull db' (cstr name₁) e ∨ Deletes db' (cstr name₁) e := by
  set db₁ := (machine.step db (env₁, .setKey name₁ v₁)).2 with hdb₁
  change (machine.after db₁ calls).seq < 2 ^ 32 at hseq
  have hmono : db.seq ≤ db₁.seq := step_mono db _
  have hmono₁ : db₁.seq ≤ (machine.after db₁ calls).seq := after_mono calls
  have hholds : db₁.Holds (cstr name₁) (env₁.kept v₁) :=
    (setKey_ok (reachable_coherent hr (by omega)) (by omega) (run_setKey_of_step h₁)).1
  have htype : db₁.HasType (cstr name₁) (typeForValue v₁) :=
    typeForValue_kept env₁ v₁ ▸ hholds.hasType
  rcases after_hasType calls (hr.step _) htype hv₁ hseq with hkept | hbreak
  · rcases setKey_hasType (hname ▸ hkept) hv₁ (run_setKey_of_step h₂) with rfl | hsame
    · exact absurd rfl hv₂
    · exact absurd hsame.symm hne
  · exact hbreak

/-- The key is deleted with its parent in between. -/
theorem type_kept_sample :
    let db := (machine.step .initSchema (.ok 1, .setKey (ascii "net.up") (.uint64 1))).2
    ∃ before e rest, [(SqlEnv.ok 2, Call.deleteSubkeys (ascii "net"))] = before ++ e :: rest ∧
      (SetsNull (machine.after db before) (ascii "net.up") e ∨
        Deletes (machine.after db before) (ascii "net.up") e) :=
  @type_kept .initSchema (.ok 1) (.ok 3) (ascii "net.up") (ascii "net.up") (.uint64 1)
    (.string (ascii "yes")) [(.ok 2, .deleteSubkeys (ascii "net"))] .init rfl rfl (by decide) rfl
    (by decide) (by decide) (by decide)

/-! ### Null keys -/

section NullKeys

variable {r : KeyRow} {now : ℕ}

lemma updateKey_null_run {keyId : ℕ} :
    (updateKey (.ok now) keyId PropertyValueType.null.code .null).run db =
      if ∃ r ∈ db.keys.rows, r.id = keyId then (.ok (),
        db.modifyKey keyId (fun r => { r with updatedAt := now }) (fun _ => rfl) fun _ => rfl)
      else (.error .updateTimestamp, db) := by
  unfold updateKey
  rw [transaction_run]
  simp only [typeForValue, ne_eq, not_true_eq_false, Prog.when, if_false, pure_bind]
  rw [updateKeyTimestamp_run]
  split_ifs <;> rfl

/-- **Null keys**: as long as nothing fails, a key of type null can be set to null, and to nothing
else. -/
theorem null_key_iff (hr : db.keyRow (cstr name) = some r)
    (htype : r.valueType = PropertyValueType.null.code) (hv : value ≠ .monostate) :
    (∃ db', (setKey (.ok now) name value).run db = (.ok (), db') ∧
        getKey db' name = .ok value.readBack) ↔
      value = .null ∧ ∃ r' ∈ db.keys.rows, r'.id = uint32 r.id := by
  have hcode : uint32 r.valueType = PropertyValueType.null.code := by rw [htype, uint32_code]
  have hrun : (setKey (.ok now) name value).run db =
      (updateKey (.ok now) (uint32 r.id) PropertyValueType.null.code value).run db := by
    rw [setKey_run, hr]
    simp only [hcode, if_true]
  constructor
  · rintro ⟨db', hset, -⟩
    rw [hrun] at hset
    -- any other value needs the table of the old type, and null has none
    have hnull : value = .null := by
      by_contra hne
      refine updateKey_of_null ?_ hset
      cases value <;> first | exact absurd rfl hv | exact absurd rfl hne | simp [typeForValue]
    subst hnull
    refine ⟨rfl, ?_⟩
    by_contra hrow
    rw [updateKey_null_run, if_neg hrow] at hset
    cases hset
  · rintro ⟨rfl, hrow⟩
    rw [hrun, updateKey_null_run, if_pos hrow]
    refine ⟨_, rfl, ?_⟩
    -- the row keeps its type, which getKey reads as null
    have hafter : ∃ r', (db.modifyKey (uint32 r.id) (fun r => { r with updatedAt := now })
        (fun _ => rfl) fun _ => rfl).keyRow (cstr name) = some r' ∧ r'.valueType = r.valueType := by
      rw [Db.keyRow_modifyKey, hr]
      refine ⟨_, rfl, ?_⟩
      dsimp only
      split_ifs <;> rfl
    obtain ⟨r', hr', hsame⟩ := hafter
    unfold getKey
    simp [hr', hsame, hcode, PropertyValue.readBack]

/-- A key that was created null. -/
abbrev nullKey : Db := (machine.step .initSchema (.ok 1, .setKey (ascii "a") .null)).2

theorem null_key_iff_sample : ∃ db', (setKey (.ok 2) (ascii "a") .null).run nullKey =
    (.ok (), db') ∧ getKey db' (ascii "a") = .ok .null :=
  (null_key_iff (r := ⟨1, ascii "a", 0, 1, 1⟩) rfl rfl (by decide)).mpr ⟨rfl, by decide⟩

/-- A null key cannot be given a number. -/
theorem null_key_refused : ¬ ∀ (db : Db) (name : Bytes) (r : KeyRow) (value : PropertyValue),
    machine.Reachable db → 0 ∉ name → db.keyRow name = some r →
    r.valueType = PropertyValueType.null.code → value ≠ .monostate → value.isNaN = false →
    ∃ db', (setKey (.ok 2) name value).run db = (.ok (), db') ∧
      getKey db' name = .ok value.readBack := by
  intro h
  obtain ⟨db', hset, -⟩ := h nullKey (ascii "a") ⟨1, ascii "a", 0, 1, 1⟩ (.uint64 5)
    (.step .init _) (by decide) rfl rfl (by decide) rfl
  have hanswer : ((setKey (.ok 2) (ascii "a") (.uint64 5)).run nullKey).1 =
      .error .sqlite := by decide
  rw [hset] at hanswer
  cases hanswer

end NullKeys

end Types

end Sativa.Store
