import Mathlib.Tactic.Lemma
import Mathlib.Data.Nat.Notation
import Mathlib.Data.List.Nodup

/-!
Tables with a unique index.

A table keeps the proof that no two of its rows have the same index, so that a lookup by
index determines the row. The operations are those of a relational store: insert with a
conflict, update in place, insert or replace, delete by predicate. Each has one lemma
saying what a lookup sees afterwards.
-/

namespace Sativa

/-- A list of rows `ρ` with a unique index `idx`. -/
structure Table {ρ κ : Type} (idx : ρ → κ) where
  rows : List ρ
  unique : (rows.map idx).Nodup

namespace Table

variable {ρ κ : Type} {idx : ρ → κ}

@[ext] lemma ext {t u : Table idx} (h : t.rows = u.rows) : t = u := by
  cases t
  cases u
  congr

def empty : Table idx := ⟨[], by simp⟩

/-- `UPDATE`: apply `f` to the rows that satisfy `p`; the index is not among its columns. -/
def update (t : Table idx) (p : ρ → Bool) (f : ρ → ρ) (hf : ∀ r, idx (f r) = idx r) :
    Table idx where
  rows := t.rows.map fun r => if p r then f r else r
  unique := by
    have h : (idx ∘ fun r => if p r then f r else r) = idx := by
      funext r
      by_cases hp : p r <;> simp [hp, hf]
    rw [List.map_map, h]
    exact t.unique

/-- `DELETE`: drop the rows that satisfy `p`. -/
def delete (t : Table idx) (p : ρ → Bool) : Table idx where
  rows := t.rows.filter fun r => !p r
  unique := t.unique.sublist (List.filter_sublist.map idx)

variable [DecidableEq κ]

/-- `SELECT` by the unique index. -/
def find? (t : Table idx) (k : κ) : Option ρ := t.rows.find? fun r => decide (idx r = k)

omit [DecidableEq κ] in
lemma eq_of_mem {t : Table idx} {r r' : ρ} (h : r ∈ t.rows) (h' : r' ∈ t.rows)
    (hi : idx r = idx r') : r = r' :=
  List.inj_on_of_nodup_map t.unique h h' hi

lemma find?_eq_none {t : Table idx} {k : κ} : t.find? k = none ↔ ∀ r ∈ t.rows, idx r ≠ k := by
  simp [find?]

lemma find?_eq_some {t : Table idx} {k : κ} {r : ρ} :
    t.find? k = some r ↔ r ∈ t.rows ∧ idx r = k := by
  have hsound : ∀ x, t.find? k = some x → x ∈ t.rows ∧ idx x = k := fun x hx =>
    ⟨List.mem_of_find?_eq_some hx, by simpa using List.find?_some hx⟩
  refine ⟨hsound r, fun ⟨hr, hk⟩ => ?_⟩
  rcases hf : t.find? k with _ | x
  · exact absurd hk (find?_eq_none.mp hf r hr)
  · rw [eq_of_mem (hsound x hf).1 hr ((hsound x hf).2.trans hk.symm)]

lemma find?_of_mem {t : Table idx} {r : ρ} (h : r ∈ t.rows) : t.find? (idx r) = some r :=
  find?_eq_some.mpr ⟨h, rfl⟩

lemma length_filter_idx [BEq κ] [LawfulBEq κ] (t : Table idx) (k : κ) :
    (t.rows.filter fun r => idx r == k).length = if (t.find? k).isSome then 1 else 0 := by
  have hcount : (t.rows.filter fun r => idx r == k).length = (t.rows.map idx).count k := by
    rw [List.count_eq_length_filter, List.filter_map, List.length_map]
    rfl
  rw [hcount]
  rcases hf : t.find? k with _ | r
  · have hk : k ∉ t.rows.map idx := by
      rintro hk
      obtain ⟨r, hr, hrk⟩ := List.mem_map.mp hk
      exact find?_eq_none.mp hf r hr hrk
    simpa using List.count_eq_zero_of_not_mem hk
  · obtain ⟨hr, rfl⟩ := find?_eq_some.mp hf
    simpa using List.count_eq_one_of_mem t.unique (List.mem_map_of_mem hr)

/-- `INSERT`: `none` is the error on a conflict. -/
def insert? (t : Table idx) (r : ρ) : Option (Table idx) :=
  if h : idx r ∈ t.rows.map idx then none
  else some ⟨t.rows ++ [r], by
    rw [List.map_append, List.nodup_append]
    exact ⟨t.unique, by simp, fun a ha b hb => by
      rintro rfl
      exact h ((List.mem_singleton.mp hb) ▸ ha)⟩⟩

/-- `INSERT ... ON CONFLICT DO UPDATE`: the row with the index of `r` becomes `r`. -/
def upsert (t : Table idx) (r : ρ) : Table idx :=
  match h : t.insert? r with
  | some t' => t'
  | none => ⟨t.rows.map fun x => if idx x = idx r then r else x, by
      have h' : (idx ∘ fun x => if idx x = idx r then r else x) = idx := by
        funext x
        by_cases hx : idx x = idx r <;> simp [hx]
      rw [List.map_map, h']
      exact t.unique⟩

lemma insert?_eq_some {t t' : Table idx} {r : ρ} :
    t.insert? r = some t' ↔ t.find? (idx r) = none ∧ t'.rows = t.rows ++ [r] := by
  rw [find?_eq_none]
  unfold insert?
  split
  next h =>
    obtain ⟨x, hx, hxr⟩ := List.mem_map.mp h
    simpa using fun hn => absurd hxr (hn x hx)
  next h =>
    have hn : ∀ x ∈ t.rows, idx x ≠ idx r := fun x hx hxr => h (List.mem_map.mpr ⟨x, hx, hxr⟩)
    constructor
    · intro he
      rw [← Option.some.inj he]
      exact ⟨hn, rfl⟩
    · rintro ⟨-, he⟩
      exact congrArg some (ext he.symm)

lemma insert?_eq_none {t : Table idx} {r : ρ} :
    t.insert? r = none ↔ ∃ r', t.find? (idx r) = some r' := by
  rw [← Option.ne_none_iff_exists', ne_eq, find?_eq_none]
  unfold insert?
  split
  next h => simpa [eq_comm] using h
  next h => simpa [eq_comm] using h

/-! ### What a lookup sees -/

lemma find?_insert? {t t' : Table idx} {r : ρ} (h : t.insert? r = some t') (k : κ) :
    t'.find? k = if idx r = k then some r else t.find? k := by
  obtain ⟨hn, hr⟩ := insert?_eq_some.mp h
  unfold find? at hn ⊢
  rw [hr, List.find?_append]
  by_cases hk : idx r = k
  · subst hk
    simp [hn]
  · cases List.find? (fun r => decide (idx r = k)) t.rows <;> simp [hk]

lemma find?_update (t : Table idx) (p : ρ → Bool) (f : ρ → ρ) (hf : ∀ r, idx (f r) = idx r)
    (k : κ) : (t.update p f hf).find? k = (t.find? k).map fun r => if p r then f r else r := by
  have hi : ∀ r, idx (if p r then f r else r) = idx r := fun r => by
    by_cases hp : p r <;> simp [hp, hf]
  unfold find? update
  simp only [List.find?_map]
  congr 2
  funext r
  simp [hi]

lemma find?_upsert (t : Table idx) (r : ρ) (k : κ) :
    (t.upsert r).find? k = if idx r = k then some r else t.find? k := by
  unfold upsert
  split
  next t' h => exact find?_insert? h k
  next h =>
    obtain ⟨r', hr'⟩ := insert?_eq_none.mp h
    obtain ⟨hm, hi⟩ := find?_eq_some.mp hr'
    by_cases hk : idx r = k
    · rw [if_pos hk, find?_eq_some]
      exact ⟨List.mem_map.mpr ⟨r', hm, by simp [hi]⟩, hk⟩
    · rw [if_neg hk]
      rcases hf : t.find? k with _ | x
      · rw [find?_eq_none] at hf ⊢
        intro y hy
        obtain ⟨x, hx, rfl⟩ := List.mem_map.mp hy
        by_cases hxr : idx x = idx r
        · simpa [hxr] using hk
        · simpa [hxr] using hf x hx
      · obtain ⟨hx, rfl⟩ := find?_eq_some.mp hf
        rw [find?_eq_some]
        exact ⟨List.mem_map.mpr ⟨x, hx, by simp [Ne.symm hk]⟩, rfl⟩

lemma find?_delete (t : Table idx) (p : ρ → Bool) (k : κ) :
    (t.delete p).find? k = (t.find? k).filter fun r => !p r := by
  rcases hf : t.find? k with _ | r
  · rw [find?_eq_none] at hf
    rw [Option.filter_none, find?_eq_none]
    exact fun r hr => hf r (List.mem_of_mem_filter hr)
  · obtain ⟨hr, rfl⟩ := find?_eq_some.mp hf
    by_cases hp : p r
    · rw [Option.filter_some, if_neg (by simp [hp]), find?_eq_none]
      intro x hx hxr
      have hx' := List.mem_filter.mp hx
      rw [eq_of_mem hx'.1 hr hxr] at hx'
      simp [hp] at hx'
    · rw [Option.filter_some, if_pos (by simp [hp]), find?_eq_some]
      exact ⟨List.mem_filter.mpr ⟨hr, by simp [hp]⟩, rfl⟩

/-! ### Deletion and replacement -/

section Commute

variable {t : Table idx} {r : ρ} {q : ρ → Bool}

lemma rows_upsert (t : Table idx) (r : ρ) : (t.upsert r).rows =
    if idx r ∈ t.rows.map idx then t.rows.map fun x => if idx x = idx r then r else x
    else t.rows ++ [r] := by
  unfold upsert
  split
  next t' h =>
    obtain ⟨hnone, hrows⟩ := insert?_eq_some.mp h
    have hnew : idx r ∉ t.rows.map idx := by
      rintro hm
      obtain ⟨x, hx, hxr⟩ := List.mem_map.mp hm
      exact find?_eq_none.mp hnone x hx hxr
    rw [hrows, if_neg hnew]
  next h =>
    obtain ⟨x, hx⟩ := insert?_eq_none.mp h
    obtain ⟨hm, hxr⟩ := find?_eq_some.mp hx
    rw [if_pos (List.mem_map.mpr ⟨x, hm, hxr⟩)]

/-- A row that is not deleted can be inserted or replaced before the deletion, which goes by the
index. -/
lemma delete_upsert (hq : ∀ a b, idx a = idx b → q a = q b) (hr : q r = false) :
    (t.upsert r).delete q = (t.delete q).upsert r := by
  have hmem : idx r ∈ (t.delete q).rows.map idx ↔ idx r ∈ t.rows.map idx := by
    constructor
    · intro h
      obtain ⟨x, hx, hxr⟩ := List.mem_map.mp h
      exact List.mem_map.mpr ⟨x, List.mem_of_mem_filter hx, hxr⟩
    · intro h
      obtain ⟨x, hx, hxr⟩ := List.mem_map.mp h
      exact List.mem_map.mpr ⟨x, List.mem_filter.mpr ⟨hx, by rw [hq x r hxr, hr]; rfl⟩, hxr⟩
  apply ext
  change (t.upsert r).rows.filter _ = _
  rw [rows_upsert, rows_upsert]
  by_cases h : idx r ∈ t.rows.map idx
  · have hkeep : ((fun x => !q x) ∘ fun x => if idx x = idx r then r else x) = fun x => !q x := by
      funext x
      by_cases hx : idx x = idx r
      · simp [hx, hq x r hx]
      · simp [hx]
    rw [if_pos h, if_pos (hmem.mpr h), List.filter_map, hkeep]
    rfl
  · rw [if_neg h, if_neg (h ∘ hmem.mp), List.filter_append]
    simp [hr, delete]

end Commute

end Table

end Sativa
