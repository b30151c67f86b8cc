import Sativa.SrmRuns

/-!
How the remote processor addresses a clock or a regulator: by its number, or by the name that it was
told.
-/

namespace Sativa.Srm

open Sativa

section Strings

variable {dest : Vector UInt8 16} {src : Bytes}

/-- What is copied, the NUL, and what is behind it. -/
lemma strscpy_toList : ∃ rest, (strscpy dest src).toList = src.take 15 ++ 0 :: rest := by
  have hlength : (src.take 15).length ≤ 15 := List.length_take_le _ _
  refine ⟨(strscpy dest src).toList.drop ((src.take 15).length + 1), ?_⟩
  refine List.ext_getElem (by simp; omega) fun i h₁ h₂ => ?_
  have hi : i < 16 := by simpa using h₁
  have hget : (strscpy dest src).toList[i] = if i < (src.take 15).length then
      (src.take 15).getD i 0 else if i = (src.take 15).length then 0 else dest[i] := by
    simp [strscpy]
  refine hget.trans ?_
  rcases Nat.lt_trichotomy i (src.take 15).length with hlt | heq | hgt
  · rw [if_pos hlt, List.getElem_append_left hlt, List.getD_eq_getElem?_getD,
      List.getElem?_eq_getElem hlt, Option.getD_some]
  · rw [if_neg (by omega), if_pos heq]
    simp [heq]
  · rw [if_neg (by omega), if_neg (by omega), List.getElem_append_right (by omega),
      List.getElem_cons, dif_neg (by omega), List.getElem_drop]
    have hindex : (src.take 15).length + 1 + (i - (src.take 15).length - 1) = i := by omega
    simp only [hindex]
    refine (hget.trans ?_).symm
    rw [if_neg (by omega), if_neg (by omega)]

lemma nameStr_of_strscpy {cfg : Cfg} {past : Bytes} (hsrc : 0 ∉ src)
    (hname : cfg.name = strscpy dest src) : cfg.nameStr past = src.take 15 := by
  obtain ⟨rest, hrest⟩ := @strscpy_toList dest src
  have hfree : 0 ∉ src.take 15 := fun h => hsrc (List.mem_of_mem_take h)
  unfold Cfg.nameStr Cfg.nameBytes
  rw [hname, hrest]
  simp only [List.append_assoc, List.cons_append]
  rw [cstr_append_of_not_mem hfree]
  simp [cstr]

end Strings

section Finding

variable {k : Kind} {dev : Dev} {i : ℕ} {info : Info} {index : UInt32} {name : Bytes}

lemma find_iff (hi : (dev.infos k)[i]? = some info) : find k dev index name = some (info, i) ↔
    info.Is index name ∧
      ∀ j < i, ∀ info' : Info, (dev.infos k)[j]? = some info' → ¬ info'.Is index name := by
  unfold find
  rw [List.find?_eq_some_iff_getElem]
  simp only [decide_eq_true_eq, Bool.not_eq_true', decide_eq_false_iff_not, List.getElem_zipIdx,
    List.length_zipIdx, Nat.zero_add]
  refine and_congr_right fun _ => ⟨?_, fun h => ?_⟩
  · rintro ⟨i', hlt, heq, hfirst⟩ j hj info' hinfo'
    obtain ⟨-, rfl⟩ := Prod.mk.inj heq
    obtain ⟨hlt', rfl⟩ := List.getElem?_eq_some_iff.mp hinfo'
    exact hfirst j hj
  · obtain ⟨hlt, rfl⟩ := List.getElem?_eq_some_iff.mp hi
    exact ⟨i, hlt, rfl, fun j hj => h j hj _ (List.getElem?_eq_getElem (hj.trans hlt))⟩

lemma ofNat_inj {i j : ℕ} (hi : i < 2 ^ 32) (hj : j < 2 ^ 32)
    (h : UInt32.ofNat i = UInt32.ofNat j) : i = j := by
  have hnat := congrArg UInt32.toNat h
  rwa [UInt32.toNat_ofNat_of_lt' hi, UInt32.toNat_ofNat_of_lt' hj] at hnat

end Finding

/-- What a reply tells about an entry, with the number taken away. -/
inductive Told (info : Info) : Cfg → Prop
  | clock (cfg : Cfg) (rate : ℤ) : Told info { clockCfg cfg info rate with index := U32_MAX }
  | regu (cfg : Cfg) (v : ℤ) : Told info { reguCfg cfg info v with index := U32_MAX }

/-- **Numbers and names**: in every reachable state, an entry of a device is found by its number;
and by the name that a reply told if and only if the name has at most 15 bytes and no entry before
has the same. -/
theorem entry_addressed (kernel : Kernel) {s : System} (hs : (machine kernel).Reachable s)
    {e : Entry} (he : e ∈ s.state.chain) {k : Kind} {i : ℕ} {info : Info}
    (hi : (e.dev.infos k)[i]? = some info) (hlength : (e.dev.infos k).length < 2 ^ 32) :
    (∀ name, find k e.dev (.ofNat i) name = some (info, i)) ∧
      ∀ cfg past, Told info cfg →
        (find k e.dev cfg.index (cfg.nameStr past) = some (info, i) ↔
          info.name.length ≤ 15 ∧
            ∀ j < i, ∀ info' : Info, (e.dev.infos k)[j]? = some info' →
              info'.name ≠ info.name) := by
  have hnumbered := (sound_of_reachable hs e he).numbered
  have hlt : i < (e.dev.infos k).length := (List.getElem?_eq_some_iff.mp hi).1
  -- by number: the indices are those of the positions, below 2^32 they differ and none is U32_MAX
  constructor
  · intro name
    have hvalid : UInt32.ofNat i ≠ U32_MAX := fun h => by
      have hmax : U32_MAX = UInt32.ofNat (2 ^ 32 - 1) := by decide
      have := ofNat_inj (by omega) (by omega) (h.trans hmax)
      omega
    refine (find_iff hi).mpr ⟨?_, fun j hj info' hinfo' his => ?_⟩
    · rw [Info.Is, if_pos hvalid]
      exact hnumbered.index k i info hi
    · rw [Info.Is, if_pos hvalid, hnumbered.index k j info' hinfo'] at his
      have := ofNat_inj (by omega) (by omega) his
      omega
  · intro cfg past htold
    -- what was told holds U32_MAX and the name cut to 15 bytes, so that it is looked up by name
    have hname : cfg.index = U32_MAX ∧ cfg.nameStr past = info.name.take 15 := by
      have hfree := hnumbered.name k info (List.mem_of_getElem? hi)
      cases htold with
      | clock cfg rate => exact ⟨rfl, nameStr_of_strscpy hfree rfl⟩
      | regu cfg v => exact ⟨rfl, nameStr_of_strscpy hfree rfl⟩
    have his : ∀ info' : Info, info'.Is cfg.index (cfg.nameStr past) ↔
        info'.name = info.name.take 15 := by
      intro info'
      rw [Info.Is, hname.1, hname.2, if_neg (not_not.mpr rfl)]
    have hshort : info.name = info.name.take 15 ↔ info.name.length ≤ 15 := by
      rw [eq_comm, List.take_eq_self_iff]
    rw [find_iff hi, his, hshort]
    refine and_congr_right fun hle => ?_
    have htake : info.name.take 15 = info.name := List.take_of_length_le hle
    simp only [his, htake, ne_eq]

theorem entry_addressed_sample : ∃ e info, sampleBound.state.chain[0]? = some e ∧
    (e.dev.infos .regu)[0]? = some info ∧ find .regu e.dev 0 [] = some (info, 0) := by
  have hregu : ∀ e ∈ sampleBound.state.chain, (e.dev.infos .regu).length = 1 := by decide +kernel
  have hlength : 0 < sampleBound.state.chain.length := by decide +kernel
  obtain ⟨e, he⟩ : ∃ e, sampleBound.state.chain[0]? = some e :=
    ⟨_, List.getElem?_eq_getElem hlength⟩
  have hone := hregu e (List.mem_of_getElem? he)
  obtain ⟨info, hi⟩ : ∃ info, (e.dev.infos .regu)[0]? = some info :=
    ⟨_, List.getElem?_eq_getElem (by omega)⟩
  exact ⟨e, info, he, hi, (entry_addressed sampleKernel reachable_sampleBound
    (List.mem_of_getElem? he) hi (by omega)).1 []⟩

end Sativa.Srm
