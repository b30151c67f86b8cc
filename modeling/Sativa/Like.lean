import Sativa.Buffer

/-!
SQLite's `LIKE` with its default meaning: `%` stands for any sequence of characters, `_` for
any one character, and ASCII letters match in either case.

Pattern and text are read as C strings in UTF-8. A character is a byte, and if that byte can
start a sequence, the continuation bytes after it.
-/

namespace Sativa.Like

open Sativa

/-- The characters of `cur ++ b`, where `cur` is the character read so far and `lead` tells
whether it takes continuation bytes. -/
def charsFrom (cur : Bytes) (lead : Bool) : Bytes → List Bytes
  | [] => [cur]
  | c :: b =>
    if lead ∧ 128 ≤ c ∧ c < 192 then charsFrom (cur ++ [c]) lead b
    else cur :: charsFrom [c] (192 ≤ c) b

/-- The characters of a UTF-8 text. -/
def chars : Bytes → List Bytes
  | [] => []
  | c :: b => charsFrom [c] (192 ≤ c) b

def toLower (c : UInt8) : UInt8 := if 65 ≤ c ∧ c ≤ 90 then c + 32 else c

/-- Equal characters, or ASCII letters that differ in case. -/
def sameChar : Bytes → Bytes → Bool
  | [a], [b] => if a < 128 ∧ b < 128 then toLower a == toLower b else a == b
  | a, b => a == b

def likeChars : List Bytes → List Bytes → Bool
  | [], s => s.isEmpty
  | p :: ps, s =>
    if p = ascii "%" then (List.range (s.length + 1)).any fun n => likeChars ps (s.drop n)
    else match s with
      | [] => false
      | c :: cs => (p == ascii "_" || sameChar p c) && likeChars ps cs

/-- `text LIKE pattern`. -/
def like (pattern text : Bytes) : Bool := likeChars (chars (cstr pattern)) (chars (cstr text))

example : like (ascii "Net.%") (ascii "net.eth0") = true := by decide
example : like (ascii "a_.%") ([97, 226, 130, 172] ++ ascii ".b") = true := by decide
example : like (ascii "a_.%") (ascii "a.b") = false := by decide

/-! ### Literal parts -/

lemma charsFrom_ascii {c : UInt8} (hc : c < 128) (b : Bytes) :
    charsFrom [c] (192 ≤ c) b = [c] :: chars b := by
  have hlead : ¬ 192 ≤ c := fun h =>
    absurd (UInt8.le_trans (by decide : (128 : UInt8) ≤ 192) h) (UInt8.not_le.mpr hc)
  cases b <;> simp [charsFrom, chars, hlead]

lemma charsFrom_append_ascii {c : UInt8} (hc : c < 128) (cur : Bytes) (lead : Bool) (a b : Bytes) :
    charsFrom cur lead (a ++ c :: b) = charsFrom cur lead a ++ [c] :: chars b := by
  induction a generalizing cur lead with
  | nil =>
    have hnext : charsFrom cur lead (c :: b) = cur :: charsFrom [c] (192 ≤ c) b :=
      if_neg fun h => absurd h.2.1 (UInt8.not_le.mpr hc)
    rw [List.nil_append, hnext, charsFrom_ascii hc]
    rfl
  | cons d a ih =>
    rw [List.cons_append, charsFrom, charsFrom]
    split_ifs
    · exact ih _ _
    · rw [ih, List.cons_append]

/-- An ASCII byte is a character, and separates those before it from those after it. -/
lemma chars_append_ascii {c : UInt8} (hc : c < 128) (a b : Bytes) :
    chars (a ++ c :: b) = chars a ++ [c] :: chars b := by
  cases a with
  | nil => exact charsFrom_ascii hc b
  | cons d a => exact charsFrom_append_ascii hc _ _ a b

lemma sameChar_self (a : Bytes) : sameChar a a = true := by
  unfold sameChar
  split <;> simp

lemma likeChars_percent_cons (ps cs : List Bytes) : likeChars (ascii "%" :: ps) cs =
    (List.range (cs.length + 1)).any fun n => likeChars ps (cs.drop n) := by
  cases cs <;> rfl

lemma likeChars_cons {p : Bytes} (hp : p ≠ ascii "%") (ps : List Bytes) (c : Bytes)
    (cs : List Bytes) : likeChars (p :: ps) (c :: cs) =
      ((p == ascii "_" || sameChar p c) && likeChars ps cs) := if_neg hp

lemma likeChars_append_self (cs ps rest : List Bytes) (h : likeChars ps rest = true) :
    likeChars (cs ++ ps) (cs ++ rest) = true := by
  induction cs with
  | nil => exact h
  | cons c cs ih =>
    have hsame : sameChar c c = true := sameChar_self c
    rw [List.cons_append, List.cons_append]
    by_cases hc : c = ascii "%"
    · rw [hc, likeChars_percent_cons]
      exact List.any_eq_true.mpr ⟨1, by simp, ih⟩
    · rw [likeChars_cons hc, hsame, ih]
      simp

lemma likeChars_percent (cs : List Bytes) : likeChars [ascii "%"] cs = true := by
  rw [likeChars_percent_cons]
  exact List.any_eq_true.mpr ⟨cs.length, by simp, by simp [likeChars]⟩

lemma like_of_prefix {a b : Bytes} (ha : 0 ∉ a) (hb : 0 ∉ b) :
    like (a ++ ascii ".%") (a ++ ascii "." ++ b) = true := by
  have hpattern : 0 ∉ a ++ ascii ".%" := by
    simp only [List.mem_append, not_or]
    exact ⟨ha, by decide⟩
  have htext : 0 ∉ a ++ ascii "." ++ b := by
    simp only [List.mem_append, not_or]
    exact ⟨⟨ha, by decide⟩, hb⟩
  have hchars : chars (a ++ ascii ".%") = chars a ++ [ascii ".", ascii "%"] :=
    chars_append_ascii (c := 46) (by decide) a (ascii "%")
  have htail : chars (a ++ ascii "." ++ b) = chars a ++ ascii "." :: chars b := by
    rw [List.append_assoc]
    exact chars_append_ascii (c := 46) (by decide) a b
  rw [like, cstr_of_not_mem hpattern, cstr_of_not_mem htext, hchars, htail]
  refine likeChars_append_self _ _ _ ?_
  exact likeChars_append_self [ascii "."] _ _ (likeChars_percent _)

/-! ### Patterns without wildcards -/

/-- Equal up to the case of ASCII letters. -/
def SameCase (a b : Bytes) : Prop := a.map toLower = b.map toLower

lemma SameCase.length_eq {a b : Bytes} (h : SameCase a b) : a.length = b.length := by
  have hlen := congrArg List.length h
  rwa [List.length_map, List.length_map] at hlen

lemma flatten_charsFrom (cur : Bytes) (lead : Bool) (b : Bytes) :
    (charsFrom cur lead b).flatten = cur ++ b := by
  induction b generalizing cur lead with
  | nil => simp [charsFrom]
  | cons c b ih =>
    rw [charsFrom]
    split_ifs
    · rw [ih, List.append_assoc]
      rfl
    · rw [List.flatten_cons, ih]
      rfl

lemma flatten_chars (b : Bytes) : (chars b).flatten = b := by
  cases b with
  | nil => rfl
  | cons c b => exact flatten_charsFrom _ _ _

lemma toNat_toLower (c : UInt8) : (toLower c).toNat =
    if 65 ≤ c.toNat ∧ c.toNat ≤ 90 then c.toNat + 32 else c.toNat := by
  unfold toLower
  simp only [UInt8.le_iff_toNat_le]
  change (if 65 ≤ c.toNat ∧ c.toNat ≤ 90 then c + 32 else c).toNat = _
  split_ifs with h
  · rw [UInt8.toNat_add]
    change (c.toNat + 32) % 2 ^ 8 = _
    omega
  · rfl

lemma toLower_inj {c d : UInt8} (h : toLower c = toLower d) (hc : 128 ≤ c) : c = d := by
  have hn := congrArg UInt8.toNat h
  have hc' : 128 ≤ c.toNat := UInt8.le_iff_toNat_le.mp hc
  rw [toNat_toLower, toNat_toLower] at hn
  apply UInt8.toNat_inj.mp
  split_ifs at hn <;> omega

lemma sameCase_of_sameChar {a b : Bytes} (h : sameChar a b = true) : SameCase a b := by
  unfold sameChar at h
  split at h
  · split_ifs at h
    · exact congrArg (fun c => [c]) (by simpa using h)
    · rw [beq_iff_eq.mp h]
      rfl
  · rw [beq_iff_eq.mp h]
    rfl

lemma sameChar_of_toLower {c d : UInt8} (h : toLower c = toLower d) : sameChar [c] [d] = true := by
  change (if c < 128 ∧ d < 128 then toLower c == toLower d else c == d) = true
  split_ifs with hascii
  · simpa using h
  · have heq : c = d := by
      by_cases hc : 128 ≤ c
      · exact toLower_inj h hc
      · by_cases hd : 128 ≤ d
        · exact (toLower_inj h.symm hd).symm
        · exact absurd ⟨UInt8.not_le.mp hc, UInt8.not_le.mp hd⟩ hascii
    simp [heq]

lemma charsFrom_sameCase {a b cur cur' : Bytes} {lead : Bool} (hcur : sameChar cur cur' = true)
    (hlead : lead = true → cur = cur') (h : SameCase a b) :
    List.Forall₂ (fun p c => sameChar p c = true) (charsFrom cur lead a)
      (charsFrom cur' lead b) := by
  induction a generalizing b cur cur' lead with
  | nil =>
    cases b with
    | nil => exact .cons hcur .nil
    | cons d b => cases h
  | cons c a ih =>
    cases b with
    | nil => cases h
    | cons d b =>
      obtain ⟨hhead, htail⟩ := List.cons.inj h
      -- only ASCII letters have another case, so the characters end at the same places
      have hhigh : 128 ≤ c ∨ 128 ≤ d → c = d := by
        rintro (hc | hd)
        · exact toLower_inj hhead hc
        · exact (toLower_inj hhead.symm hd).symm
      have hsame : (lead = true ∧ 128 ≤ c ∧ c < 192) ↔ (lead = true ∧ 128 ≤ d ∧ d < 192) :=
        ⟨fun hc => (hhigh (.inl hc.2.1)) ▸ hc, fun hd => (hhigh (.inr hd.2.1)) ▸ hd⟩
      rw [charsFrom, charsFrom]
      by_cases hcont : lead = true ∧ 128 ≤ c ∧ c < 192
      · rw [if_pos hcont, if_pos (hsame.mp hcont), hlead hcont.1, hhigh (.inl hcont.2.1)]
        exact ih (sameChar_self _) (fun _ => rfl) htail
      · rw [if_neg hcont, if_neg fun hd => hcont (hsame.mpr hd)]
        have hlow : ∀ {x : UInt8}, 192 ≤ x → 128 ≤ x := UInt8.le_trans (by decide)
        have hnext : 192 ≤ c ↔ 192 ≤ d :=
          ⟨fun hc => hhigh (.inl (hlow hc)) ▸ hc, fun hd => (hhigh (.inr (hlow hd))).symm ▸ hd⟩
        rw [decide_eq_decide.mpr hnext]
        refine .cons hcur (ih (sameChar_of_toLower hhead) (fun hd => ?_) htail)
        rw [hhigh (.inr (hlow (of_decide_eq_true hd)))]

lemma chars_sameCase {a b : Bytes} (h : SameCase a b) :
    List.Forall₂ (fun p c => sameChar p c = true) (chars a) (chars b) := by
  have hnil : ∀ c x, charsFrom [] false (c :: x) = [] :: chars (c :: x) := fun c x =>
    if_neg fun h => by cases h.1
  cases a with
  | nil =>
    cases b with
    | nil => exact .nil
    | cons d b => cases h
  | cons c a =>
    cases b with
    | nil => cases h
    | cons d b =>
      have hall := @charsFrom_sameCase (c :: a) (d :: b) [] [] false rfl (fun _ => rfl) h
      rw [hnil, hnil] at hall
      exact (List.forall₂_cons.mp hall).2

lemma likeChars_plain {ps : List Bytes} (hplain : ∀ p ∈ ps, p ≠ ascii "%" ∧ p ≠ ascii "_")
    {cs : List Bytes} : likeChars (ps ++ [ascii "%"]) cs = true ↔
      ∃ l r, cs = l ++ r ∧ List.Forall₂ (fun p c => sameChar p c = true) ps l := by
  induction ps generalizing cs with
  | nil => exact iff_of_true (likeChars_percent cs) ⟨[], cs, rfl, .nil⟩
  | cons p ps ih =>
    obtain ⟨⟨hpercent, hunder⟩, hplain⟩ := List.forall_mem_cons.mp hplain
    -- without a wildcard in front, the first characters have to match
    cases cs with
    | nil =>
      refine iff_of_false ?_ ?_
      · have hnil : likeChars (p :: (ps ++ [ascii "%"])) [] = false := if_neg hpercent
        rw [List.cons_append, hnil]
        simp
      · rintro ⟨l, r, hnil, hl⟩
        cases hl
        cases hnil
    | cons c cs =>
      rw [List.cons_append, likeChars_cons hpercent]
      simp only [beq_eq_false_iff_ne.mpr hunder, Bool.false_or, Bool.and_eq_true, ih hplain]
      constructor
      · rintro ⟨hsame, l, r, rfl, hl⟩
        exact ⟨c :: l, r, rfl, .cons hsame hl⟩
      · rintro ⟨l, r, hcs, hl⟩
        cases hl with
        | cons hsame hl =>
          cases hcs
          exact ⟨hsame, _, _, rfl, hl⟩

lemma sameCase_flatten {l l' : List Bytes}
    (h : List.Forall₂ (fun p c => sameChar p c = true) l l') : SameCase l.flatten l'.flatten := by
  induction h with
  | nil => rfl
  | cons hsame _ ih =>
    unfold SameCase at ih ⊢
    rw [List.flatten_cons, List.flatten_cons, List.map_append, List.map_append,
      sameCase_of_sameChar hsame, ih]

lemma eq_dot_of_toLower {c : UInt8} (h : toLower c = toLower 46) : c = 46 := by
  have hn := congrArg UInt8.toNat h
  rw [toNat_toLower, toNat_toLower] at hn
  apply UInt8.toNat_inj.mp
  change _ = (if 65 ≤ 46 ∧ 46 ≤ 90 then 46 + 32 else 46) at hn
  change c.toNat = 46
  split_ifs at hn <;> omega

lemma SameCase.dot {a b : Bytes} (h : SameCase (a ++ ascii ".") b) : ∃ b₁, b = b₁ ++ [46] := by
  have hmap : b.map toLower = a.map toLower ++ [toLower 46] := by
    rw [← show SameCase _ _ from h, List.map_append]
    rfl
  obtain ⟨b₁, l, rfl, -, hlast⟩ := List.map_eq_append_iff.mp hmap
  obtain ⟨c, rfl, hc⟩ := List.map_eq_singleton_iff.mp hlast
  exact ⟨b₁, by rw [eq_dot_of_toLower hc]⟩

lemma plain_chars {a : Bytes} (hplain : 37 ∉ a ∧ 95 ∉ a) :
    ∀ p ∈ chars a ++ [ascii "."], p ≠ ascii "%" ∧ p ≠ ascii "_" := by
  intro p hp
  rcases List.mem_append.mp hp with hp | hp
  · have hmem : ∀ x ∈ p, x ∈ a := by
      intro x hx
      rw [← flatten_chars a]
      exact List.mem_flatten.mpr ⟨p, hp, hx⟩
    exact ⟨fun he => hplain.1 (hmem 37 (he ▸ by decide)),
      fun he => hplain.2 (hmem 95 (he ▸ by decide))⟩
  · rw [List.mem_singleton.mp hp]
    decide

/-- The pattern of a text without wildcards matches what starts with the text and a period, in
whatever case. -/
lemma like_plain_iff {a b : Bytes} (ha : 0 ∉ a) (hb : 0 ∉ b) (hplain : 37 ∉ a ∧ 95 ∉ a) :
    like (a ++ ascii ".%") b = true ↔ SameCase (a ++ ascii ".") (b.take (a.length + 1)) := by
  have hpattern : 0 ∉ a ++ ascii ".%" := by
    simp only [List.mem_append, not_or]
    exact ⟨ha, by decide⟩
  have hchars : chars (a ++ ascii ".%") = (chars a ++ [ascii "."]) ++ [ascii "%"] := by
    rw [List.append_assoc]
    exact chars_append_ascii (c := 46) (by decide) a (ascii "%")
  rw [like, cstr_of_not_mem hpattern, cstr_of_not_mem hb, hchars,
    likeChars_plain (plain_chars hplain)]
  constructor
  · rintro ⟨l, r, hcs, hl⟩
    have hsame := sameCase_flatten hl
    rw [List.flatten_append, flatten_chars] at hsame
    have hlen : l.flatten.length = a.length + 1 := by
      rw [← SameCase.length_eq hsame, List.length_append]
      rfl
    have hb : b = l.flatten ++ r.flatten := by rw [← List.flatten_append, ← hcs, flatten_chars]
    rw [hb, List.take_left' hlen]
    exact hsame
  · intro h
    -- the period is a character of its own, and parts what matches from the rest
    obtain ⟨b₁, htake⟩ := h.dot
    have hsplit : b = b₁ ++ 46 :: b.drop (a.length + 1) := by
      conv_lhs => rw [← List.take_append_drop (a.length + 1) b, htake]
      simp
    have hhead := chars_sameCase (htake ▸ h)
    rw [chars_append_ascii (c := 46) (by decide) b₁ []] at hhead
    refine ⟨chars b₁ ++ [ascii "."], chars (b.drop (a.length + 1)), ?_, ?_⟩
    · rw [List.append_assoc]
      conv_lhs => rw [hsplit]
      exact chars_append_ascii (by decide) b₁ _
    · have hdot : chars (a ++ ascii ".") = chars a ++ [ascii "."] :=
        chars_append_ascii (c := 46) (by decide) a []
      rwa [hdot] at hhead

end Sativa.Like
