import Sativa.Cbor
import Mathlib.Tactic.Ring
import Mathlib.Data.List.Forall2

/-!
A codec for CBOR after RFC 8949, and the proof that it satisfies the laws of `Libcbor`.

The decoder follows the nesting of the input with a fuel that the length of the input
bounds. A definite container carries the number of its entries, an indefinite one ends at
the break byte.
-/

namespace Sativa.Cbor

/-! ### Big-endian arguments -/

def be : ℕ → ℕ → Bytes
  | 0, _ => []
  | w + 1, v => UInt8.ofNat (v / 256 ^ w) :: be w v

def ofBe (b : Bytes) : ℕ := b.foldl (fun n c => 256 * n + c.toNat) 0

@[simp] lemma length_be (w v : ℕ) : (be w v).length = w := by
  induction w with
  | zero => rfl
  | succ w ih => simp [be, ih]

lemma foldl_be (w v acc : ℕ) : (be w v).foldl (fun n c => 256 * n + c.toNat) acc =
    acc * 256 ^ w + v % 256 ^ w := by
  induction w generalizing acc with
  | zero => simp [be, Nat.mod_one]
  | succ w ih =>
    rw [be, List.foldl_cons, ih, UInt8.toNat_ofNat', show (2 : ℕ) ^ 8 = 256 from rfl,
      Nat.pow_succ, Nat.mod_mul]
    ring

lemma ofBe_be {w v : ℕ} (h : v < 256 ^ w) : ofBe (be w v) = v := by
  rw [ofBe, foldl_be, Nat.mod_eq_of_lt h]
  simp

/-! ### Encoder -/

/-- An initial byte of major type `major` with the argument `v` in `w` bytes after it. -/
def wide (major info w v : ℕ) : Bytes := UInt8.ofNat (32 * major + info) :: be w v

/-- The shortest head with argument `n`. -/
def head (major n : ℕ) : Bytes :=
  if n < 24 then wide major n 0 0
  else if n < 2 ^ 8 then wide major 24 1 n
  else if n < 2 ^ 16 then wide major 25 2 n
  else if n < 2 ^ 32 then wide major 26 4 n
  else wide major 27 8 n

def encodeInt (major : ℕ) : IntWidth → UInt64 → Bytes
  | .int8, v => if v.toNat < 24 then wide major v.toNat 0 0 else wide major 24 1 v.toNat
  | .int16, v => wide major 25 2 v.toNat
  | .int32, v => wide major 26 4 v.toNat
  | .int64, v => wide major 27 8 v.toNat

def encodeChunks (major : ℕ) (chunks : List Bytes) : Bytes :=
  wide major 31 0 0 ++ chunks.flatMap (fun b => head major b.length ++ b) ++ [255]

mutual

def encode : Item → Bytes
  | .uint w v => encodeInt 0 w v
  | .negint w v => encodeInt 1 w v
  | .bytestring b => head 2 b.length ++ b
  | .bytestringIndef chunks => encodeChunks 2 chunks
  | .string b => head 3 b.length ++ b
  | .stringIndef chunks => encodeChunks 3 chunks
  | .array l => head 4 l.length ++ encodeItems l
  | .map l => head 5 l.length ++ encodePairs l
  | .tag n i => head 6 n.toNat ++ encode i
  | .float2 b => wide 7 25 2 b.toNat
  | .float4 b => wide 7 26 4 b.toNat
  | .float8 b => wide 7 27 8 b.toNat
  | .ctrl v => if v.toNat < 24 then wide 7 v.toNat 0 0 else wide 7 24 1 v.toNat

def encodeItems : List Item → Bytes
  | [] => []
  | i :: l => encode i ++ encodeItems l

def encodePairs : List (Item × Item) → Bytes
  | [] => []
  | (k, v) :: l => encode k ++ (encode v ++ encodePairs l)

end

/-! ### Decoder -/

/-- Major type, additional information, argument and the bytes after the head. -/
def splitHead : Bytes → Option (ℕ × ℕ × ℕ × Bytes)
  | [] => none
  | c :: b =>
    let major := c.toNat / 32
    let info := c.toNat % 32
    if info < 24 then some (major, info, info, b)
    else if info = 31 then some (major, info, 0, b)
    else if info < 28 then
      let w := 2 ^ (info - 24)
      if b.length < w then none else some (major, info, ofBe (b.take w), b.drop w)
    else none

def widthOf (info : ℕ) : IntWidth :=
  if info = 27 then .int64 else if info = 26 then .int32 else if info = 25 then .int16 else .int8

/-- The `n` bytes of a string, and the rest. -/
def takeBytes (n : ℕ) (b : Bytes) : Option (Bytes × Bytes) :=
  if b.length < n then none else some (b.take n, b.drop n)

/-- The `n` bytes of a text, which have to be UTF-8. -/
def takeText (n : ℕ) (b : Bytes) : Option (Bytes × Bytes) :=
  (takeBytes n b).filter fun p => Utf8.Valid p.1

/-- The definite chunks of an indefinite string, up to the break. -/
def decodeChunks (major : ℕ) : ℕ → Bytes → Option (List Bytes × Bytes)
  | 0, _ => none
  | fuel + 1, b =>
    if b.head? = some 255 then some ([], b.tail)
    else do
      let (m, info, n, rest) ← splitHead b
      if m ≠ major ∨ info = 31 then none
      let (chunk, rest) ← takeBytes n rest
      if major = 3 ∧ ¬ Utf8.Valid chunk then none
      let (l, rest) ← decodeChunks major fuel rest
      some (chunk :: l, rest)

mutual

def decodeItem : ℕ → Bytes → Option (Item × Bytes)
  | 0, _ => none
  | fuel + 1, b =>
    match splitHead b with
    | none => none
    | some (major, info, n, rest) =>
      match major, decide (info = 31) with
      | 0, false => some (.uint (widthOf info) (UInt64.ofNat n), rest)
      | 1, false => some (.negint (widthOf info) (UInt64.ofNat n), rest)
      | 2, false => (takeBytes n rest).map fun p => (.bytestring p.1, p.2)
      | 2, true => (decodeChunks 2 fuel rest).map fun p => (.bytestringIndef p.1, p.2)
      | 3, false => (takeText n rest).map fun p => (.string p.1, p.2)
      | 3, true => (decodeChunks 3 fuel rest).map fun p => (.stringIndef p.1, p.2)
      | 4, indef => (decodeItems fuel (if indef then none else some n) rest).map
          fun p => (.array p.1, p.2)
      | 5, indef => (decodePairs fuel (if indef then none else some n) rest).map
          fun p => (.map p.1, p.2)
      | 6, false => (decodeItem fuel rest).map fun p => (.tag (UInt64.ofNat n) p.1, p.2)
      | 7, false =>
        if info = 25 then some (.float2 (UInt16.ofNat n), rest)
        else if info = 26 then some (.float4 (UInt32.ofNat n), rest)
        else if info = 27 then some (.float8 (UInt64.ofNat n), rest)
        else some (.ctrl (UInt8.ofNat n), rest)
      | _, _ => none

def decodeItems : ℕ → Option ℕ → Bytes → Option (List Item × Bytes)
  | 0, _, _ => none
  | fuel + 1, count, b =>
    if count = some 0 then some ([], b)
    else if count = none ∧ b.head? = some 255 then some ([], b.tail)
    else match decodeItem fuel b with
      | none => none
      | some (i, b) =>
        (decodeItems fuel (count.map (· - 1)) b).map fun p => (i :: p.1, p.2)

def decodePairs : ℕ → Option ℕ → Bytes → Option (List (Item × Item) × Bytes)
  | 0, _, _ => none
  | fuel + 1, count, b =>
    if count = some 0 then some ([], b)
    else if count = none ∧ b.head? = some 255 then some ([], b.tail)
    else match decodeItem fuel b with
      | none => none
      | some (k, b) =>
        match decodeItem fuel b with
        | none => none
        | some (v, b) =>
          (decodePairs fuel (count.map (· - 1)) b).map fun p => ((k, v) :: p.1, p.2)

end

/-- The first item of the input; what follows it is not looked at. -/
def decode (b : Bytes) : Option Item := (decodeItem (b.length + 2) b).map Prod.fst

/-! ### Heads -/

lemma toNat_initial {major info : ℕ} (hm : major < 8) (hi : info < 32) :
    (UInt8.ofNat (32 * major + info)).toNat = 32 * major + info := by
  rw [UInt8.toNat_ofNat']
  omega

/-- Additional information `info` announces `w` bytes of argument. -/
inductive Announces : ℕ → ℕ → Prop
  | one : Announces 24 1
  | two : Announces 25 2
  | four : Announces 26 4
  | eight : Announces 27 8

lemma splitHead_wide {major info w v : ℕ} (hm : major < 8) (ha : Announces info w)
    (hv : v < 256 ^ w) (rest : Bytes) :
    splitHead (wide major info w v ++ rest) = some (major, info, v, rest) := by
  have hi : 24 ≤ info ∧ info < 28 := by cases ha <;> omega
  have hw : 2 ^ (info - 24) = w := by cases ha <;> rfl
  have hc := toNat_initial hm (show info < 32 by omega)
  have hd : (32 * major + info) / 32 = major := by omega
  have hr : (32 * major + info) % 32 = info := by omega
  have hlen : ¬ (be w v ++ rest).length < w := by
    rw [List.length_append, length_be]
    omega
  simp only [wide, List.cons_append, splitHead, hc, hd, hr, hw]
  rw [if_neg (by omega), if_neg (by omega), if_pos hi.2, if_neg hlen,
    List.take_left' (length_be w v), List.drop_left' (length_be w v), ofBe_be hv]

lemma splitHead_wide_take {major info w v n : ℕ} (hm : major < 8) (ha : Announces info w)
    (hn : n < w + 1) : splitHead ((wide major info w v).take n) = none := by
  have hi : info < 32 := by cases ha <;> omega
  have hc := toNat_initial hm hi
  have hr : (32 * major + info) % 32 = info := by omega
  cases n with
  | zero => rfl
  | succ n =>
    simp only [wide, List.take_succ_cons, splitHead, hc, hr]
    cases ha <;> simp <;> omega

lemma splitHead_short {major n : ℕ} (hm : major < 8) (hn : n < 24) (rest : Bytes) :
    splitHead (wide major n 0 0 ++ rest) = some (major, n, n, rest) := by
  have hc := toNat_initial hm (show n < 32 by omega)
  have hd : (32 * major + n) / 32 = major := by omega
  have hr : (32 * major + n) % 32 = n := by omega
  simp only [wide, be, List.cons_append, List.nil_append, splitHead, hc, hd, hr]
  exact if_pos hn

lemma splitHead_head {major n : ℕ} (hm : major < 8) (hn : n < 2 ^ 64) (rest : Bytes) :
    ∃ info ≠ 31, splitHead (head major n ++ rest) = some (major, info, n, rest) := by
  unfold head
  split_ifs
  · exact ⟨n, by omega, splitHead_short hm (by omega) rest⟩
  · exact ⟨24, by omega, splitHead_wide hm .one (by omega) rest⟩
  · exact ⟨25, by omega, splitHead_wide hm .two (by omega) rest⟩
  · exact ⟨26, by omega, splitHead_wide hm .four (by omega) rest⟩
  · exact ⟨27, by omega, splitHead_wide hm .eight (by omega) rest⟩

lemma length_wide (major info w v : ℕ) : (wide major info w v).length = w + 1 := by
  simp [wide]

lemma length_head (major n : ℕ) : (head major n).length = headSize n := by
  unfold head headSize
  split_ifs <;> simp [length_wide]

lemma splitHead_head_take {major m n : ℕ} (hm : major < 8) (hn : n < (head major m).length) :
    splitHead ((head major m).take n) = none := by
  unfold head at hn ⊢
  split_ifs at hn ⊢ <;> rw [length_wide] at hn
  · rw [show n = 0 by omega]; rfl
  · exact splitHead_wide_take hm .one hn
  · exact splitHead_wide_take hm .two hn
  · exact splitHead_wide_take hm .four hn
  · exact splitHead_wide_take hm .eight hn

/-! ### Scalars -/

lemma takeBytes_append (b rest : Bytes) : takeBytes b.length (b ++ rest) = some (b, rest) := by
  simp [takeBytes]

lemma takeBytes_short {b : Bytes} {n : ℕ} (h : b.length < n) : takeBytes n b = none := if_pos h

lemma takeText_append {b : Bytes} (h : Utf8.Valid b) (rest : Bytes) :
    takeText b.length (b ++ rest) = some (b, rest) := by
  simp [takeText, takeBytes_append, h]

lemma takeText_invalid {b : Bytes} (h : ¬ Utf8.Valid b) (rest : Bytes) :
    takeText b.length (b ++ rest) = none := by
  simp [takeText, takeBytes_append, h]

lemma takeText_short {b : Bytes} {n : ℕ} (h : b.length < n) : takeText n b = none := by
  simp [takeText, takeBytes_short h]

lemma decodeItem_encode {i : Item} (h : i.Scalar) (hr : i.Readable) (fuel : ℕ) (rest : Bytes) :
    decodeItem (fuel + 1) (encode i ++ rest) = some (i, rest) := by
  match i, h with
  | .uint .int64 v, _ =>
    have hs := splitHead_wide (show 0 < 8 by omega) .eight v.toNat_lt rest
    simp [encode, encodeInt, decodeItem, hs, widthOf]
  | .bytestring b, h =>
    obtain ⟨info, hi, hs⟩ := splitHead_head (show 2 < 8 by omega) h (b ++ rest)
    simp [encode, decodeItem, hs, hi, takeBytes_append]
  | .string b, h =>
    obtain ⟨info, hi, hs⟩ := splitHead_head (show 3 < 8 by omega) h (b ++ rest)
    have hvalid : Utf8.Valid b := hr
    simp [encode, decodeItem, hs, hi, takeText_append hvalid]
  | .float4 b, _ =>
    have hs := splitHead_wide (show 7 < 8 by omega) .four b.toNat_lt rest
    simp [encode, decodeItem, hs]
  | .float8 b, _ =>
    have hs := splitHead_wide (show 7 < 8 by omega) .eight b.toNat_lt rest
    simp [encode, decodeItem, hs]
  | .ctrl v, h =>
    have hv : v.toNat < 24 := by rcases h with rfl | rfl | rfl <;> decide
    have hs := splitHead_short (show 7 < 8 by omega) hv rest
    simp only [encode, if_pos hv, decodeItem, hs]
    rcases h with rfl | rfl | rfl <;> rfl

lemma decodeItem_unreadable {i : Item} (h : i.Scalar) (hr : ¬ i.Readable) (fuel : ℕ)
    (rest : Bytes) : decodeItem fuel (encode i ++ rest) = none := by
  cases i with
  | string b =>
    cases fuel with
    | zero => rfl
    | succ fuel =>
      obtain ⟨info, hi, hs⟩ := splitHead_head (show 3 < 8 by omega) h (b ++ rest)
      have hinvalid : ¬ Utf8.Valid b := hr
      simp [encode, decodeItem, hs, hi, takeText_invalid hinvalid]
  | _ => exact absurd trivial hr

lemma splitHead_text_take {major n : ℕ} {b : Bytes} (hm : major < 8) (hb : b.length < 2 ^ 64)
    (hn : n < (head major b.length ++ b).length) :
    splitHead ((head major b.length ++ b).take n) = none ∨
    ∃ info ≠ 31, ∃ r, splitHead ((head major b.length ++ b).take n) =
      some (major, info, b.length, r) ∧ r.length < b.length := by
  rcases Nat.lt_or_ge n (head major b.length).length with hlt | hge
  · left
    rw [List.take_append_of_le_length hlt.le]
    exact splitHead_head_take hm hlt
  · right
    obtain ⟨info, hi, hs⟩ := splitHead_head hm hb (b.take (n - (head major b.length).length))
    rw [List.take_append, List.take_of_length_le hge]
    refine ⟨info, hi, _, hs, ?_⟩
    rw [List.length_append] at hn
    rw [List.length_take]
    omega

lemma decodeItem_take {i : Item} (h : i.Scalar) (fuel : ℕ) {n : ℕ} (hn : n < (encode i).length) :
    decodeItem fuel ((encode i).take n) = none := by
  cases fuel with
  | zero => rfl
  | succ fuel =>
    -- of a number the head is cut, of a text the head or the bytes behind it
    match i, h with
    | .uint .int64 v, _ =>
      rw [encode, encodeInt, length_wide] at hn
      simp [encode, encodeInt, decodeItem, splitHead_wide_take (show 0 < 8 by omega) .eight hn]
    | .bytestring b, h =>
      rw [encode] at hn ⊢
      rcases splitHead_text_take (show 2 < 8 by omega) h hn with hs | ⟨info, hi, r, hs, hr⟩
      · simp [decodeItem, hs]
      · simp [decodeItem, hs, hi, takeBytes_short hr]
    | .string b, h =>
      rw [encode] at hn ⊢
      rcases splitHead_text_take (show 3 < 8 by omega) h hn with hs | ⟨info, hi, r, hs, hr⟩
      · simp [decodeItem, hs]
      · simp [decodeItem, hs, hi, takeText_short hr]
    | .float4 b, _ =>
      rw [encode, length_wide] at hn
      simp [encode, decodeItem, splitHead_wide_take (show 7 < 8 by omega) .four hn]
    | .float8 b, _ =>
      rw [encode, length_wide] at hn
      simp [encode, decodeItem, splitHead_wide_take (show 7 < 8 by omega) .eight hn]
    | .ctrl v, h =>
      have hv : v.toNat < 24 := by rcases h with rfl | rfl | rfl <;> decide
      rw [encode, if_pos hv, length_wide] at hn
      rw [show n = 0 by omega]
      rfl

lemma length_encode {i : Item} (h : i.Scalar) : (encode i).length = i.size := by
  match i, h with
  | .uint .int64 v, _ => simp [encode, encodeInt, length_wide, Item.size]
  | .bytestring b, _ => simp [encode, length_head, Item.size]
  | .string b, _ => simp [encode, length_head, Item.size]
  | .float4 b, _ => simp [encode, length_wide, Item.size]
  | .float8 b, _ => simp [encode, length_wide, Item.size]
  | .ctrl v, h =>
    have hv : v.toNat < 24 := by rcases h with rfl | rfl | rfl <;> decide
    simp [encode, hv, length_wide, Item.size]

/-! ### Maps of scalars -/

/-- Keys and values are scalars. -/
def Scalars (l : List (Item × Item)) : Prop := ∀ p ∈ l, p.1.Scalar ∧ p.2.Scalar

lemma Simple.scalars {l : List (Item × Item)} (h : Simple l) : Scalars l := by
  intro p hp
  obtain ⟨b, hb, hlen⟩ := h.keys p hp
  exact ⟨by rw [hb]; exact hlen, h.values p hp⟩

lemma decodePairs_some_succ (fuel n : ℕ) (b : Bytes) :
    decodePairs (fuel + 1) (some (n + 1)) b =
      match decodeItem fuel b with
      | none => none
      | some (k, b) =>
        match decodeItem fuel b with
        | none => none
        | some (v, b) => (decodePairs fuel (some n) b).map fun p => ((k, v) :: p.1, p.2) := by
  simp [decodePairs]

lemma decodePairs_encode {l : List (Item × Item)} (h : Scalars l) (hr : Readable l) (k : ℕ)
    (rest : Bytes) :
    decodePairs (l.length + 1 + k) (some l.length) (encodePairs l ++ rest) = some (l, rest) := by
  induction l with
  | nil => simp [encodePairs, decodePairs, Nat.add_comm 1 k]
  | cons p l ih =>
    obtain ⟨key, value⟩ := p
    obtain ⟨hk, hv⟩ := h _ List.mem_cons_self
    obtain ⟨⟨hkr, hvr⟩, hr⟩ := Readable.cons_iff.mp hr
    have ih := ih (fun q hq => h q (List.mem_cons_of_mem _ hq)) hr
    have hfuel : (l.length + 1) + 1 + k = (l.length + k + 1) + 1 := by omega
    rw [show l.length + 1 + k = l.length + k + 1 by omega] at ih
    rw [List.length_cons, hfuel, encodePairs, decodePairs_some_succ, List.append_assoc,
      List.append_assoc]
    simp only [decodeItem_encode hk hkr, decodeItem_encode hv hvr, ih, Option.map_some]

/-- A map is not decoded if the first text that is not UTF-8 comes before the end. -/
lemma decodePairs_unreadable {l : List (Item × Item)} (h : Scalars l) (hr : ¬ Readable l)
    (fuel : ℕ) (rest : Bytes) :
    decodePairs fuel (some l.length) (encodePairs l ++ rest) = none := by
  induction l generalizing fuel with
  | nil => exact absurd (fun _ hp => (by cases hp)) hr
  | cons p l ih =>
    obtain ⟨key, value⟩ := p
    obtain ⟨hk, hv⟩ := h _ List.mem_cons_self
    rw [List.length_cons, encodePairs, List.append_assoc, List.append_assoc]
    match fuel with
    | 0 => rfl
    | 1 => rw [decodePairs_some_succ]; rfl
    | fuel + 2 =>
      rw [decodePairs_some_succ]
      by_cases hkr : key.Readable
      · rw [decodeItem_encode hk hkr]
        by_cases hvr : value.Readable
        · have hrest : ¬ Readable l := fun hl => hr (Readable.cons_iff.mpr ⟨⟨hkr, hvr⟩, hl⟩)
          have ih := ih (fun q hq => h q (List.mem_cons_of_mem _ hq)) hrest (fuel + 1)
          simp only [decodeItem_encode hv hvr, ih, Option.map_none]
        · simp only [decodeItem_unreadable hv hvr]
      · rw [decodeItem_unreadable hk hkr]

lemma decodePairs_take {l : List (Item × Item)} (h : Scalars l) (fuel : ℕ) {n : ℕ}
    (hn : n < (encodePairs l).length) :
    decodePairs fuel (some l.length) ((encodePairs l).take n) = none := by
  induction l generalizing fuel n with
  | nil => simp [encodePairs] at hn
  | cons p l ih =>
    obtain ⟨key, value⟩ := p
    obtain ⟨hk, hv⟩ := h _ List.mem_cons_self
    rw [encodePairs, List.length_append, List.length_append] at hn
    rw [encodePairs, List.length_cons]
    match fuel with
    | 0 => rfl
    | 1 => rw [decodePairs_some_succ]; rfl
    | fuel + 2 =>
      rw [decodePairs_some_succ]
      -- the cut is in the key, in the value, or behind both
      rcases Nat.lt_or_ge n (encode key).length with h1 | h1
      · rw [List.take_append_of_le_length h1.le, decodeItem_take hk _ h1]
      rw [List.take_append, List.take_of_length_le h1]
      by_cases hkr : key.Readable
      · rw [decodeItem_encode hk hkr]
        rcases Nat.lt_or_ge (n - (encode key).length) (encode value).length with h2 | h2
        · rw [List.take_append_of_le_length h2.le]
          simp only [decodeItem_take hv _ h2]
        · rw [List.take_append, List.take_of_length_le h2]
          by_cases hvr : value.Readable
          · have ih := ih (fun q hq => h q (List.mem_cons_of_mem _ hq)) (fuel + 1)
              (n := n - (encode key).length - (encode value).length) (by omega)
            simp only [decodeItem_encode hv hvr, ih, Option.map_none]
          · simp only [decodeItem_unreadable hv hvr]
      · rw [decodeItem_unreadable hk hkr]

lemma length_encodePairs {l : List (Item × Item)} (h : Scalars l) :
    (encodePairs l).length = (l.map fun p => p.1.size + p.2.size).sum := by
  induction l with
  | nil => rfl
  | cons p l ih =>
    obtain ⟨hk, hv⟩ := h _ List.mem_cons_self
    have ih := ih fun q hq => h q (List.mem_cons_of_mem _ hq)
    simp [encodePairs, length_encode hk, length_encode hv, ih, Nat.add_assoc]

lemma length_le_encodePairs {l : List (Item × Item)} (h : Scalars l) :
    l.length ≤ (encodePairs l).length := by
  rw [length_encodePairs h]
  clear h
  induction l with
  | nil => simp
  | cons p l ih =>
    have hpos := p.1.size_pos
    simp only [List.length_cons, List.map_cons, List.sum_cons]
    omega

lemma decode_map {l : List (Item × Item)} (h : Simple l) : decode (encode (.map l)) =
    (decodePairs ((encode (.map l)).length + 1) (some l.length) (encodePairs l)).map
      fun p => .map p.1 := by
  obtain ⟨info, hi, hs⟩ := splitHead_head (show 5 < 8 by omega) h.count (encodePairs l)
  rw [encode]
  simp only [decode, decodeItem, hs]
  simp only [hi, decide_false, Bool.false_eq_true, if_false, Option.map_map]
  rfl

/-- **The codec satisfies the laws of libcbor.** -/
def codec : Libcbor where
  serialize := encode
  load := decode
  load_serialize {l} h hr := by
    have hsc := h.scalars
    have hlen := length_le_encodePairs hsc
    obtain ⟨k, hk⟩ : ∃ k, (encode (.map l)).length + 1 = l.length + 1 + k :=
      ⟨(encode (.map l)).length - l.length, by
        rw [encode, List.length_append]; omega⟩
    have hp := decodePairs_encode hsc hr k []
    rw [List.append_nil, ← hk] at hp
    refine ⟨l, ?_, List.forall₂_same.mpr fun p _ => ⟨rfl, .refl _⟩⟩
    rw [decode_map h, hp]
    rfl
  load_unreadable {l} h hr := by
    have hp := decodePairs_unreadable h.scalars hr ((encode (.map l)).length + 1) []
    rw [List.append_nil] at hp
    rw [decode_map h, hp]
    rfl
  load_take {l} n h hn := by
    have hsc := h.scalars
    rw [encode] at hn ⊢
    rcases Nat.lt_or_ge n (head 5 l.length).length with hlt | hge
    · rw [List.take_append_of_le_length hlt.le]
      simp [decode, decodeItem, splitHead_head_take (show 5 < 8 by omega) hlt]
    · rw [List.length_append] at hn
      rw [List.take_append, List.take_of_length_le hge]
      obtain ⟨info, hi, hs⟩ := splitHead_head (show 5 < 8 by omega) h.count
        ((encodePairs l).take (n - (head 5 l.length).length))
      have hp := decodePairs_take hsc ((head 5 l.length ++
        (encodePairs l).take (n - (head 5 l.length).length)).length + 1)
        (n := n - (head 5 l.length).length) (by omega)
      simp only [decode, decodeItem, hs]
      simp only [hi, decide_false, Bool.false_eq_true, if_false, hp, Option.map_none]
  length_serialize {l} h := by
    rw [encode, List.length_append, length_head, length_encodePairs h.scalars, mapSize]

end Sativa.Cbor
