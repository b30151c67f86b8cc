import Sativa.Buffer
import Sativa.Ieee
import Sativa.Utf8

/-!
CBOR items as libcbor decodes them, and what the program relies on from the library.

libcbor itself is a parameter: `Libcbor` is a serializer and a loader with the laws its
documentation and RFC 8949 give for the items this program builds, which are definite maps
from text to scalars. The serializer takes any bytes for a text, the loader only UTF-8.
-/

namespace Sativa.Cbor

open Sativa

inductive IntWidth
  | int8 | int16 | int32 | int64
  deriving DecidableEq

/-- A decoded item. The bits of a float and the number of a simple value are kept as they
were read. -/
inductive Item where
  | uint (w : IntWidth) (v : UInt64)
  | negint (w : IntWidth) (v : UInt64)
  | bytestring (b : Bytes)
  | bytestringIndef (chunks : List Bytes)
  | string (b : Bytes)
  | stringIndef (chunks : List Bytes)
  | array (items : List Item)
  | map (pairs : List (Item × Item))
  | tag (n : UInt64) (item : Item)
  | float2 (b : UInt16)
  | float4 (b : UInt32)
  | float8 (b : UInt64)
  | ctrl (v : UInt8)

abbrev ctrlFalse : Item := .ctrl 20
abbrev ctrlTrue : Item := .ctrl 21
abbrev ctrlNull : Item := .ctrl 22

/-- `cbor_build_bool`. -/
def buildBool (b : Bool) : Item := if b then ctrlTrue else ctrlFalse

namespace Item

/-- The bytes that `cbor_string_handle` and `cbor_string_length` delimit, for a text string.
An indefinite string has a handle and the length `0`. -/
def text? : Item → Option Bytes
  | string b => some b
  | stringIndef _ => some []
  | _ => none

/-- `cbor_is_bool`, `cbor_get_bool` of a simple value. -/
def bool? : Item → Option Bool
  | ctrl v => if v = 20 then some false else if v = 21 then some true else none
  | _ => none

def isNull : Item → Bool
  | ctrl v => v == 22
  | _ => false

/-- The item has a float of some width where a simple value has its number. -/
def isFloat : Item → Bool
  | float2 _ | float4 _ | float8 _ => true
  | _ => false

/-- The item is a NaN of some width. -/
def isNaN : Item → Bool
  | float2 b => Ieee.isNaN16 b
  | float4 b => Ieee.isNaN32 b
  | float8 b => Ieee.isNaN64 b
  | _ => false

/-- Equal up to the payload of a NaN, which a serializer may normalize. -/
inductive Same : Item → Item → Prop
  | refl (i : Item) : Same i i
  | nan4 {a b : UInt32} (ha : Ieee.isNaN32 a) (hb : Ieee.isNaN32 b) : Same (float4 a) (float4 b)
  | nan8 {a b : UInt64} (ha : Ieee.isNaN64 a) (hb : Ieee.isNaN64 b) : Same (float8 a) (float8 b)

lemma Same.eq {a b : Item} (h : Same a b) (hn : a.isNaN = false) : a = b := by
  cases h with
  | refl => rfl
  | nan4 ha => simp [isNaN, ha] at hn
  | nan8 ha => simp [isNaN, ha] at hn

lemma Same.bool?_eq {a b : Item} (h : Same a b) : a.bool? = b.bool? := by
  cases h <;> rfl

lemma Same.isNull_eq {a b : Item} (h : Same a b) : a.isNull = b.isNull := by
  cases h <;> rfl

/-- The scalars the program sends. -/
def Scalar : Item → Prop
  | uint .int64 _ => True
  | bytestring b => b.length < 2 ^ 64
  | string b => b.length < 2 ^ 64
  | float4 _ => True
  | float8 _ => True
  | ctrl v => v = 20 ∨ v = 21 ∨ v = 22
  | _ => False

/-- A definite text is UTF-8. -/
def Readable : Item → Prop
  | string b => Utf8.Valid b
  | _ => True

instance (i : Item) : Decidable i.Readable := by
  cases i <;> first | exact inferInstanceAs (Decidable (Utf8.Valid _)) | exact .isTrue trivial

end Item

/-! ### Sizes -/

/-- The bytes of an item's head with argument `n`, in the shortest form. -/
def headSize (n : ℕ) : ℕ :=
  if n < 24 then 1 else if n < 2 ^ 8 then 2 else if n < 2 ^ 16 then 3
  else if n < 2 ^ 32 then 5 else 9

lemma headSize_mono {m n : ℕ} (h : m ≤ n) : headSize m ≤ headSize n := by
  unfold headSize
  split_ifs <;> omega

lemma headSize_pos (n : ℕ) : 0 < headSize n := by
  unfold headSize
  split_ifs <;> omega

/-- The bytes of a scalar. -/
def Item.size : Item → ℕ
  | .bytestring b => headSize b.length + b.length
  | .string b => headSize b.length + b.length
  | .float2 _ => 3
  | .float4 _ => 5
  | .ctrl _ => 1
  | _ => 9

lemma Item.size_pos (i : Item) : 0 < i.size := by
  cases i with
  | bytestring b => exact Nat.add_pos_left (headSize_pos _) _
  | string b => exact Nat.add_pos_left (headSize_pos _) _
  | _ => exact Nat.succ_pos _

/-- The bytes of a definite map of scalars. -/
def mapSize (l : List (Item × Item)) : ℕ :=
  headSize l.length + (l.map fun p => p.1.size + p.2.size).sum

lemma mapSize_pos (l : List (Item × Item)) : 0 < mapSize l :=
  Nat.add_pos_left (headSize_pos _) _

/-- What the program serializes: a definite map from definite text to scalars. -/
structure Simple (l : List (Item × Item)) : Prop where
  count : l.length < 2 ^ 64
  keys : ∀ p ∈ l, ∃ b : Bytes, p.1 = .string b ∧ b.length < 2 ^ 64
  values : ∀ p ∈ l, p.2.Scalar

lemma Simple.nil : Simple [] := ⟨by simp, by simp, by simp⟩

lemma Simple.cons {l : List (Item × Item)} {name : Bytes} {value : Item} (hl : Simple l)
    (hname : name.length < 2 ^ 64) (hvalue : value.Scalar) (hcount : l.length + 1 < 2 ^ 64) :
    Simple ((.string name, value) :: l) where
  count := hcount
  keys p hp := by
    rcases List.mem_cons.mp hp with rfl | hp
    · exact ⟨name, rfl, hname⟩
    · exact hl.keys p hp
  values p hp := by
    rcases List.mem_cons.mp hp with rfl | hp
    · exact hvalue
    · exact hl.values p hp

/-- All definite texts in the entries are UTF-8. -/
def Readable (l : List (Item × Item)) : Prop := ∀ p ∈ l, p.1.Readable ∧ p.2.Readable

instance (l : List (Item × Item)) : Decidable (Readable l) :=
  inferInstanceAs (Decidable (∀ p ∈ l, _))

lemma Readable.cons_iff {l : List (Item × Item)} {p : Item × Item} :
    Readable (p :: l) ↔ (p.1.Readable ∧ p.2.Readable) ∧ Readable l := List.forall_mem_cons

/-- Same keys, and the same values up to NaN payloads. -/
abbrev SamePairs : List (Item × Item) → List (Item × Item) → Prop :=
  List.Forall₂ fun p q => p.1 = q.1 ∧ Item.Same p.2 q.2

lemma SamePairs.eq {l l' : List (Item × Item)} (h : SamePairs l l')
    (hn : ∀ p ∈ l, p.2.isNaN = false) : l' = l := by
  induction h with
  | nil => rfl
  | cons hp _ ih =>
    rw [ih fun p hp => hn p (List.mem_cons_of_mem _ hp)]
    exact congrArg (· :: _) (Prod.ext hp.1.symm (hp.2.eq (hn _ List.mem_cons_self)).symm)

/-- libcbor, as far as the program relies on it. `load` is `cbor_load`, with `none` for every
error code; `serialize` is `cbor_serialize_alloc`. -/
structure Libcbor where
  serialize : Item → Bytes
  load : Bytes → Option Item
  /-- A map whose texts are UTF-8 is decoded again. -/
  load_serialize : ∀ {l}, Simple l → Readable l →
    ∃ l', load (serialize (.map l)) = some (.map l') ∧ SamePairs l l'
  /-- A map with a text that is not UTF-8 is not decoded. -/
  load_unreadable : ∀ {l}, Simple l → ¬ Readable l → load (serialize (.map l)) = none
  /-- A map that is cut short is not decoded. -/
  load_take : ∀ {l} (n : ℕ), Simple l → n < (serialize (.map l)).length →
    load ((serialize (.map l)).take n) = none
  /-- The serialized size is that of RFC 8949 with shortest heads. -/
  length_serialize : ∀ {l}, Simple l → (serialize (.map l)).length = mapSize l

namespace Libcbor

variable (cbor : Libcbor)

lemma load_serialize_exact {l : List (Item × Item)} (h : Simple l) (hr : Readable l)
    (hn : ∀ p ∈ l, p.2.isNaN = false) : cbor.load (cbor.serialize (.map l)) = some (.map l) := by
  obtain ⟨l', hl, hs⟩ := cbor.load_serialize h hr
  rw [hl, SamePairs.eq hs hn]

lemma readable_of_load {l : List (Item × Item)} {i : Item} (h : Simple l)
    (hload : cbor.load (cbor.serialize (.map l)) = some i) : Readable l := by
  by_contra hr
  cases (cbor.load_unreadable h hr).symm.trans hload

lemma load_map_inj {p : Bytes} {l l' : List (Item × Item)} (h : cbor.load p = some (.map l))
    (h' : cbor.load p = some (.map l')) : l = l' :=
  Item.map.inj (Option.some.inj (h.symm.trans h'))

end Libcbor

end Sativa.Cbor
