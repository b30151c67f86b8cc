import Mathlib.Tactic.Lemma
import Mathlib.Data.Nat.Notation
import Mathlib.Data.List.Basic
import Mathlib.Algebra.Ring.Nat

/-!
Byte strings, C strings and reused byte buffers.

A buffer is the list of the bytes it holds. `resize` and `splice` are `std::vector::resize`
and a copy into a vector; `cstr` is what a `const char *` into a buffer denotes.
-/

namespace Sativa

abbrev Bytes := List UInt8

/-- The bytes of an ASCII literal. -/
def ascii (s : String) : Bytes := s.toList.map fun c => UInt8.ofNat c.toNat

/-! ### C strings -/

/-- The bytes before the first NUL. -/
def cstr : Bytes → Bytes
  | [] => []
  | c :: b => if c = 0 then [] else c :: cstr b

lemma zero_not_mem_cstr (b : Bytes) : 0 ∉ cstr b := by
  induction b with
  | nil => simp [cstr]
  | cons c b ih =>
    by_cases hc : c = 0
    · simp [cstr, hc]
    · simp [cstr, hc, ih, Ne.symm hc]

lemma cstr_append_of_not_mem {b : Bytes} (h : 0 ∉ b) (t : Bytes) : cstr (b ++ t) = b ++ cstr t := by
  induction b with
  | nil => rfl
  | cons c b ih =>
    simp only [List.mem_cons, not_or] at h
    simp [cstr, Ne.symm h.1, ih h.2]

lemma cstr_of_not_mem {b : Bytes} (h : 0 ∉ b) : cstr b = b := by
  simpa [cstr] using cstr_append_of_not_mem h []

lemma cstr_eq_self {b : Bytes} : cstr b = b ↔ 0 ∉ b :=
  ⟨fun h => h ▸ zero_not_mem_cstr b, cstr_of_not_mem⟩

lemma length_cstr_le (b : Bytes) : (cstr b).length ≤ b.length := by
  induction b with
  | nil => simp [cstr]
  | cons c b ih => by_cases hc : c = 0 <;> simp [cstr, hc, ih]

/-- Whether `strncmp a b n` is zero, for a buffer `a` of at least `n` bytes. -/
def strncmpEq : Bytes → Bytes → ℕ → Bool
  | _, _, 0 => true
  | a, b, n + 1 =>
    a.headD 0 == b.headD 0 && (a.headD 0 == 0 || strncmpEq a.tail b.tail n)

@[simp] lemma strncmpEq_self (a : Bytes) : ∀ n, strncmpEq a a n = true := by
  intro n
  induction n generalizing a with
  | zero => rfl
  | succ n ih => simp [strncmpEq, ih]

/-- `strncmp` with the length of its first argument, against a C string. -/
lemma strncmpEq_length {s field : Bytes} (h : 0 ∉ field) :
    strncmpEq s field s.length = true ↔ s <+: field ∨ field ++ [0] <+: s := by
  induction s generalizing field with
  | nil => simp [strncmpEq]
  | cons a s ih =>
    cases field with
    | nil =>
      have hlong : [] ++ [0] <+: a :: s ↔ a = 0 := by
        rw [List.nil_append, List.cons_prefix_cons]
        exact ⟨fun h => h.1.symm, fun h => ⟨h.symm, List.nil_prefix⟩⟩
      rw [hlong, List.length_cons, strncmpEq]
      by_cases ha : a = 0 <;> simp [ha]
    | cons b field =>
      simp only [List.mem_cons, not_or] at h
      rw [List.length_cons, strncmpEq, List.headD_cons, List.headD_cons, List.tail_cons,
        List.tail_cons, List.cons_append, List.cons_prefix_cons, List.cons_prefix_cons]
      by_cases hab : a = b
      · subst hab
        simp [Ne.symm h.1, ih h.2]
      · simp [hab, Ne.symm hab]

/-- A NUL-terminated string, as a `const char *` argument. -/
structure CString where
  bytes : Bytes
  nulFree : 0 ∉ bytes
  sized : bytes.length < 2 ^ 64

@[simp] lemma CString.cstr_bytes (s : CString) : cstr s.bytes = s.bytes := cstr_of_not_mem s.nulFree

/-- A pointer and length argument. -/
structure Region where
  bytes : Bytes
  sized : bytes.length < 2 ^ 64

/-! ### Buffers -/

/-- `buf.resize(n, 0)`. -/
def resize (b : Bytes) (n : ℕ) : Bytes := b.take n ++ List.replicate (n - b.length) 0

/-- Copy `src` into `b` at offset `off`. -/
def splice (b : Bytes) (off : ℕ) (src : Bytes) : Bytes :=
  b.take off ++ src ++ b.drop (off + src.length)

@[simp] lemma length_resize (b : Bytes) (n : ℕ) : (resize b n).length = n := by
  simp [resize]; omega

lemma length_splice {b src : Bytes} {off : ℕ} (h : off + src.length ≤ b.length) :
    (splice b off src).length = b.length := by
  simp [splice]; omega

/-- Two copies that meet and fill the buffer leave nothing of what it held. -/
lemma splice_splice {b head tail : Bytes} (h : b.length = head.length + tail.length) :
    splice (splice b 0 head) head.length tail = head ++ tail := by
  simp only [splice, List.take_zero, List.nil_append, Nat.zero_add, List.take_left,
    List.drop_append, List.drop_drop]
  rw [List.drop_eq_nil_of_le (by omega), List.drop_eq_nil_of_le (by omega)]
  simp

lemma splice_splice_zero {b head tail : Bytes} (h : b.length = head.length + tail.length) :
    splice (splice b head.length tail) 0 head = head ++ tail := by
  have htake : (b.take head.length).length = head.length := by simp; omega
  have hdrop : b.drop (head.length + tail.length) = [] := List.drop_eq_nil_of_le (by omega)
  simp only [splice, List.take_zero, List.nil_append, Nat.zero_add, hdrop, List.append_nil]
  rw [List.drop_left' htake]

lemma splice_resize_append (head rest b : Bytes) :
    splice (resize (head ++ rest) (head.length + b.length)) head.length b = head ++ b := by
  have htake : (resize (head ++ rest) (head.length + b.length)).take head.length = head := by
    rw [resize, List.take_append_of_le_length (by simp), List.take_take,
      Nat.min_eq_left (by omega), List.take_left]
  rw [splice, htake, List.drop_eq_nil_of_le (by simp), List.append_nil]

/-! ### Little-endian 16-bit fields -/

def le16 (v : UInt16) : Bytes := [UInt8.ofNat v.toNat, UInt8.ofNat (v.toNat / 256)]

def ofLe16 (lo hi : UInt8) : UInt16 := UInt16.ofNat (lo.toNat + 256 * hi.toNat)

lemma ofLe16_le16 (v : UInt16) :
    ofLe16 (UInt8.ofNat v.toNat) (UInt8.ofNat (v.toNat / 256)) = v := by
  have hv := v.toNat_lt
  apply UInt16.toNat_inj.mp
  simp [ofLe16]
  omega

lemma le16_ofLe16 (lo hi : UInt8) : le16 (ofLe16 lo hi) = [lo, hi] := by
  have hlo := lo.toNat_lt
  have hhi := hi.toNat_lt
  have hv : (ofLe16 lo hi).toNat = lo.toNat + 256 * hi.toNat := by
    simp [ofLe16]
    omega
  have h0 : UInt8.ofNat (lo.toNat + 256 * hi.toNat) = lo := by
    apply UInt8.toNat_inj.mp
    simp
  have h1 : (lo.toNat + 256 * hi.toNat) / 256 = hi.toNat := by omega
  rw [le16, hv, h0, h1, UInt8.ofNat_toNat]

end Sativa
