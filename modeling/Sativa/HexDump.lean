import Sativa.Buffer
import Mathlib.Data.Nat.Digits.Lemmas
import Mathlib.Tactic.NormNum

/-!
Dumps of a buffer: for each line the offset, the bytes in hexadecimal and the bytes as text. What is
dumped to a stream with the formatting that streams begin with can be read back.
-/

namespace Sativa.HexDump

open Sativa

/-! ### Streams -/

/-- The digits of a number. -/
def digit (d : ℕ) : UInt8 := UInt8.ofNat (if d < 10 then 48 + d else 87 + d)

def numeral (base n : ℕ) : Bytes :=
  if n = 0 then [digit 0] else (Nat.digits base n).reverse.map digit

/-- A `std::ostream`, with how it formats. -/
structure OStream where
  out : Bytes
  hex : Bool
  left : Bool
  fill : UInt8

namespace OStream

/-- A stream that formats as a new one does. -/
def plain (out : Bytes) : OStream := ⟨out, false, false, 32⟩

def put (s : OStream) (b : Bytes) : OStream := { s with out := s.out ++ b }

/-- `setw(width) << text`. -/
def write (s : OStream) (width : ℕ) (text : Bytes) : OStream :=
  let padding := List.replicate (width - text.length) s.fill
  s.put (if s.left then text ++ padding else padding ++ text)

/-- `setw(width) << n`. -/
def writeNat (s : OStream) (width n : ℕ) : OStream :=
  s.write width (numeral (if s.hex then 16 else 10) n)

/-- The end of a `SavedState` of `old`. -/
def restore (s old : OStream) : OStream :=
  { s with hex := old.hex, left := old.left, fill := old.fill }

end OStream

/-! ### Dumps -/

def bytesPerLine : ℕ := 16

/-- `std::isprint` in the C locale. -/
def isprint (b : UInt8) : Bool := 32 ≤ b && b ≤ 126

def dumpBytesAsHex (output : OStream) (bytes : Bytes) : OStream :=
  let s := { output with hex := true, fill := 48 }
  (bytes.foldl (fun s byte => (s.writeNat 2 byte.toNat).put [32]) s).restore output

def dumpBytesAsText (output : OStream) (bytes : Bytes) : OStream :=
  bytes.foldl (fun s byte => s.put [if isprint byte then byte else 46]) output

def dumpBytesLine (output : OStream) (bytes : Bytes) : OStream :=
  let hexStream := dumpBytesAsHex (.plain []) bytes
  let s := { output with left := true }.write (bytesPerLine * 3 + 1) hexStream.out
  ((dumpBytesAsText s bytes).put [10]).restore output

/-- `dumpHexLine`, with an offset; `dumpBytesLine` is the one without. -/
def dumpHexLine (output : OStream) (offset : ℕ) (bytes : Bytes) : OStream :=
  let s := { output with hex := true, fill := 48 }
  dumpBytesLine (((s.writeNat 8 offset).put [32, 32]).restore output) bytes

/-- The loop of `dumpBuffer`, with what is still to be read. -/
def dumpLoop : Bytes → ℕ → Bytes → OStream → OStream
  | [], offset, bytesToDump, output =>
    if bytesToDump = [] then output else dumpHexLine output offset bytesToDump
  | byte :: input, offset, bytesToDump, output =>
    let bytesToDump := bytesToDump ++ [byte]
    if bytesToDump.length = bytesPerLine then
      dumpLoop input (offset + bytesPerLine) [] (dumpHexLine output offset bytesToDump)
    else dumpLoop input offset bytesToDump output

def dumpBuffer (output : OStream) (input : Bytes) : OStream := dumpLoop input 0 [] output

example : (dumpBuffer (.plain []) (ascii "Hello")).out =
    ascii "00000000  48 65 6c 6c 6f                                   Hello\n" := by decide

/-! ### Reading a dump -/

/-- A line of a dump. -/
structure Row where
  offset : ℕ
  bytes : Bytes
  text : Bytes
  deriving DecidableEq

def hexValue (c : UInt8) : ℕ := if c.toNat < 58 then c.toNat - 48 else c.toNat - 87

def readHex (b : Bytes) : ℕ := b.foldl (fun n c => 16 * n + hexValue c) 0

/-- Two digits and a space for each byte, up to another space. -/
def readPairs : Bytes → Bytes
  | high :: low :: _ :: rest =>
    if high = 32 then [] else UInt8.ofNat (16 * hexValue high + hexValue low) :: readPairs rest
  | _ => []

def readRow (line : Bytes) : Row :=
  let behind := (line.dropWhile fun c => c ≠ 32).drop 2
  ⟨readHex (line.takeWhile fun c => c ≠ 32), readPairs behind, behind.drop (bytesPerLine * 3 + 1)⟩

def readDump (b : Bytes) : List Row := (b.splitOn 10).dropLast.map readRow

/-- What a dump of `bytes` is about, from an offset on. -/
def rows (offset : ℕ) (bytes : Bytes) : List Row :=
  (List.range ((bytes.length + 15) / 16)).map fun i =>
    let chunk := (bytes.drop (16 * i)).take 16
    ⟨offset + 16 * i, chunk, chunk.map fun byte => if isprint byte then byte else 46⟩

/-! ### Numbers -/

section Numbers

variable {d n w : ℕ} {c b : UInt8}

lemma toNat_digit (h : d < 16) : (digit d).toNat = if d < 10 then 48 + d else 87 + d := by
  unfold digit
  split_ifs <;> exact UInt8.toNat_ofNat_of_lt (by simp only [UInt8.size]; omega)

lemma hexValue_digit (h : d < 16) : hexValue (digit d) = d := by
  unfold hexValue
  rw [toNat_digit h]
  split_ifs <;> omega

lemma digit_range (h : d < 16) : 48 ≤ (digit d).toNat := by
  rw [toNat_digit h]
  split_ifs <;> omega

lemma mem_numeral (h : c ∈ numeral 16 n) : ∃ d < 16, c = digit d := by
  unfold numeral at h
  split_ifs at h
  · exact ⟨0, by omega, List.mem_singleton.mp h⟩
  · obtain ⟨d, hd, rfl⟩ := List.mem_map.mp h
    exact ⟨d, Nat.digits_lt_base (by norm_num) (List.mem_reverse.mp hd), rfl⟩

/-- A number of at least `w` digits. -/
def padded (w n : ℕ) : Bytes := List.replicate (w - (numeral 16 n).length) 48 ++ numeral 16 n

lemma mem_padded (h : c ∈ padded w n) : 48 ≤ c.toNat := by
  rcases List.mem_append.mp h with hpad | hdigit
  · rw [List.eq_of_mem_replicate hpad]
    decide
  · obtain ⟨d, hd, rfl⟩ := mem_numeral hdigit
    exact digit_range hd

lemma readHex_append (a b : Bytes) : readHex (a ++ b) =
    b.foldl (fun n c => 16 * n + hexValue c) (readHex a) := List.foldl_append

lemma readHex_zeros (k : ℕ) : readHex (List.replicate k 48) = 0 := by
  induction k with
  | zero => rfl
  | succ k ih =>
    rw [List.replicate_succ', readHex_append, ih]
    rfl

lemma readHex_numeral (n : ℕ) : readHex (numeral 16 n) = n := by
  unfold numeral
  split_ifs with hn
  · rw [hn]
    decide
  · have hdigits : ∀ l : List ℕ, (∀ d ∈ l, d < 16) → readHex (l.reverse.map digit) =
        Nat.ofDigits 16 l := by
      intro l
      induction l with
      | nil => exact fun _ => rfl
      | cons d l ih =>
        intro hl
        rw [List.reverse_cons, List.map_append, readHex_append,
          ih fun e he => hl e (List.mem_cons_of_mem _ he), Nat.ofDigits_cons]
        simp [hexValue_digit (hl d (by simp)), add_comm]
    rw [hdigits _ fun d hd => Nat.digits_lt_base (by norm_num) hd, Nat.ofDigits_digits]

lemma readHex_padded (w n : ℕ) : readHex (padded w n) = n := by
  rw [padded, readHex_append, readHex_zeros]
  exact readHex_numeral n

lemma padded_byte (b : UInt8) :
    padded 2 b.toNat = [digit (b.toNat / 16), digit (b.toNat % 16)] := by
  have hb : b.toNat < 256 := b.toNat_lt
  unfold padded numeral
  by_cases hzero : b.toNat = 0
  · rw [hzero]
    decide
  by_cases hsmall : b.toNat < 16
  · rw [if_neg hzero, Nat.digits_of_lt 16 _ hzero hsmall, Nat.div_eq_of_lt hsmall,
      Nat.mod_eq_of_lt hsmall]
    rfl
  · have hhigh : b.toNat / 16 ≠ 0 := by omega
    rw [if_neg hzero, Nat.digits_def' (by norm_num) (by omega),
      Nat.digits_of_lt 16 _ hhigh (by omega)]
    rfl

end Numbers

/-! ### Lines -/

section Lines

variable {out bytes input acc : Bytes} {offset : ℕ} {s : OStream}

def hexOf (bytes : Bytes) : Bytes := bytes.flatMap fun b => padded 2 b.toNat ++ [32]

def textOf (bytes : Bytes) : Bytes := bytes.map fun byte => if isprint byte then byte else 46

/-- A line of a dump, without its end. -/
def line (offset : ℕ) (bytes : Bytes) : Bytes :=
  padded 8 offset ++ [32, 32] ++ (hexOf bytes ++ List.replicate (49 - (hexOf bytes).length) 32) ++
    textOf bytes

lemma put_nil : s.put [] = s := by simp [OStream.put]

lemma put_put {a b : Bytes} : (s.put a).put b = s.put (a ++ b) := by simp [OStream.put]

lemma writeNat_hex {width n : ℕ} (hhex : s.hex = true) (hleft : s.left = false)
    (hfill : s.fill = 48) : s.writeNat width n = s.put (padded width n) := by
  simp [OStream.writeNat, OStream.write, hhex, hleft, hfill, padded]

lemma foldl_hex (hhex : s.hex = true) (hleft : s.left = false) (hfill : s.fill = 48) :
    bytes.foldl (fun s byte => (s.writeNat 2 byte.toNat).put [32]) s = s.put (hexOf bytes) := by
  induction bytes generalizing s with
  | nil => exact put_nil.symm
  | cons b bytes ih =>
    rw [List.foldl_cons, writeNat_hex hhex hleft hfill, put_put]
    refine (ih (by exact hhex) (by exact hleft) (by exact hfill)).trans ?_
    rw [put_put, hexOf, hexOf, List.flatMap_cons]

lemma dumpBytesAsHex_plain : dumpBytesAsHex (.plain out) bytes = .plain (out ++ hexOf bytes) := by
  unfold dumpBytesAsHex
  dsimp only
  rw [foldl_hex rfl rfl rfl]
  rfl

lemma dumpBytesAsText_eq : dumpBytesAsText s bytes = s.put (textOf bytes) := by
  unfold dumpBytesAsText
  induction bytes generalizing s with
  | nil => exact put_nil.symm
  | cons b bytes ih =>
    rw [List.foldl_cons, ih, put_put]
    rfl

lemma dumpHexLine_plain : dumpHexLine (.plain out) offset bytes =
    .plain (out ++ (line offset bytes ++ [10])) := by
  unfold dumpHexLine dumpBytesLine
  dsimp only
  rw [writeNat_hex rfl rfl rfl, put_put, dumpBytesAsHex_plain, dumpBytesAsText_eq]
  simp [OStream.restore, OStream.put, OStream.plain, OStream.write, line, bytesPerLine]

lemma rows_nil : rows offset [] = [] := rfl

lemma rows_of_ne_nil (h : bytes ≠ []) : rows offset bytes =
    ⟨offset, bytes.take 16, textOf (bytes.take 16)⟩ :: rows (offset + 16) (bytes.drop 16) := by
  have hlen : 0 < bytes.length := List.length_pos_iff.mpr h
  have hcount : (bytes.length + 15) / 16 = ((bytes.drop 16).length + 15) / 16 + 1 := by
    rw [List.length_drop]
    omega
  unfold rows
  rw [hcount, List.range_succ_eq_map, List.map_cons, List.map_map]
  refine congrArg₂ List.cons (by simp [textOf]) (List.map_congr_left fun i _ => ?_)
  simp only [Function.comp_apply, List.drop_drop, Nat.succ_eq_add_one]
  have hindex : 16 * (i + 1) = 16 + 16 * i := by omega
  simp [hindex, add_assoc]

/-- The lines of a dump. -/
def dumpOf (offset : ℕ) (bytes : Bytes) : Bytes :=
  (rows offset bytes).flatMap fun row => line row.offset row.bytes ++ [10]

lemma dumpLoop_plain (hacc : acc.length < 16) : dumpLoop input offset acc (.plain out) =
    .plain (out ++ dumpOf offset (acc ++ input)) := by
  induction input generalizing offset acc out with
  | nil =>
    unfold dumpLoop
    rw [List.append_nil]
    split_ifs with hnil
    · simp [hnil, dumpOf, rows_nil]
    · rw [dumpHexLine_plain, dumpOf, rows_of_ne_nil hnil, List.take_of_length_le hacc.le,
        List.drop_of_length_le hacc.le, rows_nil]
      simp
  | cons byte input ih =>
    unfold dumpLoop
    dsimp only
    have hsplit : acc ++ byte :: input = acc ++ [byte] ++ input := by simp
    -- a line is written when 16 bytes have come together
    split_ifs with hfull
    · have hlen : (acc ++ [byte]).length = 16 := hfull
      rw [dumpHexLine_plain, ih (by simp), hsplit, dumpOf, dumpOf,
        @rows_of_ne_nil (acc ++ [byte] ++ input) offset (by simp),
        List.take_append_of_le_length hlen.ge, List.drop_append_of_le_length hlen.ge,
        List.take_of_length_le hlen.le, List.drop_of_length_le hlen.le]
      simp [bytesPerLine]
    · have hlen : (acc ++ [byte]).length < 16 := by
        simp only [List.length_append, List.length_singleton, bytesPerLine] at hfull ⊢
        omega
      rw [ih hlen, hsplit]

lemma dumpBuffer_plain : dumpBuffer (.plain out) input = .plain (out ++ dumpOf 0 input) :=
  dumpLoop_plain (by decide)

end Lines

/-! ### Reading back -/

section Read

variable {bytes rest : Bytes} {offset : ℕ}

lemma length_hexOf (bytes : Bytes) : (hexOf bytes).length = 3 * bytes.length := by
  induction bytes with
  | nil => rfl
  | cons b bytes ih =>
    rw [hexOf, List.flatMap_cons, List.length_append, ← hexOf, ih, padded_byte]
    simp only [List.length_append, List.length_cons, List.length_nil]
    omega

lemma readPairs_hexOf (bytes rest : Bytes) : readPairs (hexOf bytes ++ 32 :: rest) = bytes := by
  induction bytes with
  | nil => rcases rest with _ | ⟨a, _ | ⟨b, rest⟩⟩ <;> rfl
  | cons b bytes ih =>
    have hb : b.toNat < 256 := b.toNat_lt
    have hhigh : digit (b.toNat / 16) ≠ 32 := by
      intro heq
      have hrange := digit_range (show b.toNat / 16 < 16 by omega)
      rw [heq] at hrange
      exact absurd hrange (by decide)
    have hvalue : 16 * hexValue (digit (b.toNat / 16)) + hexValue (digit (b.toNat % 16)) =
        b.toNat := by
      rw [hexValue_digit (by omega), hexValue_digit (by omega)]
      omega
    rw [hexOf, List.flatMap_cons, padded_byte]
    change readPairs (digit (b.toNat / 16) :: digit (b.toNat % 16) :: 32 :: (hexOf bytes ++ _)) = _
    rw [readPairs, if_neg hhigh, hvalue, ih, UInt8.ofNat_toNat]

lemma readRow_line (h : bytes.length ≤ 16) :
    readRow (line offset bytes) = ⟨offset, bytes, textOf bytes⟩ := by
  have hnospace : ∀ c ∈ padded 8 offset, decide (c ≠ 32) = true := by
    intro c hc
    refine decide_eq_true fun heq => ?_
    have hrange := mem_padded hc
    rw [heq] at hrange
    exact absurd hrange (by decide)
  obtain ⟨k, hk⟩ : ∃ k, 49 - (hexOf bytes).length = k + 1 := by
    rw [length_hexOf]
    exact ⟨48 - 3 * bytes.length, by omega⟩
  have hline : line offset bytes = padded 8 offset ++ 32 :: 32 ::
      (hexOf bytes ++ 32 :: (List.replicate k 32 ++ textOf bytes)) := by
    simp [line, hk, List.replicate_succ]
  have hcolumn : (hexOf bytes ++ 32 :: (List.replicate k 32 ++ textOf bytes)).drop 49 =
      textOf bytes := by
    have hlen : (hexOf bytes ++ 32 :: List.replicate k 32).length = 49 := by
      have := length_hexOf bytes
      simp only [List.length_append, List.length_cons, List.length_replicate]
      omega
    have hassoc : hexOf bytes ++ 32 :: (List.replicate k 32 ++ textOf bytes) =
        (hexOf bytes ++ 32 :: List.replicate k 32) ++ textOf bytes := by simp
    rw [hassoc, ← hlen, List.drop_left]
  rw [hline, readRow, List.takeWhile_append_of_pos hnospace, List.dropWhile_append_of_pos hnospace]
  simp [readHex_padded, readPairs_hexOf, bytesPerLine, hcolumn]

lemma not_mem_line : 10 ∉ line offset bytes := by
  have hhex : 10 ∉ hexOf bytes := by
    simp only [hexOf, List.mem_flatMap, List.mem_append, List.mem_singleton, not_exists, not_and,
      not_or]
    exact fun b _ => ⟨fun hmem => absurd (mem_padded hmem) (by decide), by decide⟩
  have htext : 10 ∉ textOf bytes := by
    simp only [textOf, List.mem_map, not_exists, not_and]
    intro b _ heq
    split_ifs at heq with hprint
    · rw [heq] at hprint
      exact absurd hprint (by decide)
    · exact absurd heq (by decide)
  have hoffset : 10 ∉ padded 8 offset := fun hmem => absurd (mem_padded hmem) (by decide)
  simp [line, hoffset, hhex, htext, List.mem_replicate]

lemma splitOn_lines {l : List Bytes} (h : ∀ b ∈ l, 10 ∉ b) :
    (l.flatMap fun b => b ++ [10]).splitOn 10 = l ++ [[]] := by
  induction l with
  | nil => rfl
  | cons b l ih =>
    have hb : b.splitOn 10 = [b] := List.splitOn_eq_singleton (h b (by simp))
    rw [List.flatMap_cons, List.append_assoc, List.singleton_append,
      List.splitOn_append_cons_self, hb, ih fun c hc => h c (List.mem_cons_of_mem _ hc)]
    rfl

lemma mem_rows {row : Row} (h : row ∈ rows offset bytes) :
    row.bytes.length ≤ 16 ∧ row.text = textOf row.bytes := by
  obtain ⟨i, -, rfl⟩ := List.mem_map.mp h
  exact ⟨List.length_take_le _ _, rfl⟩

lemma readDump_dumpOf (offset : ℕ) (bytes : Bytes) :
    readDump (dumpOf offset bytes) = rows offset bytes := by
  have hlines : dumpOf offset bytes =
      ((rows offset bytes).map fun row => line row.offset row.bytes).flatMap
        fun b => b ++ [10] := by
    rw [dumpOf, List.flatMap_map]
  have hsplit : (dumpOf offset bytes).splitOn 10 =
      (rows offset bytes).map (fun row => line row.offset row.bytes) ++ [[]] := by
    rw [hlines]
    refine splitOn_lines fun b hb => ?_
    obtain ⟨row, -, rfl⟩ := List.mem_map.mp hb
    exact not_mem_line
  rw [readDump, hsplit, List.dropLast_concat, List.map_map]
  refine (List.map_congr_left fun row hrow => ?_).trans (List.map_id _)
  obtain ⟨hlength, htext⟩ := mem_rows hrow
  exact (readRow_line hlength).trans (by rw [← htext]; rfl)

lemma flatMap_rows (offset : ℕ) (bytes : Bytes) :
    (rows offset bytes).flatMap Row.bytes = bytes := by
  induction hn : bytes.length using Nat.strong_induction_on generalizing offset bytes with
  | _ n ih =>
    rcases eq_or_ne bytes [] with rfl | hne
    · rfl
    · have hpos : 0 < bytes.length := List.length_pos_iff.mpr hne
      rw [rows_of_ne_nil hne, List.flatMap_cons,
        ih (bytes.drop 16).length (by rw [List.length_drop]; omega) _ _ rfl]
      exact List.take_append_drop 16 bytes

/-- **A dump can be read back**: whatever was written before to a stream with default formatting,
`dumpBuffer` adds lines to it and leaves its formatting alone, and from these lines one reads every
offset, the text, and all bytes of the buffer. -/
theorem readDump_dumpBuffer (out input : Bytes) : ∃ dump,
    dumpBuffer (.plain out) input = .plain (out ++ dump) ∧ readDump dump = rows 0 input ∧
      (readDump dump).flatMap Row.bytes = input := by
  refine ⟨dumpOf 0 input, dumpBuffer_plain, readDump_dumpOf 0 input, ?_⟩
  rw [readDump_dumpOf, flatMap_rows]

end Read

end Sativa.HexDump
