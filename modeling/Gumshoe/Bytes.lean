import Gumshoe.Types

/-!
# Packed bytes and cells

Rows, metric rows and accumulators are Go byte slices (`RowBytes`, `MetricBytes`,
`UntypedBytes`).  The generated code reads and writes a value of a column type by casting
`unsafe.Pointer(&b[off])` to a pointer to that type: a *cell* of `width` bytes at offset
`off`, little-endian on every target gumshoe runs on.

`getCell` and `setCell` are the cell as pure list operations; `readCell`, `writeCell` and
`byteAt` add what Go does at the access.  Go checks `off < len(b)` and then reads or writes
past it without a check: the model refuses every access that leaves the buffer, since what
such an access does is not defined.  The frame lemmas at the end are what every proof about
a row uses: writing a cell changes that cell and nothing else.
-/

namespace Gumshoe

/-! ## Little-endian numbers -/

/-- The `w` little-endian bytes of `n`; bits above `8 * w` are dropped. -/
def encodeLE : ℕ → ℕ → List UInt8
  | 0, _ => []
  | w + 1, n => UInt8.ofNat (n % 256) :: encodeLE w (n / 256)

/-- The number whose little-endian bytes are `l`. -/
def decodeLE : List UInt8 → ℕ
  | [] => 0
  | x :: l => x.toNat + 256 * decodeLE l

@[simp] theorem length_encodeLE (w n : ℕ) : (encodeLE w n).length = w := by
  induction w generalizing n with
  | zero => rfl
  | succ w ih => simp [encodeLE, ih]

theorem decodeLE_encodeLE (w n : ℕ) : decodeLE (encodeLE w n) = n % 256 ^ w := by
  induction w generalizing n with
  | zero => simp [encodeLE, decodeLE, Nat.mod_one]
  | succ w ih =>
    have hx : (UInt8.ofNat (n % 256)).toNat = n % 256 := by
      show n % 256 % 256 = n % 256
      exact Nat.mod_mod n 256
    rw [encodeLE, decodeLE, ih, hx, pow_succ', Nat.mod_mul]

theorem decodeLE_lt (l : List UInt8) : decodeLE l < 256 ^ l.length := by
  induction l with
  | nil => simp [decodeLE]
  | cons x l ih =>
    have hx : x.toNat < 256 := x.val.isLt
    rw [decodeLE, List.length_cons, pow_succ]
    omega

/-- Decoding then encoding at the same width gives the bytes back. -/
theorem encodeLE_decodeLE (l : List UInt8) : encodeLE l.length (decodeLE l) = l := by
  induction l with
  | nil => rfl
  | cons x l ih =>
    have hx : x.toNat < 256 := x.val.isLt
    rw [List.length_cons, encodeLE, decodeLE, Nat.add_mul_mod_self_left, Nat.mod_eq_of_lt hx,
      Nat.add_mul_div_left _ _ (by norm_num), Nat.div_eq_of_lt hx, Nat.zero_add, ih]
    exact congrArg (· :: l) (UInt8.toNat.inj (Nat.mod_eq_of_lt hx))

/-! ## Cells -/

/-- The bit pattern held by the `w` bytes of `b` at `off`. -/
def getCell (b : List UInt8) (off w : ℕ) : ℕ := decodeLE ((b.drop off).take w)

/-- `b` with the `w` bytes at `off` replaced by the little-endian bytes of `n`. -/
def setCell (b : List UInt8) (off w n : ℕ) : List UInt8 :=
  b.take off ++ encodeLE w n ++ b.drop (off + w)

theorem getCell_lt (b : List UInt8) (off w : ℕ) : getCell b off w < 256 ^ w :=
  lt_of_lt_of_le (decodeLE_lt _) (Nat.pow_le_pow_right (by norm_num) (by simp))

/-- `*(*T)(unsafe.Pointer(&b[off]))` for a `T` of width `w`. -/
def readCell (b : List UInt8) (off w : ℕ) : Except String ℕ :=
  if off + w ≤ b.length then .ok (getCell b off w) else .error indexOutOfRange

/-- `*(*T)(unsafe.Pointer(&b[off])) = x` for a `T` of width `w` and `x` with bit pattern `n`. -/
def writeCell (b : List UInt8) (off w n : ℕ) : Except String (List UInt8) :=
  if off + w ≤ b.length then .ok (setCell b off w n) else .error indexOutOfRange

/-- `b[i]`. -/
def byteAt (b : List UInt8) (i : ℕ) : Except String UInt8 :=
  match b[i]? with
  | some x => .ok x
  | none => .error indexOutOfRange

theorem readCell_of_le {b : List UInt8} {off w : ℕ} (h : off + w ≤ b.length) :
    readCell b off w = .ok (getCell b off w) := if_pos h

theorem writeCell_of_le {b : List UInt8} {off w : ℕ} (n : ℕ) (h : off + w ≤ b.length) :
    writeCell b off w n = .ok (setCell b off w n) := if_pos h

theorem byteAt_of_lt {b : List UInt8} {i : ℕ} (h : i < b.length) : byteAt b i = .ok b[i] := by
  simp [byteAt, List.getElem?_eq_getElem h]

section Frame

variable {b : List UInt8} {off w : ℕ}

theorem length_setCell (n : ℕ) (h : off + w ≤ b.length) : (setCell b off w n).length = b.length := by
  simp only [setCell, List.length_append, List.length_take, List.length_drop, length_encodeLE]
  omega

/-- Byte `i` of a written row: the new cell's bytes inside the cell, the old ones outside. -/
theorem getElem?_setCell (n i : ℕ) (h : off + w ≤ b.length) :
    (setCell b off w n)[i]? = if off ≤ i ∧ i < off + w then (encodeLE w n)[i - off]? else b[i]? := by
  have hoff : min off b.length = off := by omega
  simp only [setCell, List.getElem?_append, List.length_append, List.length_take, hoff,
    length_encodeLE, List.getElem?_take, List.getElem?_drop]
  split_ifs <;> first | rfl | omega | (congr 1; omega)

/-- A cell depends only on the bytes it covers. -/
theorem getCell_congr {b' : List UInt8} (h : ∀ k < w, b[off + k]? = b'[off + k]?) :
    getCell b off w = getCell b' off w := by
  unfold getCell
  congr 1
  ext k : 1
  simp only [List.getElem?_take, List.getElem?_drop]
  split_ifs with hk
  · exact h k hk
  · rfl

/-- Reading back the cell just written. -/
theorem getCell_setCell_self (n : ℕ) (h : off + w ≤ b.length) :
    getCell (setCell b off w n) off w = n % 256 ^ w := by
  rw [← decodeLE_encodeLE]
  unfold getCell
  congr 1
  ext k : 1
  simp only [List.getElem?_take, List.getElem?_drop, getElem?_setCell n _ h,
    Nat.add_sub_cancel_left]
  split_ifs <;> first | rfl | omega | (symm; apply List.getElem?_eq_none; simp; omega)

/-- Writing a cell leaves every disjoint cell as it was. -/
theorem getCell_setCell_of_disjoint {off' w' : ℕ} (n : ℕ) (h : off + w ≤ b.length)
    (hd : off' + w' ≤ off ∨ off + w ≤ off') :
    getCell (setCell b off w n) off' w' = getCell b off' w' :=
  getCell_congr fun k hk => by rw [getElem?_setCell n _ h, if_neg (by omega)]

/-- Writing back the value a cell holds changes nothing. -/
theorem setCell_getCell (h : off + w ≤ b.length) : setCell b off w (getCell b off w) = b := by
  have hl : ((b.drop off).take w).length = w := by simp; omega
  have hdec : encodeLE w (getCell b off w) = (b.drop off).take w := by
    have := encodeLE_decodeLE ((b.drop off).take w)
    rwa [hl] at this
  ext i : 1
  rw [getElem?_setCell _ _ h, hdec]
  split_ifs with hi
  · rw [List.getElem?_take, if_pos (by omega), List.getElem?_drop, Nat.add_sub_cancel' hi.1]
  · rfl

/-- A second write to the same cell overwrites the first. -/
theorem setCell_setCell_self (n m : ℕ) (h : off + w ≤ b.length) :
    setCell (setCell b off w n) off w m = setCell b off w m := by
  ext i : 1
  rw [getElem?_setCell m _ (by rwa [length_setCell n h]), getElem?_setCell m _ h,
    getElem?_setCell n _ h]
  split_ifs <;> rfl

end Frame

end Gumshoe
