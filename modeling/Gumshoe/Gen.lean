import Gumshoe.Bytes
import Gumshoe.Schema

/-!
# The generated code (`types_gen.go`)

`gen.go` writes `types_gen.go` from one template per operation, each an `if` (or `switch`)
chain with one branch per instantiation and a `panic` when none applies.  Every definition
here is one template, with the chain read as "the arguments are among the instantiations";
a panic is an `Except.error` carrying Go's message.

The templates differ only in how they treat a cell, so each is written over three helpers:
`addInto` (`*dst += *src`), `compareCell` (`*cell op v`) and `memberCell` (the loop over the
values of an `in` filter), with `nilChecked` for the nil bit the dimension filters test first.

For the integer types every operation is Go's two's complement arithmetic on the cell's bit
pattern (`Typ.add_of_ne`, `Typ.compare_of_ne`); for `float32` it is the matching field of
`FloatOps`.
-/

namespace Gumshoe

/-! ## Per-type operations on bit patterns

These are the bodies of the `{{range .Types}}` branches, for a type of `types`. -/

namespace Typ

variable (fo : FloatOps) (t : Typ)

/-- `x + y` for two values of type `t`. -/
def add (x y : ℕ) : ℕ := if t = .float32 then fo.add32 x y else t.toBits (t.ofBits x + t.ofBits y)

/-- `x op y` for two values of type `t`. -/
def compare (op : FilterType) (x y : ℕ) : Bool :=
  if t = .float32 then fo.compare32 op x y else op.apply (t.ofBits x) (t.ofBits y)

/-- `T(v)` for a `float64` `v`. -/
def fromFloat64 (v : ℚ) : ℕ :=
  if t = .float32 then fo.round32 v else t.toBits (t.convertFloat64 fo v)

/-- `T(v)` for a `uint32` `v`. -/
def fromUint32 (v : ℕ) : ℕ := if t = .float32 then fo.round32 v else t.toBits v

/-- `int(x)` for a value of type `t`. -/
def toGoInt (x : ℕ) : ℤ := if t = .float32 then fo.truncate32 x else t.ofBits x

/-- A value of type `t` stored in an `Untyped`. -/
def box (x : ℕ) : Untyped := if t = .float32 then .float32 x else .int t (t.ofBits x)

variable {fo t}

theorem add_of_ne (h : t ≠ .float32) (x y : ℕ) : t.add fo x y = (x + y) % t.modulus := by
  rw [add, if_neg h, toBits_ofBits_add]

theorem compare_of_ne (h : t ≠ .float32) (op : FilterType) (x y : ℕ) :
    t.compare fo op x y = op.apply (t.ofBits x) (t.ofBits y) := if_neg h

/-- The converted filter value of an integer type is Go's `T(v)`. -/
theorem ofBits_fromFloat64 (h : t ≠ .float32) (v : ℚ) :
    t.ofBits (t.fromFloat64 fo v) = t.convertFloat64 fo v := by
  rw [fromFloat64, if_neg h, ofBits_toBits (convertFloat64_inRange fo t v)]

end Typ

/-! ## Cell helpers -/

/-- `sumFunc`: adds a metric row's cell into an accumulator, returning the accumulator. -/
abbrev SumFunc := List UInt8 → List UInt8 → Except String (List UInt8)

/-- `filterFunc`: a predicate on a packed row. -/
abbrev FilterFunc := List UInt8 → Except String Bool

variable (fo : FloatOps)

/-- `*(*T)(&dst[dstOff]) = *(*T)(&dst[dstOff]) + *(*T)(&src[srcOff])`. -/
def addInto (t : Typ) (dst : List UInt8) (dstOff : ℕ) (src : List UInt8) (srcOff : ℕ) :
    Except String (List UInt8) := do
  let x ← readCell dst dstOff t.width
  let y ← readCell src srcOff t.width
  writeCell dst dstOff t.width (t.add fo x y)

/-- `*(*T)(&row[off]) op v`. -/
def compareCell (t : Typ) (op : FilterType) (v : ℕ) (row : List UInt8) (off : ℕ) :
    Except String Bool :=
  (readCell row off t.width).map fun x => t.compare fo op x v

/-- `value := *(*T)(&row[off]); for _, v := range typedValues { if value == v { return true } };
return false`. -/
def memberCell (t : Typ) (typedValues : List ℕ) (row : List UInt8) (off : ℕ) :
    Except String Bool :=
  (readCell row off t.width).map fun x => typedValues.any fun v => t.compare fo .filterEqual x v

/-- `if row[nilOffset] & mask > 0 { return onNil }`, then the rest of the predicate. -/
def nilChecked (row : List UInt8) (nilOffset : ℕ) (mask : UInt8) (onNil : Bool)
    (rest : Except String Bool) : Except String Bool := do
  let x ← byteAt row nilOffset
  if 0 < x &&& mask then pure onNil else rest

/-! ## The templates -/

/-- The loop of `MetricBytes.add`: `for i, column := range s.MetricColumns` with
`offset := s.MetricOffsets[i]`, one `case` per type of `types` and none for the others. -/
def addColumns : List MetricColumn → List ℕ → List UInt8 → List UInt8 → Except String (List UInt8)
  | [], _, m, _ => .ok m
  | _ :: _, [], _, _ => .error indexOutOfRange
  | c :: cs, off :: offs, m, other => do
    let m' ← if c.type ∈ types then addInto fo c.type m off other off else pure m
    addColumns cs offs m' other

/-- `MetricBytes.add`: adds `other` to `m` column by column.  Taking `&m[0]` and `&other[0]`
panics on an empty slice. -/
def MetricBytes.add (s : Schema) (m other : List UInt8) : Except String (List UInt8) := do
  let _ ← byteAt m 0
  let _ ← byteAt other 0
  addColumns fo s.metricColumns s.metricOffsets m other

/-- `setRowValue`: stores `T(value)` in the cell at `off`; a type with no `case` is skipped. -/
def setRowValue (row : List UInt8) (off : ℕ) (typ : Typ) (value : ℚ) :
    Except String (List UInt8) :=
  if typ ∈ types then writeCell row off typ.width (typ.fromFloat64 fo value) else .ok row

/-- `numericCellValue`. -/
def numericCellValue (row : List UInt8) (off : ℕ) (typ : Typ) : Except String Untyped :=
  if typ ∈ types then (readCell row off typ.width).map typ.box else .error "unexpected type"

/-- `makeSumFuncGen`. -/
def makeSumFuncGen (typ : Typ) : Except String (ℕ → SumFunc) :=
  if typ ∈ types then .ok fun offset sum metrics => addInto fo typ sum 0 metrics offset
  else .error "unreached"

/-- `makeGetDimensionValueFuncGen`. -/
def makeGetDimensionValueFuncGen (typ : Typ) :
    Except String (List UInt8 → ℕ → Except String Untyped) :=
  if typ ∈ types then .ok fun row off => (readCell row off typ.width).map typ.box
  else .error "unreached"

/-- `makeGetDimensionValueAsIntFuncGen`. -/
def makeGetDimensionValueAsIntFuncGen (typ : Typ) :
    Except String (List UInt8 → ℕ → Except String ℤ) :=
  if typ ∈ types then .ok fun row off => (readCell row off typ.width).map (typ.toGoInt fo)
  else .error "unreached"

/-- `makeTimestampFilterFuncSimpleGen`: `t op timestamp` on `uint32`s. -/
def makeTimestampFilterFuncSimpleGen (filter : FilterType) : Except String (ℕ → ℕ → Bool) :=
  if filter ∈ simpleFilterTypes then .ok fun timestamp t => filter.apply t timestamp
  else .error "unreached"

/-- `makeNilFilterFuncSimpleGen`: a filter against `nil`, true on nil rows for `=` and on
the others for `!=`. -/
def makeNilFilterFuncSimpleGen (typ : Typ) (filter : FilterType) :
    Except String (ℕ → UInt8 → FilterFunc) :=
  if typ ∈ types ∧ filter ∈ simpleFilterTypes then
    .ok fun nilOffset mask row =>
      nilChecked row nilOffset mask (filter.symbol = "=") (pure (filter.symbol = "!="))
  else .error "unreached"

/-- `makeDimensionFilterFuncSimpleGen`: the filter value is a dimension id (`uint32`) for a
string column and a `float64` otherwise, converted to the column type once. -/
def makeDimensionFilterFuncSimpleGen (typ : Typ) (filter : FilterType) (isString : Bool) :
    Except String (Untyped → ℕ → UInt8 → ℕ → Except String FilterFunc) :=
  if typ ∈ types ∧ filter ∈ simpleFilterTypes then
    .ok fun value nilOffset mask valueOffset => do
      let v ← if isString then typ.fromUint32 fo <$> value.asUint32
        else typ.fromFloat64 fo <$> value.asFloat64
      pure fun row => nilChecked row nilOffset mask (filter.symbol = "!=")
        (compareCell fo typ filter v row valueOffset)
  else .error "unreached"

/-- `makeDimensionFilterFuncInGen`. -/
def makeDimensionFilterFuncInGen (typ : Typ) (isString : Bool) :
    Except String (Untyped → Bool → ℕ → UInt8 → ℕ → Except String FilterFunc) :=
  if typ ∈ types then
    .ok fun values acceptNil nilOffset mask valueOffset => do
      let typedValues ← if isString then List.map (typ.fromUint32 fo) <$> values.asUint32s
        else List.map (typ.fromFloat64 fo) <$> values.asFloat64s
      pure fun row => nilChecked row nilOffset mask acceptNil
        (memberCell fo typ typedValues row valueOffset)
  else .error "unreached"

/-- `makeMetricFilterFuncSimpleGen`. -/
def makeMetricFilterFuncSimpleGen (typ : Typ) (filter : FilterType) :
    Except String (ℚ → ℕ → FilterFunc) :=
  if typ ∈ types ∧ filter ∈ simpleFilterTypes then
    .ok fun value offset row => compareCell fo typ filter (typ.fromFloat64 fo value) row offset
  else .error "unreached"

/-- `makeMetricFilterFuncInGen`. -/
def makeMetricFilterFuncInGen (typ : Typ) : Except String (List ℚ → ℕ → FilterFunc) :=
  if typ ∈ types then
    .ok fun floats offset row => memberCell fo typ (floats.map (typ.fromFloat64 fo)) row offset
  else .error "unreached"

/-! ## Storing a value and reading it back -/

/-- **A stored value reads back converted.**  For a cell inside the row, `setRowValue` stores
`T(value)`, and `numericCellValue` reads back Go's conversion of `value` to the integer type
`T`, or `value` rounded to `float32`; every cell clear of the written bytes reads as before. -/
theorem numericCellValue_setRowValue {row : List UInt8} {off : ℕ} {t : Typ} (ht : t ∈ types)
    (h : off + t.width ≤ row.length) (value : ℚ) :
    ∃ row', setRowValue fo row off t value = .ok row' ∧ row'.length = row.length ∧
      numericCellValue row' off t =
        .ok (if t = .float32 then .float32 (fo.round32 value % t.modulus)
          else .int t (t.convertFloat64 fo value)) ∧
      ∀ off' t', off' + t'.width ≤ off ∨ off + t.width ≤ off' →
        numericCellValue row' off' t' = numericCellValue row off' t' := by
  have hlen := length_setCell (t.fromFloat64 fo value) h
  refine ⟨_, by rw [setRowValue, if_pos ht, writeCell_of_le _ h], hlen, ?_, fun off' t' hd => ?_⟩
  · rw [numericCellValue, if_pos ht, readCell_of_le (hlen ▸ h), getCell_setCell_self _ h,
      except_map_ok, Typ.box, ← Typ.modulus]
    split_ifs with hf
    · rw [Typ.fromFloat64, if_pos hf]
    · rw [Typ.ofBits_mod, Typ.ofBits_fromFloat64 hf]
  · unfold numericCellValue
    split_ifs
    · by_cases hb : off' + t'.width ≤ row.length
      · rw [readCell_of_le (hlen ▸ hb), readCell_of_le hb, getCell_setCell_of_disjoint _ h hd]
      · rw [readCell, readCell, if_neg (hlen ▸ hb), if_neg hb]
    · rfl

theorem numericCellValue_setRowValue_uint16 :
    Typ.uint16 ∈ types ∧ 1 + Typ.uint16.width ≤ ([0, 0, 0] : List UInt8).length ∧
      ∃ row', setRowValue default [0, 0, 0] 1 .uint16 (3007 / 10) = .ok row' ∧ row'.length = 3 ∧
        numericCellValue row' 1 .uint16 =
          .ok (if Typ.uint16 = .float32
            then .float32 (FloatOps.round32 default (3007 / 10) % Typ.uint16.modulus) else .int .uint16 (Typ.uint16.convertFloat64 default (3007 / 10))) ∧
        ∀ off' t', off' + t'.width ≤ 1 ∨ 1 + Typ.uint16.width ≤ off' →
          numericCellValue row' off' t' = numericCellValue [0, 0, 0] off' t' :=
  ⟨by decide, by decide, numericCellValue_setRowValue default (by decide) (by decide) _⟩

end Gumshoe
