import Gumshoe.Gen
import Gumshoe.Config

/-!
# Compiled filters on integer columns

A query filter `column op value` is compiled once per query into a `filterFunc` over packed
rows.  For a dimension column the predicate first tests the column's bit in the row's nil
bitmap; the value is then compared in the column's own type, after `T(value)` converted the
`float64` filter value.

The spec reads a filter as a comparison of real numbers.  The compiled predicate agrees with
it on every row only up to that conversion: it compares the cell with `T(v)`, the truncation
of `v` toward zero when that fits in `T` (`compiled_filters_compare_converted_value`).  So
`x < 2.5` becomes `x < 2` and drops `x = 2` (`metric_lessThan_truncates_value`).  For an
integer `v` that `T` represents the two readings coincide
(`apply_convertFloat64_intCast`).

On a string column the cell holds a dimension id, of an unsigned type that `makeSchema`
requires, and the filter values are ids (`uint32`).  The two dimension filters compare the
cell's id with `T(id)`: an id the type represents exactly, a larger one by its low bytes
(`string_filters_compare_ids`).
-/

namespace Gumshoe

variable (fo : FloatOps) {t : Typ}

/-! ## The helpers on integer cells -/

section Helpers

variable {row : List UInt8} {off : ℕ}

theorem compareCell_of_ne (ht : t ≠ .float32) (op : FilterType) (v : ℕ)
    (h : off + t.width ≤ row.length) :
    compareCell fo t op v row off = .ok (op.apply (t.ofBits (getCell row off t.width)) (t.ofBits v)) := by
  simp only [compareCell, readCell_of_le h, Typ.compare_of_ne ht]
  rfl

theorem memberCell_of_ne (ht : t ≠ .float32) (vs : List ℕ) (h : off + t.width ≤ row.length) :
    memberCell fo t vs row off =
      .ok (vs.any fun v => t.ofBits (getCell row off t.width) = t.ofBits v) := by
  simp only [memberCell, readCell_of_le h, Typ.compare_of_ne ht]
  rfl

theorem nilChecked_of_lt {nilOffset : ℕ} (mask : UInt8) (onNil : Bool) (rest : Except String Bool)
    (h : nilOffset < row.length) :
    nilChecked row nilOffset mask onNil rest =
      if 0 < row[nilOffset] &&& mask then .ok onNil else rest := by
  simp only [nilChecked, byteAt_of_lt h]
  rfl

/-- `List.any_map` of the core library is stated for endofunctions only. -/
theorem any_map_eq {α β : Type} (vs : List α) (f : α → β) (p : β → Bool) :
    (vs.map f).any p = vs.any fun v => p (f v) := by
  induction vs <;> simp_all

end Helpers

/-- For an integer `v` that the column type represents, comparing with `T(v)` is comparing
with `v`. -/
theorem apply_convertFloat64_intCast (op : FilterType) (x : ℤ) {z : ℤ} (hz : t.InRange z) :
    op.apply x (t.convertFloat64 fo z) = op.apply (x : ℚ) (z : ℚ) := by
  rw [Typ.convertFloat64_intCast fo hz]
  cases op <;> simp [FilterType.apply]

theorem FilterType.symbol_eq_notEqual (op : FilterType) :
    op.symbol = "!=" ↔ op = .filterNotEqual := by
  cases op <;> decide

theorem FilterType.symbol_eq_equal (op : FilterType) : op.symbol = "=" ↔ op = .filterEqual := by
  cases op <;> decide

/-! ## The compiled filters -/

section Compiled

variable {row : List UInt8} {nilOffset valueOffset : ℕ}

theorem metricFilterSimple_eval (ht : t ∈ intTypes) {op : FilterType}
    (hop : op ∈ simpleFilterTypes) (v : ℚ) (h : valueOffset + t.width ≤ row.length) :
    (do let mk ← makeMetricFilterFuncSimpleGen fo t op; mk v valueOffset row) =
      .ok (op.apply (t.ofBits (getCell row valueOffset t.width)) (t.convertFloat64 fo v)) := by
  have hne := (mem_intTypes.mp ht).2
  simp only [makeMetricFilterFuncSimpleGen, if_pos (And.intro (mem_types_of_mem_intTypes ht) hop)]
  rw [← Typ.ofBits_fromFloat64 hne]
  exact compareCell_of_ne fo hne op _ h

theorem metricFilterIn_eval (ht : t ∈ intTypes) (vs : List ℚ)
    (h : valueOffset + t.width ≤ row.length) :
    (do let mk ← makeMetricFilterFuncInGen fo t; mk vs valueOffset row) =
      .ok (vs.any fun v => t.ofBits (getCell row valueOffset t.width) = t.convertFloat64 fo v) := by
  have hne := (mem_intTypes.mp ht).2
  simp only [makeMetricFilterFuncInGen, if_pos (mem_types_of_mem_intTypes ht), ok_bind,
    memberCell_of_ne fo hne _ h, any_map_eq, Typ.ofBits_fromFloat64 hne]

theorem dimensionFilterSimple_eval (ht : t ∈ intTypes) {op : FilterType}
    (hop : op ∈ simpleFilterTypes) (v : ℚ) (mask : UInt8) (hn : nilOffset < row.length)
    (h : valueOffset + t.width ≤ row.length) :
    (do let mk ← makeDimensionFilterFuncSimpleGen fo t op false
        let p ← mk (.float64 v) nilOffset mask valueOffset
        p row) =
      .ok (if 0 < row[nilOffset] &&& mask then op.symbol = "!="
        else op.apply (t.ofBits (getCell row valueOffset t.width)) (t.convertFloat64 fo v)) := by
  have hne := (mem_intTypes.mp ht).2
  simp only [makeDimensionFilterFuncSimpleGen, if_pos (And.intro (mem_types_of_mem_intTypes ht) hop),
    ok_bind, pure_bind, Bool.false_eq_true, if_false, Untyped.asFloat64, map_ok, nilChecked_of_lt mask _ _ hn,
    compareCell_of_ne fo hne op _ h, Typ.ofBits_fromFloat64 hne]
  split_ifs <;> rfl

theorem dimensionFilterIn_eval (ht : t ∈ intTypes) (vs : List ℚ) (acceptNil : Bool)
    (mask : UInt8) (hn : nilOffset < row.length) (h : valueOffset + t.width ≤ row.length) :
    (do let mk ← makeDimensionFilterFuncInGen fo t false
        let p ← mk (.float64s vs) acceptNil nilOffset mask valueOffset
        p row) =
      .ok (if 0 < row[nilOffset] &&& mask then acceptNil
        else vs.any fun v => t.ofBits (getCell row valueOffset t.width) = t.convertFloat64 fo v) := by
  have hne := (mem_intTypes.mp ht).2
  simp only [makeDimensionFilterFuncInGen, if_pos (mem_types_of_mem_intTypes ht), ok_bind,
    pure_bind, Bool.false_eq_true, if_false, Untyped.asFloat64s, map_ok, nilChecked_of_lt mask _ _ hn,
    memberCell_of_ne fo hne _ h, any_map_eq, Typ.ofBits_fromFloat64 hne]
  split_ifs <;> rfl

theorem nilFilterSimple_eval (ht : t ∈ types) {op : FilterType} (hop : op ∈ simpleFilterTypes)
    (mask : UInt8) (hn : nilOffset < row.length) :
    (do let mk ← makeNilFilterFuncSimpleGen t op; mk nilOffset mask row) =
      .ok (if 0 < row[nilOffset] &&& mask then op.symbol = "=" else op.symbol = "!=") := by
  simp only [makeNilFilterFuncSimpleGen, if_pos (And.intro ht hop), ok_bind,
    nilChecked_of_lt mask _ _ hn]
  split_ifs <;> rfl

end Compiled

/-! ## All five makers at once -/

/-- What the five filter makers of an integer column `t` return on `row`, for the filter value
`v` (`vs` under `in`): on a nil row, the dimension filters answer `op = !=` (`acceptNil`) and
the filter against `nil` answers `op = =`; otherwise the cell's value `x` is compared with
`T(v)`, and the filter against `nil` answers `op = !=`. -/
def FiltersCompareConverted (t : Typ) (op : FilterType) (v : ℚ) (vs : List ℚ)
    (acceptNil : Bool) (mask : UInt8) (row : List UInt8) (nilOffset valueOffset : ℕ) : Prop :=
  let x := t.ofBits (getCell row valueOffset t.width)
  let isNil := 0 < row.getD nilOffset 0 &&& mask
  (do let mk ← makeDimensionFilterFuncSimpleGen fo t op false
      let p ← mk (.float64 v) nilOffset mask valueOffset
      p row) =
    .ok (if isNil then op = .filterNotEqual else op.apply x (t.convertFloat64 fo v)) ∧
  (do let mk ← makeMetricFilterFuncSimpleGen fo t op; mk v valueOffset row) =
    .ok (op.apply x (t.convertFloat64 fo v)) ∧
  (do let mk ← makeDimensionFilterFuncInGen fo t false
      let p ← mk (.float64s vs) acceptNil nilOffset mask valueOffset
      p row) =
    .ok (if isNil then acceptNil else vs.any fun w => x = t.convertFloat64 fo w) ∧
  (do let mk ← makeMetricFilterFuncInGen fo t; mk vs valueOffset row) =
    .ok (vs.any fun w => x = t.convertFloat64 fo w) ∧
  (do let mk ← makeNilFilterFuncSimpleGen t op; mk nilOffset mask row) =
    .ok (if isNil then op = .filterEqual else op = .filterNotEqual) ∧
  (t.InRange (truncate v) → t.convertFloat64 fo v = truncate v)

theorem compiled_filters_compare_converted_value (ht : t ∈ intTypes) {op : FilterType}
    (hop : op ∈ simpleFilterTypes) (v : ℚ) (vs : List ℚ) (acceptNil : Bool) (mask : UInt8)
    {row : List UInt8} {nilOffset valueOffset : ℕ} (hn : nilOffset < row.length)
    (h : valueOffset + t.width ≤ row.length) :
    FiltersCompareConverted fo t op v vs acceptNil mask row nilOffset valueOffset := by
  have hnil : row.getD nilOffset 0 = row[nilOffset] := List.getD_eq_getElem _ _ hn
  simp only [FiltersCompareConverted, hnil, dimensionFilterSimple_eval fo ht hop v mask hn h,
    metricFilterSimple_eval fo ht hop v h, dimensionFilterIn_eval fo ht vs acceptNil mask hn h,
    metricFilterIn_eval fo ht vs h, nilFilterSimple_eval (mem_types_of_mem_intTypes ht) hop mask hn,
    FilterType.symbol_eq_notEqual, FilterType.symbol_eq_equal, true_and]
  exact Typ.convertFloat64_of_inRange fo

theorem compiled_filters_compare_converted_value_uint8 :
    Typ.uint8 ∈ intTypes ∧ FilterType.filterLessThan ∈ simpleFilterTypes ∧ 0 < [1, 2].length ∧
      1 + Typ.uint8.width ≤ [1, 2].length ∧
      FiltersCompareConverted default .uint8 .filterLessThan (5 / 2) [2, 3] true 1 [1, 2] 0 1 :=
  ⟨by decide, by decide, by decide, by decide,
    compiled_filters_compare_converted_value default (by decide) (by decide) _ _ _ _ (by decide)
      (by decide)⟩

/-- The spec's real-number reading fails: on a `uint8` metric holding `2`, the filter
`< 2.5` compares with `uint8(2.5) = 2` and rejects the row although `2 < 2.5`.  The integer
branch never consults the `FloatOps`, so `default` stands for any of them. -/
theorem metric_lessThan_truncates_value :
    (do let mk ← makeMetricFilterFuncSimpleGen default .uint8 .filterLessThan; mk (5 / 2) 0 [2]) =
      .ok false ∧ FilterType.filterLessThan.apply ((2 : ℤ) : ℚ) (5 / 2) = true := by
  have htr : truncate (5 / 2) = 2 := by norm_num [truncate, Int.floor_eq_iff]
  refine ⟨?_, by norm_num [FilterType.apply]⟩
  rw [metricFilterSimple_eval default (by decide) (by decide) _ (by decide),
    Typ.convertFloat64_of_inRange default (by rw [htr]; decide), htr]
  rfl

/-! ## String columns -/

section Strings

/-- An unsigned type reads a bit pattern as the pattern itself. -/
theorem Typ.ofBits_of_unsigned (hu : t.signed = false) (n : ℕ) :
    t.ofBits n = (n % t.modulus : ℕ) := by
  simp [Typ.ofBits, hu]

/-- `T(id)` for a `uint32` id and an unsigned `T`: the id's low bytes. -/
theorem Typ.ofBits_fromUint32 (ht : t ≠ .float32) (hu : t.signed = false) (v : ℕ) :
    t.ofBits (t.fromUint32 fo v) = (v % t.modulus : ℕ) := by
  rw [Typ.fromUint32, if_neg ht, Typ.ofBits_of_unsigned hu, Typ.toBits, ← Int.natCast_mod,
    Int.toNat_natCast, Nat.mod_mod]

theorem Typ.ofBits_getCell (hu : t.signed = false) (row : List UInt8) (off : ℕ) :
    t.ofBits (getCell row off t.width) = getCell row off t.width := by
  rw [Typ.ofBits_of_unsigned hu, Typ.modulus, Nat.mod_eq_of_lt (getCell_lt row off t.width)]

/-- The id types of string columns are unsigned types of `intTypes`. -/
theorem mem_intTypes_of_string_type (h : t ∈ [Typ.uint8, .uint16, .uint32]) :
    t ∈ intTypes ∧ t.signed = false := by
  revert h; cases t <;> decide

/-- The simple operators compare naturals as they compare them as integers. -/
theorem FilterType.apply_natCast (op : FilterType) (a b : ℕ) :
    op.apply (a : ℤ) (b : ℤ) = op.apply a b := by
  cases op <;> simp [FilterType.apply]

variable {row : List UInt8} {nilOffset valueOffset : ℕ}

theorem dimensionFilterSimple_eval_string (ht : t ∈ intTypes) (hu : t.signed = false)
    {op : FilterType} (hop : op ∈ simpleFilterTypes) (id : ℕ) (mask : UInt8)
    (hn : nilOffset < row.length) (h : valueOffset + t.width ≤ row.length) :
    (do let mk ← makeDimensionFilterFuncSimpleGen fo t op true
        let p ← mk (.int .uint32 id) nilOffset mask valueOffset
        p row) =
      .ok (if 0 < row[nilOffset] &&& mask then op.symbol = "!="
        else op.apply (getCell row valueOffset t.width) (id % t.modulus)) := by
  have hne := (mem_intTypes.mp ht).2
  simp only [makeDimensionFilterFuncSimpleGen,
    if_pos (And.intro (mem_types_of_mem_intTypes ht) hop), ok_bind, pure_bind, if_true,
    Untyped.asUint32, Int.toNat_natCast, map_ok,
    nilChecked_of_lt mask _ _ hn, compareCell_of_ne fo hne op _ h, Typ.ofBits_fromUint32 fo hne hu,
    Typ.ofBits_getCell hu, FilterType.apply_natCast]
  split_ifs <;> rfl

theorem dimensionFilterIn_eval_string (ht : t ∈ intTypes) (hu : t.signed = false) (ids : List ℕ)
    (acceptNil : Bool) (mask : UInt8) (hn : nilOffset < row.length)
    (h : valueOffset + t.width ≤ row.length) :
    (do let mk ← makeDimensionFilterFuncInGen fo t true
        let p ← mk (.uint32s ids) acceptNil nilOffset mask valueOffset
        p row) =
      .ok (if 0 < row[nilOffset] &&& mask then acceptNil
        else ids.any fun v => getCell row valueOffset t.width = v % t.modulus) := by
  have hne := (mem_intTypes.mp ht).2
  simp only [makeDimensionFilterFuncInGen, if_pos (mem_types_of_mem_intTypes ht), ok_bind,
    pure_bind, if_true, Untyped.asUint32s, map_ok, nilChecked_of_lt mask _ _ hn,
    memberCell_of_ne fo hne _ h, any_map_eq, Typ.ofBits_fromUint32 fo hne hu, Typ.ofBits_getCell hu,
    Nat.cast_inj]
  split_ifs <;> rfl

/-- **Filters on a string column compare dimension ids.**  A string column of a schema that
`makeSchema` accepts holds its ids in an unsigned type `T` (`uint8`, `uint16` or `uint32`).
On it the two dimension filters compare the row's id with `T(id)` for the filter's `uint32`
ids: an id that `T` represents exactly, a larger one by its low bytes. -/
theorem string_filters_compare_ids {c : Config} {s : Schema} (hs : c.makeSchema = .ok s)
    {d : DimensionColumn} (hd : d ∈ s.dimensionColumns) (hstr : d.string = true)
    {op : FilterType} (hop : op ∈ simpleFilterTypes) (id : ℕ) (ids : List ℕ)
    (acceptNil : Bool) (mask : UInt8) (hn : nilOffset < row.length)
    (h : valueOffset + d.type.width ≤ row.length) :
    (do let mk ← makeDimensionFilterFuncSimpleGen fo d.type op true
        let p ← mk (.int .uint32 id) nilOffset mask valueOffset
        p row) =
      .ok (if 0 < row[nilOffset] &&& mask then op = .filterNotEqual
        else op.apply (getCell row valueOffset d.type.width) (id % d.type.modulus)) ∧
    (do let mk ← makeDimensionFilterFuncInGen fo d.type true
        let p ← mk (.uint32s ids) acceptNil nilOffset mask valueOffset
        p row) =
      .ok (if 0 < row[nilOffset] &&& mask then acceptNil
        else ids.any fun v => getCell row valueOffset d.type.width = v % d.type.modulus) := by
  obtain ⟨ht, hu⟩ := mem_intTypes_of_string_type (makeSchema_string_type hs d hd hstr)
  rw [dimensionFilterSimple_eval_string fo ht hu hop id mask hn h,
    dimensionFilterIn_eval_string fo ht hu ids acceptNil mask hn h]
  simp only [FilterType.symbol_eq_notEqual, and_self]

/-- On `config.toml`'s `string:uint8` column `country`, the id 300 is compared as
`uint8(300) = 44`. -/
theorem string_filters_compare_ids_country :
    configToml.makeSchema = .ok configTomlSchema ∧
      (⟨⟨"country", .uint8⟩, true⟩ : DimensionColumn) ∈
        configTomlSchema.dimensionColumns ∧
      FilterType.filterEqual ∈ simpleFilterTypes ∧ 0 < ([0, 44] : List UInt8).length ∧
      1 + Typ.uint8.width ≤ ([0, 44] : List UInt8).length ∧
      (do let mk ← makeDimensionFilterFuncSimpleGen default .uint8 .filterEqual true
          let p ← mk (.int .uint32 300) 0 1 1
          p [0, 44]) =
        .ok (if (0 : UInt8) < ([0, 44] : List UInt8)[0] &&& 1
          then FilterType.filterEqual = .filterNotEqual
          else FilterType.filterEqual.apply (getCell [0, 44] 1 Typ.uint8.width)
            (300 % Typ.uint8.modulus)) ∧
      (do let mk ← makeDimensionFilterFuncInGen default .uint8 true
          let p ← mk (.uint32s [300]) false 0 1 1
          p [0, 44]) =
        .ok (if (0 : UInt8) < ([0, 44] : List UInt8)[0] &&& 1 then false
          else [300].any fun v => getCell [0, 44] 1 Typ.uint8.width = v % Typ.uint8.modulus) :=
  ⟨makeSchema_configToml, List.mem_cons_of_mem _ (List.mem_cons_self _ _), by decide, by decide,
    by decide,
    string_filters_compare_ids default makeSchema_configToml
      (List.mem_cons_of_mem _ (List.mem_cons_self _ _)) rfl (by decide) 300 [300] false 1
      (by decide) (by decide)⟩

end Strings

end Gumshoe
