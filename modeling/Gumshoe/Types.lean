import Mathlib.Data.Rat.Floor

/-!
# Column types, filter operators and Go's numeric semantics

`types_gen.go` is generated by `gen.go` from one template per operation, instantiated for
every column type and filter operator.  This file fixes the enumerations the generated code is
written over (`Typ`, `FilterType`) and the part of Go's semantics it relies on: two's
complement integers of each width, and conversions from `float64`.

## What is transcribed and what is ours

* `Typ.goName`, `Typ.width`, `types`, `intTypes`, `nameToType`, `filters`,
  `simpleFilterTypes`, `FilterType.symbol` and `FilterType.goOperator` transcribe the tables
  of `gen.go`.  `Typ` has the ten members of the spec's closed set, which the router's copy of
  the package also names; `gen.go` instantiates its templates for the seven in `types`.
* `Typ.ofBits`, `Typ.toBits` and `Typ.convertFloat64` follow the Go specification: integers
  are two's complement and wrap, and a float-to-integer conversion discards the fraction.
* `FloatOps` is ours.  It collects what the code uses but this development does not compute:
  IEEE 754 arithmetic, and the results Go leaves to the implementation.  Theorems hold for
  every `FloatOps`.  A finite `float64` is the rational number it denotes.  JSON yields no NaN
  or infinity, so a decoded value is always finite; only arithmetic makes the others
  (`NonFinite`), and IEEE 754 fixes how they combine (`FloatOps.addFloat64`).
-/

namespace Gumshoe

/-- The column types (`Type`). -/
inductive Typ where
  | uint8 | int8 | uint16 | int16 | uint32 | int32 | uint64 | int64 | float32 | float64
  deriving DecidableEq, Repr, Inhabited

namespace Typ

/-- `typeNames`: the Go spelling of each type. -/
def goName : Typ → String
  | uint8 => "uint8" | int8 => "int8" | uint16 => "uint16" | int16 => "int16"
  | uint32 => "uint32" | int32 => "int32" | uint64 => "uint64" | int64 => "int64"
  | float32 => "float32" | float64 => "float64"

/-- `typeWidths`: `unsafe.Sizeof` of the Go type, in bytes. -/
def width : Typ → ℕ
  | uint8 | int8 => 1
  | uint16 | int16 => 2
  | uint32 | int32 | float32 => 4
  | uint64 | int64 | float64 => 8

def signed : Typ → Bool
  | int8 | int16 | int32 | int64 => true
  | _ => false

/-- `gen.go`'s test for an integer type: the Go name starts with `int` or `uint`. -/
def isInt : Typ → Bool
  | float32 | float64 => false
  | _ => true

theorem width_pos (t : Typ) : 0 < t.width := by cases t <;> decide

end Typ

/-- `types` in `gen.go`: the types every template is instantiated for. -/
def types : List Typ := [.uint8, .int8, .uint16, .int16, .uint32, .int32, .float32]

/-- `IntTypes` in `gen.go`. -/
def intTypes : List Typ := types.filter Typ.isInt

/-- `NameToType`: a type by its Go name. -/
def nameToType : String → Option Typ
  | "uint8" => some .uint8
  | "int8" => some .int8
  | "uint16" => some .uint16
  | "int16" => some .int16
  | "uint32" => some .uint32
  | "int32" => some .int32
  | "float32" => some .float32
  | _ => none

theorem mem_intTypes {t : Typ} : t ∈ intTypes ↔ t ∈ types ∧ t ≠ .float32 := by
  cases t <;> decide

theorem mem_types_of_mem_intTypes {t : Typ} (h : t ∈ intTypes) : t ∈ types :=
  (mem_intTypes.mp h).1

/-! ## Filter operators -/

/-- The filter operators (`FilterType`). -/
inductive FilterType where
  | filterEqual | filterNotEqual | filterGreaterThan | filterGreaterThenOrEqual
  | filterLessThan | filterLessThanOrEqual | filterIn
  deriving DecidableEq, Repr

namespace FilterType

/-- `filterTypeToName`: the operator as a query spells it. -/
def symbol : FilterType → String
  | filterEqual => "=" | filterNotEqual => "!=" | filterGreaterThan => ">"
  | filterGreaterThenOrEqual => ">=" | filterLessThan => "<" | filterLessThanOrEqual => "<="
  | filterIn => "in"

/-- The Go operator a simple filter is compiled to; `in` has none. -/
def goOperator : FilterType → String
  | filterEqual => "==" | filterNotEqual => "!=" | filterGreaterThan => ">"
  | filterGreaterThenOrEqual => ">=" | filterLessThan => "<" | filterLessThanOrEqual => "<="
  | filterIn => ""

/-- `x {{.GoOperator}} y` for the simple operators, over any linear order: the code applies it
to machine integers, the spec to real numbers. -/
def apply {α : Type} [LinearOrder α] : FilterType → α → α → Bool
  | filterEqual, x, y => x = y
  | filterNotEqual, x, y => x ≠ y
  | filterGreaterThan, x, y => x > y
  | filterGreaterThenOrEqual, x, y => x ≥ y
  | filterLessThan, x, y => x < y
  | filterLessThanOrEqual, x, y => x ≤ y
  | filterIn, _, _ => false

end FilterType

/-- `filters` in `gen.go`. -/
def filters : List FilterType :=
  [.filterEqual, .filterNotEqual, .filterGreaterThan, .filterGreaterThenOrEqual,
    .filterLessThan, .filterLessThanOrEqual, .filterIn]

/-- `SimpleFilterTypes`: the filters with a Go operator. -/
def simpleFilterTypes : List FilterType := filters.filter (·.goOperator != "")

theorem mem_simpleFilterTypes {f : FilterType} : f ∈ simpleFilterTypes ↔ f ≠ .filterIn := by
  cases f <;> decide

/-! ## Integers

A value of an integer type is stored as its bit pattern, a natural number below
`modulus = 256 ^ width`; signed types read it in two's complement. -/

namespace Typ

def modulus (t : Typ) : ℕ := 256 ^ t.width

def minValue (t : Typ) : ℤ := if t.signed then -(t.modulus / 2 : ℕ) else 0

def maxValue (t : Typ) : ℤ := if t.signed then (t.modulus / 2 : ℕ) - 1 else (t.modulus : ℤ) - 1

/-- The integers the integer type `t` represents. -/
def InRange (t : Typ) (z : ℤ) : Prop := t.minValue ≤ z ∧ z ≤ t.maxValue

instance (t : Typ) : DecidablePred t.InRange := fun _ => inferInstanceAs (Decidable (_ ∧ _))

/-- The value of the integer type `t` whose bit pattern is `n` (taken modulo `modulus`). -/
def ofBits (t : Typ) (n : ℕ) : ℤ :=
  if t.signed ∧ t.modulus ≤ 2 * (n % t.modulus) then
    ((n % t.modulus : ℕ) : ℤ) - t.modulus
  else (n % t.modulus : ℕ)

/-- The bit pattern of the integer `z` stored in a `t`: Go's integer conversions and
arithmetic wrap, so only `z` modulo `modulus` counts. -/
def toBits (t : Typ) (z : ℤ) : ℕ := (z % t.modulus).toNat

theorem modulus_pos (t : Typ) : (0 : ℤ) < t.modulus := by
  exact_mod_cast Nat.pos_pow_of_pos _ (by norm_num)

theorem modulus_even (t : Typ) : t.modulus % 2 = 0 := by
  cases t <;> rfl

theorem toBits_lt (t : Typ) (z : ℤ) : t.toBits z < t.modulus := by
  have h₁ := Int.emod_nonneg z t.modulus_pos.ne'
  have h₂ := Int.emod_lt_of_pos z t.modulus_pos
  unfold toBits
  omega

theorem ofBits_inRange (t : Typ) (n : ℕ) : t.InRange (t.ofBits n) := by
  have he := t.modulus_even
  have hk := Nat.mod_lt n (Int.ofNat_pos.mp t.modulus_pos)
  unfold InRange ofBits minValue maxValue
  generalize n % t.modulus = k at *
  cases t.signed <;> simp only [true_and, false_and, Bool.false_eq_true, if_true, if_false] <;>
    (try split_ifs) <;> omega

/-- A stored value is congruent to its bit pattern. -/
theorem ofBits_emod (t : Typ) (n : ℕ) : t.ofBits n % (t.modulus : ℤ) = (n : ℤ) % t.modulus := by
  unfold ofBits
  split_ifs <;> simp [Int.sub_emod, Int.emod_emod_of_dvd]

theorem toBits_ofBits (t : Typ) (n : ℕ) : t.toBits (t.ofBits n) = n % t.modulus := by
  rw [toBits, ofBits_emod, ← Int.natCast_mod, Int.toNat_natCast]

theorem ofBits_toBits {t : Typ} {z : ℤ} (h : t.InRange z) : t.ofBits (t.toBits z) = z := by
  have he := t.modulus_even
  have hM := t.modulus_pos
  have hlt := t.toBits_lt z
  have hk : (t.toBits z : ℤ) = z % t.modulus := Int.toNat_of_nonneg (Int.emod_nonneg z hM.ne')
  unfold InRange minValue maxValue at h
  unfold ofBits
  rw [Nat.mod_eq_of_lt hlt]
  generalize t.toBits z = k at *
  cases hs : t.signed <;>
    simp only [hs, true_and, false_and, Bool.false_eq_true, if_true, if_false] at h ⊢
  · rw [Int.emod_eq_of_lt h.1 (by omega)] at hk
    omega
  · rcases le_or_lt 0 z with hz | hz
    · rw [Int.emod_eq_of_lt hz (by omega)] at hk
      split_ifs <;> omega
    · rw [← Int.add_emod_self, Int.emod_eq_of_lt (by omega) (by omega)] at hk
      split_ifs <;> omega

theorem ofBits_mod (t : Typ) (n : ℕ) : t.ofBits (n % t.modulus) = t.ofBits n := by
  simp only [ofBits, Nat.mod_mod]

/-- Wrapping addition of two stored values is addition of their bit patterns. -/
theorem toBits_ofBits_add (t : Typ) (a b : ℕ) :
    t.toBits (t.ofBits a + t.ofBits b) = (a + b) % t.modulus := by
  rw [toBits, Int.add_emod, ofBits_emod, ofBits_emod, ← Int.add_emod, ← Nat.cast_add,
    ← Int.natCast_mod, Int.toNat_natCast]

/-- Go's conversion of the integer `z` to the integer type `t`. -/
def wrap (t : Typ) (z : ℤ) : ℤ := t.ofBits (t.toBits z)

theorem wrap_of_inRange {t : Typ} {z : ℤ} (h : t.InRange z) : t.wrap z = z := ofBits_toBits h

theorem toBits_eq_iff (t : Typ) (a b : ℤ) :
    t.toBits a = t.toBits b ↔ a % t.modulus = b % t.modulus := by
  have h₁ := Int.emod_nonneg a t.modulus_pos.ne'
  have h₂ := Int.emod_nonneg b t.modulus_pos.ne'
  unfold toBits
  omega

/-- Wrapping a partial sum changes nothing: a chain of wrapping additions wraps the whole sum
once. -/
theorem wrap_add_wrap (t : Typ) (a b : ℤ) : t.wrap (t.wrap a + b) = t.wrap (a + b) := by
  unfold wrap
  congr 1
  rw [toBits_eq_iff, Int.add_emod, ofBits_emod, toBits,
    Int.toNat_of_nonneg (Int.emod_nonneg a t.modulus_pos.ne'), Int.emod_emod_of_dvd _ (dvd_refl _),
    ← Int.add_emod]

end Typ

/-! ## Conversions from `float64` -/

/-- Go's float-to-integer conversion discards the fraction: truncation toward zero. -/
def truncate (v : ℚ) : ℤ := if 0 ≤ v then ⌊v⌋ else ⌈v⌉

theorem truncate_intCast (z : ℤ) : truncate z = z := by
  unfold truncate
  split_ifs <;> simp

/-- The `float64`s that are not numbers: the two infinities and NaN.  No JSON number decodes
to one; arithmetic makes them, and `encoding/json` refuses to encode them. -/
inductive NonFinite where
  | posInf
  | negInf
  | nan
  deriving DecidableEq, Repr, Inhabited

/-- `strconv.FormatFloat(f, 'g', -1, 64)`: how `encoding/json` names such a value. -/
def NonFinite.format : NonFinite → String
  | .posInf => "+Inf"
  | .negInf => "-Inf"
  | .nan => "NaN"

/-- What the code computes with but this development leaves open: IEEE 754 arithmetic on
`float32` bit patterns and `float64` values, and the results of conversions that Go leaves to
the implementation. -/
structure FloatOps where
  /-- `x + y` on two `float32`s, as bit patterns. -/
  add32 : ℕ → ℕ → ℕ
  /-- `x op y` on two `float32`s, as bit patterns. -/
  compare32 : FilterType → ℕ → ℕ → Bool
  /-- The bit pattern of `float32(v)`: `v` rounded to `float32`. -/
  round32 : ℚ → ℕ
  /-- `int(x)` for the `float32` with bit pattern `x`. -/
  truncate32 : ℕ → ℤ
  /-- `x + y` on two finite `float64`s: their sum rounded to `float64`, an infinity when it
  overflows. -/
  add64 : ℚ → ℚ → ℚ ⊕ NonFinite
  /-- `T(v)` for an integer type `T` and a `float64` `v` whose truncation `T` cannot
  represent: "the behavior is implementation-dependent". -/
  outOfRange : Typ → ℚ → ℤ
  /-- `int64(f)` for an infinity or NaN `f`, implementation-dependent as well. -/
  truncateNonFinite : NonFinite → ℤ
  deriving Inhabited

namespace Typ

/-- `T(v)` for an integer type `t` and a `float64` `v`. -/
def convertFloat64 (fo : FloatOps) (t : Typ) (v : ℚ) : ℤ :=
  if t.InRange (truncate v) then truncate v else t.wrap (fo.outOfRange t v)

theorem convertFloat64_of_inRange (fo : FloatOps) {t : Typ} {v : ℚ}
    (h : t.InRange (truncate v)) : t.convertFloat64 fo v = truncate v := if_pos h

theorem convertFloat64_inRange (fo : FloatOps) (t : Typ) (v : ℚ) :
    t.InRange (t.convertFloat64 fo v) := by
  unfold convertFloat64 wrap
  split_ifs with h
  · exact h
  · exact ofBits_inRange t _

/-- A `float64` holding an integer `t` represents converts to that integer. -/
theorem convertFloat64_intCast (fo : FloatOps) {t : Typ} {z : ℤ} (h : t.InRange z) :
    t.convertFloat64 fo z = z := by
  rw [convertFloat64_of_inRange fo (by rwa [truncate_intCast]), truncate_intCast]

end Typ

namespace FloatOps

variable (fo : FloatOps)

/-- `x + y` on two `float64`s, finite or not: the rounded sum of two finite ones, and IEEE
754's rules for the others (NaN absorbs, opposite infinities give NaN, an infinity absorbs a
finite value). -/
def addFloat64 : ℚ ⊕ NonFinite → ℚ ⊕ NonFinite → ℚ ⊕ NonFinite
  | .inl a, .inl b => fo.add64 a b
  | .inr .nan, _ | _, .inr .nan => .inr .nan
  | .inr .posInf, .inr .negInf | .inr .negInf, .inr .posInf => .inr .nan
  | .inr x, _ => .inr x
  | .inl _, .inr y => .inr y

/-- `int64(f)` for a `float64` `f`. -/
def int64Of : ℚ ⊕ NonFinite → ℤ
  | .inl v => Typ.int64.convertFloat64 fo v
  | .inr x => fo.truncateNonFinite x

@[simp] theorem int64Of_inl (v : ℚ) : fo.int64Of (.inl v) = Typ.int64.convertFloat64 fo v := rfl

end FloatOps

/-! ## Panics

A Go panic is an `Except.error` carrying the panic's message; these lemmas run a computation
that does not panic. -/

section Panics

variable {ε α β : Type} (a : α) (e : ε) (f : α → Except ε β) (g : α → β)

@[simp] theorem ok_bind : (Except.ok a >>= f) = f a := rfl

@[simp] theorem error_bind : (Except.error e >>= f) = Except.error e := rfl

@[simp] theorem map_ok : (g <$> (Except.ok a : Except ε α)) = Except.ok (g a) := rfl

@[simp] theorem map_error : (g <$> (Except.error e : Except ε α)) = Except.error e := rfl

@[simp] theorem except_map_ok : Except.map g (Except.ok a : Except ε α) = Except.ok (g a) := rfl

theorem map_eq_ok {g : α → β} {x : Except ε α} {b : β} :
    (g <$> x) = .ok b ↔ ∃ a, x = .ok a ∧ g a = b := by
  cases x <;> simp

/-- A computation that returns went through each of its steps. -/
theorem bind_eq_ok {x : Except ε α} {f : α → Except ε β} {b : β} : (x >>= f) = .ok b ↔ ∃ a, x = .ok a ∧ f a = .ok b := by
  cases x <;> simp

/-- A Go guard `if c { return err }` that lets a computation through. -/
theorem guard_bind_eq_ok {e : ε} {c : Prop} [Decidable c] {k : PUnit → Except ε β} {b : β} :
    (if c then throw e >>= k else pure PUnit.unit >>= k) = .ok b ↔ ¬c ∧ k PUnit.unit = .ok b := by
  by_cases hc : c
  · simp only [hc, if_true, not_true_eq_false, false_and, iff_false]
    exact nofun
  · simp [hc]

end Panics

/-! ## Untyped values -/

/-- A Go `interface{}` value (`Untyped`) as the code meets one: a boxed cell value, a filter
argument, a value `encoding/json` decoded, or the `int64` the router stores after a merge. -/
inductive Untyped where
  | nil
  | bool (b : Bool)
  /-- An integer whose dynamic type is the integer type `t`. -/
  | int (t : Typ) (z : ℤ)
  | float32 (bits : ℕ)
  | float64 (v : ℚ)
  | string (s : String)
  /-- A `[]uint32`. -/
  | uint32s (vs : List ℕ)
  /-- A `[]float64`. -/
  | float64s (vs : List ℚ)
  /-- A decoded JSON array. -/
  | array (vs : List Untyped)
  /-- A decoded JSON object. -/
  | object (fields : List (String × Untyped))
  /-- A `float64` infinity or NaN, which only the router's sums make. -/
  | nonFinite (x : NonFinite)
  deriving Inhabited

/-- The message of a failed type assertion `x.(T)`. -/
def interfaceConversion : String := "interface conversion"

namespace Untyped

/-- `x.(uint32)`. -/
def asUint32 : Untyped → Except String ℕ
  | .int .uint32 z => .ok z.toNat
  | _ => .error interfaceConversion

/-- `x.(float64)`, for a value decoded from JSON, which is never an infinity or NaN. -/
def asFloat64 : Untyped → Except String ℚ
  | .float64 v => .ok v
  | _ => .error interfaceConversion

/-- `x.(float64)`, for a value that may be an infinity or NaN. -/
def asFloat64Value : Untyped → Except String (ℚ ⊕ NonFinite)
  | .float64 v => .ok (.inl v)
  | .nonFinite x => .ok (.inr x)
  | _ => .error interfaceConversion

/-- A `float64` stored in an `interface{}`. -/
def ofFloat64 : ℚ ⊕ NonFinite → Untyped
  | .inl v => .float64 v
  | .inr x => .nonFinite x

/-- `x.([]uint32)`. -/
def asUint32s : Untyped → Except String (List ℕ)
  | .uint32s vs => .ok vs
  | _ => .error interfaceConversion

/-- `x.([]float64)`. -/
def asFloat64s : Untyped → Except String (List ℚ)
  | .float64s vs => .ok vs
  | _ => .error interfaceConversion

end Untyped

/-- The message of a failed bounds check. -/
def indexOutOfRange : String := "runtime error: index out of range"

end Gumshoe
