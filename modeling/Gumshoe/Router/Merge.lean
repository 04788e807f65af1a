import Gumshoe.Config
import Mathlib.Algebra.BigOperators.Group.List
import Mathlib.Data.List.Nodup

/-!
# The router: checking a query and merging shard rows

The router fans a query out to every shard and merges the rows the shards stream back.  This
file holds its sequential code: the checks `HandleQuery` makes before it contacts a shard, the
grouping setup, the key a shard row is merged under, and `mergeRows` with its helpers
`typeForCol` and `sumColumn`.  `Gumshoe.Router.Shards` runs the shard goroutines that call
them.

## What is transcribed and what is ours

* `validColumnName`, `convertColumnToIntegral`, `typeForCol`, `sumColumn`, `mergeRows` and the
  checks of `HandleQuery` are transcribed; a panic is an `Except.error` carrying its message.
  A `float64` sum may overflow to an infinity; with integer aggregates `mergeRows` writes only
  `int64`s, so it leaves no infinity or NaN for the JSON encoder to refuse
  (`mergeRows_encodable`).
* The query types of package `gumshoe` are not among the sources: `Query` keeps the fields the
  router reads, as the spec lists them.
* `mergeSeq` and `mergedValue` are ours.  `mergeSeq` merges a key's rows into the first one
  after another, as the shard goroutines do; `mergedValue` is what that leaves under a merged
  name, computed from the rows alone.  `mergeSeq_eq_mergedValue` connects the two: with
  integer aggregates, a lone row keeps its own values and several rows end as the `int64` sum
  of the `int64` conversions of their values, in whatever order they were merged.
-/

namespace Gumshoe

/-! ## Rows and map keys -/

/-- `gumshoe.RowMap`: a decoded JSON object, from names to values. -/
def RowMap := String → Option Untyped

namespace RowMap

/-- `row[k] = v`. -/
def set (row : RowMap) (k : String) (v : Untyped) : RowMap := Function.update row k (some v)

@[simp] theorem set_self (row : RowMap) (k : String) (v : Untyped) : row.set k v k = some v :=
  Function.update_same _ _ _

@[simp] theorem set_of_ne (row : RowMap) {k k' : String} (v : Untyped) (h : k' ≠ k) :
    row.set k v k' = row k' :=
  Function.update_noteq h _ _

/-- A row `encoding/json` can encode: no value is a `float64` infinity or NaN. -/
def Encodable (row : RowMap) : Prop := ∀ k x, row k ≠ some (.nonFinite x)

theorem Encodable.set {row : RowMap} (h : row.Encodable) (k : String) {v : Untyped}
    (hv : ∀ x, v ≠ .nonFinite x) : (row.set k v).Encodable := fun k' x => by
  by_cases hk : k' = k
  · subst hk
    rw [set_self]
    exact fun h' => hv x (Option.some.inj h')
  · rw [set_of_ne _ _ hk]
    exact h k' x

end RowMap

/-- `v != nil`, negated. -/
def Untyped.isNil : Untyped → Bool
  | .nil => true
  | _ => false

/-- A hashable `interface{}` value, compared as a Go map compares keys: by dynamic type, then
value. -/
inductive GroupKey where
  | nil
  | bool (b : Bool)
  | int (t : Typ) (z : ℤ)
  | float32 (bits : ℕ)
  | float64 (v : ℚ)
  | string (s : String)
  | nonFinite (x : NonFinite)
  deriving DecidableEq

/-- The message of a map access with a slice or a map as key. -/
def unhashable : String := "runtime error: hash of unhashable type"

/-- `v` used as a map key. -/
def Untyped.toKey : Untyped → Except String GroupKey
  | .nil => .ok .nil
  | .bool b => .ok (.bool b)
  | .int t z => .ok (.int t z)
  | .float32 bits => .ok (.float32 bits)
  | .float64 v => .ok (.float64 v)
  | .string s => .ok (.string s)
  | .nonFinite x => .ok (.nonFinite x)
  | .uint32s _ | .float64s _ | .array _ | .object _ => .error unhashable

/-! ## Queries

Modelled from the spec: the query types of package `gumshoe` are not among the sources.  A
query's aggregates are `{type, column, name}`, its groupings `{time_truncation, column, name}`
and its filters `{op, column, value}` (spec 7); the router reads the fields kept here. -/

inductive AggregateType where
  | aggregateSum | aggregateAvg
  deriving DecidableEq

structure QueryAggregate where
  type : AggregateType
  column : String
  name : String

structure QueryGrouping where
  column : String
  name : String

structure QueryFilter where
  column : String

structure Query where
  aggregates : List QueryAggregate
  groupings : List QueryGrouping
  filters : List QueryFilter

/-- The names `mergeRows` writes: each aggregate's, then `rowCount`. -/
def Query.mergeNames (q : Query) : List String := q.aggregates.map (·.name) ++ ["rowCount"]

/-! ### Queries and rows on config.toml's schema -/

/-- The sum of `clicks`, under its own name. -/
def sumClicks : Query := ⟨[⟨.aggregateSum, "clicks", "clicks"⟩], [], []⟩

/-- The sum of `clicks`, grouped by the metric column `visits`. -/
def groupByVisits : Query := ⟨[⟨.aggregateSum, "clicks", "clicks"⟩], [⟨"visits", "visits"⟩], []⟩

/-- The sum of `clicks`, grouped by the string dimension `name`. -/
def clicksByName : Query := ⟨[⟨.aggregateSum, "clicks", "clicks"⟩], [⟨"name", "name"⟩], []⟩

/-- A shard's row for one row with one click. -/
def oneClick : RowMap := fun k => if k = "clicks" ∨ k = "rowCount" then some (.float64 1) else none

theorem oneClick_encodable : oneClick.Encodable := fun k x => by
  unfold oneClick
  split <;> simp

/-- A shard's row for one row with one click, named `a`. -/
def oneClickByA : RowMap := fun k => if k = "name" then some (.string "a") else oneClick k

/-! ## The router -/

/-- `Router`: the schema it loaded and its shards' addresses. -/
structure Router where
  schema : Schema
  shards : List String

/-- The router the router's `main` starts: `config.LoadTOMLConfig` builds the schema with
`makeSchema`, and `NewRouter` pairs it with the shards of the `-shards` flag.  `main` stops
(`Log.Fatal`) on a config `makeSchema` rejects. -/
def newRouter (c : Config) (shards : List String) : Except MakeSchemaError Router :=
  (fun schema => ⟨schema, shards⟩) <$> c.makeSchema

theorem newRouter_configToml (shards : List String) :
    newRouter configToml shards = .ok ⟨configTomlSchema, shards⟩ := by
  rw [newRouter, makeSchema_configToml]
  rfl

/-- A router over `config.toml`'s schema, with two shards. -/
def twoShards : Router := ⟨configTomlSchema, ["shard0", "shard1"]⟩

/-- `WriteError(w, err, status)`: the response `HandleQuery` ends with when it fails. -/
structure ErrorResponse where
  status : ℕ
  msg : String

/-- `writeInvalidColumnError`.  `%q` quotes the name; a name holding a character that `%q`
escapes is written here as it is. -/
def invalidColumnError (name : String) : ErrorResponse :=
  ⟨400, "\"" ++ name ++ "\" is not a valid column name"⟩

/-- `xs[i]`, which panics out of range. -/
def sliceIndex {α : Type} (xs : List α) (i : ℕ) : Except String α :=
  match xs[i]? with
  | some x => .ok x
  | none => .error indexOutOfRange

namespace Router

variable (r : Router)

/-- `validColumnName`: the timestamp, a dimension or a metric column. -/
def validColumnName (name : String) : Bool :=
  name == r.schema.timestampColumn.name || (r.schema.dimensionNameToIndex name).isSome ||
    (r.schema.metricNameToIndex name).isSome

/-- The check `HandleQuery` makes of each column a query names. -/
def checkColumn (col : String) : Option ErrorResponse :=
  if r.validColumnName col then none else some (invalidColumnError col)

/-- The checks `HandleQuery` makes before it contacts a shard, in its order: the response of
the first that fails, or `none`. -/
def checkQuery (format : String) (q : Query) : Option ErrorResponse :=
  (if format = "" then none else some ⟨500, "non-standard query formats not supported"⟩) <|>
    q.aggregates.findSome? (fun agg =>
      if agg.type = .aggregateAvg then some ⟨500, "average aggregates not handled by the router"⟩
      else r.checkColumn agg.column) <|>
    q.groupings.findSome? (fun g => r.checkColumn g.column) <|>
    q.filters.findSome? (fun f => r.checkColumn f.column)

/-- `convertColumnToIntegral`: whether grouping values are converted to `int64`, true for an
integral non-string dimension and for the timestamp. -/
def convertColumnToIntegral (name : String) : Except String Bool :=
  match r.schema.dimensionNameToIndex name with
  | some i => (fun (d : DimensionColumn) => !d.string && d.type.isInt) <$>
      sliceIndex r.schema.dimensionColumns i
  | none =>
    if name = r.schema.timestampColumn.name then .ok r.schema.timestampColumn.type.isInt
    else .error "grouping column doesn't exist"

/-- `typeForCol`: the type of a dimension or metric column. -/
def typeForCol (col : String) : Except String Typ :=
  match r.schema.dimensionNameToIndex col with
  | some i => (·.type) <$> sliceIndex r.schema.dimensionColumns i
  | none =>
    match r.schema.metricNameToIndex col with
    | some i => (·.type) <$> sliceIndex r.schema.metricColumns i
    | none => .error ("bad column in sumColumn: " ++ col)

/-- The grouping setup of `HandleQuery`: the first grouping's name, under which shard rows
carry its value, and whether that value is converted to `int64`. -/
def groupingSetup (q : Query) : Except String (Option (String × Bool)) :=
  match q.groupings with
  | [] => .ok none
  | g :: _ => (fun conv => some (g.name, conv)) <$> r.convertColumnToIntegral g.column

/-- What `HandleQuery` does before it starts the shard goroutines: a panic, an error response,
or the grouping setup. -/
def prepareQuery (format : String) (q : Query) :
    Except String (Except ErrorResponse (Option (String × Bool))) :=
  match r.checkQuery format q with
  | some e => .ok (.error e)
  | none => .ok <$> r.groupingSetup q

end Router

/-! ## Merging -/

variable (fo : FloatOps)

/-- `sumColumn` (a method of `Router` that does not read it): the sum of two rows' values under
`col`, a missing value read as `float64(0)`.  For an integer type the sum is an `int64`; for a
float type it is a `float64`, which may overflow to an infinity. -/
def sumColumn (row1 row2 : RowMap) (col : String) (typ : Typ) : Except String Untyped :=
  let val1 := (row1 col).getD (.float64 0)
  let val2 := (row2 col).getD (.float64 0)
  if typ.isInt then
    match val1 with
    | .int .int64 v1 =>
      (fun v2 => .int .int64 (Typ.int64.wrap (v1 + fo.int64Of v2))) <$> val2.asFloat64Value
    | _ =>
      match val1.asFloat64Value with
      | .ok v1 =>
        (fun v2 => .int .int64 (Typ.int64.wrap (fo.int64Of v1 + fo.int64Of v2))) <$>
          val2.asFloat64Value
      | .error _ => .error "unexpected type"
  else do
    let v1 ← val1.asFloat64Value
    let v2 ← val2.asFloat64Value
    pure (.ofFloat64 (fo.addFloat64 v1 v2))

/-- `mergeRows`: merges `row2` into `row1`, aggregate by aggregate and then `rowCount`. -/
def Router.mergeRows (r : Router) (row1 row2 : RowMap) (q : Query) : Except String RowMap := do
  let row1 ← q.aggregates.foldlM (fun row1 agg => do
    let typ ← r.typeForCol agg.column
    let v ← sumColumn fo row1 row2 agg.name typ
    pure (row1.set agg.name v)) row1
  let v ← sumColumn fo row1 row2 "rowCount" .int64
  pure (row1.set "rowCount" v)

/-- The key a shard row is merged under (`groupByValue`): its value under the grouping's name,
converted to `int64` for an integral grouping column.  Without groupings every row goes to the
one slot `result[0]`, keyed `nil` here.  A shard row is decoded JSON, which holds no `float64`
infinity or NaN: keys are compared by value, and a NaN key, which a Go map never finds again,
is not modelled. -/
def rowKey (grouping : Option (String × Bool)) (row : RowMap) : Except String GroupKey :=
  match grouping with
  | none => .ok .nil
  | some (col, intConv) =>
    let v := (row col).getD .nil
    if intConv && !v.isNil then
      (fun f => GroupKey.int .int64 (Typ.int64.convertFloat64 fo f)) <$> v.asFloat64
    else v.toKey

/-- Ours: `first` with `rows` merged into it one after another, as a key's entry receives
them. -/
def Router.mergeSeq (r : Router) (q : Query) (first : RowMap) (rows : List RowMap) :
    Except String RowMap :=
  rows.foldlM (fun acc row => r.mergeRows fo acc row q) first

/-! ## Merging integers

The rest of the file is about queries whose aggregates all have integer columns. -/

/-- Every aggregate names a dimension or metric column of an integer type. -/
def Router.SumsIntegers (r : Router) (q : Query) : Prop :=
  ∀ agg ∈ q.aggregates, ∃ t, r.typeForCol agg.column = .ok t ∧ t.isInt

theorem sumsIntegers_sumClicks (shards : List String) :
    (Router.mk configTomlSchema shards).SumsIntegers sumClicks := fun agg hagg =>
  ⟨.uint8, by rw [List.mem_singleton.mp hagg]; rfl, rfl⟩

/-- What a shard row carries under a merged name: a JSON number, or nothing. -/
def IsNumber : Option Untyped → Prop
  | none | some (.float64 _) => True
  | _ => False

instance : DecidablePred IsNumber
  | none | some (.float64 _) => isTrue trivial
  | some .nil | some (.bool _) | some (.int _ _) | some (.float32 _) | some (.string _)
  | some (.uint32s _) | some (.float64s _) | some (.array _) | some (.object _)
  | some (.nonFinite _) => isFalse id

/-- What a merged row holds under a merged name: a number, or the `int64` of a merge. -/
def IsSum : Option Untyped → Prop
  | some (.int .int64 _) => True
  | v => IsNumber v

/-- The integer a merge adds for a value: `int64(v)` of a `float64`, an `int64` as it is, and
0 for nothing. -/
def intValue : Option Untyped → ℤ
  | some (.int .int64 z) => z
  | some (.float64 v) => Typ.int64.convertFloat64 fo v
  | _ => 0

theorem IsNumber.isSum {v : Option Untyped} (h : IsNumber v) : IsSum v := by
  rcases v with _ | _ | _ | ⟨⟨⟩, _⟩ | _ | _ <;> first | exact h | trivial

/-- A number or nothing reads as a `float64` whose conversion is the value's `intValue`. -/
theorem IsNumber.getD {v : Option Untyped} (h : IsNumber v) :
    ∃ f, v.getD (.float64 0) = .float64 f ∧ intValue fo v = Typ.int64.convertFloat64 fo f := by
  rcases v with _ | _ | _ | _ | _ | f <;> try exact h.elim
  · refine ⟨0, rfl, ?_⟩
    have h0 := Typ.convertFloat64_intCast fo (t := .int64) (z := 0) (by decide)
    rw [Int.cast_zero] at h0
    exact h0.symm
  · exact ⟨f, rfl, rfl⟩

/-- `sumColumn` on an integer type adds the two values' `intValue`s in `int64`. -/
theorem sumColumn_of_isInt {t : Typ} (ht : t.isInt) {row1 row2 : RowMap} {col : String}
    (h₁ : IsSum (row1 col)) (h₂ : IsNumber (row2 col)) :
    sumColumn fo row1 row2 col t =
      .ok (.int .int64 (Typ.int64.wrap (intValue fo (row1 col) + intValue fo (row2 col)))) := by
  obtain ⟨f₂, hf₂, hv₂⟩ := h₂.getD fo
  unfold sumColumn
  simp only [ht, if_true, hf₂, hv₂]
  rcases hv : row1 col with _ | _ | _ | ⟨⟨⟩, z⟩ | _ | _ | _ <;> rw [hv] at h₁ <;>
    first | exact h₁.elim | rfl

/-- The row `mergeRows` leaves when every merged name holds a sum in `row1` and a number in
`row2`. -/
def mergedRow (names : List String) (row1 row2 : RowMap) : RowMap := fun k =>
  if k ∈ names then
    some (.int .int64 (Typ.int64.wrap (intValue fo (row1 k) + intValue fo (row2 k))))
  else row1 k

section MergeRows

variable {r : Router} {q : Query} {row1 row2 : RowMap}

/-- The loop over the aggregates writes each aggregate's name once, from the values `row1`
held before the loop. -/
theorem foldlM_aggregates (hq : r.SumsIntegers q) (aggs : List QueryAggregate)
    (hsub : ∀ agg ∈ aggs, agg ∈ q.aggregates) (hnd : (aggs.map (·.name)).Nodup)
    (acc : RowMap) (hacc : ∀ a ∈ aggs.map (·.name), acc a = row1 a ∧ IsSum (row1 a))
    (h₂ : ∀ a ∈ aggs.map (·.name), IsNumber (row2 a)) :
    aggs.foldlM (fun row1 agg => do
        let typ ← r.typeForCol agg.column
        let v ← sumColumn fo row1 row2 agg.name typ
        pure (row1.set agg.name v)) acc =
      .ok fun k => if k ∈ aggs.map (·.name) then
        some (.int .int64 (Typ.int64.wrap (intValue fo (row1 k) + intValue fo (row2 k))))
        else acc k := by
  induction aggs generalizing acc with
  | nil => rfl
  | cons agg aggs ih =>
    obtain ⟨t, hty, ht⟩ := hq agg (hsub agg (List.mem_cons_self _ _))
    have hnd' := List.nodup_cons.mp hnd
    obtain ⟨hacc₀, hsum₀⟩ := hacc agg.name (List.mem_cons_self _ _)
    have hs : sumColumn fo acc row2 agg.name t =
        .ok (.int .int64 (Typ.int64.wrap (intValue fo (row1 agg.name) + intValue fo (row2 agg.name)))) := by
      rw [sumColumn_of_isInt fo ht (hacc₀ ▸ hsum₀) (h₂ _ (List.mem_cons_self _ _)), hacc₀]
    rw [List.foldlM_cons, hty, ok_bind, hs, ok_bind, pure_bind,
      ih (fun a ha => hsub a (List.mem_cons_of_mem _ ha)) hnd'.2 _
        (fun a ha => by
          rw [RowMap.set_of_ne _ _ (by rintro rfl; exact hnd'.1 ha)]
          exact hacc a (List.mem_cons_of_mem _ ha))
        (fun a ha => h₂ a (List.mem_cons_of_mem _ ha))]
    refine congrArg Except.ok (funext fun k => ?_)
    by_cases hk : k = agg.name
    · subst hk
      simp [hnd'.1, hacc₀]
    · simp only [List.map_cons, List.mem_cons, hk, false_or, RowMap.set_of_ne _ _ hk]

/-- **One merge.**  With integer aggregates of distinct names, `mergeRows` adds every merged
name's values in `int64` and leaves the other names as `row1` has them. -/
theorem mergeRows_eq (hq : r.SumsIntegers q) (hn : q.mergeNames.Nodup)
    (h₁ : ∀ a ∈ q.mergeNames, IsSum (row1 a)) (h₂ : ∀ a ∈ q.mergeNames, IsNumber (row2 a)) :
    r.mergeRows fo row1 row2 q = .ok (mergedRow fo q.mergeNames row1 row2) := by
  have hnd : (q.aggregates.map (·.name)).Nodup := (List.nodup_append.mp hn).1
  have hrc : "rowCount" ∉ q.aggregates.map (·.name) := fun h =>
    (List.nodup_append.mp hn).2.2 h (List.mem_singleton_self _)
  have hmem : ∀ a ∈ q.aggregates.map (·.name), a ∈ q.mergeNames := fun a ha =>
    List.mem_append_left _ ha
  have hrcmem : "rowCount" ∈ q.mergeNames := List.mem_append_right _ (List.mem_singleton_self _)
  unfold Router.mergeRows
  rw [foldlM_aggregates fo hq _ (fun _ h => h) hnd row1 (fun a ha => ⟨rfl, h₁ a (hmem a ha)⟩)
    (fun a ha => h₂ a (hmem a ha)), ok_bind]
  set acc : RowMap := fun k => if k ∈ q.aggregates.map (·.name) then
    some (.int .int64 (Typ.int64.wrap (intValue fo (row1 k) + intValue fo (row2 k)))) else row1 k
    with hacc
  have hrow : acc "rowCount" = row1 "rowCount" := if_neg hrc
  rw [sumColumn_of_isInt fo (show Typ.int64.isInt = true from rfl) (hrow ▸ h₁ _ hrcmem)
    (h₂ _ hrcmem), hrow, ok_bind]
  refine congrArg Except.ok (funext fun k => ?_)
  by_cases hk : k = "rowCount"
  · subst hk
    simp [mergedRow, hrcmem]
  · simp only [hacc, mergedRow, RowMap.set_of_ne _ _ hk, Query.mergeNames, List.mem_append,
      List.mem_singleton, hk, or_false]

/-- On an integer type `sumColumn` yields an `int64`, never a `float64` infinity or NaN. -/
theorem sumColumn_eq_int {t : Typ} (ht : t.isInt) {col : String} {v : Untyped}
    (h : sumColumn fo row1 row2 col t = .ok v) : ∃ z, v = .int .int64 z := by
  unfold sumColumn at h
  simp only [ht, if_true] at h
  split at h
  · obtain ⟨_, -, rfl⟩ := map_eq_ok.mp h
    exact ⟨_, rfl⟩
  · split at h
    · obtain ⟨_, -, rfl⟩ := map_eq_ok.mp h
      exact ⟨_, rfl⟩
    · cases h

/-- The loop over integer aggregates writes only `int64`s. -/
theorem foldlM_aggregates_encodable (hq : r.SumsIntegers q) (aggs : List QueryAggregate)
    (hsub : ∀ agg ∈ aggs, agg ∈ q.aggregates) {acc row : RowMap} (hacc : acc.Encodable)
    (h : aggs.foldlM (fun row1 agg => do
        let typ ← r.typeForCol agg.column
        let v ← sumColumn fo row1 row2 agg.name typ
        pure (row1.set agg.name v)) acc = .ok row) : row.Encodable := by
  induction aggs generalizing acc with
  | nil => cases h; exact hacc
  | cons agg aggs ih =>
    obtain ⟨t, hty, ht⟩ := hq agg (hsub agg (List.mem_cons_self _ _))
    rw [List.foldlM_cons, hty, ok_bind] at h
    obtain ⟨acc', hacc', h⟩ := bind_eq_ok.mp h
    obtain ⟨v, hv, hset⟩ := bind_eq_ok.mp hacc'
    cases hset
    obtain ⟨z, rfl⟩ := sumColumn_eq_int fo ht hv
    exact ih (fun a ha => hsub a (List.mem_cons_of_mem _ ha)) (hacc.set _ fun _ h => by cases h) h

/-- **Integer merges write no infinity or NaN.**  With integer aggregates `mergeRows` writes
only `int64`s, so a row free of infinities and NaNs stays so, whatever is merged into it. -/
theorem mergeRows_encodable (hq : r.SumsIntegers q) (h₁ : row1.Encodable) {row : RowMap}
    (h : r.mergeRows fo row1 row2 q = .ok row) : row.Encodable := by
  obtain ⟨acc, hacc, h⟩ := bind_eq_ok.mp h
  obtain ⟨v, hv, hset⟩ := bind_eq_ok.mp h
  cases hset
  obtain ⟨z, rfl⟩ := sumColumn_eq_int fo (by rfl) hv
  exact (foldlM_aggregates_encodable fo hq _ (fun _ h => h) h₁ hacc).set _ fun _ h => by cases h

theorem mergeSeq_encodable (hq : r.SumsIntegers q) {first : RowMap} (hfirst : first.Encodable)
    {rows : List RowMap} {row : RowMap} (h : r.mergeSeq fo q first rows = .ok row) :
    row.Encodable := by
  induction rows generalizing first with
  | nil => cases h; exact hfirst
  | cons x xs ih =>
    rw [Router.mergeSeq, List.foldlM_cons] at h
    obtain ⟨acc, hacc, h⟩ := bind_eq_ok.mp h
    exact ih (mergeRows_encodable fo hq hfirst hacc) h

/-- **A run of merges.**  Merging nonempty `rows` into `acc` leaves, under each merged name,
the `int64` sum of all their `intValue`s, and the other names as `acc` has them. -/
theorem foldlM_mergeRows (hq : r.SumsIntegers q) (hn : q.mergeNames.Nodup)
    (rows : List RowMap) (hrows : ∀ row ∈ rows, ∀ a ∈ q.mergeNames, IsNumber (row a))
    (hne : rows ≠ []) (acc : RowMap) (hacc : ∀ a ∈ q.mergeNames, IsSum (acc a)) :
    r.mergeSeq fo q acc rows = .ok fun k => if k ∈ q.mergeNames then
      some (.int .int64
        (Typ.int64.wrap (intValue fo (acc k) + (rows.map fun row => intValue fo (row k)).sum)))
      else acc k := by
  induction rows generalizing acc with
  | nil => exact absurd rfl hne
  | cons row rows ih =>
    have hrow := hrows row (List.mem_cons_self _ _)
    unfold Router.mergeSeq
    rw [List.foldlM_cons, mergeRows_eq fo hq hn hacc hrow, ok_bind]
    rcases rows with _ | ⟨x, xs⟩
    · refine congrArg Except.ok (funext fun k => ?_)
      simp [mergedRow]
    · have hsum : ∀ a ∈ q.mergeNames, IsSum (mergedRow fo q.mergeNames acc row a) := fun a ha => by
        simp only [mergedRow, if_pos ha]
        trivial
      rw [← Router.mergeSeq, ih (fun y hy => hrows y (List.mem_cons_of_mem _ hy))
        (List.cons_ne_nil _ _) _ hsum]
      refine congrArg Except.ok (funext fun k => ?_)
      by_cases hk : k ∈ q.mergeNames
      · simp only [mergedRow, if_pos hk, intValue, Typ.wrap_add_wrap, List.map_cons,
          List.sum_cons, add_assoc]
      · simp only [mergedRow, if_neg hk]

end MergeRows

/-! ## The merged value of a key

`mergedValue rs k` is what a key's entry holds under the merged name `k` once all the key's
rows `rs` are merged: computed from the rows alone, and the same for every order. -/

/-- A lone row keeps its value; several rows leave the `int64` sum of their `intValue`s. -/
def mergedValue (rs : List RowMap) (k : String) : Option Untyped :=
  match rs with
  | [row] => row k
  | _ => some (.int .int64 (Typ.int64.wrap (rs.map fun row => intValue fo (row k)).sum))

theorem mergedValue_perm {rs rs' : List RowMap} (h : rs.Perm rs') (k : String) :
    mergedValue fo rs k = mergedValue fo rs' k := by
  rcases rs with _ | ⟨row, _ | ⟨row', rs⟩⟩
  · rw [List.Perm.nil_eq h]
  · rw [← List.singleton_perm.mp h]
  · obtain ⟨x, y, rs'', rfl⟩ : ∃ x y rs'', rs' = x :: y :: rs'' := by
      rcases rs' with _ | ⟨x, _ | ⟨y, rs''⟩⟩
      · exact absurd h.length_eq (by simp)
      · exact absurd h.length_eq (by simp)
      · exact ⟨x, y, rs'', rfl⟩
    simp only [mergedValue, (h.map _).sum_eq]

/-- **Merging in any order.**  With integer aggregates of distinct names and shard rows
carrying numbers, the rows of a key merged one after another leave `mergedValue` under every
merged name. -/
theorem mergeSeq_eq_mergedValue {r : Router} {q : Query} (hq : r.SumsIntegers q)
    (hn : q.mergeNames.Nodup) {first : RowMap} {rows : List RowMap}
    (hnum : ∀ row ∈ first :: rows, ∀ a ∈ q.mergeNames, IsNumber (row a)) {row : RowMap}
    (h : r.mergeSeq fo q first rows = .ok row) {k : String} (hk : k ∈ q.mergeNames) :
    row k = mergedValue fo (first :: rows) k := by
  rcases rows with _ | ⟨x, xs⟩
  · cases h
    rfl
  · rw [foldlM_mergeRows fo hq hn _ (fun y hy => hnum y (List.mem_cons_of_mem _ hy))
      (List.cons_ne_nil _ _) first (fun a ha => (hnum first (List.mem_cons_self _ _) a ha).isSum)] at h
    cases h
    simp [mergedValue, if_pos hk]

theorem mergeSeq_eq_mergedValue_oneClick :
    ∃ row, (Router.mk configTomlSchema ["shard0"]).mergeSeq default sumClicks oneClick
        [oneClick, oneClick] = .ok row ∧
      row "clicks" = mergedValue default [oneClick, oneClick, oneClick] "clicks" :=
  ⟨_, rfl, @mergeSeq_eq_mergedValue default (.mk configTomlSchema ["shard0"]) sumClicks
    (sumsIntegers_sumClicks _) (by decide) oneClick
    [oneClick, oneClick] (by decide) _ rfl _ (by decide)⟩

end Gumshoe
