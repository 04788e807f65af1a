import Gumshoe.Schema

/-!
# Loading a configuration (`config.makeSchema`)

`LoadTOMLConfig` decodes a TOML file into a `Config` and hands it to `makeSchema`, which
checks it and builds the database's `Schema`.  Decoding TOML and parsing durations
(`time.ParseDuration`) are not modelled: a `Config` here is the decoded value, its durations
already in nanoseconds.

`makeSchema` is cut at the loops and checks of the Go function (`databaseLocation`,
`makeTimestampColumn`, `makeDimensionColumns`, `makeMetricColumns`, `checkDuplicates`), each
with its own lemma; `makeSchema_eq_ok` says once what a successful call went through, and the
results below are read off it.

## What the checks give, and what they miss

Every accepted configuration has pairwise distinct column names
(`makeSchema_columnNames_nodup`), and its retention is `RetentionDays × 24 h` whenever that
product fits in an `int64` (`makeSchema_retention_eq`).  Nothing bounds `RetentionDays` from
above, and `time.Duration(c.RetentionDays) * 24 * time.Hour` is an `int64` product: from
106752 days on it wraps, and the database keeps a negative retention
(`makeSchema_retention_wraps`).
-/

namespace Gumshoe

/-! ## Durations -/

namespace Time

/-- `time.Second`, in nanoseconds. -/
def second : ℤ := 1000000000

/-- `time.Minute`. -/
def minute : ℤ := 60 * second

/-- `time.Hour`. -/
def hour : ℤ := 60 * minute

end Time

/-- `d * e` on `time.Duration`s: an `int64` product, which wraps. -/
def durationMul (d e : ℤ) : ℤ := Typ.int64.wrap (d * e)

theorem int64_inRange_iff {z : ℤ} : Typ.int64.InRange z ↔ -2 ^ 63 ≤ z ∧ z < 2 ^ 63 := by
  simp only [Typ.InRange, Typ.minValue, Typ.maxValue, Typ.signed, Typ.modulus, Typ.width,
    if_true]
  omega

theorem durationMul_of_lt {d e : ℤ} (h₁ : -2 ^ 63 ≤ d * e) (h₂ : d * e < 2 ^ 63) :
    durationMul d e = d * e :=
  Typ.wrap_of_inRange (int64_inRange_iff.mpr ⟨h₁, h₂⟩)

/-! ## The configuration -/

/-- `config.Schema`: the `[schema]` table.  A column is a `[name, type]` pair. -/
structure Config.Schema where
  /-- A `time.Duration`, in nanoseconds. -/
  intervalDuration : ℤ
  timestampColumn : String × String
  dimensionColumns : List (String × String)
  metricColumns : List (String × String)

/-- `Config`, without `ListenAddr` and `StatsdAddr`, which `makeSchema` does not read. -/
structure Config where
  databaseDir : String
  /-- A `time.Duration`, in nanoseconds. -/
  flushInterval : ℤ
  retentionDays : ℤ
  schema : Config.Schema

/-- The errors `makeSchema` returns; each constructor's docstring is Go's text, with the
constructor's arguments in place of the verbs. -/
inductive MakeSchemaError where
  /-- "database directory must be provided. Use 'MEMORY' to specify an in-memory DB." -/
  | noDatabaseDir
  /-- "timestamp column (%q) must be uint32" -/
  | timestampNotUint32 (name : String)
  /-- "timestamp column cannot be a string" -/
  | timestampIsString
  /-- "got type %q for column %q (must be unsigned int type)" -/
  | stringNotUnsigned (typ name : String)
  /-- "schema must include at least one metric column" -/
  | noMetricColumns
  /-- "metric column (%q) has string type; not allowed for metric columns" -/
  | metricIsString (name : String)
  /-- "duplicate column name %q" -/
  | duplicateColumnName (name : String)
  /-- "flush interval is too small: %s" -/
  | flushIntervalTooSmall (d : ℤ)
  /-- "retention days is too small: %d" -/
  | retentionDaysTooSmall (days : ℤ)
  /-- "interval duration is too short: %s" -/
  | intervalDurationTooShort (d : ℤ)
  /-- The error of `MakeDimensionColumn` or `MakeMetricColumn` for a type name that
  `NameToType` lacks; its text is not among the sources. -/
  | badType (typ : String)

/-! ## Columns -/

/-- `strings.HasPrefix`, on characters; for the ASCII prefix used here that is the same as on
bytes. -/
def hasPrefix (s pre : String) : Bool := pre.data.isPrefixOf s.data

/-- `strings.TrimPrefix`. -/
def trimPrefix (s pre : String) : String :=
  if hasPrefix s pre then ⟨s.data.drop pre.length⟩ else s

/-- The named results of `parseColumn`. -/
structure ParsedColumn where
  name : String
  typ : String
  isString : Bool

/-- `parseColumn`: a type written `string:T` marks a string column of id type `T`. -/
def parseColumn (col : String × String) : ParsedColumn :=
  if hasPrefix col.2 "string:" then ⟨col.1, trimPrefix col.2 "string:", true⟩
  else ⟨col.1, col.2, false⟩

@[simp] theorem parseColumn_name (col : String × String) : (parseColumn col).name = col.1 := by
  unfold parseColumn; split <;> rfl

/-- Modelled from the spec: `gumshoe.MakeDimensionColumn` is not among the sources.  It is
read as the lookup of the type name in `NameToType` (spec 4.2: an unknown type is a schema
error), keeping the column's name. -/
def makeDimensionColumn (name typ : String) (isString : Bool) :
    Except MakeSchemaError DimensionColumn :=
  match nameToType typ with
  | some t => .ok { name := name, type := t, string := isString }
  | none => .error (.badType typ)

/-- Modelled from the spec: `gumshoe.MakeMetricColumn`, as `makeDimensionColumn`. -/
def makeMetricColumn (name typ : String) : Except MakeSchemaError MetricColumn :=
  match nameToType typ with
  | some t => .ok { name := name, type := t }
  | none => .error (.badType typ)

theorem makeDimensionColumn_name {name typ : String} {isString : Bool} {d : DimensionColumn}
    (h : makeDimensionColumn name typ isString = .ok d) : d.name = name := by
  unfold makeDimensionColumn at h
  split at h <;> cases h
  rfl

theorem makeMetricColumn_name {name typ : String} {m : MetricColumn}
    (h : makeMetricColumn name typ = .ok m) : m.name = name := by
  unfold makeMetricColumn at h
  split at h <;> cases h
  rfl

/-- The `switch c.DatabaseDir`: the directory and whether the database is disk-backed. -/
def databaseLocation : String → Except MakeSchemaError (String × Bool)
  | "" => .error .noDatabaseDir
  | "MEMORY" => .ok ("", false)
  | dir => .ok (dir, true)

/-- The timestamp column: a non-string `uint32`. -/
def makeTimestampColumn (col : String × String) : Except MakeSchemaError DimensionColumn :=
  let p := parseColumn col
  if p.typ ≠ "uint32" then .error (.timestampNotUint32 p.name)
  else if p.isString then .error .timestampIsString
  else makeDimensionColumn p.name p.typ p.isString

/-- The loop over `c.Schema.DimensionColumns`: a string column's ids must be unsigned. -/
def makeDimensionColumns : List (String × String) → Except MakeSchemaError (List DimensionColumn)
  | [] => .ok []
  | colPair :: cols => do
    let p := parseColumn colPair
    if p.isString ∧ p.typ ∉ ["uint8", "uint16", "uint32"] then
      throw (.stringNotUnsigned p.typ p.name)
    let col ← makeDimensionColumn p.name p.typ p.isString
    let rest ← makeDimensionColumns cols
    pure (col :: rest)

/-- The loop over `c.Schema.MetricColumns`: no string columns. -/
def makeMetricColumns : List (String × String) → Except MakeSchemaError (List MetricColumn)
  | [] => .ok []
  | colPair :: cols => do
    let p := parseColumn colPair
    if p.isString then throw (.metricIsString p.name)
    let col ← makeMetricColumn p.name p.typ
    let rest ← makeMetricColumns cols
    pure (col :: rest)

theorem makeTimestampColumn_name {col : String × String} {d : DimensionColumn}
    (h : makeTimestampColumn col = .ok d) : d.name = col.1 := by
  dsimp only [makeTimestampColumn] at h
  split_ifs at h
  simpa using makeDimensionColumn_name h

theorem makeDimensionColumns_names {cols : List (String × String)} {ds : List DimensionColumn}
    (h : makeDimensionColumns cols = .ok ds) : ds.map (·.name) = cols.map (·.1) := by
  induction cols generalizing ds with
  | nil => cases h; rfl
  | cons colPair cols ih =>
    rw [makeDimensionColumns] at h
    obtain ⟨-, h⟩ := guard_bind_eq_ok.mp h
    obtain ⟨d, hd, h⟩ := bind_eq_ok.mp h
    obtain ⟨rest, hrest, h⟩ := bind_eq_ok.mp h
    cases h
    simp [makeDimensionColumn_name hd, ih hrest]

theorem makeMetricColumns_names {cols : List (String × String)} {ms : List MetricColumn}
    (h : makeMetricColumns cols = .ok ms) : ms.map (·.name) = cols.map (·.1) := by
  induction cols generalizing ms with
  | nil => cases h; rfl
  | cons colPair cols ih =>
    rw [makeMetricColumns] at h
    obtain ⟨-, h⟩ := guard_bind_eq_ok.mp h
    obtain ⟨m, hm, h⟩ := bind_eq_ok.mp h
    obtain ⟨rest, hrest, h⟩ := bind_eq_ok.mp h
    cases h
    simp [makeMetricColumn_name hm, ih hrest]

/-- A string column of an accepted list holds its ids in an unsigned type. -/
theorem makeDimensionColumns_string_type {cols : List (String × String)}
    {ds : List DimensionColumn} (h : makeDimensionColumns cols = .ok ds) :
    ∀ d ∈ ds, d.string = true → d.type ∈ [.uint8, .uint16, .uint32] := by
  induction cols generalizing ds with
  | nil => cases h; nofun
  | cons colPair cols ih =>
    rw [makeDimensionColumns] at h
    obtain ⟨hguard, h⟩ := guard_bind_eq_ok.mp h
    obtain ⟨d, hd, h⟩ := bind_eq_ok.mp h
    obtain ⟨rest, hrest, h⟩ := bind_eq_ok.mp h
    cases h
    rintro d' (_ | ⟨_, hd'⟩) hstr
    · unfold makeDimensionColumn at hd
      cases ht : nameToType (parseColumn colPair).typ with
      | none => rw [ht] at hd; cases hd
      | some t =>
        rw [ht] at hd
        cases hd
        have hs : (parseColumn colPair).isString = true := hstr
        simp only [hs, true_and, not_not, List.mem_cons, List.mem_singleton, List.not_mem_nil,
          or_false] at hguard
        rcases hguard with hg | hg | hg <;> simp [hg, nameToType] at ht <;> simp [← ht]
    · exact ih hrest d' hd' hstr

/-! ## Duplicate names -/

/-- The duplicate-name check: `names` holds the names seen so far (at first the timestamp
column's), and each further name is looked up and then added. -/
def checkDuplicates (names : List String) : List String → Except MakeSchemaError Unit
  | [] => .ok ()
  | n :: ns => if n ∈ names then .error (.duplicateColumnName n) else checkDuplicates (n :: names) ns

/-- The check passes exactly when the names it walks are distinct and new. -/
theorem checkDuplicates_eq_ok (names ns : List String) :
    checkDuplicates names ns = .ok () ↔ ns.Nodup ∧ ∀ n ∈ ns, n ∉ names := by
  induction ns generalizing names with
  | nil => simp [checkDuplicates]
  | cons n ns ih =>
    by_cases hn : n ∈ names
    · simp [checkDuplicates, hn]
    · simp only [checkDuplicates, if_neg hn, ih, List.nodup_cons, List.mem_cons, not_or,
        forall_eq_or_imp]
      constructor
      · rintro ⟨hns, hall⟩
        exact ⟨⟨fun h => (hall n h).1 rfl, hns⟩, hn, fun m hm => (hall m hm).2⟩
      · rintro ⟨⟨hnn, hns⟩, -, hall⟩
        exact ⟨hns, fun m hm => ⟨fun h => hnn (h ▸ hm), hall m hm⟩⟩

/-! ## `makeSchema` -/

/-- `Config.makeSchema`.  The schema's `MetricOffsets` are left for `Schema.Initialize`. -/
def Config.makeSchema (c : Config) : Except MakeSchemaError Gumshoe.Schema := do
  let (dir, diskBacked) ← databaseLocation c.databaseDir
  let timestampColumn ← makeTimestampColumn c.schema.timestampColumn
  let dimensions ← makeDimensionColumns c.schema.dimensionColumns
  if c.schema.metricColumns = [] then throw .noMetricColumns
  let metrics ← makeMetricColumns c.schema.metricColumns
  checkDuplicates [timestampColumn.name] (dimensions.map (·.name) ++ metrics.map (·.name))
  if c.flushInterval < Time.second then throw (.flushIntervalTooSmall c.flushInterval)
  if c.retentionDays < 1 then throw (.retentionDaysTooSmall c.retentionDays)
  if c.schema.intervalDuration < Time.minute then
    throw (.intervalDurationTooShort c.schema.intervalDuration)
  pure
    { timestampColumn := timestampColumn.toColumn
      dimensionColumns := dimensions
      metricColumns := metrics
      metricOffsets := []
      segmentSize := 1000000
      intervalDuration := c.schema.intervalDuration
      diskBacked := diskBacked
      dir := dir
      runConfig :=
        { fixedRetention := true
          retention := durationMul (durationMul c.retentionDays 24) Time.hour } }

/-- **What an accepted configuration went through.**  Every step of `makeSchema` returned,
every guard let it through, and the schema is the record built from the steps' results. -/
theorem makeSchema_eq_ok {c : Config} {s : Gumshoe.Schema} (h : c.makeSchema = .ok s) :
    ∃ loc ts ds ms, databaseLocation c.databaseDir = .ok loc ∧
      makeTimestampColumn c.schema.timestampColumn = .ok ts ∧
      makeDimensionColumns c.schema.dimensionColumns = .ok ds ∧
      c.schema.metricColumns ≠ [] ∧
      makeMetricColumns c.schema.metricColumns = .ok ms ∧
      checkDuplicates [ts.name] (ds.map (·.name) ++ ms.map (·.name)) = .ok () ∧
      Time.second ≤ c.flushInterval ∧ 1 ≤ c.retentionDays ∧
      Time.minute ≤ c.schema.intervalDuration ∧
      s =
        { timestampColumn := ts.toColumn
          dimensionColumns := ds
          metricColumns := ms
          metricOffsets := []
          segmentSize := 1000000
          intervalDuration := c.schema.intervalDuration
          diskBacked := loc.2
          dir := loc.1
          runConfig :=
            { fixedRetention := true
              retention := durationMul (durationMul c.retentionDays 24) Time.hour } } := by
  unfold Config.makeSchema at h
  obtain ⟨⟨dir, disk⟩, hloc, h⟩ := bind_eq_ok.mp h
  obtain ⟨ts, hts, h⟩ := bind_eq_ok.mp h
  obtain ⟨ds, hds, h⟩ := bind_eq_ok.mp h
  obtain ⟨hne, h⟩ := guard_bind_eq_ok.mp h
  obtain ⟨ms, hms, h⟩ := bind_eq_ok.mp h
  obtain ⟨⟨⟩, hdup, h⟩ := bind_eq_ok.mp h
  obtain ⟨hflush, h⟩ := guard_bind_eq_ok.mp h
  obtain ⟨hret, h⟩ := guard_bind_eq_ok.mp h
  obtain ⟨hint, h⟩ := guard_bind_eq_ok.mp h
  cases h
  exact ⟨_, ts, ds, ms, hloc, hts, hds, hne, hms, hdup, not_lt.mp hflush, not_lt.mp hret,
    not_lt.mp hint, rfl⟩

/-- The `Config` that `config.toml` decodes to. -/
def configToml : Config where
  databaseDir := "db"
  flushInterval := 10 * Time.second
  retentionDays := 7
  schema :=
    { intervalDuration := Time.hour
      timestampColumn := ("at", "uint32")
      dimensionColumns := [("name", "string:uint16"), ("country", "string:uint8"), ("age", "uint8")]
      metricColumns := [("visits", "uint8"), ("clicks", "uint8")] }

/-- The schema `makeSchema` builds from `config.toml`. -/
def configTomlSchema : Gumshoe.Schema where
  timestampColumn := ⟨"at", .uint32⟩
  dimensionColumns := [⟨⟨"name", .uint16⟩, true⟩, ⟨⟨"country", .uint8⟩, true⟩, ⟨⟨"age", .uint8⟩, false⟩]
  metricColumns := [⟨⟨"visits", .uint8⟩⟩, ⟨⟨"clicks", .uint8⟩⟩]
  metricOffsets := []
  segmentSize := 1000000
  intervalDuration := Time.hour
  diskBacked := true
  dir := "db"
  runConfig := ⟨true, 7 * 24 * Time.hour⟩

theorem makeSchema_configToml : configToml.makeSchema = .ok configTomlSchema := rfl

/-! ## Column names -/

/-- An accepted configuration's columns are named as in the configuration, in order, and
no two alike. -/
theorem makeSchema_columnNames_nodup {c : Config} {s : Gumshoe.Schema}
    (h : c.makeSchema = .ok s) :
    s.columnNames =
        (c.schema.timestampColumn :: (c.schema.dimensionColumns ++ c.schema.metricColumns)).map
          (·.1) ∧
      s.columnNames.Nodup := by
  obtain ⟨-, ts, ds, ms, -, hts, hds, -, hms, hdup, -, -, -, rfl⟩ := makeSchema_eq_ok h
  obtain ⟨hnd, hnew⟩ := (checkDuplicates_eq_ok _ _).mp hdup
  refine ⟨?_, List.nodup_cons.mpr ⟨fun hm => hnew _ hm (List.mem_singleton_self _), hnd⟩⟩
  simp only [Schema.columnNames, List.map_cons, List.map_append, makeDimensionColumns_names hds,
    makeMetricColumns_names hms, makeTimestampColumn_name hts]

theorem makeSchema_columnNames_nodup_configToml :
    configTomlSchema.columnNames = ["at", "name", "country", "age", "visits", "clicks"] ∧
      configTomlSchema.columnNames.Nodup :=
  makeSchema_columnNames_nodup makeSchema_configToml

/-! ## String columns -/

/-- The ids of an accepted configuration's string columns are `uint8`, `uint16` or `uint32`. -/
theorem makeSchema_string_type {c : Config} {s : Gumshoe.Schema} (h : c.makeSchema = .ok s) :
    ∀ d ∈ s.dimensionColumns, d.string = true → d.type ∈ [.uint8, .uint16, .uint32] := by
  obtain ⟨-, -, ds, -, -, -, hds, -, -, -, -, -, -, rfl⟩ := makeSchema_eq_ok h
  exact makeDimensionColumns_string_type hds

/-! ## Retention -/

/-- Below 106752 days, the retention is `RetentionDays × 24 h` and positive. -/
theorem makeSchema_retention_eq {c : Config} {s : Gumshoe.Schema} (h : c.makeSchema = .ok s)
    (hdays : c.retentionDays ≤ 106751) :
    s.runConfig.retention = c.retentionDays * 24 * Time.hour ∧ 0 < s.runConfig.retention := by
  obtain ⟨-, -, -, -, -, -, -, -, -, -, -, hpos, -, rfl⟩ := makeSchema_eq_ok h
  have hday : durationMul c.retentionDays 24 = c.retentionDays * 24 :=
    durationMul_of_lt (by omega) (by omega)
  have hhour : durationMul (c.retentionDays * 24) Time.hour = c.retentionDays * 24 * Time.hour :=
    durationMul_of_lt (by simp only [Time.hour, Time.minute, Time.second]; omega)
      (by simp only [Time.hour, Time.minute, Time.second]; omega)
  rw [hday, hhour]
  exact ⟨rfl, by simp only [Time.hour, Time.minute, Time.second]; omega⟩

theorem makeSchema_retention_eq_configToml :
    configTomlSchema.runConfig.retention = 7 * 24 * Time.hour ∧
      0 < configTomlSchema.runConfig.retention :=
  makeSchema_retention_eq makeSchema_configToml (by decide)

/-- From 106752 days on, the `int64` product wraps: `config.toml` with
`retention_days = 106752` is accepted with a negative retention, where `106752 × 24 h` is
`9223372800000000000` ns. -/
theorem makeSchema_retention_wraps :
    (Config.makeSchema { configToml with retentionDays := 106752 }).map (·.runConfig.retention) =
      .ok (-9223371273709551616) ∧
      (106752 : ℤ) * 24 * Time.hour = 9223372800000000000 :=
  ⟨rfl, rfl⟩

end Gumshoe
