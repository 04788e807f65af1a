import Gumshoe.Types

/-!
# Schemas

A schema fixes a table's columns: one timestamp column, the dimension columns (each possibly
string-backed, its cells then holding ids into a dimension table), and the metric columns,
together with where each metric sits in a packed metric row.

`Schema` and its column records belong to the part of package `gumshoe` that is not among
the sources.  They carry the fields the code here reads or writes: `MetricBytes.add` reads
`MetricColumns` and `MetricOffsets`, `Config.makeSchema` builds the rest, and the router reads
the columns and the name indexes.  The indexes are built by `Schema.Initialize`, which is not
among the sources either; `dimensionNameToIndex` and `metricNameToIndex` follow the spec.
-/

namespace Gumshoe

/-- `Column`: a named, typed slot. -/
structure Column where
  name : String
  type : Typ

/-- `DimensionColumn`: a column that may be nil; `string` marks one whose cells hold ids into
its dimension table. -/
structure DimensionColumn extends Column where
  string : Bool

/-- `MetricColumn`. -/
structure MetricColumn extends Column

/-- `RunConfig`: the retention policy. -/
structure RunConfig where
  fixedRetention : Bool
  /-- A `time.Duration`: nanoseconds, an `int64`. -/
  retention : ℤ

structure Schema where
  timestampColumn : Column
  dimensionColumns : List DimensionColumn
  metricColumns : List MetricColumn
  /-- Byte offset of each metric column in a packed metric row. -/
  metricOffsets : List ℕ
  segmentSize : ℕ
  /-- A `time.Duration`, in nanoseconds. -/
  intervalDuration : ℤ
  diskBacked : Bool
  dir : String
  runConfig : RunConfig

namespace Schema

/-- Modelled from the spec: `DimensionNameToIndex`, filled in by `Schema.Initialize` (not among
the sources), maps a dimension column's name to its position (spec 4.2, "index maps
name→(section, position)"). -/
def dimensionNameToIndex (s : Schema) (name : String) : Option ℕ :=
  s.dimensionColumns.findIdx? (·.name = name)

/-- Modelled from the spec: `MetricNameToIndex`, as `dimensionNameToIndex` for the metric
columns. -/
def metricNameToIndex (s : Schema) (name : String) : Option ℕ :=
  s.metricColumns.findIdx? (·.name = name)

theorem dimensionNameToIndex_eq_some {s : Schema} {name : String} {i : ℕ}
    (h : s.dimensionNameToIndex name = some i) :
    ∃ d, s.dimensionColumns[i]? = some d ∧ d.name = name := by
  have hi := List.findIdx?_of_eq_some h
  split at hi
  · exact ⟨_, ‹_›, by simpa using hi⟩
  · cases hi

theorem metricNameToIndex_eq_some {s : Schema} {name : String} {i : ℕ}
    (h : s.metricNameToIndex name = some i) :
    ∃ m, s.metricColumns[i]? = some m ∧ m.name = name := by
  have hi := List.findIdx?_of_eq_some h
  split at hi
  · exact ⟨_, ‹_›, by simpa using hi⟩
  · cases hi

/-- The names of all columns, the timestamp first. -/
def columnNames (s : Schema) : List String :=
  s.timestampColumn.name :: (s.dimensionColumns.map (·.name) ++ s.metricColumns.map (·.name))

end Schema

end Gumshoe
