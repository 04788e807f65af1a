import Gumshoe.Router.Merge
import Mathlib.Algebra.Order.BigOperators.Group.Finset
import Mathlib.Data.Fintype.Basic
import Mathlib.Algebra.BigOperators.Fin

/-!
# The router: the shard goroutines of `HandleQuery`

`HandleQuery` starts one goroutine per shard.  Each decodes the rows its shard streams back
and merges them into the shared result: without groupings into `result[0]` under `mu`; with
groupings into `resultMap`, taking `mu` to find or create the row of the key and then, for an
existing row, taking the row's own lock and releasing `mu` before merging (the lock
downgrade).

The goroutines form a transition system: `step s i` runs goroutine `i`'s next statement, and
is `none` when `i` is blocked on a lock, has returned, waits for ever on a shard that never
finishes its response, or a panic has ended the process.  A run is any interleaving of steps
(`Run`).

## What is proved

* `Inv`: every reachable state keeps the locks consistent with where the goroutines are, and
  accounts for every decoded row: it is in flight in its goroutine or merged into the one entry
  of its key, and an entry's row is its rows merged one after another (`Reachable.inv`).  From
  it, mutual exclusion on `mu` and on every row (`Reachable.mu_exclusive`,
  `Reachable.cur_exclusive`).
* No run gets stuck while a goroutine can still return (`Reachable.progress`), and every run
  ends within ten steps for each row the shards stream back (`Run.length_le_init`).  So every
  run no goroutine can extend ends in one of the outcomes `Responds` lists, and that outcome is
  an answer unless a shard never finishes its response (`handleQuery_ends`).
* A run that ends with every goroutine returning `nil` leaves one entry per key, holding the
  key's rows merged in some order (`final_entries`).  The rows `HandleQuery` answers with are
  therefore one per key, each holding `mergedValue` of its key's rows under every merged name,
  whatever the interleaving (`handleQuery_merges_by_key`).  With integer aggregates they hold
  no `float64` infinity or NaN, so the JSON encoder takes them (`Inv.row_encodable`); a sum
  over a float column that overflows is answered with the encoder's error instead.
* A query that names one aggregate's name twice merges the second aggregate into the first's
  sum: two copies of one shard streaming one click answer `clicks` 3
  (`handleQuery_adds_repeated_name_twice`).

## Honest boundary

* Each statement of the goroutine body is one atomic step.  What a step touches is either the
  goroutine's own or guarded by a lock the invariant shows it holds; that finer interleavings
  of the same statements end the same way is not formalised.
* A shard's response is given as the rows it decodes to, and how it ends: cleanly, with an
  error, or not at all (`Stream.stalls`).  The router's `http.Client` has no timeout, so a
  shard that never finishes its response blocks its goroutine for ever, and `wg.Wait()` with
  it; a shard that is only slow is one more interleaving.  HTTP and JSON decoding are not
  modelled.  Without groupings the second `Decode` writes into the goroutine's row, which may
  be `result[0]` itself; the model leaves the row unchanged there, which is what happens on
  the end of the stream, the only case in which the run returns no error.
* `wait.Group` is not among the sources: `Wait` is read as waiting for every goroutine and
  returning the first error one returned.
* `Responds` starts from the parsed query: `gumshoe.ParseJSONQuery` is not among the sources.
* `WriteJSONResponse` is modelled by what it fails on: a `float64` infinity or NaN in a merged
  row.  Which of several it names, and the `DurationMS` field, are not modelled.
-/

namespace Gumshoe

namespace HandleQuery

/-! ## States -/

/-- What a shard's response yields its goroutine: the rows it decodes, then the end of the
stream, or the error that stops it (a failed request, a status other than 200, a bad row).  A
stream that `stalls` never ends: the shard stops sending without finishing its response, and
the next read after `rows` blocks for ever, since the router's `http.Client` has no timeout;
`error` is then never read. -/
structure Stream where
  rows : List RowMap
  error : Option ErrorResponse
  stalls : Bool

/-- `io.EOF`, returned when a query without groupings gets no row. -/
def eofError : ErrorResponse := ⟨500, "EOF"⟩

/-- The error a goroutine returns when a query without groupings gets a second row. -/
def multipleResults : ErrorResponse := ⟨500, "got multiple results for a non-group-by query"⟩

/-- Where a shard goroutine is: the statement it runs next. -/
inductive Pc where
  /-- `decoder.Decode(&row)`, at the top of the loop; without groupings, the first. -/
  | decode
  /-- `mu.Lock()`, for a decoded row and its key. -/
  | lock (row : RowMap) (key : GroupKey)
  /-- `cur := resultMap[groupByValue]`, holding `mu`. -/
  | lookup (row : RowMap) (key : GroupKey)
  /-- `cur.mu.Lock()`, holding `mu`. -/
  | lockCur (row : RowMap) (key : GroupKey)
  /-- `mu.Unlock()`, holding `mu` and `cur.mu`. -/
  | unlockMu (row : RowMap) (key : GroupKey)
  /-- `r.mergeRows(cur.row, row, query)`, holding `cur.mu`. -/
  | merge (row : RowMap) (key : GroupKey)
  /-- `cur.mu.Unlock()`. -/
  | unlockCur (key : GroupKey)
  /-- Without groupings: `result` set or merged into, then `mu.Unlock()`, holding `mu`. -/
  | update (row : RowMap) (key : GroupKey)
  /-- Without groupings: the second `decoder.Decode(&row)`, which must meet the end. -/
  | decodeEnd
  /-- Returned `nil`. -/
  | done
  /-- Returned an error. -/
  | failed (e : ErrorResponse)
  /-- Blocked for ever in a `Decode` on a stream that stalls. -/
  | stalled

namespace Pc

/-- The decoded row the goroutine has not merged yet, with its key. -/
def keyed : Pc → Option (RowMap × GroupKey)
  | lock row key | lookup row key | lockCur row key | unlockMu row key | merge row key
  | update row key => some (row, key)
  | _ => none

def inflight (pc : Pc) : List RowMap := (pc.keyed.map Prod.fst).toList

/-- Between `mu.Lock()` and `mu.Unlock()`. -/
def holdsMu : Pc → Bool
  | lookup .. | lockCur .. | unlockMu .. | update .. => true
  | _ => false

/-- The key whose row's lock the goroutine holds. -/
def holdsCur : Pc → Option GroupKey
  | unlockMu _ key | merge _ key | unlockCur key => some key
  | _ => none

/-- The key whose row the goroutine found in the map and works on. -/
def curKey : Pc → Option GroupKey
  | lockCur _ key => some key
  | pc => pc.holdsCur

/-- Neither returned nor blocked for ever. -/
def running : Pc → Bool
  | done | failed _ | stalled => false
  | _ => true

/-- Returned, which `wg.Wait()` waits for. -/
def returned : Pc → Bool
  | done | failed _ => true
  | _ => false

/-- How far the goroutine is from returning, within one row. -/
def rank : Pc → ℕ
  | done | failed _ | stalled => 0
  | decode | decodeEnd => 1
  | update .. => 2
  | unlockCur _ => 3
  | merge .. => 4
  | unlockMu .. => 5
  | lockCur .. => 6
  | lookup .. => 7
  | lock .. => 8

end Pc

/-- A shard goroutine: where it is, the rows of its stream it has not decoded, and (ghost) the
rows it has merged, in order. -/
structure Goroutine where
  pc : Pc
  rest : List RowMap
  merged : List RowMap

/-- An entry of `resultMap` (a `*lockedRowMap`), or `result[0]` without groupings. -/
structure Entry (n : ℕ) where
  row : RowMap
  /-- The goroutine holding `lockedRowMap.mu`. -/
  holder : Option (Fin n)
  /-- Ghost: the row that created the entry, and the rows merged into it since, in order. -/
  first : RowMap
  merged : List RowMap

/-- The state of `HandleQuery` while its `n` shard goroutines run. -/
structure St (n : ℕ) where
  /-- The goroutine holding `mu`. -/
  mu : Option (Fin n)
  /-- `resultMap`; without groupings `result`, keyed `nil`. -/
  entries : List (GroupKey × Entry n)
  goroutines : Fin n → Goroutine
  /-- The first error a goroutine returned. -/
  err : Option ErrorResponse
  /-- A panic, which ends the process. -/
  panicked : Option String

variable {n : ℕ}

/-- Goroutine `g` moves to `pc`. -/
def Goroutine.goto (g : Goroutine) (pc : Pc) : Goroutine := ⟨pc, g.rest, g.merged⟩

/-- Goroutine `g` moves to `pc`, having merged `row`. -/
def Goroutine.commit (g : Goroutine) (pc : Pc) (row : RowMap) : Goroutine :=
  ⟨pc, g.rest, g.merged ++ [row]⟩

/-- The entry a new key gets: its row, unlocked. -/
def Entry.new (row : RowMap) : Entry n := ⟨row, none, row, []⟩

/-- The entry with its lock held by `holder`. -/
def Entry.withHolder (e : Entry n) (holder : Option (Fin n)) : Entry n :=
  ⟨e.row, holder, e.first, e.merged⟩

/-- The entry after `row` was merged into it, giving `row'`. -/
def Entry.merge (e : Entry n) (row' row : RowMap) : Entry n :=
  ⟨row', e.holder, e.first, e.merged ++ [row]⟩

/-- `resultMap[key] = e`, for a key the map has. -/
def setEntry (entries : List (GroupKey × Entry n)) (key : GroupKey) (e : Entry n) :
    List (GroupKey × Entry n) :=
  entries.map fun p => if p.1 = key then (key, e) else p

namespace St

/-- Goroutine `i` becomes `g`, with the map `entries` and `mu` held by `mu`. -/
def move (s : St n) (i : Fin n) (g : Goroutine) (entries : List (GroupKey × Entry n))
    (mu : Option (Fin n)) : St n :=
  ⟨mu, entries, Function.update s.goroutines i g, s.err, s.panicked⟩

/-- Goroutine `i` returns the error `e`; `wait.Group` keeps the first one. -/
def fail (s : St n) (i : Fin n) (e : ErrorResponse) : St n :=
  ⟨s.mu, s.entries, Function.update s.goroutines i ((s.goroutines i).goto (.failed e)),
    s.err <|> some e, s.panicked⟩

/-- A goroutine panics with `m`. -/
def panic (s : St n) (m : String) : St n := ⟨s.mu, s.entries, s.goroutines, s.err, some m⟩

end St

/-! ## Steps -/

section Steps

variable (fo : FloatOps) (r : Router) (q : Query) (grouping : Option (String × Bool))
  (streams : Fin n → Stream)

/-- The goroutines before their first step. -/
def init : St n :=
  { mu := none
    entries := []
    goroutines := fun i => ⟨.decode, (streams i).rows, []⟩
    err := none
    panicked := none }

variable (s : St n) (i : Fin n)

/-- `decoder.Decode(&row)`: the next row and its key, or the end of the stream.  With
groupings the end returns `nil`; without, the first `Decode` returns `io.EOF`.  On a stream
that stalls there is no end: the read blocks for ever. -/
def stepDecode : St n :=
  let g := s.goroutines i
  match g.rest with
  | row :: rest =>
    match rowKey fo grouping row with
    | .ok key => s.move i ⟨.lock row key, rest, g.merged⟩ s.entries s.mu
    | .error m => s.panic m
  | [] =>
    match (streams i).stalls, (streams i).error, grouping with
    | true, _, _ => s.move i (g.goto .stalled) s.entries s.mu
    | false, some e, _ => s.fail i e
    | false, none, some _ => s.move i (g.goto .done) s.entries s.mu
    | false, none, none => s.fail i eofError

/-- `mu.Lock()`, when `mu` is free. -/
def stepLock (row : RowMap) (key : GroupKey) : Option (St n) :=
  if s.mu.isNone then
    some (s.move i ((s.goroutines i).goto
      (if grouping.isSome then .lookup row key else .update row key)) s.entries (some i))
  else none

/-- `cur := resultMap[groupByValue]`: a new key gets the row and `mu` is released. -/
def stepLookup (row : RowMap) (key : GroupKey) : St n :=
  let g := s.goroutines i
  match s.entries.lookup key with
  | none => s.move i (g.commit .decode row) (s.entries ++ [(key, .new row)]) none
  | some _ => s.move i (g.goto (.lockCur row key)) s.entries s.mu

/-- `cur.mu.Lock()`, when the row's lock is free. -/
def stepLockCur (row : RowMap) (key : GroupKey) : Option (St n) :=
  match s.entries.lookup key with
  | some e =>
    if e.holder.isNone then
      some (s.move i ((s.goroutines i).goto (.unlockMu row key))
        (setEntry s.entries key (e.withHolder (some i))) s.mu)
    else none
  | none => none

/-- `mu.Unlock()`, keeping the row's lock. -/
def stepUnlockMu (row : RowMap) (key : GroupKey) : St n :=
  s.move i ((s.goroutines i).goto (.merge row key)) s.entries none

/-- `r.mergeRows(cur.row, row, query)`. -/
def stepMerge (row : RowMap) (key : GroupKey) : Option (St n) :=
  match s.entries.lookup key with
  | some e =>
    match r.mergeRows fo e.row row q with
    | .ok row' =>
      some (s.move i ((s.goroutines i).commit (.unlockCur key) row)
        (setEntry s.entries key (e.merge row' row)) s.mu)
    | .error m => some (s.panic m)
  | none => none

/-- `cur.mu.Unlock()`. -/
def stepUnlockCur (key : GroupKey) : Option (St n) :=
  match s.entries.lookup key with
  | some e =>
    some (s.move i ((s.goroutines i).goto .decode) (setEntry s.entries key (e.withHolder none)) s.mu)
  | none => none

/-- Without groupings: `result = []gumshoe.RowMap{row}` or `r.mergeRows(result[0], row,
query)`, then `mu.Unlock()`. -/
def stepUpdate (row : RowMap) (key : GroupKey) : St n :=
  let g := s.goroutines i
  match s.entries.lookup key with
  | none => s.move i (g.commit .decodeEnd row) (s.entries ++ [(key, .new row)]) none
  | some e =>
    match r.mergeRows fo e.row row q with
    | .ok row' => s.move i (g.commit .decodeEnd row) (setEntry s.entries key (e.merge row' row)) none
    | .error m => s.panic m

/-- Without groupings: the second `decoder.Decode(&row)` must meet the end of the stream. -/
def stepDecodeEnd : St n :=
  match (s.goroutines i).rest, (streams i).stalls, (streams i).error with
  | _ :: _, _, _ => s.fail i multipleResults
  | [], true, _ => s.move i ((s.goroutines i).goto .stalled) s.entries s.mu
  | [], false, some e => s.fail i e
  | [], false, none => s.move i ((s.goroutines i).goto .done) s.entries s.mu

/-- Goroutine `i` runs its next statement. -/
def step : Option (St n) :=
  if s.panicked.isSome then none else
  match (s.goroutines i).pc with
  | .decode => some (stepDecode fo grouping streams s i)
  | .lock row key => stepLock grouping s i row key
  | .lookup row key => some (stepLookup s i row key)
  | .lockCur row key => stepLockCur s i row key
  | .unlockMu row key => some (stepUnlockMu s i row key)
  | .merge row key => stepMerge fo r q s i row key
  | .unlockCur key => stepUnlockCur s i key
  | .update row key => some (stepUpdate fo r q s i row key)
  | .decodeEnd => some (stepDecodeEnd streams s i)
  | .done | .failed _ | .stalled => none

/-- A run: the goroutines of `sched` take their next step in turn. -/
inductive Run : St n → List (Fin n) → St n → Prop
  | nil (s : St n) : Run s [] s
  | cons {s s' s'' : St n} {i : Fin n} {sched : List (Fin n)} :
      step fo r q grouping streams s i = some s' → Run s' sched s'' → Run s (i :: sched) s''

/-- The states some interleaving reaches. -/
def Reachable (s : St n) : Prop := ∃ sched, Run fo r q grouping streams (init streams) sched s

/-- `Run`, computed. -/
def runSchedule : St n → List (Fin n) → Option (St n)
  | s, [] => some s
  | s, i :: sched => (step fo r q grouping streams s i).bind (runSchedule · sched)

theorem run_of_runSchedule {s s' : St n} {sched : List (Fin n)}
    (h : runSchedule fo r q grouping streams s sched = some s') :
    Run fo r q grouping streams s sched s' := by
  induction sched generalizing s with
  | nil => cases h; exact .nil _
  | cons i sched ih =>
    obtain ⟨s₁, h₁, h₂⟩ := Option.bind_eq_some.mp h
    exact .cons h₁ (ih h₂)

end Steps

/-! ## Frames

What a step leaves alone: the setters' fields, the entries a map update does not touch, and
the rows the goroutines and the entries hold, counted as multisets. -/

section Frames

variable (s : St n) (i : Fin n) (g : Goroutine) (pc : Pc) (row : RowMap)

@[simp] theorem Goroutine.goto_pc : (g.goto pc).pc = pc := rfl
@[simp] theorem Goroutine.goto_rest : (g.goto pc).rest = g.rest := rfl
@[simp] theorem Goroutine.goto_merged : (g.goto pc).merged = g.merged := rfl
@[simp] theorem Goroutine.commit_pc : (g.commit pc row).pc = pc := rfl
@[simp] theorem Goroutine.commit_rest : (g.commit pc row).rest = g.rest := rfl
@[simp] theorem Goroutine.commit_merged : (g.commit pc row).merged = g.merged ++ [row] := rfl

variable (entries : List (GroupKey × Entry n)) (mu : Option (Fin n)) (e : ErrorResponse) (m : String)

@[simp] theorem St.move_goroutines :
    (s.move i g entries mu).goroutines = Function.update s.goroutines i g := rfl
@[simp] theorem St.move_entries : (s.move i g entries mu).entries = entries := rfl
@[simp] theorem St.move_mu : (s.move i g entries mu).mu = mu := rfl
@[simp] theorem St.move_err : (s.move i g entries mu).err = s.err := rfl
@[simp] theorem St.fail_goroutines :
    (s.fail i e).goroutines = Function.update s.goroutines i ((s.goroutines i).goto (.failed e)) :=
  rfl
@[simp] theorem St.fail_entries : (s.fail i e).entries = s.entries := rfl
@[simp] theorem St.fail_mu : (s.fail i e).mu = s.mu := rfl
@[simp] theorem St.fail_err_isSome : (s.fail i e).err.isSome := by
  cases h : s.err <;> simp [St.fail, h]

end Frames

section Entries

variable {l : List (GroupKey × Entry n)} {k : GroupKey} {e : Entry n}

theorem mem_of_lookup_eq_some (h : l.lookup k = some e) : (k, e) ∈ l := by
  obtain ⟨l₁, l₂, rfl, -⟩ := List.lookup_eq_some_iff.mp h
  simp

theorem not_mem_of_lookup_eq_none (h : l.lookup k = none) : k ∉ l.map Prod.fst := by
  simp only [List.lookup_eq_none_iff, bne_iff_ne, ne_eq] at h
  simp only [List.mem_map, not_exists, not_and]
  exact fun p hp hk => h p hp hk.symm

theorem lookup_eq_some_of_mem (hnd : (l.map Prod.fst).Nodup) (h : (k, e) ∈ l) :
    l.lookup k = some e := by
  induction l with
  | nil => cases h
  | cons p l ih =>
    obtain ⟨k', e'⟩ := p
    obtain ⟨hp, hnd⟩ := List.nodup_cons.mp hnd
    rcases List.mem_cons.mp h with h | h
    · cases h
      simp
    · have hk : (k == k') = false := beq_false_of_ne fun hk => hp (List.mem_map.mpr ⟨_, h, hk⟩)
      rw [List.lookup_cons, hk]
      exact ih hnd h

@[simp] theorem map_fst_setEntry (e' : Entry n) :
    (setEntry l k e').map Prod.fst = l.map Prod.fst := by
  simp only [setEntry, List.map_map]
  exact List.map_congr_left fun p _ => by by_cases h : p.1 = k <;> simp [h]

theorem mem_setEntry {e' : Entry n} {p : GroupKey × Entry n} (h : p ∈ setEntry l k e') :
    p = (k, e') ∨ (p ∈ l ∧ p.1 ≠ k) := by
  obtain ⟨p₀, hp₀, rfl⟩ := List.mem_map.mp h
  by_cases hk : p₀.1 = k
  · simp [hk]
  · simp [hk, hp₀]

theorem setEntry_of_not_mem (hk : k ∉ l.map Prod.fst) (e' : Entry n) : setEntry l k e' = l := by
  refine List.map_congr_left (fun p hp => ?_) |>.trans (List.map_id l)
  rw [if_neg (fun (h : p.1 = k) => hk (h ▸ List.mem_map_of_mem Prod.fst hp))]
  rfl

/-- The rows an entry holds. -/
def Entry.rows (e : Entry n) : Multiset RowMap := ((e.first :: e.merged : List RowMap) : Multiset RowMap)

/-- The rows the entries hold. -/
def entryRows (l : List (GroupKey × Entry n)) : Multiset RowMap := (l.map fun p => p.2.rows).sum

theorem entryRows_append (l' : List (GroupKey × Entry n)) :
    entryRows (l ++ l') = entryRows l + entryRows l' := by
  simp [entryRows]

/-- Replacing the entry of a key replaces its rows. -/
theorem entryRows_setEntry (hnd : (l.map Prod.fst).Nodup) (h : (k, e) ∈ l) (e' : Entry n) :
    entryRows (setEntry l k e') + e.rows = entryRows l + e'.rows := by
  induction l with
  | nil => cases h
  | cons p l ih =>
    obtain ⟨hp, hnd⟩ := List.nodup_cons.mp hnd
    by_cases hk : p.1 = k
    · have hpe : p = (k, e) := by
        rcases List.mem_cons.mp h with h | h
        · exact h.symm
        · exact absurd (hk ▸ List.mem_map_of_mem Prod.fst h) hp
      subst hpe
      have hrest : setEntry l k e' = l := setEntry_of_not_mem hp e'
      simp only [setEntry, List.map_cons, if_pos rfl, entryRows, List.sum_cons] at hrest ⊢
      rw [hrest]
      ac_rfl
    · have h' : (k, e) ∈ l := (List.mem_cons.mp h).resolve_left fun he => hk (he ▸ rfl)
      have := ih hnd h'
      simp only [setEntry, List.map_cons, if_neg hk, entryRows, List.sum_cons] at this ⊢
      rw [add_assoc, this, add_assoc]

end Entries

/-- The rows the goroutines have merged. -/
def committed (gs : Fin n → Goroutine) : Multiset RowMap := ∑ i, ((gs i).merged : Multiset RowMap)

theorem committed_update (gs : Fin n → Goroutine) (i : Fin n) (g : Goroutine) :
    committed (Function.update gs i g) + ((gs i).merged : Multiset RowMap) =
      committed gs + (g.merged : Multiset RowMap) := by
  have hupd : (fun j => ((Function.update gs i g j).merged : Multiset RowMap)) =
      Function.update (fun j => ((gs j).merged : Multiset RowMap)) i g.merged :=
    funext fun j => Function.apply_update (fun _ (g : Goroutine) => (g.merged : Multiset RowMap)) gs i g j
  simp only [committed, hupd, Finset.sum_update_of_mem (Finset.mem_univ i),
    Finset.sum_eq_add_sum_diff_singleton (Finset.mem_univ i) (fun j => ((gs j).merged : Multiset RowMap))]
  abel

theorem committed_update_of_merged {gs : Fin n → Goroutine} {i : Fin n} {g : Goroutine}
    (h : g.merged = (gs i).merged) : committed (Function.update gs i g) = committed gs := by
  have hc := committed_update gs i g
  rw [h] at hc
  exact add_right_cancel hc

theorem committed_update_append {gs : Fin n → Goroutine} {i : Fin n} {g : Goroutine} {row : RowMap}
    (h : g.merged = (gs i).merged ++ [row]) :
    committed (Function.update gs i g) = committed gs + ({row} : Multiset RowMap) := by
  have hc := committed_update gs i g
  rw [h, ← Multiset.coe_add, ← add_assoc, add_right_comm] at hc
  exact add_right_cancel hc

theorem Pc.curKey_of_holdsCur {pc : Pc} {k : GroupKey} (h : pc.holdsCur = some k) :
    pc.curKey = some k := by
  cases pc <;> simp_all [Pc.holdsCur, Pc.curKey]

/-! ## The invariant -/

section Invariant

variable (fo : FloatOps) (r : Router) (q : Query) (grouping : Option (String × Bool))
  (streams : Fin n → Stream)

/-- What holds of a goroutine on its own: its stream's rows are the rows it merged, the row in
flight and the rows it has not decoded, and the row in flight carries its key. -/
structure GInv (i : Fin n) (g : Goroutine) : Prop where
  rows_eq : (streams i).rows = g.merged ++ g.pc.inflight ++ g.rest
  keyed_key : ∀ row key, g.pc.keyed = some (row, key) → rowKey fo grouping row = .ok key
  /-- A goroutine returns `nil` only at the end of its stream. -/
  done_rest : g.pc = .done → g.rest = []
  /-- A goroutine blocks for ever only on a stream that stalls. -/
  stalled_stalls : g.pc = .stalled → (streams i).stalls

/-- What holds of an entry: its rows have its key, and its row is those rows merged one after
another. -/
structure EInv (p : GroupKey × Entry n) : Prop where
  keys : ∀ row ∈ p.2.first :: p.2.merged, rowKey fo grouping row = .ok p.1
  row_eq : r.mergeSeq fo q p.2.first p.2.merged = .ok p.2.row

/-- **The invariant of the shard goroutines.** -/
structure Inv (s : St n) : Prop where
  goroutine : ∀ i, GInv fo grouping streams i (s.goroutines i)
  entry : ∀ p ∈ s.entries, EInv fo r q grouping p
  keys_nodup : (s.entries.map Prod.fst).Nodup
  /-- The entries hold exactly the rows the goroutines have merged. -/
  entryRows_eq : entryRows s.entries = committed s.goroutines
  /-- `mu` is held by the goroutine between `mu.Lock()` and `mu.Unlock()`. -/
  mu_iff : ∀ i, s.mu = some i ↔ (s.goroutines i).pc.holdsMu
  /-- A row's lock is held by the goroutine between `cur.mu.Lock()` and `cur.mu.Unlock()`. -/
  holder_iff : ∀ p ∈ s.entries, ∀ i, p.2.holder = some i ↔ (s.goroutines i).pc.holdsCur = some p.1
  /-- The row a goroutine has found is in the map. -/
  cur_mem : ∀ i k, (s.goroutines i).pc.curKey = some k → k ∈ s.entries.map Prod.fst
  /-- `err` is set once a goroutine has returned an error. -/
  err_iff : s.err.isSome ↔ ∃ i e, (s.goroutines i).pc = .failed e

theorem init_inv : Inv fo r q grouping streams (init streams) where
  goroutine i := ⟨by simp [init, Pc.inflight, Pc.keyed], fun _ _ h => Option.noConfusion h, nofun,
    nofun⟩
  entry _ h := (List.not_mem_nil _ h).elim
  keys_nodup := List.nodup_nil
  entryRows_eq := by simp [init, entryRows, committed]
  mu_iff _ := ⟨nofun, nofun⟩
  holder_iff _ h := (List.not_mem_nil _ h).elim
  cur_mem _ _ h := Option.noConfusion h
  err_iff := ⟨nofun, fun ⟨_, _, h⟩ => nomatch h⟩

/-! ### Updating one goroutine -/

section Update

variable {gs : Fin n → Goroutine} {i : Fin n} {g : Goroutine}

theorem forall_update {P : Fin n → Goroutine → Prop} (h : ∀ j, P j (gs j)) (hi : P i g) :
    ∀ j, P j (Function.update gs i g j) := fun j => by
  by_cases hji : j = i
  · subst hji; rwa [Function.update_same]
  · rw [Function.update_noteq hji]; exact h j

theorem mu_iff_update {mu mu' : Option (Fin n)} (h : ∀ j, mu = some j ↔ (gs j).pc.holdsMu)
    (hi : mu' = some i ↔ g.pc.holdsMu) (hj : ∀ j ≠ i, mu' = some j ↔ mu = some j) :
    ∀ j, mu' = some j ↔ (Function.update gs i g j).pc.holdsMu := fun j => by
  by_cases hji : j = i
  · subst hji; rwa [Function.update_same]
  · rw [Function.update_noteq hji, hj j hji, h j]

theorem holder_iff_update {l : List (GroupKey × Entry n)}
    (h : ∀ p ∈ l, ∀ j, p.2.holder = some j ↔ (gs j).pc.holdsCur = some p.1)
    (hi : g.pc.holdsCur = (gs i).pc.holdsCur) :
    ∀ p ∈ l, ∀ j, p.2.holder = some j ↔ (Function.update gs i g j).pc.holdsCur = some p.1 := by
  intro p hp j
  by_cases hji : j = i
  · subst hji; rw [Function.update_same, hi]; exact h p hp j
  · rw [Function.update_noteq hji]; exact h p hp j

theorem cur_mem_update {keys keys' : List GroupKey}
    (h : ∀ j k, (gs j).pc.curKey = some k → k ∈ keys) (hsub : ∀ k ∈ keys, k ∈ keys')
    (hi : ∀ k, g.pc.curKey = some k → k ∈ keys') :
    ∀ j k, (Function.update gs i g j).pc.curKey = some k → k ∈ keys' := by
  intro j k
  by_cases hji : j = i
  · subst hji; rw [Function.update_same]; exact hi k
  · rw [Function.update_noteq hji]; exact fun hk => hsub k (h j k hk)

theorem err_iff_update {err : Option ErrorResponse}
    (h : err.isSome ↔ ∃ j e, (gs j).pc = .failed e) (hi : ∀ e, (gs i).pc ≠ .failed e)
    (hg : ∀ e, g.pc ≠ .failed e) : err.isSome ↔ ∃ j e, (Function.update gs i g j).pc = .failed e := by
  rw [h]
  constructor
  · rintro ⟨j, e, hje⟩
    have hji : j ≠ i := by rintro rfl; exact hi e hje
    exact ⟨j, e, by rwa [Function.update_noteq hji]⟩
  · rintro ⟨j, e, hje⟩
    have hji : j ≠ i := by rintro rfl; rw [Function.update_same] at hje; exact hg e hje
    exact ⟨j, e, by rwa [Function.update_noteq hji] at hje⟩

end Update

/-! ### One lemma per kind of step -/

section Steps

variable {fo r q grouping streams} {s : St n} {i : Fin n}

theorem entry_setEntry {l : List (GroupKey × Entry n)} {key : GroupKey} {e' : Entry n}
    (h : ∀ p ∈ l, EInv fo r q grouping p) (he : EInv fo r q grouping (key, e')) :
    ∀ p ∈ setEntry l key e', EInv fo r q grouping p := by
  intro p hp
  rcases mem_setEntry hp with rfl | ⟨hp, -⟩
  · exact he
  · exact h p hp

theorem holder_iff_setEntry {gs : Fin n → Goroutine} {g : Goroutine} {l : List (GroupKey × Entry n)}
    {key : GroupKey} {e e' : Entry n} (hmem : (key, e) ∈ l) (he : e'.holder = e.holder)
    (h : ∀ p ∈ l, ∀ j, p.2.holder = some j ↔ (gs j).pc.holdsCur = some p.1)
    (hi : g.pc.holdsCur = (gs i).pc.holdsCur) :
    ∀ p ∈ setEntry l key e', ∀ j, p.2.holder = some j ↔
      (Function.update gs i g j).pc.holdsCur = some p.1 := by
  intro p hp
  rcases mem_setEntry hp with rfl | ⟨hp, -⟩
  · show ∀ j, e'.holder = some j ↔ _
    rw [he]
    exact holder_iff_update h hi _ hmem
  · exact holder_iff_update h hi p hp

/-- Moving to a statement with the same row in flight keeps a goroutine's own invariant. -/
theorem GInv.goto {g : Goroutine} {pc : Pc} (hg : GInv fo grouping streams i g)
    (hk : pc.keyed = g.pc.keyed) (hrun : pc.running) : GInv fo grouping streams i (g.goto pc) :=
  ⟨by rw [hg.rows_eq]; simp only [Goroutine.goto_merged, Goroutine.goto_pc, Goroutine.goto_rest,
      Pc.inflight, hk],
    fun row key h => hg.keyed_key row key (by rw [← hk]; exact h),
    fun h => (by rw [Goroutine.goto_pc] at h; subst h; cases hrun),
    fun h => (by rw [Goroutine.goto_pc] at h; subst h; cases hrun)⟩

/-- A step that moves goroutine `i`, and perhaps `mu`, and leaves the map and the merged rows
alone. -/
theorem Inv.move (hinv : Inv fo r q grouping streams s) {g : Goroutine} {mu' : Option (Fin n)}
    (hg : GInv fo grouping streams i g) (hmerged : g.merged = (s.goroutines i).merged)
    (hcur : g.pc.holdsCur = (s.goroutines i).pc.holdsCur)
    (hkey : ∀ k, g.pc.curKey = some k → k ∈ s.entries.map Prod.fst)
    (hfi : ∀ e, (s.goroutines i).pc ≠ .failed e) (hfg : ∀ e, g.pc ≠ .failed e)
    (hi : mu' = some i ↔ g.pc.holdsMu) (hj : ∀ j ≠ i, mu' = some j ↔ s.mu = some j) :
    Inv fo r q grouping streams (s.move i g s.entries mu') where
  goroutine := forall_update hinv.goroutine hg
  entry := hinv.entry
  keys_nodup := hinv.keys_nodup
  entryRows_eq := hinv.entryRows_eq.trans (committed_update_of_merged hmerged).symm
  mu_iff := mu_iff_update hinv.mu_iff hi hj
  holder_iff := holder_iff_update hinv.holder_iff hcur
  cur_mem := cur_mem_update hinv.cur_mem (fun _ h => h) hkey
  err_iff := err_iff_update hinv.err_iff hfi hfg

theorem Inv.panic (hinv : Inv fo r q grouping streams s) (m : String) :
    Inv fo r q grouping streams (s.panic m) :=
  ⟨hinv.1, hinv.2, hinv.3, hinv.4, hinv.5, hinv.6, hinv.7, hinv.8⟩

/-- Returning an error from `Decode`, holding no lock and no row. -/
theorem Inv.fail (hinv : Inv fo r q grouping streams s)
    (hpc : (s.goroutines i).pc = .decode ∨ (s.goroutines i).pc = .decodeEnd) (e : ErrorResponse) :
    Inv fo r q grouping streams (s.fail i e) where
  goroutine := forall_update hinv.goroutine
    ⟨by rw [(hinv.goroutine i).rows_eq]; rcases hpc with h | h <;> simp [h, Pc.inflight, Pc.keyed],
      fun _ _ h => Option.noConfusion h, nofun, nofun⟩
  entry := hinv.entry
  keys_nodup := hinv.keys_nodup
  entryRows_eq := by
    rw [St.fail_entries, St.fail_goroutines, committed_update_of_merged (Goroutine.goto_merged _ _)]
    exact hinv.entryRows_eq
  mu_iff := mu_iff_update hinv.mu_iff
    (by rw [St.fail_mu, hinv.mu_iff i]; rcases hpc with h | h <;> simp [h, Pc.holdsMu])
    fun _ _ => Iff.rfl
  holder_iff := holder_iff_update hinv.holder_iff (by rcases hpc with h | h <;> simp [h, Pc.holdsCur])
  cur_mem := cur_mem_update hinv.cur_mem (fun _ h => h) fun _ h => Option.noConfusion h
  err_iff := by simp only [St.fail_err_isSome, true_iff]; exact ⟨i, e, by simp⟩

/-- Meeting the end of the stream, or blocking for ever on one that stalls, holding no lock and
no row. -/
theorem Inv.stop (hinv : Inv fo r q grouping streams s)
    (hpc : (s.goroutines i).pc = .decode ∨ (s.goroutines i).pc = .decodeEnd)
    (hrest : (s.goroutines i).rest = []) {pc' : Pc}
    (hpc' : pc' = .done ∨ pc' = .stalled ∧ (streams i).stalls) :
    Inv fo r q grouping streams (s.move i ((s.goroutines i).goto pc') s.entries s.mu) := by
  have hg := hinv.goroutine i
  have hst : pc' = .stalled → (streams i).stalls := fun h =>
    (hpc'.resolve_left fun h' => by rw [h'] at h; cases h).2
  rcases hpc' with rfl | ⟨rfl, -⟩ <;> rcases hpc with hpc | hpc <;>
    exact hinv.move ⟨by rw [hg.rows_eq, hpc]; rfl, fun _ _ h => Option.noConfusion h,
        fun _ => hrest, hst⟩ rfl (by rw [hpc]; rfl) (fun _ h => Option.noConfusion h)
      (by rw [hpc]; exact nofun) nofun (by rw [hinv.mu_iff i, hpc]; rfl) fun _ _ => Iff.rfl

/-- A new key: the row becomes the key's entry, and `mu` is released. -/
theorem Inv.insert (hinv : Inv fo r q grouping streams s) {row : RowMap} {key : GroupKey}
    (hkeyed : (s.goroutines i).pc.keyed = some (row, key)) (hmu : (s.goroutines i).pc.holdsMu)
    (hcur : (s.goroutines i).pc.holdsCur = none) (hnone : s.entries.lookup key = none) {pc' : Pc}
    (hpc' : pc' = .decode ∨ pc' = .decodeEnd) :
    Inv fo r q grouping streams
      (s.move i ((s.goroutines i).commit pc' row) (s.entries ++ [(key, .new row)]) none) where
  goroutine := forall_update hinv.goroutine
    ⟨by
      have hinfl : (s.goroutines i).pc.inflight = [row] := by simp only [Pc.inflight, hkeyed]; rfl
      rw [(hinv.goroutine i).rows_eq, hinfl]
      rcases hpc' with rfl | rfl <;> simp [Pc.inflight, Pc.keyed],
     by rcases hpc' with rfl | rfl <;> exact fun _ _ h => Option.noConfusion h,
     by rcases hpc' with rfl | rfl <;> exact nofun, by rcases hpc' with rfl | rfl <;> exact nofun⟩
  entry := by
    intro p hp
    rcases List.mem_append.mp hp with hp | hp
    · exact hinv.entry p hp
    · rw [List.mem_singleton.mp hp]
      exact ⟨by simpa [Entry.new] using (hinv.goroutine i).keyed_key row key hkeyed, rfl⟩
  keys_nodup := by
    rw [St.move_entries, List.map_append, List.nodup_append]
    exact ⟨hinv.keys_nodup, List.nodup_singleton _,
      List.disjoint_singleton.mpr (not_mem_of_lookup_eq_none hnone)⟩
  entryRows_eq := by
    rw [St.move_entries, St.move_goroutines, entryRows_append, hinv.entryRows_eq,
      committed_update_append rfl]
    simp [entryRows, Entry.rows, Entry.new]
  mu_iff := by
    have hmu' : s.mu = some i := (hinv.mu_iff i).mpr hmu
    refine mu_iff_update hinv.mu_iff ?_ fun j hj => ?_
    · rcases hpc' with rfl | rfl <;> simp [Pc.holdsMu]
    · simp [hmu', Ne.symm hj]
  holder_iff := by
    intro p hp j
    rcases List.mem_append.mp hp with hp | hp
    · exact holder_iff_update hinv.holder_iff
        (by rw [hcur]; rcases hpc' with rfl | rfl <;> rfl) p hp j
    · rw [List.mem_singleton.mp hp]
      simp only [Entry.new, reduceCtorEq, false_iff, St.move_goroutines]
      intro hj
      by_cases hji : j = i
      · subst hji
        rw [Function.update_same] at hj
        rcases hpc' with rfl | rfl <;> simp [Pc.holdsCur] at hj
      · rw [Function.update_noteq hji] at hj
        exact not_mem_of_lookup_eq_none hnone (hinv.cur_mem j key (Pc.curKey_of_holdsCur hj))
  cur_mem := cur_mem_update hinv.cur_mem (fun _ hk => by simp [hk])
    (by rcases hpc' with rfl | rfl <;> exact fun _ h => Option.noConfusion h)
  err_iff := err_iff_update hinv.err_iff
    (fun e he => by rw [he] at hkeyed; cases hkeyed)
    (by rcases hpc' with rfl | rfl <;> simp)

/-- `cur.mu.Lock()`: the row's lock passes to `i`. -/
theorem Inv.lockCur (hinv : Inv fo r q grouping streams s) {row : RowMap} {key : GroupKey}
    {e : Entry n} (hpc : (s.goroutines i).pc = .lockCur row key) (he : s.entries.lookup key = some e)
    (hfree : e.holder = none) :
    Inv fo r q grouping streams (s.move i ((s.goroutines i).goto (.unlockMu row key))
      (setEntry s.entries key (e.withHolder (some i))) s.mu) where
  goroutine := forall_update hinv.goroutine ((hinv.goroutine i).goto (by rw [hpc]; rfl) rfl)
  entry := entry_setEntry hinv.entry
    ⟨(hinv.entry _ (mem_of_lookup_eq_some he)).keys, (hinv.entry _ (mem_of_lookup_eq_some he)).row_eq⟩
  keys_nodup := by rw [St.move_entries, map_fst_setEntry]; exact hinv.keys_nodup
  entryRows_eq := by
    have h := entryRows_setEntry hinv.keys_nodup (mem_of_lookup_eq_some he) (e.withHolder (some i))
    rw [St.move_entries, St.move_goroutines, committed_update_of_merged (Goroutine.goto_merged _ _),
      ← hinv.entryRows_eq]
    exact add_right_cancel h
  mu_iff := mu_iff_update hinv.mu_iff (by rw [St.move_mu, hinv.mu_iff i, hpc]; rfl)
    fun _ _ => Iff.rfl
  holder_iff := by
    intro p hp j
    rcases mem_setEntry hp with rfl | ⟨hp', hpk⟩
    · by_cases hji : j = i
      · subst hji; simp [Entry.withHolder, Pc.holdsCur]
      · simp only [Entry.withHolder, St.move_goroutines, Function.update_noteq hji,
          Option.some.injEq, Ne.symm hji, false_iff]
        rw [← (hinv.holder_iff _ (mem_of_lookup_eq_some he) j), hfree]
        exact nofun
    · by_cases hji : j = i
      · subst hji
        simp only [St.move_goroutines, Function.update_same, Goroutine.goto_pc, Pc.holdsCur,
          Option.some.injEq]
        rw [hinv.holder_iff p hp' j, hpc]
        simp [Pc.holdsCur, Ne.symm hpk]
      · simp only [St.move_goroutines, Function.update_noteq hji]
        exact hinv.holder_iff p hp' j
  cur_mem := by
    refine cur_mem_update hinv.cur_mem (fun k hk => by rwa [St.move_entries, map_fst_setEntry])
      fun k hk => ?_
    simp only [Goroutine.goto_pc, Pc.curKey, Pc.holdsCur, Option.some.injEq] at hk
    subst hk
    rw [St.move_entries, map_fst_setEntry]
    exact List.mem_map_of_mem Prod.fst (mem_of_lookup_eq_some he)
  err_iff := err_iff_update hinv.err_iff (by rw [hpc]; exact nofun) nofun

/-- A merge into an existing entry, by `r.mergeRows`: with groupings under the row's lock,
without under `mu`, which is then released. -/
theorem Inv.mergeInto (hinv : Inv fo r q grouping streams s) {row row' : RowMap} {key : GroupKey}
    {e : Entry n} (hkeyed : (s.goroutines i).pc.keyed = some (row, key))
    (he : s.entries.lookup key = some e) (hm : r.mergeRows fo e.row row q = .ok row') {pc' : Pc}
    {mu' : Option (Fin n)} (hkeyed' : pc'.keyed = none)
    (hcur : pc'.holdsCur = (s.goroutines i).pc.holdsCur)
    (hkey : ∀ k, pc'.curKey = some k → k ∈ s.entries.map Prod.fst) (hrun : pc'.running)
    (hi : mu' = some i ↔ pc'.holdsMu) (hj : ∀ j ≠ i, mu' = some j ↔ s.mu = some j) :
    Inv fo r q grouping streams (s.move i ((s.goroutines i).commit pc' row)
      (setEntry s.entries key (e.merge row' row)) mu') where
  goroutine := forall_update hinv.goroutine
    ⟨by
      have hinfl : (s.goroutines i).pc.inflight = [row] := by simp only [Pc.inflight, hkeyed]; rfl
      rw [(hinv.goroutine i).rows_eq, hinfl]
      simp [Pc.inflight, hkeyed'],
     by simp [hkeyed'], fun h => (by simp only [Goroutine.commit_pc] at h; subst h; cases hrun),
     fun h => (by simp only [Goroutine.commit_pc] at h; subst h; cases hrun)⟩
  entry := by
    have he' := hinv.entry _ (mem_of_lookup_eq_some he)
    refine entry_setEntry hinv.entry ⟨fun x hx => ?_, ?_⟩
    · simp only [Entry.merge, List.mem_cons, List.mem_append, List.not_mem_nil, or_false] at hx
      rcases hx with rfl | hx | rfl
      · exact he'.keys _ (List.mem_cons_self _ _)
      · exact he'.keys _ (List.mem_cons_of_mem _ hx)
      · exact (hinv.goroutine i).keyed_key _ key hkeyed
    · have hrow := he'.row_eq
      simp only [Router.mergeSeq] at hrow ⊢
      simp only [Entry.merge, List.foldlM_append, hrow, ok_bind, List.foldlM_cons, List.foldlM_nil,
        hm]
      rfl
  keys_nodup := by rw [St.move_entries, map_fst_setEntry]; exact hinv.keys_nodup
  entryRows_eq := by
    have h := entryRows_setEntry hinv.keys_nodup (mem_of_lookup_eq_some he) (e.merge row' row)
    have hrows : (e.merge row' row).rows = e.rows + ({row} : Multiset RowMap) := by
      simp only [Entry.merge, Entry.rows]
      rw [← List.cons_append, ← Multiset.coe_add]
      rfl
    rw [hrows, ← add_assoc, add_right_comm] at h
    rw [St.move_entries, St.move_goroutines, committed_update_append rfl, ← hinv.entryRows_eq]
    exact add_right_cancel h
  mu_iff := mu_iff_update hinv.mu_iff hi hj
  holder_iff := holder_iff_setEntry (mem_of_lookup_eq_some he) rfl hinv.holder_iff hcur
  cur_mem := cur_mem_update hinv.cur_mem (fun k hk => by rwa [St.move_entries, map_fst_setEntry])
    fun k hk => by rw [St.move_entries, map_fst_setEntry]; exact hkey k hk
  err_iff := err_iff_update hinv.err_iff (fun e he => by rw [he] at hkeyed; cases hkeyed)
    fun e he => by simp only [Goroutine.commit_pc] at he; subst he; cases hrun

/-- `cur.mu.Unlock()`: the row's lock is free again. -/
theorem Inv.unlockCur (hinv : Inv fo r q grouping streams s) {key : GroupKey} {e : Entry n}
    (hpc : (s.goroutines i).pc = .unlockCur key) (he : s.entries.lookup key = some e) :
    Inv fo r q grouping streams (s.move i ((s.goroutines i).goto .decode)
      (setEntry s.entries key (e.withHolder none)) s.mu) where
  goroutine := forall_update hinv.goroutine ((hinv.goroutine i).goto (by rw [hpc]; rfl) rfl)
  entry := entry_setEntry hinv.entry
    ⟨(hinv.entry _ (mem_of_lookup_eq_some he)).keys, (hinv.entry _ (mem_of_lookup_eq_some he)).row_eq⟩
  keys_nodup := by rw [St.move_entries, map_fst_setEntry]; exact hinv.keys_nodup
  entryRows_eq := by
    have h := entryRows_setEntry hinv.keys_nodup (mem_of_lookup_eq_some he) (e.withHolder none)
    rw [St.move_entries, St.move_goroutines, committed_update_of_merged (Goroutine.goto_merged _ _),
      ← hinv.entryRows_eq]
    exact add_right_cancel h
  mu_iff := mu_iff_update hinv.mu_iff (by rw [St.move_mu, hinv.mu_iff i, hpc]; rfl)
    fun _ _ => Iff.rfl
  holder_iff := by
    have hheld : e.holder = some i :=
      (hinv.holder_iff _ (mem_of_lookup_eq_some he) i).mpr (by rw [hpc]; rfl)
    intro p hp j
    rcases mem_setEntry hp with rfl | ⟨hp', hpk⟩
    · simp only [Entry.withHolder, reduceCtorEq, false_iff]
      by_cases hji : j = i
      · subst hji; simp [Pc.holdsCur]
      · simp only [St.move_goroutines, Function.update_noteq hji]
        rw [← hinv.holder_iff _ (mem_of_lookup_eq_some he) j, hheld]
        simpa using Ne.symm hji
    · by_cases hji : j = i
      · subst hji
        simp only [St.move_goroutines, Function.update_same, Goroutine.goto_pc, Pc.holdsCur,
          reduceCtorEq, iff_false]
        rw [hinv.holder_iff p hp' j, hpc]
        simp [Pc.holdsCur, Ne.symm hpk]
      · simp only [St.move_goroutines, Function.update_noteq hji]
        exact hinv.holder_iff p hp' j
  cur_mem := cur_mem_update hinv.cur_mem
    (fun k hk => by rwa [St.move_entries, map_fst_setEntry]) fun _ h => Option.noConfusion h
  err_iff := err_iff_update hinv.err_iff (by rw [hpc]; exact nofun) nofun

/-- **Every step keeps the invariant.** -/
theorem Inv.step (hinv : Inv fo r q grouping streams s) {s' : St n}
    (h : step fo r q grouping streams s i = some s') : Inv fo r q grouping streams s' := by
  have hg := hinv.goroutine i
  have hmu := hinv.mu_iff i
  unfold HandleQuery.step at h
  split_ifs at h
  split at h
  next hpc =>
    cases h
    rcases hrest : (s.goroutines i).rest with _ | ⟨row, rest⟩
    · simp only [stepDecode, hrest]
      split
      next => exact hinv.stop (.inl hpc) hrest (.inr ⟨rfl, by assumption⟩)
      next => exact hinv.fail (.inl hpc) _
      next => exact hinv.stop (.inl hpc) hrest (.inl rfl)
      next => exact hinv.fail (.inl hpc) _
    · simp only [stepDecode, hrest]
      split
      next key hkey =>
        refine hinv.move ⟨?_, fun _ _ h => ?_, nofun, nofun⟩ rfl (by rw [hpc]; rfl)
          (fun _ h => Option.noConfusion h) (by rw [hpc]; exact nofun) nofun (by rw [hmu, hpc]; rfl)
          fun _ _ => Iff.rfl
        · rw [hg.rows_eq, hpc, hrest]; simp [Pc.inflight, Pc.keyed]
        · cases h; exact hkey
      next m _ => exact hinv.panic m
  next row key hpc =>
    unfold stepLock at h
    split_ifs at h with hfree <;> cases h
    all_goals
      have hnone : s.mu = none := Option.isNone_iff_eq_none.mp hfree
      exact hinv.move (hg.goto (by rw [hpc]; rfl) rfl)
        rfl (by rw [hpc]; rfl) (fun _ h => Option.noConfusion h) (by rw [hpc]; exact nofun) nofun
        (by simp [Pc.holdsMu])
        fun j hj => by simp [hnone, Ne.symm hj]
  next row key hpc =>
    cases h
    unfold stepLookup
    split
    next hnone => exact hinv.insert (by rw [hpc]; rfl) (by rw [hpc]; rfl) (by rw [hpc]; rfl) hnone (.inl rfl)
    next e he =>
      refine hinv.move (hg.goto (by rw [hpc]; rfl) rfl)
        rfl (by rw [hpc]; rfl) (fun k hk => ?_) (by rw [hpc]; exact nofun) nofun
        (by rw [hmu, hpc]; rfl) fun _ _ => Iff.rfl
      cases hk
      exact List.mem_map_of_mem Prod.fst (mem_of_lookup_eq_some he)
  next row key hpc =>
    unfold stepLockCur at h
    split at h
    next e he =>
      split_ifs at h with hfree
      cases h
      exact hinv.lockCur hpc he (Option.isNone_iff_eq_none.mp hfree)
    next => cases h
  next row key hpc =>
    cases h
    have hheld : s.mu = some i := hmu.mpr (by rw [hpc]; rfl)
    refine hinv.move (hg.goto (by rw [hpc]; rfl) rfl)
      rfl (by rw [hpc]; rfl) (fun k hk => hinv.cur_mem i k (by rw [hpc]; exact hk))
      (by rw [hpc]; exact nofun) nofun (by simp [Pc.holdsMu]) fun j hj => by simp [hheld, Ne.symm hj]
  next row key hpc =>
    unfold stepMerge at h
    split at h
    next e he =>
      split at h
      next row' hm =>
        cases h
        exact hinv.mergeInto (by rw [hpc]; rfl) he hm rfl (by rw [hpc]; rfl)
          (fun k hk => hinv.cur_mem i k (by rw [hpc]; exact hk)) rfl (by rw [hmu, hpc]; rfl)
          fun _ _ => Iff.rfl
      next m _ => cases h; exact hinv.panic m
    next => cases h
  next key hpc =>
    unfold stepUnlockCur at h
    split at h
    next e he => cases h; exact hinv.unlockCur hpc he
    next => cases h
  next row key hpc =>
    cases h
    have hheld : s.mu = some i := hmu.mpr (by rw [hpc]; rfl)
    unfold stepUpdate
    split
    next hnone => exact hinv.insert (by rw [hpc]; rfl) (by rw [hpc]; rfl) (by rw [hpc]; rfl) hnone (.inr rfl)
    next e he =>
      split
      next row' hm =>
        exact hinv.mergeInto (by rw [hpc]; rfl) he hm rfl (by rw [hpc]; rfl)
          (fun _ h => Option.noConfusion h) rfl
          (by simp [Pc.holdsMu]) fun j hj => by simp [hheld, Ne.symm hj]
      next m _ => exact hinv.panic m
  next hpc =>
    cases h
    unfold stepDecodeEnd
    split
    next => exact hinv.fail (.inr hpc) _
    next => exact hinv.stop (.inr hpc) (by assumption) (.inr ⟨rfl, by assumption⟩)
    next => exact hinv.fail (.inr hpc) _
    next => exact hinv.stop (.inr hpc) (by assumption) (.inl rfl)
  next => cases h
  next => cases h
  next => cases h

theorem Run.inv {s s' : St n} {sched : List (Fin n)} (hrun : Run fo r q grouping streams s sched s')
    (hinv : Inv fo r q grouping streams s) : Inv fo r q grouping streams s' := by
  induction hrun with
  | nil => exact hinv
  | cons hstep _ ih => exact ih (hinv.step hstep)

/-- **The invariant holds in every state some interleaving reaches.** -/
theorem Reachable.inv (h : Reachable fo r q grouping streams s) : Inv fo r q grouping streams s :=
  let ⟨_, hrun⟩ := h
  hrun.inv (init_inv fo r q grouping streams)

end Steps

end Invariant

/-! ## Runs of `config.toml`'s router

The router `twoShards`, whose two shards each stream back one row with one click, on a query
without groupings (`sumClicks`) or grouped by the string dimension `name` (`clicksByName`). -/

/-- Each shard streams back one row with one click. -/
def oneClickEach : Fin 2 → Stream := fun _ => ⟨[oneClick], none, false⟩

/-- Each shard streams back one row with one click, named `a`. -/
def aClickEach : Fin 2 → Stream := fun _ => ⟨[oneClickByA], none, false⟩

/-! ## Mutual exclusion -/

section Safety

variable {fo : FloatOps} {r : Router} {q : Query} {grouping : Option (String × Bool)}
  {streams : Fin n → Stream} {s : St n}

/-- **Mutual exclusion on `mu`.** -/
theorem Reachable.mu_exclusive {i j : Fin n} (hs : Reachable fo r q grouping streams s)
    (hi : (s.goroutines i).pc.holdsMu) (hj : (s.goroutines j).pc.holdsMu) : i = j :=
  Option.some_injective _ (((hs.inv.mu_iff i).mpr hi).symm.trans ((hs.inv.mu_iff j).mpr hj))

theorem mu_exclusive_sumClicks :
    ∃ s, Reachable default twoShards sumClicks none oneClickEach s ∧
      (s.goroutines 0).pc.holdsMu ∧ (0 : Fin 2) = 0 := by
  have hs : Reachable default twoShards sumClicks none oneClickEach _ :=
    ⟨[0, 0], run_of_runSchedule _ _ _ _ _ rfl⟩
  exact ⟨_, hs, rfl, Reachable.mu_exclusive hs rfl rfl⟩

/-- **Mutual exclusion on each row of `resultMap`.** -/
theorem Reachable.cur_exclusive {i j : Fin n} {k : GroupKey}
    (hs : Reachable fo r q grouping streams s) (hi : (s.goroutines i).pc.holdsCur = some k)
    (hj : (s.goroutines j).pc.holdsCur = some k) : i = j := by
  have hinv := hs.inv
  obtain ⟨p, hp, rfl⟩ := List.mem_map.mp (hinv.cur_mem i _ (Pc.curKey_of_holdsCur hi))
  exact Option.some_injective _
    (((hinv.holder_iff p hp i).mpr hi).symm.trans ((hinv.holder_iff p hp j).mpr hj))

theorem cur_exclusive_clicksByName :
    ∃ s, Reachable default twoShards clicksByName (some ("name", false)) aClickEach s ∧
      (s.goroutines 1).pc.holdsCur = some (.string "a") ∧ (1 : Fin 2) = 1 := by
  have hs : Reachable default twoShards clicksByName (some ("name", false)) aClickEach _ :=
    ⟨[0, 0, 0, 1, 1, 1, 1], run_of_runSchedule _ _ _ _ _ rfl⟩
  exact ⟨_, hs, rfl, Reachable.cur_exclusive hs rfl rfl⟩

end Safety

/-! ## Progress and termination -/

section Liveness

variable {fo : FloatOps} {r : Router} {q : Query} {grouping : Option (String × Bool)}
  {streams : Fin n → Stream} {s s' : St n} {i : Fin n}

theorem Pc.running_of_holdsMu {pc : Pc} (h : pc.holdsMu) : pc.running := by
  cases pc <;> first | rfl | cases h

theorem Pc.running_of_holdsCur {pc : Pc} {k : GroupKey} (h : pc.holdsCur = some k) :
    pc.running := by
  cases pc <;> first | rfl | cases h

theorem Inv.lookup_of_curKey (hinv : Inv fo r q grouping streams s) {k : GroupKey}
    (h : (s.goroutines i).pc.curKey = some k) : ∃ e, s.entries.lookup k = some e := by
  obtain ⟨p, hp, rfl⟩ := List.mem_map.mp (hinv.cur_mem i k h)
  exact ⟨p.2, lookup_eq_some_of_mem hinv.keys_nodup hp⟩

/-- A goroutine that has not returned takes a step, unless it waits for `mu` while another
holds it, or for a row's lock while another holds that. -/
theorem Inv.step_isSome (hinv : Inv fo r q grouping streams s) (hp : s.panicked = none)
    (hrun : (s.goroutines i).pc.running)
    (hlock : ∀ row key, (s.goroutines i).pc = .lock row key → s.mu = none)
    (hcur : ∀ row key e, (s.goroutines i).pc = .lockCur row key → s.entries.lookup key = some e →
      e.holder = none) :
    (HandleQuery.step fo r q grouping streams s i).isSome := by
  unfold HandleQuery.step
  simp only [hp, Option.isSome_none, Bool.false_eq_true, if_false]
  split
  next => rfl
  next row key hpc => simp [stepLock, hlock row key hpc]
  next => rfl
  next row key hpc =>
    obtain ⟨e, he⟩ := hinv.lookup_of_curKey (by rw [hpc]; rfl)
    simp [stepLockCur, he, hcur row key e hpc he]
  next => rfl
  next row key hpc =>
    obtain ⟨e, he⟩ := hinv.lookup_of_curKey (by rw [hpc]; rfl)
    simp only [stepMerge, he]
    split <;> rfl
  next key hpc =>
    obtain ⟨e, he⟩ := hinv.lookup_of_curKey (by rw [hpc]; rfl)
    simp [stepUnlockCur, he]
  next => rfl
  next => rfl
  next hpc => rw [hpc] at hrun; cases hrun
  next hpc => rw [hpc] at hrun; cases hrun
  next hpc => rw [hpc] at hrun; cases hrun

/-- While some goroutine has not returned and no panic has ended the process, some goroutine
can take a step: `mu`'s holder, or the holder of the row lock it waits for. -/
theorem Inv.exists_step (hinv : Inv fo r q grouping streams s) (hp : s.panicked = none)
    (hrun : ∃ i, (s.goroutines i).pc.running) :
    ∃ i s', HandleQuery.step fo r q grouping streams s i = some s' := by
  suffices ∃ i, (HandleQuery.step fo r q grouping streams s i).isSome from
    let ⟨i, hi⟩ := this
    ⟨i, Option.isSome_iff_exists.mp hi⟩
  cases hmu : s.mu with
  | none =>
    obtain ⟨i, hi⟩ := hrun
    refine ⟨i, hinv.step_isSome hp hi (fun _ _ _ => hmu) fun row key e hpc _ => ?_⟩
    have hheld := (hinv.mu_iff i).mpr (by rw [hpc]; rfl)
    rw [hmu] at hheld
    cases hheld
  | some h =>
    have hh : (s.goroutines h).pc.holdsMu := (hinv.mu_iff h).mp hmu
    by_cases hwait : ∃ row key, (s.goroutines h).pc = .lockCur row key
    · -- `h` waits for a row's lock: its holder, if any, is past `cur.mu.Lock()` and can step
      obtain ⟨row, key, hpc⟩ := hwait
      obtain ⟨e, he⟩ := hinv.lookup_of_curKey (i := h) (by rw [hpc]; rfl)
      cases hholder : e.holder with
      | none =>
        refine ⟨h, hinv.step_isSome hp (Pc.running_of_holdsMu hh) (fun _ _ h' => ?_)
          fun _ _ e' h' he' => ?_⟩
        · rw [hpc] at h'; cases h'
        · rw [hpc] at h'
          cases h'
          rw [he] at he'
          cases he'
          exact hholder
      | some j =>
        have hj := (hinv.holder_iff _ (mem_of_lookup_eq_some he) j).mp hholder
        refine ⟨j, hinv.step_isSome hp (Pc.running_of_holdsCur hj) (fun _ _ h' => ?_)
          fun _ _ _ h' _ => ?_⟩ <;> (rw [h'] at hj; cases hj)
    · refine ⟨h, hinv.step_isSome hp (Pc.running_of_holdsMu hh) (fun _ _ h' => ?_)
        fun row key _ h' _ => absurd ⟨row, key, h'⟩ hwait⟩
      rw [h'] at hh
      cases hh

/-- How far a goroutine is from returning: ten statements for each row it has not decoded,
and its place within the current row. -/
def Goroutine.weight (g : Goroutine) : ℕ := 10 * g.rest.length + g.pc.rank

/-- A bound on the steps left: none once a panic has ended the process. -/
def St.weight (s : St n) : ℕ := if s.panicked.isSome then 0 else 1 + ∑ i, (s.goroutines i).weight

theorem Goroutine.weight_goto_lt {g : Goroutine} {pc : Pc} (h : pc.rank < g.pc.rank) :
    (g.goto pc).weight < g.weight := by
  simp only [weight, goto_rest, goto_pc]
  omega

theorem Goroutine.weight_commit_lt {g : Goroutine} {pc : Pc} {row : RowMap}
    (h : pc.rank < g.pc.rank) : (g.commit pc row).weight < g.weight := by
  simp only [weight, commit_rest, commit_pc]
  omega

theorem St.weight_pos (hp : s.panicked = none) : 0 < s.weight := by
  simp only [St.weight, hp, Option.isSome_none, Bool.false_eq_true, if_false]
  omega

theorem St.weight_panic_lt (hp : s.panicked = none) (m : String) : (s.panic m).weight < s.weight :=
  St.weight_pos hp

/-- A step of goroutine `i` that brings it closer to returning brings the run closer to its
end. -/
theorem St.weight_lt_of_update (hp : s.panicked = none) (hp' : s'.panicked = none) {g : Goroutine}
    (hgs : s'.goroutines = Function.update s.goroutines i g)
    (hg : g.weight < (s.goroutines i).weight) : s'.weight < s.weight := by
  have hlt : ∑ j, (s'.goroutines j).weight < ∑ j, (s.goroutines j).weight := by
    refine Finset.sum_lt_sum (fun j _ => ?_) ⟨i, Finset.mem_univ i, by simpa [hgs] using hg⟩
    by_cases hji : j = i
    · subst hji; rw [hgs, Function.update_same]; exact hg.le
    · rw [hgs, Function.update_noteq hji]
  simp only [St.weight, hp, hp', Option.isSome_none, Bool.false_eq_true, if_false]
  omega

theorem St.weight_move (hp : s.panicked = none) {g : Goroutine}
    (hg : g.weight < (s.goroutines i).weight) (entries : List (GroupKey × Entry n))
    (mu : Option (Fin n)) : (s.move i g entries mu).weight < s.weight :=
  St.weight_lt_of_update hp hp rfl hg

theorem St.weight_fail (hp : s.panicked = none) (hpc : 0 < (s.goroutines i).pc.rank)
    (e : ErrorResponse) : (s.fail i e).weight < s.weight :=
  St.weight_lt_of_update hp hp rfl (Goroutine.weight_goto_lt hpc)

/-- **Every step brings the run closer to its end.** -/
theorem step_weight_lt (h : step fo r q grouping streams s i = some s') : s'.weight < s.weight := by
  unfold HandleQuery.step at h
  split_ifs at h with hp
  replace hp : s.panicked = none := Option.not_isSome_iff_eq_none.mp hp
  split at h
  next hpc =>
    cases h
    rcases hrest : (s.goroutines i).rest with _ | ⟨row, rest⟩
    · simp only [stepDecode, hrest]
      split
      · exact St.weight_move hp (Goroutine.weight_goto_lt (by simp [hpc, Pc.rank])) _ _
      · exact St.weight_fail hp (by simp [hpc, Pc.rank]) _
      · exact St.weight_move hp (Goroutine.weight_goto_lt (by simp [hpc, Pc.rank])) _ _
      · exact St.weight_fail hp (by simp [hpc, Pc.rank]) _
    · simp only [stepDecode, hrest]
      split
      · refine St.weight_move hp ?_ _ _
        simp only [Goroutine.weight, hrest, hpc, Pc.rank, List.length_cons]
        omega
      · exact St.weight_panic_lt hp _
  next row key hpc =>
    unfold stepLock at h
    split_ifs at h <;> cases h
    all_goals exact St.weight_move hp (Goroutine.weight_goto_lt (by simp [hpc, Pc.rank])) _ _
  next row key hpc =>
    cases h
    unfold stepLookup
    split
    · exact St.weight_move hp (Goroutine.weight_commit_lt (by simp [hpc, Pc.rank])) _ _
    · exact St.weight_move hp (Goroutine.weight_goto_lt (by simp [hpc, Pc.rank])) _ _
  next row key hpc =>
    unfold stepLockCur at h
    split at h
    · split_ifs at h
      cases h
      exact St.weight_move hp (Goroutine.weight_goto_lt (by simp [hpc, Pc.rank])) _ _
    · cases h
  next row key hpc =>
    cases h
    exact St.weight_move hp (Goroutine.weight_goto_lt (by simp [hpc, Pc.rank])) _ _
  next row key hpc =>
    unfold stepMerge at h
    split at h
    · split at h <;> cases h
      · exact St.weight_move hp (Goroutine.weight_commit_lt (by simp [hpc, Pc.rank])) _ _
      · exact St.weight_panic_lt hp _
    · cases h
  next key hpc =>
    unfold stepUnlockCur at h
    split at h
    · cases h
      exact St.weight_move hp (Goroutine.weight_goto_lt (by simp [hpc, Pc.rank])) _ _
    · cases h
  next row key hpc =>
    cases h
    unfold stepUpdate
    split
    · exact St.weight_move hp (Goroutine.weight_commit_lt (by simp [hpc, Pc.rank])) _ _
    · split
      · exact St.weight_move hp (Goroutine.weight_commit_lt (by simp [hpc, Pc.rank])) _ _
      · exact St.weight_panic_lt hp _
  next hpc =>
    cases h
    unfold stepDecodeEnd
    split
    · exact St.weight_fail hp (by simp [hpc, Pc.rank]) _
    · exact St.weight_move hp (Goroutine.weight_goto_lt (by simp [hpc, Pc.rank])) _ _
    · exact St.weight_fail hp (by simp [hpc, Pc.rank]) _
    · exact St.weight_move hp (Goroutine.weight_goto_lt (by simp [hpc, Pc.rank])) _ _
  next => cases h
  next => cases h
  next => cases h

/-- A run from `s` takes at most `s.weight` steps. -/
theorem Run.length_le {sched : List (Fin n)} (h : Run fo r q grouping streams s sched s') :
    sched.length ≤ s.weight := by
  induction h with
  | nil => exact Nat.zero_le _
  | cons hstep _ ih =>
    have := step_weight_lt hstep
    rw [List.length_cons]
    omega

theorem St.weight_init (streams : Fin n → Stream) :
    (init streams).weight = 1 + ∑ i, (10 * (streams i).rows.length + 1) :=
  rfl

/-- **Every run ends**, within ten steps for each row the shards stream back, and one more for
each shard and for the run. -/
theorem Run.length_le_init {sched : List (Fin n)}
    (h : Run fo r q grouping streams (init streams) sched s) :
    sched.length ≤ 1 + ∑ i, (10 * (streams i).rows.length + 1) :=
  St.weight_init streams ▸ h.length_le

theorem length_le_init_sumClicks :
    ∃ s, Run default twoShards sumClicks none oneClickEach (init oneClickEach)
        [0, 0, 0, 0, 1, 1, 1, 1] s ∧
      [0, 0, 0, 0, 1, 1, 1, 1].length ≤ 1 + ∑ i, (10 * (oneClickEach i).rows.length + 1) := by
  have h : Run default twoShards sumClicks none oneClickEach (init oneClickEach)
      [0, 0, 0, 0, 1, 1, 1, 1] _ := run_of_runSchedule _ _ _ _ _ rfl
  exact ⟨_, h, Run.length_le_init h⟩

end Liveness

/-! ## The result of a finished run -/

section Result

variable (fo : FloatOps) (grouping : Option (String × Bool))

/-- Every row the shards stream back, shard by shard. -/
def allRows (streams : Fin n → Stream) : List RowMap :=
  (List.finRange n).flatMap fun i => (streams i).rows

/-- Whether `row` is merged under the key `k`. -/
def keyIs (k : GroupKey) (row : RowMap) : Bool :=
  match rowKey fo grouping row with
  | .ok k' => decide (k' = k)
  | .error _ => false

variable {fo grouping}

theorem keyIs_of_rowKey {row : RowMap} {k k' : GroupKey} (h : rowKey fo grouping row = .ok k') :
    keyIs fo grouping k row = decide (k' = k) := by
  simp only [keyIs, h]

theorem coe_allRows (streams : Fin n → Stream) :
    (allRows streams : Multiset RowMap) = ∑ i, ((streams i).rows : Multiset RowMap) := by
  rw [Fin.sum_univ_def, allRows]
  induction List.finRange n with
  | nil => rfl
  | cons i l ih => rw [List.flatMap_cons, ← Multiset.coe_add, ih, List.map_cons, List.sum_cons]

variable {l : List (GroupKey × Entry n)}

theorem mem_entryRows {row : RowMap} :
    row ∈ entryRows l ↔ ∃ p ∈ l, row ∈ p.2.first :: p.2.merged := by
  induction l with
  | nil => exact ⟨fun h => absurd h (Multiset.not_mem_zero _), fun ⟨_, h, _⟩ => absurd h (List.not_mem_nil _)⟩
  | cons p l ih =>
    rw [entryRows, List.map_cons, List.sum_cons, Multiset.mem_add, ← entryRows, ih, Entry.rows,
      Multiset.mem_coe]
    simp only [List.mem_cons, exists_eq_or_imp]

/-- The rows of the entries merged under `k` are the rows of `k`'s entries. -/
theorem filter_entryRows
    (hkeys : ∀ p ∈ l, ∀ row ∈ p.2.first :: p.2.merged, rowKey fo grouping row = .ok p.1)
    (k : GroupKey) :
    (entryRows l).filter (keyIs fo grouping k ·) = entryRows (l.filter fun p => p.1 = k) := by
  induction l with
  | nil => rfl
  | cons p l ih =>
    have hp : ∀ row ∈ p.2.rows, keyIs fo grouping k row = decide (p.1 = k) := fun row hrow =>
      keyIs_of_rowKey (hkeys p (List.mem_cons_self _ _) row (Multiset.mem_coe.mp hrow))
    rw [entryRows, List.map_cons, List.sum_cons, Multiset.filter_add, ← entryRows,
      ih fun p' hp' => hkeys p' (List.mem_cons_of_mem _ hp')]
    by_cases hk : p.1 = k
    · rw [List.filter_cons_of_pos (by simpa using hk), Multiset.filter_eq_self.mpr fun row hrow => by
        simpa [hk] using hp row hrow]
      simp [entryRows]
    · rw [List.filter_cons_of_neg (by simpa using hk), Multiset.filter_eq_nil.mpr fun row hrow => by
        simpa [hk] using hp row hrow, zero_add]

/-- In a map with distinct keys, the entries of an entry's key are that entry alone. -/
theorem filter_fst_eq (hnd : (l.map Prod.fst).Nodup) {p : GroupKey × Entry n} (hp : p ∈ l) :
    l.filter (fun p' => p'.1 = p.1) = [p] := by
  induction l with
  | nil => cases hp
  | cons p' l ih =>
    obtain ⟨hp', hnd⟩ := List.nodup_cons.mp hnd
    rcases List.mem_cons.mp hp with rfl | hp
    · rw [List.filter_cons_of_pos (by simp), List.filter_eq_nil_iff.mpr]
      intro x hx hxe
      exact hp' (of_decide_eq_true hxe ▸ List.mem_map_of_mem Prod.fst hx)
    · have hne : p'.1 ≠ p.1 := fun h => hp' (h ▸ List.mem_map_of_mem Prod.fst hp)
      rw [List.filter_cons_of_neg (by simpa using hne), ih hnd hp]

variable {r : Router} {q : Query} {streams : Fin n → Stream} {s : St n}

/-- Once every goroutine has returned `nil`, the entries hold exactly the rows the shards
streamed back. -/
theorem Inv.entryRows_of_done (hinv : Inv fo r q grouping streams s)
    (hdone : ∀ i, (s.goroutines i).pc = .done) : entryRows s.entries = allRows streams := by
  rw [hinv.entryRows_eq, coe_allRows, committed]
  refine Finset.sum_congr rfl fun i _ => ?_
  have hg := hinv.goroutine i
  rw [hg.rows_eq, hg.done_rest (hdone i), hdone i]
  simp [Pc.inflight, Pc.keyed]

/-- Once every goroutine has returned and none returned an error, every one returned `nil`. -/
theorem Inv.done_of_returned (hinv : Inv fo r q grouping streams s)
    (hend : ∀ i, (s.goroutines i).pc.returned) (herr : s.err = none) (i : Fin n) :
    (s.goroutines i).pc = .done := by
  have hend := hend i
  cases hpc : (s.goroutines i).pc with
  | done => rfl
  | failed e =>
    have := hinv.err_iff.mpr ⟨i, e, hpc⟩
    rw [herr] at this
    cases this
  | _ => rw [hpc] at hend; cases hend

/-- The row that created an entry is a row some shard streamed back. -/
theorem Inv.first_mem_allRows (hinv : Inv fo r q grouping streams s) {p : GroupKey × Entry n}
    (hp : p ∈ s.entries) : p.2.first ∈ allRows streams := by
  have h : p.2.first ∈ committed s.goroutines := by
    rw [← hinv.entryRows_eq]
    exact mem_entryRows.mpr ⟨p, hp, List.mem_cons_self _ _⟩
  obtain ⟨i, -, hi⟩ := Multiset.mem_sum.mp h
  rw [← Multiset.mem_coe, coe_allRows]
  refine Multiset.mem_sum.mpr ⟨i, Finset.mem_univ _, Multiset.mem_coe.mpr ?_⟩
  rw [(hinv.goroutine i).rows_eq]
  exact List.mem_append_left _ (List.mem_append_left _ (Multiset.mem_coe.mp hi))

/-- With integer aggregates, an entry's row holds no infinity or NaN when the shards' rows hold
none. -/
theorem Inv.row_encodable (hinv : Inv fo r q grouping streams s) (hq : r.SumsIntegers q)
    (henc : ∀ row ∈ allRows streams, row.Encodable) {p : GroupKey × Entry n}
    (hp : p ∈ s.entries) : p.2.row.Encodable :=
  mergeSeq_encodable fo hq (henc _ (hinv.first_mem_allRows hp)) (hinv.entry p hp).row_eq

/-- Once every goroutine has returned `nil`, the map has one entry for each key of a shard row,
and each entry holds the rows of its key, merged one after another in some order. -/
theorem Inv.entries_of_done (hinv : Inv fo r q grouping streams s)
    (hdone : ∀ i, (s.goroutines i).pc = .done) :
    (s.entries.map Prod.fst).Nodup ∧
    (∀ k, k ∈ s.entries.map Prod.fst ↔ ∃ row ∈ allRows streams, rowKey fo grouping row = .ok k) ∧
    ∀ p ∈ s.entries,
      (p.2.first :: p.2.merged).Perm ((allRows streams).filter (keyIs fo grouping p.1)) ∧
      r.mergeSeq fo q p.2.first p.2.merged = .ok p.2.row := by
  have hrows := hinv.entryRows_of_done hdone
  have hkeys : ∀ p ∈ s.entries, ∀ row ∈ p.2.first :: p.2.merged,
      rowKey fo grouping row = .ok p.1 := fun p hp => (hinv.entry p hp).keys
  refine ⟨hinv.keys_nodup, fun k => ⟨?_, ?_⟩, fun p hp => ⟨?_, (hinv.entry p hp).row_eq⟩⟩
  · -- an entry's key is the key of the row that created it
    intro hk
    obtain ⟨p, hp, rfl⟩ := List.mem_map.mp hk
    have hmem : p.2.first ∈ entryRows s.entries :=
      mem_entryRows.mpr ⟨p, hp, List.mem_cons_self _ _⟩
    rw [hrows, Multiset.mem_coe] at hmem
    exact ⟨_, hmem, hkeys p hp _ (List.mem_cons_self _ _)⟩
  · -- a shard row sits in the entry of its key
    rintro ⟨row, hrow, hkey⟩
    rw [← Multiset.mem_coe, ← hrows] at hrow
    obtain ⟨p, hp, hrow⟩ := mem_entryRows.mp hrow
    rw [hkeys p hp row hrow] at hkey
    cases hkey
    exact List.mem_map_of_mem Prod.fst hp
  · -- the entry's rows are the key's rows
    have hfilter := filter_entryRows hkeys p.1
    rw [hrows, Multiset.filter_coe, filter_fst_eq hinv.keys_nodup hp] at hfilter
    rw [← Multiset.coe_eq_coe]
    simpa [entryRows, Entry.rows] using hfilter.symm

/-- Without groupings every row is keyed `nil`: once every goroutine has returned `nil` after
some shard streamed a row, the map is one entry, holding every row the shards streamed. -/
theorem Inv.entry_of_done_none (hinv : Inv fo r q none streams s)
    (hdone : ∀ i, (s.goroutines i).pc = .done) (hne : allRows streams ≠ []) :
    ∃ e, s.entries = [(.nil, e)] ∧ (e.first :: e.merged).Perm (allRows streams) ∧
      r.mergeSeq fo q e.first e.merged = .ok e.row := by
  obtain ⟨hnd, hkeys, hent⟩ := hinv.entries_of_done hdone
  have hnil : ∀ k, k ∈ s.entries.map Prod.fst ↔ k = .nil := fun k => by
    obtain ⟨row, hrow⟩ := List.exists_mem_of_ne_nil _ hne
    rw [hkeys]
    exact ⟨fun ⟨_, _, hk⟩ => (Except.ok.inj hk).symm, fun hk => ⟨row, hrow, hk ▸ rfl⟩⟩
  -- distinct keys, all of them `nil`: one entry
  have hlen : (s.entries.map Prod.fst).length = 1 := by
    have hc := List.count_eq_length.mpr fun k hk => ((hnil k).mp hk).symm
    have h1 := List.nodup_iff_count_le_one.mp hnd GroupKey.nil
    have h2 := List.count_pos_iff.mpr ((hnil _).mpr rfl)
    omega
  obtain ⟨⟨k, e⟩, hp⟩ := List.length_eq_one.mp (by rwa [List.length_map] at hlen)
  obtain rfl : k = .nil := (hnil k).mp (by rw [hp]; exact List.mem_singleton_self _)
  obtain ⟨hperm, hrow⟩ := hent _ (by rw [hp]; exact List.mem_singleton_self _)
  exact ⟨e, hp, hperm.trans (List.Perm.of_eq (List.filter_eq_self.mpr fun _ _ => rfl)), hrow⟩

/-- **The result of a finished run.**  Once every goroutine has returned `nil`, whatever the
interleaving, the map has one entry for each key of a shard row, and each entry holds the rows
of its key, merged one after another in some order. -/
theorem final_entries (hs : Reachable fo r q grouping streams s)
    (hdone : ∀ i, (s.goroutines i).pc = .done) :
    (s.entries.map Prod.fst).Nodup ∧
    (∀ k, k ∈ s.entries.map Prod.fst ↔ ∃ row ∈ allRows streams, rowKey fo grouping row = .ok k) ∧
    ∀ p ∈ s.entries,
      (p.2.first :: p.2.merged).Perm ((allRows streams).filter (keyIs fo grouping p.1)) ∧
      r.mergeSeq fo q p.2.first p.2.merged = .ok p.2.row :=
  hs.inv.entries_of_done hdone

theorem final_entries_clicksByName :
    ∃ s, Reachable default twoShards clicksByName (some ("name", false)) aClickEach s ∧
      (∀ i, (s.goroutines i).pc = .done) ∧ (s.entries.map Prod.fst).Nodup ∧
      (∀ k, k ∈ s.entries.map Prod.fst ↔
        ∃ row ∈ allRows aClickEach, rowKey default (some ("name", false)) row = .ok k) ∧
      ∀ p ∈ s.entries, (p.2.first :: p.2.merged).Perm
          ((allRows aClickEach).filter (keyIs default (some ("name", false)) p.1)) ∧
        twoShards.mergeSeq default clicksByName p.2.first p.2.merged = .ok p.2.row := by
  have hs : Reachable default twoShards clicksByName (some ("name", false)) aClickEach _ :=
    ⟨[0, 0, 0, 0, 1, 1, 1, 1, 1, 1, 1, 1], run_of_runSchedule _ _ _ _ _ rfl⟩
  exact ⟨_, hs, Fin.forall_fin_two.mpr ⟨rfl, rfl⟩,
    final_entries hs (Fin.forall_fin_two.mpr ⟨rfl, rfl⟩)⟩

/-- With integer aggregates of distinct names, and shard rows carrying numbers under them,
each entry of a finished run holds `mergedValue` of its key's rows under every merged name. -/
theorem final_mergedValue (hq : r.SumsIntegers q) (hn : q.mergeNames.Nodup)
    (hnum : ∀ row ∈ allRows streams, ∀ a ∈ q.mergeNames, IsNumber (row a))
    (hs : Reachable fo r q grouping streams s) (hdone : ∀ i, (s.goroutines i).pc = .done)
    {p : GroupKey × Entry n} (hp : p ∈ s.entries) {a : String} (ha : a ∈ q.mergeNames) :
    p.2.row a = mergedValue fo ((allRows streams).filter (keyIs fo grouping p.1)) a := by
  obtain ⟨hperm, hrow⟩ := (hs.inv.entries_of_done hdone).2.2 p hp
  rw [mergeSeq_eq_mergedValue fo hq hn
      (fun row hr => hnum row (List.mem_of_mem_filter (hperm.subset hr))) hrow ha,
    mergedValue_perm fo hperm]

end Result


/-! ## `HandleQuery` -/

/-- How `HandleQuery` ends. -/
inductive Outcome where
  /-- `WriteError`: a status and the error's text. -/
  | error (e : ErrorResponse)
  /-- `WriteJSONResponse`, with `Results` holding these rows. -/
  | results (rows : List RowMap)
  /-- A panic, with its message. -/
  | panic (msg : String)
  /-- No answer: `wg.Wait()` waits for ever for a goroutine blocked on its shard. -/
  | noAnswer

/-- The error of `json.Encoder.Encode` on a `float64` infinity or NaN, which
`WriteJSONResponse` hands to `WriteError` with status 500. -/
def unsupportedValue (x : NonFinite) : ErrorResponse :=
  ⟨500, "json: unsupported value: " ++ x.format⟩

/-- What `HandleQuery` answers once its goroutines have stopped in `s`: after `wg.Wait()`,
`WriteError` with the first error a goroutine returned, or `WriteJSONResponse` with the merged
rows. -/
inductive Answers (s : St n) : Outcome → Prop
  /-- A goroutine panicked, which ends the process. -/
  | panic {m : String} : s.panicked = some m → Answers s (.panic m)
  /-- Every goroutine has returned, one with an error: `wg.Wait()` returns the first. -/
  | failed {e : ErrorResponse} : s.panicked = none → (∀ i, (s.goroutines i).pc.returned) →
      s.err = some e → Answers s (.error e)
  /-- Every goroutine has returned `nil`, and the merged rows, in the order the map yields
  them, are encoded. -/
  | merged {rows : List RowMap} : s.panicked = none → (∀ i, (s.goroutines i).pc = .done) →
      rows.Perm (s.entries.map fun p => p.2.row) → (∀ row ∈ rows, row.Encodable) →
      Answers s (.results rows)
  /-- Every goroutine has returned `nil`, but a merged row holds a `float64` infinity or NaN,
  which the encoder refuses.  Which one it names (the first in the rows' order, and within the
  row in the order of the names) is left open. -/
  | unencodable {x : NonFinite} : s.panicked = none → (∀ i, (s.goroutines i).pc = .done) →
      (∃ p ∈ s.entries, ∃ k, p.2.row k = some (.nonFinite x)) →
      Answers s (.error (unsupportedValue x))
  /-- The goroutines have stopped, one of them blocked for ever on a stream that stalls:
  `wg.Wait()` never returns. -/
  | noAnswer : s.panicked = none → (∀ i, (s.goroutines i).pc.running = false) →
      (∃ i, (s.goroutines i).pc = .stalled) → Answers s .noAnswer

/-- **`HandleQuery`**, from the parsed query on: the ways it can end on the query string's
`format` and the query `q` when shard `i` streams back `streams i`, one for each interleaving of
the shard goroutines.  Parsing the body, which answers 400 on bad JSON, is not modelled. -/
inductive Responds (fo : FloatOps) (r : Router) (format : String) (q : Query)
    (streams : Fin r.shards.length → Stream) : Outcome → Prop
  /-- A check made before the shards are contacted rejects the query. -/
  | rejected {e : ErrorResponse} :
      r.prepareQuery format q = .ok (.error e) → Responds fo r format q streams (.error e)
  /-- `convertColumnToIntegral` panics. -/
  | setupPanic {m : String} :
      r.prepareQuery format q = .error m → Responds fo r format q streams (.panic m)
  /-- The shard goroutines run, stop in `s`, and `HandleQuery` answers as `s` says. -/
  | answered {grouping : Option (String × Bool)} {s : St r.shards.length} {o : Outcome} :
      r.prepareQuery format q = .ok (.ok grouping) → Reachable fo r q grouping streams s →
      Answers s o → Responds fo r format q streams o

section Answers

variable {fo : FloatOps} {r : Router} {q : Query} {grouping : Option (String × Bool)}
  {streams : Fin n → Stream} {s : St n}

theorem Pc.returned_of_stopped {pc : Pc} (h : pc.running = false) (hs : pc ≠ .stalled) :
    pc.returned := by
  cases pc <;> first | rfl | exact absurd rfl hs | cases h

/-- A state no goroutine can leave has an answer, and it is `noAnswer` only when a shard's
stream stalls. -/
theorem Inv.answers (hinv : Inv fo r q grouping streams s)
    (hstop : ∀ i, HandleQuery.step fo r q grouping streams s i = none) :
    ∃ o, Answers s o ∧ (o = .noAnswer → ∃ i, (streams i).stalls) := by
  cases hp : s.panicked with
  | some m => exact ⟨_, .panic hp, nofun⟩
  | none =>
    have hend : ∀ i, (s.goroutines i).pc.running = false := fun i =>
      Bool.eq_false_iff.mpr fun hi => by
        obtain ⟨j, s', hj⟩ := hinv.exists_step hp ⟨i, hi⟩
        rw [hstop j] at hj
        cases hj
    by_cases hst : ∃ i, (s.goroutines i).pc = .stalled
    · obtain ⟨i, hi⟩ := hst
      exact ⟨_, .noAnswer hp hend ⟨i, hi⟩, fun _ => ⟨i, (hinv.goroutine i).stalled_stalls hi⟩⟩
    have hret : ∀ i, (s.goroutines i).pc.returned := fun i =>
      Pc.returned_of_stopped (hend i) fun h => hst ⟨i, h⟩
    cases he : s.err with
    | some e => exact ⟨_, .failed hp hret he, nofun⟩
    | none =>
      have hdone := hinv.done_of_returned hret he
      by_cases hx : ∃ p ∈ s.entries, ∃ k x, p.2.row k = some (.nonFinite x)
      · obtain ⟨p, hp', k, x, hk⟩ := hx
        exact ⟨_, .unencodable hp hdone ⟨p, hp', k, hk⟩, nofun⟩
      · refine ⟨_, .merged hp hdone (List.Perm.refl _) fun row hrow k x hk => ?_, nofun⟩
        obtain ⟨p, hp', rfl⟩ := List.mem_map.mp hrow
        exact hx ⟨p, hp', k, x, hk⟩

end Answers

section Responds

variable {fo : FloatOps} {r : Router} {format : String} {q : Query}
  {streams : Fin r.shards.length → Stream} {grouping : Option (String × Bool)}

/-- A run computed by `runSchedule` in which every goroutine returns `nil`, on integer
aggregates and shard rows free of infinities and NaNs. -/
theorem Responds.of_runSchedule {s : St r.shards.length} (sched : List (Fin r.shards.length))
    (hprep : r.prepareQuery format q = .ok (.ok grouping))
    (hrun : runSchedule fo r q grouping streams (init streams) sched = some s)
    (hp : s.panicked = none) (hdone : ∀ i, (s.goroutines i).pc = .done)
    (hq : r.SumsIntegers q) (henc : ∀ row ∈ allRows streams, row.Encodable) :
    Responds fo r format q streams (.results (s.entries.map fun p => p.2.row)) :=
  have hs : Reachable fo r q grouping streams s := ⟨sched, run_of_runSchedule fo r q grouping streams hrun⟩
  .answered hprep hs (.merged hp hdone (List.Perm.refl _) fun _ hrow => by
    obtain ⟨p, hp, rfl⟩ := List.mem_map.mp hrow
    exact hs.inv.row_encodable hq henc hp)

/-- **The merged result, whatever the interleaving.**  When `HandleQuery` answers with rows,
they are one row per key of the shards' rows, and under each aggregate's name and `rowCount`
a key's row holds `mergedValue` of the key's rows: with integer aggregates of distinct names,
the lone row's own value, or the `int64` sum of the rows' `int64` values. -/
theorem handleQuery_merges_by_key {rows : List RowMap} (hq : r.SumsIntegers q)
    (hn : q.mergeNames.Nodup) (hprep : r.prepareQuery format q = .ok (.ok grouping))
    (hnum : ∀ row ∈ allRows streams, ∀ a ∈ q.mergeNames, IsNumber (row a))
    (h : Responds fo r format q streams (.results rows)) :
    ∃ keyed : List (GroupKey × RowMap), rows.Perm (keyed.map Prod.snd) ∧
      (keyed.map Prod.fst).Nodup ∧
      (∀ k, k ∈ keyed.map Prod.fst ↔ ∃ row ∈ allRows streams, rowKey fo grouping row = .ok k) ∧
      ∀ p ∈ keyed, ∀ a ∈ q.mergeNames,
        p.2 a = mergedValue fo ((allRows streams).filter (keyIs fo grouping p.1)) a := by
  cases h with
  | @answered _ s _ hprep' hs hans =>
    rw [hprep] at hprep'
    cases hprep'
    cases hans with
    | merged _ hdone hperm _ =>
      obtain ⟨hnd, hkeys, -⟩ := hs.inv.entries_of_done hdone
      refine ⟨s.entries.map fun p => (p.1, p.2.row), by rw [List.map_map]; exact hperm,
        by rw [List.map_map]; exact hnd, by rw [List.map_map]; exact hkeys, ?_⟩
      intro p hp a ha
      obtain ⟨p', hp', rfl⟩ := List.mem_map.mp hp
      exact final_mergedValue hq hn hnum hs hdone hp' ha

/-- **`HandleQuery` always ends.**  Once its checks accept the query, every run of the shard
goroutines stops within ten steps for each row the shards stream back, and a run no goroutine
can extend ends in one of the outcomes `Responds` lists: no interleaving deadlocks or runs for
ever.  That outcome is an answer unless some shard never finishes its response. -/
theorem handleQuery_ends (hprep : r.prepareQuery format q = .ok (.ok grouping))
    {sched : List (Fin r.shards.length)} {s : St r.shards.length}
    (hrun : Run fo r q grouping streams (init streams) sched s) :
    sched.length ≤ 1 + ∑ i, (10 * (streams i).rows.length + 1) ∧
      ((∀ i, step fo r q grouping streams s i = none) →
        ∃ o, Answers s o ∧ Responds fo r format q streams o ∧
          (o = .noAnswer → ∃ i, (streams i).stalls)) := by
  have hs : Reachable fo r q grouping streams s := ⟨sched, hrun⟩
  refine ⟨St.weight_init streams ▸ hrun.length_le, fun hstop => ?_⟩
  obtain ⟨o, ho, hno⟩ := hs.inv.answers hstop
  exact ⟨o, ho, .answered hprep hs ho, hno⟩

end Responds

/-! ### `config.toml`'s router

Two shards stream back one click each, and the goroutines run one after the other. -/

theorem allRows_oneClickEach_encodable : ∀ row ∈ allRows oneClickEach, row.Encodable := by
  intro row h
  obtain ⟨_, -, h⟩ := List.mem_flatMap.mp h
  rw [List.mem_singleton.mp h]
  exact oneClick_encodable

theorem handleQuery_merges_by_key_sumClicks :
    ∃ rows, Responds default twoShards "" sumClicks oneClickEach (.results rows) ∧
      ∃ keyed : List (GroupKey × RowMap), rows.Perm (keyed.map Prod.snd) ∧
        (keyed.map Prod.fst).Nodup ∧
        (∀ k, k ∈ keyed.map Prod.fst ↔ ∃ row ∈ allRows oneClickEach, rowKey default none row = .ok k) ∧
        ∀ p ∈ keyed, ∀ a ∈ sumClicks.mergeNames,
          p.2 a = mergedValue default ((allRows oneClickEach).filter (keyIs default none p.1)) a := by
  have h : Responds default twoShards "" sumClicks oneClickEach (.results _) :=
    Responds.of_runSchedule ([0, 0, 0, 0, 1, 1, 1, 1] : List (Fin 2)) rfl rfl rfl
      (Fin.forall_fin_two.mpr ⟨rfl, rfl⟩) (sumsIntegers_sumClicks _) allRows_oneClickEach_encodable
  exact ⟨_, h, handleQuery_merges_by_key (sumsIntegers_sumClicks _) (by decide) (by rfl) (by decide) h⟩

theorem handleQuery_ends_sumClicks :
    twoShards.prepareQuery "" sumClicks = .ok (.ok none) ∧
      ∃ s, Run default twoShards sumClicks none oneClickEach (init oneClickEach)
        [0, 0, 0, 0, 1, 1, 1, 1] s ∧
      [0, 0, 0, 0, 1, 1, 1, 1].length ≤ 1 + ∑ i, (10 * (oneClickEach i).rows.length + 1) ∧
      ((∀ i, step default twoShards sumClicks none oneClickEach s i = none) →
        ∃ o, Answers s o ∧ Responds default twoShards "" sumClicks oneClickEach o ∧
          (o = .noAnswer → ∃ i, (oneClickEach i).stalls)) := by
  have hprep : twoShards.prepareQuery "" sumClicks = .ok (.ok none) := rfl
  have h : Run default twoShards sumClicks none oneClickEach (init oneClickEach)
      [0, 0, 0, 0, 1, 1, 1, 1] _ := run_of_runSchedule _ _ _ _ _ rfl
  exact ⟨hprep, _, h, handleQuery_ends hprep h⟩

/-- The sums of `clicks` and of `visits`, both under the name `clicks`. -/
def clicksTwice : Query :=
  ⟨[⟨.aggregateSum, "clicks", "clicks"⟩, ⟨.aggregateSum, "visits", "clicks"⟩], [], []⟩

theorem handleQuery_adds_repeated_name_twice :
    newRouter configToml ["shard0", "shard1"] = .ok twoShards ∧
      twoShards.checkQuery "" clicksTwice = none ∧ oneClick "clicks" = some (.float64 1) ∧
      (∃ rows, Responds default twoShards "" clicksTwice oneClickEach (.results rows)) ∧
      ∀ rows, Responds default twoShards "" clicksTwice oneClickEach (.results rows) →
        rows.map (· "clicks") = [some (.int .int64 3)] := by
  have hq : twoShards.SumsIntegers clicksTwice := fun agg hagg => by
    simp only [clicksTwice, List.mem_cons, List.mem_singleton, List.not_mem_nil, or_false] at hagg
    rcases hagg with rfl | rfl <;> exact ⟨.uint8, rfl, rfl⟩
  refine ⟨newRouter_configToml _, rfl, rfl, ⟨_, Responds.of_runSchedule
    ([0, 0, 0, 0, 1, 1, 1, 1] : List (Fin 2)) rfl rfl rfl (Fin.forall_fin_two.mpr ⟨rfl, rfl⟩) hq
    allRows_oneClickEach_encodable⟩, fun rows h => ?_⟩
  cases h with
  | @answered _ s _ hprep hs hans =>
    cases hprep
    cases hans with
    | merged _ hdone hperm _ =>
      obtain ⟨⟨row, holder, first, merged⟩, he, hrows, hrow⟩ :=
        hs.inv.entry_of_done_none hdone (List.cons_ne_nil _ _)
      -- the entry holds both shards' rows, the second merged into the first
      obtain ⟨rfl, rfl⟩ := List.cons.inj
        (List.perm_replicate.mp (hrows.trans (List.Perm.refl (List.replicate 2 oneClick))))
      rw [he, List.map_singleton, List.perm_singleton] at hperm
      rw [hperm, List.map_singleton]
      dsimp only at hrow
      cases hrow
      rfl

/-- The sum of the timestamp column `at`. -/
def sumAt : Query := ⟨[⟨.aggregateSum, "at", "at"⟩], [], []⟩

/-- A shard's row for one row at time 1. -/
def oneAt : RowMap := fun k => if k = "at" ∨ k = "rowCount" then some (.float64 1) else none

theorem handleQuery_panics_on_accepted_queries :
    newRouter configToml ["shard0", "shard1"] = .ok twoShards ∧
      (twoShards.checkQuery "" groupByVisits = none ∧ ∀ streams o,
        Responds default twoShards "" groupByVisits streams o ↔
          o = .panic "grouping column doesn't exist") ∧
      (twoShards.checkQuery "" sumAt = none ∧
        Responds default twoShards "" sumAt (fun _ => ⟨[oneAt], none, false⟩)
          (.panic "bad column in sumColumn: at")) := by
  refine ⟨newRouter_configToml _, ⟨rfl, fun streams o => ⟨fun h => ?_, fun h => h ▸ .setupPanic rfl⟩⟩,
    rfl, .answered rfl ⟨([0, 0, 0, 1, 1, 1] : List (Fin 2)), run_of_runSchedule _ _ _ _ _ rfl⟩
      (.panic rfl)⟩
  cases h with
  | rejected hp => cases hp
  | setupPanic hp => cases hp; rfl
  | answered hp => cases hp

end HandleQuery

end Gumshoe
