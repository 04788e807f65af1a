import Gumshoe.Router.Merge
import Mathlib.Data.String.Basic
import Mathlib.Data.List.Sort
import Mathlib.Data.List.FinRange
import Mathlib.Data.List.ReduceOption

/-!
# The router: dimension tables and status

Two more handlers ask every shard and combine the answers.  `HandleSingleDimension` gathers the
values of one dimension table from all shards into a set, one goroutine per shard adding its
shard's values under a mutex, and answers them sorted.  `HandleStatusz` asks the shards one
after another for their status and keeps the latest update and the oldest interval.

## What is proved

* The values `HandleSingleDimension` answers are sorted, each once, and are exactly the values
  the shards answered, whatever order the goroutines take `mu` in: adding to the set under `mu`
  loses no value (`handleSingleDimension_collects`).
* `HandleStatusz` answers the latest `LastUpdated` and the oldest `OldestInterval` the shards it
  reached reported, or an error naming every shard it did not reach (`handleStatusz_eq`).

## Honest boundary

* A goroutine of `HandleSingleDimension` touches the set only between `mu.Lock()` and
  `mu.Unlock()`, so its loop is one atomic step, and a run is the order in which the goroutines
  take `mu`.  `wait.Group` is not among the sources: `Wait` is read as returning the error of
  one of the goroutines that failed.
* `sort.Strings` orders by bytes.  JSON decodes to valid UTF-8, on which that is the order of
  code points that `String`'s `<` uses.
* A shard's answer is given decoded.  `HandleStatusz` does not look at the status code, so an
  error page that decodes as a `Statusz` counts as an answer, as it does here.
-/

namespace Gumshoe

namespace HandleSingleDimension

/-- `dimValues[s] = struct{}{}`: the map is a set; its keys are kept here in the order they were
first added. -/
def addValue (dimValues : List String) (s : String) : List String :=
  if s ∈ dimValues then dimValues else dimValues ++ [s]

/-- A goroutine's loop `for _, s := range result`, which it runs holding `mu`. -/
def addValues (dimValues result : List String) : List String := result.foldl addValue dimValues

variable {n : ℕ} (answers : Fin n → Except ErrorResponse (List String))

/-- Goroutine `i` taking `mu`: it adds the values of its shard, unless its request failed and it
returned before. -/
def collectStep (dimValues : List String) (i : Fin n) : List String :=
  match answers i with
  | .ok result => addValues dimValues result
  | .error _ => dimValues

/-- `dimValues` once the goroutines have taken `mu` in the order `order`. -/
def collectValues (order : List (Fin n)) : List String := order.foldl (collectStep answers) []

/-- `sort.Strings`. -/
def sortStrings (results : List String) : List String := results.mergeSort fun a b => decide (a ≤ b)

/-- The ways `HandleSingleDimension` can answer `/dimension_tables/{name}`, given what goroutine
`i` gets from shard `r.Shards[i]`: its values, or the error the goroutine returns. -/
inductive Responds (name : String) : Except ErrorResponse (List String) → Prop
  | noName (h : name = "") : Responds name (.error ⟨400, "must provide dimension name"⟩)
  | failed (h : name ≠ "") {i : Fin n} {e : ErrorResponse} (he : answers i = .error e) :
      Responds name (.error e)
  | collected (h : name ≠ "") (hok : ∀ i e, answers i ≠ .error e) {order : List (Fin n)}
      (hord : order.Perm (List.finRange n)) :
      Responds name (.ok (sortStrings (collectValues answers order)))

/-- Two shards' values of the dimension table of `name`. -/
def nameValues : Fin 2 → Except ErrorResponse (List String) :=
  fun i => if i = 0 then .ok ["b", "a"] else .ok ["c", "a"]

theorem nameValues_ok (i : Fin 2) (e : ErrorResponse) : nameValues i ≠ .error e := by
  unfold nameValues
  split_ifs <;> exact Except.noConfusion

/-! ### The set of values -/

variable {answers}

theorem mem_addValue {dimValues : List String} {s t : String} :
    t ∈ addValue dimValues s ↔ t ∈ dimValues ∨ t = s := by
  unfold addValue
  split_ifs with h
  · exact ⟨.inl, fun h' => h'.elim id (· ▸ h)⟩
  · simp

theorem nodup_addValue {dimValues : List String} (hd : dimValues.Nodup) (s : String) :
    (addValue dimValues s).Nodup := by
  unfold addValue
  split_ifs with h
  · exact hd
  · exact hd.append (List.nodup_singleton s) (List.disjoint_singleton.mpr h)

theorem mem_addValues {result : List String} {t : String} :
    ∀ {dimValues : List String}, t ∈ addValues dimValues result ↔ t ∈ dimValues ∨ t ∈ result := by
  induction result with
  | nil => simp [addValues]
  | cons s result ih =>
    intro dimValues
    simp only [addValues, List.foldl_cons] at ih ⊢
    rw [ih, mem_addValue, List.mem_cons, or_assoc]

theorem nodup_addValues (result : List String) :
    ∀ {dimValues : List String}, dimValues.Nodup → (addValues dimValues result).Nodup := by
  induction result with
  | nil => exact id
  | cons s result ih => exact fun hd => ih (nodup_addValue hd s)

/-- One goroutine's critical section adds its shard's values and keeps the set a set. -/
theorem mem_collectStep {dimValues : List String} {i : Fin n} {t : String} :
    t ∈ collectStep answers dimValues i ↔ t ∈ dimValues ∨ ∃ vs, answers i = .ok vs ∧ t ∈ vs := by
  unfold collectStep
  split <;> simp_all [mem_addValues]

theorem nodup_collectStep {dimValues : List String} (hd : dimValues.Nodup) (i : Fin n) :
    (collectStep answers dimValues i).Nodup := by
  unfold collectStep
  split
  · exact nodup_addValues _ hd
  · exact hd

/-- **No value is lost.**  Over any order of the critical sections, the set holds what it held
and every value of every goroutine that ran, each once. -/
theorem foldl_collectStep (order : List (Fin n)) :
    ∀ {dimValues : List String}, dimValues.Nodup →
      (order.foldl (collectStep answers) dimValues).Nodup ∧
        ∀ t, t ∈ order.foldl (collectStep answers) dimValues ↔
          t ∈ dimValues ∨ ∃ i ∈ order, ∃ vs, answers i = .ok vs ∧ t ∈ vs := by
  induction order with
  | nil => exact fun hd => ⟨hd, fun t => by
      simp only [List.foldl_nil, List.not_mem_nil, false_and, exists_false, or_false]⟩
  | cons i order ih =>
    intro dimValues hd
    obtain ⟨hnd, hmem⟩ := ih (nodup_collectStep hd i)
    refine ⟨hnd, fun t => ?_⟩
    rw [List.foldl_cons, hmem, mem_collectStep]
    simp only [List.mem_cons, or_and_right, exists_or, exists_eq_left, or_assoc]

/-- What a run of all the goroutines answers: sorted, each value once, and every shard's values. -/
theorem sortStrings_collectValues {order : List (Fin n)} (hord : order.Perm (List.finRange n)) :
    (sortStrings (collectValues answers order)).Sorted (· < ·) ∧
      ∀ s, s ∈ sortStrings (collectValues answers order) ↔ ∃ i vs, answers i = .ok vs ∧ s ∈ vs := by
  obtain ⟨hnd, hmem⟩ := @foldl_collectStep _ answers order [] List.nodup_nil
  have hperm := List.mergeSort_perm (collectValues answers order) fun a b => decide (a ≤ b)
  have hsorted : (sortStrings (collectValues answers order)).Pairwise fun a b => decide (a ≤ b) :=
    @List.sorted_mergeSort String (fun a b => decide (a ≤ b))
      (fun a b c hab hbc => decide_eq_true (le_trans (of_decide_eq_true hab) (of_decide_eq_true hbc)))
      (fun a b => by simp only [Bool.or_eq_true, decide_eq_true_eq]; exact le_total a b) _
  refine ⟨(hsorted.and (hperm.nodup_iff.mpr hnd)).imp fun h => lt_of_le_of_ne
    (of_decide_eq_true h.1) h.2, fun s => ?_⟩
  rw [sortStrings, hperm.mem_iff, collectValues, hmem]
  simp only [List.not_mem_nil, false_or, hord.mem_iff, List.mem_finRange, true_and]

/-- **What `/dimension_tables/{name}` answers.**  The values are sorted, each once, and are the
values the shards answered. -/
theorem handleSingleDimension_collects {name : String} {results : List String}
    (h : Responds answers name (.ok results)) :
    results.Sorted (· < ·) ∧ ∀ s, s ∈ results ↔ ∃ i vs, answers i = .ok vs ∧ s ∈ vs := by
  cases h with
  | collected _ _ hord => exact sortStrings_collectValues hord

theorem handleSingleDimension_collects_nameValues :
    ∃ results, Responds nameValues "name" (.ok results) ∧
      results.Sorted (· < ·) ∧ ∀ s, s ∈ results ↔ ∃ i vs, nameValues i = .ok vs ∧ s ∈ vs := by
  have h : Responds nameValues "name" (.ok _) :=
    .collected (by decide) nameValues_ok (List.Perm.refl (List.finRange 2))
  exact ⟨_, h, handleSingleDimension_collects h⟩

end HandleSingleDimension

/-! ## `/statusz` -/

/-- `Statusz`: a shard's status; a `nil` pointer is `none`. -/
structure Statusz where
  lastUpdated : Option ℤ
  oldestInterval : Option ℤ

/-- The update of a field of `status` from a shard's: the shard's value replaces a `nil` one and
one it is `better` than. -/
def replaceIf (better : ℤ → ℤ → Bool) (cur new : Option ℤ) : Option ℤ :=
  match cur, new with
  | none, _ => new
  | some c, some n => if better n c then new else cur
  | some _, none => cur

@[simp] theorem replaceIf_none (better : ℤ → ℤ → Bool) (cur : Option ℤ) :
    replaceIf better cur none = cur := by
  cases cur <;> rfl

/-- `status.LastUpdated` after a shard's: the later. -/
def updateLastUpdated : Option ℤ → Option ℤ → Option ℤ := replaceIf fun n c => n > c

/-- `status.OldestInterval` after a shard's: the older. -/
def updateOldestInterval : Option ℤ → Option ℤ → Option ℤ := replaceIf fun n c => n < c

/-- One shard of the loop of `HandleStatusz`: a shard whose request or decode failed joins
`failed`; otherwise its status updates `status`. -/
def statuszStep (acc : Statusz × List String) (answer : String × Option Statusz) :
    Statusz × List String :=
  match answer.2 with
  | none => (acc.1, acc.2 ++ [answer.1])
  | some status2 =>
    (⟨updateLastUpdated acc.1.lastUpdated status2.lastUpdated,
      updateOldestInterval acc.1.oldestInterval status2.oldestInterval⟩, acc.2)

/-- The error `HandleStatusz` answers when it could not reach shards. -/
def couldNotContact (failed : List String) : String :=
  "Could not contact shards:\n" ++ String.join (failed.map (· ++ "\n"))

/-- `HandleStatusz`, given each shard of `r.Shards`, in order, with what its `/statusz` decoded
to (`none` when the request or the decode failed). -/
def handleStatusz (answers : List (String × Option Statusz)) : Except ErrorResponse Statusz :=
  let (status, failed) := answers.foldl statuszStep (⟨none, none⟩, [])
  if failed.length > 0 then .error ⟨500, couldNotContact failed⟩ else .ok status

/-- The best of a list by `op`, `none` for the empty list; `List.max?` and `List.min?` are its
cases `max` and `min`. -/
def bestOf (op : ℤ → ℤ → ℤ) : List ℤ → Option ℤ
  | [] => none
  | a :: as => some (as.foldl op a)

theorem bestOf_max : bestOf max = List.max? := by
  funext l
  cases l <;> rfl

theorem bestOf_min : bestOf min = List.min? := by
  funext l
  cases l <;> rfl

/-- **A run of `replaceIf` keeps the best value.**  With `op` choosing as `better` does, folding
`replaceIf` over a shard's values folds `op` over those that are not `nil`. -/
theorem foldl_replaceIf {better : ℤ → ℤ → Bool} {op : ℤ → ℤ → ℤ}
    (hop : ∀ c n, op c n = if better n c then n else c) :
    ∀ (xs : List (Option ℤ)) (cur : Option ℤ),
      xs.foldl (replaceIf better) cur = bestOf op (cur.toList ++ xs.reduceOption)
  | [], none => rfl
  | [], some c => rfl
  | none :: xs, cur => by
    rw [List.foldl_cons, List.reduceOption_cons_of_none, replaceIf_none, foldl_replaceIf hop xs]
  | some n :: xs, none => foldl_replaceIf hop xs (some n)
  | some n :: xs, some c => by
    have hr : replaceIf better (some c) (some n) = some (op c n) := by
      rw [hop]
      exact (apply_ite some _ n c).symm
    rw [List.foldl_cons, hr, foldl_replaceIf hop xs, List.reduceOption_cons_of_some]
    rfl

theorem foldl_statuszStep_fst (answers : List (String × Option Statusz)) :
    ∀ acc : Statusz × List String, (answers.foldl statuszStep acc).1 =
      ⟨(answers.map fun a => a.2.bind Statusz.lastUpdated).foldl updateLastUpdated acc.1.lastUpdated,
        (answers.map fun a => a.2.bind Statusz.oldestInterval).foldl updateOldestInterval
          acc.1.oldestInterval⟩ := by
  induction answers with
  | nil => exact fun _ => rfl
  | cons a answers ih =>
    intro acc
    rcases a with ⟨shard, _ | status2⟩ <;>
      simp [statuszStep, ih, updateLastUpdated, updateOldestInterval]

/-- The shards `HandleStatusz` did not reach, in order. -/
def unreached (answers : List (String × Option Statusz)) : List String :=
  (answers.filter fun a => a.2.isNone).map Prod.fst

theorem foldl_statuszStep_snd (answers : List (String × Option Statusz)) :
    ∀ acc : Statusz × List String, (answers.foldl statuszStep acc).2 = acc.2 ++ unreached answers := by
  induction answers with
  | nil => exact fun acc => (List.append_nil _).symm
  | cons a answers ih =>
    intro acc
    rcases a with ⟨shard, _ | status2⟩ <;> simp [statuszStep, unreached, ih]

/-- **What `/statusz` answers.**  The latest `LastUpdated` and the oldest `OldestInterval` of the
shards that answered, each `nil` when none reported one; or, when some shard did not answer, an
error naming every such shard in order. -/
theorem handleStatusz_eq (answers : List (String × Option Statusz)) :
    handleStatusz answers =
      if unreached answers = [] then
        .ok ⟨(answers.filterMap fun a => a.2.bind Statusz.lastUpdated).max?,
          (answers.filterMap fun a => a.2.bind Statusz.oldestInterval).min?⟩
      else .error ⟨500, couldNotContact (unreached answers)⟩ := by
  have hmax : ∀ c n : ℤ, max c n = if decide (n > c) = true then n else c := fun c n => by
    simp only [decide_eq_true_eq, max_def]
    split_ifs <;> omega
  have hmin : ∀ c n : ℤ, min c n = if decide (n < c) = true then n else c := fun c n => by
    simp only [decide_eq_true_eq, min_def]
    split_ifs <;> omega
  have hfst := foldl_statuszStep_fst answers (⟨none, none⟩, [])
  unfold updateLastUpdated updateOldestInterval at hfst
  rw [foldl_replaceIf hmax, foldl_replaceIf hmin, bestOf_max, bestOf_min] at hfst
  have hfold : answers.foldl statuszStep (⟨none, none⟩, []) =
      (⟨(answers.filterMap fun a => a.2.bind Statusz.lastUpdated).max?,
        (answers.filterMap fun a => a.2.bind Statusz.oldestInterval).min?⟩, unreached answers) := by
    refine Prod.ext ?_ ((foldl_statuszStep_snd answers _).trans (List.nil_append _))
    rw [hfst]
    simp only [Option.toList_none, List.nil_append, List.reduceOption, List.filterMap_map,
      Function.id_comp]
  simp only [handleStatusz, hfold, gt_iff_lt, List.length_pos, ne_eq, ite_not]

example : handleStatusz [("shard0", some ⟨some 5, some 1⟩), ("shard1", none)] =
    .error ⟨500, "Could not contact shards:\nshard1\n"⟩ := rfl

end Gumshoe
