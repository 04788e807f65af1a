import Gumshoe.Router.Shards

/-!
# The router: what `HandleQuery` answers when a shard fails

A shard goroutine returns an error when its shard's stream ends in one (a failed request, a
status other than 200, a row that does not decode) and, for a query without groupings, when the
shard sends no row (`io.EOF`) or a second one.  `wg.Wait()` hands the first such error to
`HandleQuery`, which answers with it instead of the merged rows.

## What is proved

* `OInv`: in every reachable state a goroutine of a query without groupings has merged no row
  before its `update` and exactly one after, and one of a query with groupings never runs the
  statements of the path without; a goroutine has returned `nil` only on a stream that did not
  end in an error; and the error kept for `wg.Wait()` has one of the causes `Cause` lists
  (`Reachable.oinv`).
* Whatever the interleaving, `HandleQuery` answers with rows only when no shard's stream ended
  in an error and, without groupings, every shard sent exactly one row
  (`handleQuery_results_need_clean_streams`).  An error answer is a check's, a stream's, or,
  without groupings only, `io.EOF` for a shard that sent no row or the error for one that sent
  more than one; or the JSON encoder's error on a `float64` infinity or NaN, which only a sum
  over a float column leaves in rows decoded from JSON (`handleQuery_error_cause`).
-/

namespace Gumshoe

/-- `NewHTTPError`: a shard answered with a status other than 200 and the body `body`, less
one final newline.  `WriteError` answers with the shard's status, which the error carries. -/
def newHTTPError (shard : String) (statusCode : ℕ) (body : String) : ErrorResponse :=
  let msg := "non-200 response from shard " ++ shard ++ ": " ++ toString statusCode
  if body.isEmpty then ⟨statusCode, msg⟩
  else ⟨statusCode, msg ++ "\n" ++ if body.back = '\n' then body.dropRight 1 else body⟩

namespace HandleQuery

variable {n : ℕ}

/-! ## The invariant -/

/-- What a goroutine has merged, by where it is and whether the query groups: with groupings
it never runs `update` or the second `Decode`; without, it merges its shard's first row under
`mu` and then checks that the stream ends. -/
def Phase : Option (String × Bool) → Pc → ℕ → Prop
  | some _, .update .., _ | some _, .decodeEnd, _ => False
  | some _, _, _ => True
  | none, .decode, k | none, .lock .., k | none, .update .., k => k = 0
  | none, .decodeEnd, k | none, .done, k => k = 1
  | none, .failed _, _ | none, .stalled, _ => True
  | none, _, _ => False

theorem phase_failed (grouping : Option (String × Bool)) (e : ErrorResponse) (k : ℕ) :
    Phase grouping (.failed e) k := by
  cases grouping <;> trivial

theorem phase_stalled (grouping : Option (String × Bool)) (k : ℕ) : Phase grouping .stalled k := by
  cases grouping <;> trivial

/-- Why a goroutine returns the error `e`: its shard's stream ended in `e`; or, without
groupings, the shard sent no row (`io.EOF`) or more than one. -/
def Cause (grouping : Option (String × Bool)) (streams : Fin n → Stream) (e : ErrorResponse) :
    Prop :=
  (∃ i, (streams i).error = some e) ∨
    grouping = none ∧ ∃ i, e = eofError ∧ (streams i).rows = [] ∨
      e = multipleResults ∧ 1 < (streams i).rows.length

section Invariant

variable (grouping : Option (String × Bool)) (streams : Fin n → Stream)

/-- **What the goroutines' returns say about the streams.** -/
structure OInv (s : St n) : Prop where
  phase : ∀ i, Phase grouping (s.goroutines i).pc (s.goroutines i).merged.length
  /-- A goroutine returns `nil` only on a stream that did not end in an error. -/
  done_error : ∀ i, (s.goroutines i).pc = .done → (streams i).error = none
  err_cause : ∀ e, s.err = some e → Cause grouping streams e

theorem init_oinv : OInv grouping streams (init streams) where
  phase _ := by cases grouping <;> trivial
  done_error _ h := Pc.noConfusion h
  err_cause _ h := Option.noConfusion h

variable {grouping streams} {s : St n} {i : Fin n}

theorem OInv.move (h : OInv grouping streams s) {g : Goroutine}
    {entries : List (GroupKey × Entry n)} {mu : Option (Fin n)}
    (hp : Phase grouping g.pc g.merged.length) (hd : g.pc = .done → (streams i).error = none) :
    OInv grouping streams (s.move i g entries mu) where
  phase := @forall_update _ _ _ _ (fun _ g => Phase grouping g.pc g.merged.length) h.phase hp
  done_error := @forall_update _ _ _ _ (fun j g => g.pc = .done → (streams j).error = none)
    h.done_error hd
  err_cause := h.err_cause

theorem OInv.fail (h : OInv grouping streams s) {e : ErrorResponse}
    (hc : Cause grouping streams e) : OInv grouping streams (s.fail i e) where
  phase := @forall_update _ _ _ _ (fun _ g => Phase grouping g.pc g.merged.length) h.phase
    (phase_failed _ _ _)
  done_error := @forall_update _ _ _ _ (fun j g => g.pc = .done → (streams j).error = none)
    h.done_error nofun
  err_cause e' he := by
    cases hs : s.err with
    | none => simp only [St.fail, hs] at he; cases he; exact hc
    | some e₀ => simp only [St.fail, hs] at he; cases he; exact h.err_cause _ hs

theorem OInv.panic (h : OInv grouping streams s) (m : String) :
    OInv grouping streams (s.panic m) :=
  ⟨h.1, h.2, h.3⟩

/-- The rows of a goroutine's stream: those it merged, the one in flight, those to come. -/
theorem GInv.length_rows {fo : FloatOps} {g : Goroutine} (hg : GInv fo grouping streams i g) :
    (streams i).rows.length = g.merged.length + g.pc.inflight.length + g.rest.length := by
  rw [hg.rows_eq, List.length_append, List.length_append]

variable {fo : FloatOps} {r : Router} {q : Query}

/-- **Every step keeps the invariant.** -/
theorem OInv.step (hinv : Inv fo r q grouping streams s) (h : OInv grouping streams s)
    {s' : St n} (hstep : step fo r q grouping streams s i = some s') :
    OInv grouping streams s' := by
  have hph := h.phase i
  have hlen := (hinv.goroutine i).length_rows
  unfold HandleQuery.step at hstep
  split_ifs at hstep
  split at hstep
  next hpc =>
    cases hstep
    rw [hpc] at hph hlen
    rcases hrest : (s.goroutines i).rest with _ | ⟨row, rest⟩
    · simp only [stepDecode, hrest]
      split
      next => exact h.move (phase_stalled _ _) nofun
      next => exact h.fail (.inl ⟨i, by assumption⟩)
      next => exact h.move trivial fun _ => by assumption
      next =>
        -- without groupings a stream with no row at all: `io.EOF`
        refine h.fail (.inr ⟨rfl, i, .inl ⟨rfl, List.length_eq_zero.mp ?_⟩⟩)
        rw [hlen, hrest, (hph : (s.goroutines i).merged.length = 0)]
        rfl
    · simp only [stepDecode, hrest]
      split
      next => exact h.move (by cases grouping <;> exact hph) nofun
      next m _ => exact h.panic m
  next row key hpc =>
    unfold stepLock at hstep
    split at hstep
    · cases hstep
      rw [hpc] at hph
      exact h.move (by cases grouping <;> exact hph) (by cases grouping <;> exact nofun)
    · cases hstep
  next row key hpc =>
    cases hstep
    rw [hpc] at hph
    cases grouping
    · exact hph.elim
    · unfold stepLookup; split <;> exact h.move trivial nofun
  next row key hpc =>
    rw [hpc] at hph
    cases grouping
    · exact hph.elim
    · unfold stepLockCur at hstep
      split at hstep
      · split_ifs at hstep
        cases hstep
        exact h.move trivial nofun
      · cases hstep
  next row key hpc =>
    cases hstep
    rw [hpc] at hph
    cases grouping
    · exact hph.elim
    · exact h.move trivial nofun
  next row key hpc =>
    rw [hpc] at hph
    cases grouping
    · exact hph.elim
    · unfold stepMerge at hstep
      split at hstep
      · split at hstep <;> cases hstep
        · exact h.move trivial nofun
        · exact h.panic _
      · cases hstep
  next key hpc =>
    rw [hpc] at hph
    cases grouping
    · exact hph.elim
    · unfold stepUnlockCur at hstep
      split at hstep <;> cases hstep
      exact h.move trivial nofun
  next row key hpc =>
    cases hstep
    rw [hpc] at hph
    cases grouping
    · -- the shard's first row is merged: one row
      have hcommit : ∀ {entries : List (GroupKey × Entry n)} {mu : Option (Fin n)},
          OInv none streams (s.move i ((s.goroutines i).commit .decodeEnd row) entries mu) :=
        h.move (by
          show ((s.goroutines i).merged ++ [row]).length = 1
          rw [List.length_append, (hph : (s.goroutines i).merged.length = 0)]
          rfl) nofun
      unfold stepUpdate
      split
      · exact hcommit
      · split
        · exact hcommit
        · exact h.panic _
    · exact hph.elim
  next hpc =>
    cases hstep
    rw [hpc] at hph hlen
    cases grouping
    · rcases hrest : (s.goroutines i).rest with _ | ⟨row, rest⟩
      · cases hst : (streams i).stalls
        · rcases he : (streams i).error with _ | e
          · simp only [stepDecodeEnd, hrest, hst, he]
            exact h.move (by rwa [Goroutine.goto_pc, Goroutine.goto_merged]) fun _ => he
          · simp only [stepDecodeEnd, hrest, hst, he]
            exact h.fail (.inl ⟨i, he⟩)
        · simp only [stepDecodeEnd, hrest, hst]
          exact h.move (phase_stalled _ _) nofun
      · -- a second row: `got multiple results for a non-group-by query`
        simp only [stepDecodeEnd, hrest]
        refine h.fail (.inr ⟨rfl, i, .inr ⟨rfl, ?_⟩⟩)
        rw [hlen, hrest, (hph : (s.goroutines i).merged.length = 1), List.length_cons]
        omega
    · exact hph.elim
  next => cases hstep
  next => cases hstep
  next => cases hstep

theorem Run.oinv {s' : St n} {sched : List (Fin n)}
    (hrun : Run fo r q grouping streams s sched s') (hinv : Inv fo r q grouping streams s)
    (h : OInv grouping streams s) : OInv grouping streams s' := by
  induction hrun with
  | nil => exact h
  | cons hstep _ ih => exact ih (hinv.step hstep) (h.step hinv hstep)

/-- **The invariant holds in every state some interleaving reaches.** -/
theorem Reachable.oinv (hs : Reachable fo r q grouping streams s) : OInv grouping streams s :=
  let ⟨_, hrun⟩ := hs
  hrun.oinv (init_inv fo r q grouping streams) (init_oinv grouping streams)

end Invariant

/-! ## `HandleQuery` -/

section Responds

variable {fo : FloatOps} {r : Router} {format : String} {q : Query}
  {streams : Fin r.shards.length → Stream} {grouping : Option (String × Bool)}

/-- The goroutines run the path without groupings exactly for a query without groupings. -/
theorem groupings_eq_nil_iff (hprep : r.prepareQuery format q = .ok (.ok grouping)) :
    q.groupings = [] ↔ grouping = none := by
  simp only [Router.prepareQuery] at hprep
  split at hprep
  · cases hprep
  · simp only [Router.groupingSetup] at hprep
    split at hprep
    next hg => cases hprep; exact ⟨fun _ => rfl, fun _ => hg⟩
    next g gs hg =>
      cases hc : r.convertColumnToIntegral g.column <;> rw [hc] at hprep <;> cases hprep
      simp [hg]

/-- **`HandleQuery` answers with rows only on clean streams.**  Whatever the interleaving, no
shard's stream ended in an error, and without groupings every shard sent exactly one row. -/
theorem handleQuery_results_need_clean_streams {rows : List RowMap}
    (h : Responds fo r format q streams (.results rows)) (i : Fin r.shards.length) :
    (streams i).error = none ∧ (q.groupings = [] → (streams i).rows.length = 1) := by
  cases h with
  | answered hprep hs hans =>
    cases hans with
    | merged _ hdone _ _ =>
      refine ⟨hs.oinv.done_error i (hdone i), fun hq => ?_⟩
      have hph := hs.oinv.phase i
      rw [(groupings_eq_nil_iff hprep).mp hq, hdone i] at hph
      rw [(hs.inv.goroutine i).length_rows, (hs.inv.goroutine i).done_rest (hdone i), hdone i]
      exact hph

theorem handleQuery_results_need_clean_streams_sumClicks :
    ∃ rows, Responds default twoShards "" sumClicks oneClickEach (.results rows) ∧
      (oneClickEach 0).error = none ∧
      (sumClicks.groupings = [] → (oneClickEach 0).rows.length = 1) := by
  have h : Responds default twoShards "" sumClicks oneClickEach (.results _) :=
    Responds.of_runSchedule ([0, 0, 0, 0, 1, 1, 1, 1] : List (Fin 2)) rfl rfl rfl
      (Fin.forall_fin_two.mpr ⟨rfl, rfl⟩) (sumsIntegers_sumClicks _) allRows_oneClickEach_encodable
  exact ⟨_, h, handleQuery_results_need_clean_streams h (0 : Fin 2)⟩

/-- **Where an error answer comes from.**  A check made before the shards are contacted, the
error a shard's stream ended in, for a query without groupings only `io.EOF` for a shard that
sent no row or the error for one that sent more than one, or the JSON encoder's refusal of a
`float64` infinity or NaN, which only a sum over a float column or a shard row holding one
leaves in the merged rows. -/
theorem handleQuery_error_cause {e : ErrorResponse}
    (h : Responds fo r format q streams (.error e)) :
    r.prepareQuery format q = .ok (.error e) ∨ (∃ i, (streams i).error = some e) ∨
      (q.groupings = [] ∧ ∃ i, e = eofError ∧ (streams i).rows = [] ∨
        e = multipleResults ∧ 1 < (streams i).rows.length) ∨
      ∃ x, e = unsupportedValue x ∧
        (¬ r.SumsIntegers q ∨ ∃ row ∈ allRows streams, ¬ row.Encodable) := by
  cases h with
  | rejected hprep => exact .inl hprep
  | answered hprep hs hans =>
    cases hans with
    | failed _ _ herr =>
      rcases hs.oinv.err_cause e herr with hc | ⟨hg, hc⟩
      · exact .inr (.inl hc)
      · exact .inr (.inr (.inl ⟨(groupings_eq_nil_iff hprep).mpr hg, hc⟩))
    | unencodable _ _ hx =>
      obtain ⟨p, hp, k, hk⟩ := hx
      refine .inr (.inr (.inr ⟨_, rfl, ?_⟩))
      by_contra hcon
      push_neg at hcon
      exact hs.inv.row_encodable hcon.1 hcon.2 hp k _ hk

/-- `shard1`'s answer: 503, with an empty body. -/
def unavailable : ErrorResponse := newHTTPError "shard1" 503 ""

/-- `shard0` streams back one click; `shard1` answers 503. -/
def shardOneUnavailable : Fin 2 → Stream := fun i =>
  if i = 0 then ⟨[oneClick], none, false⟩ else ⟨[], some unavailable, false⟩

theorem handleQuery_error_cause_shardOneUnavailable :
    Responds default twoShards "" sumClicks shardOneUnavailable (.error unavailable) ∧
      (twoShards.prepareQuery "" sumClicks = .ok (.error unavailable) ∨
        (∃ i, (shardOneUnavailable i).error = some unavailable) ∨
        (sumClicks.groupings = [] ∧ ∃ i,
          unavailable = eofError ∧ (shardOneUnavailable i).rows = [] ∨
          unavailable = multipleResults ∧ 1 < (shardOneUnavailable i).rows.length) ∨
        ∃ x, unavailable = unsupportedValue x ∧ (¬ twoShards.SumsIntegers sumClicks ∨
          ∃ row ∈ allRows shardOneUnavailable, ¬ row.Encodable)) := by
  have h : Responds default twoShards "" sumClicks shardOneUnavailable (.error unavailable) :=
    .answered rfl ⟨([0, 0, 0, 0, 1] : List (Fin 2)), run_of_runSchedule _ _ _ _ _ rfl⟩
      (.failed rfl (by decide) rfl)
  exact ⟨h, handleQuery_error_cause h⟩

end Responds

end HandleQuery

end Gumshoe
