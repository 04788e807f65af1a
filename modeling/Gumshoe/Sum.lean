import Gumshoe.Gen
import Mathlib.Algebra.BigOperators.Group.List

/-!
# Collapsing rows and summing a metric

Rows with equal timestamp and dimensions are collapsed into one, at insertion and again at
flush, by `MetricBytes.add`; a sum query then folds the `sumFunc` of `makeSumFuncGen` over the
stored rows.  Both add in the column's own type, so both compute modulo `256 ^ width`.

* `addColumns_spec`, `MetricBytes.add_cells`: on a layout whose metric cells lie inside the
  row and do not overlap, `MetricBytes.add` sums every metric cell and touches nothing else.
* `Collapses`: every way of collapsing a group of rows by repeated `MetricBytes.add`, in any
  order and grouping; `Collapses.cells` computes each metric cell of the result.
* `foldlM_addInto`: a sum over rows leaves `(acc + Σ x) % 256 ^ width` in the accumulator.
* `collapsing_preserves_metric_sums`: a sum over collapsed rows equals the sum over the rows
  they came from, in any order.
* `sum_of_256_ones_wraps_to_zero`: the accumulator wraps, so a sum over many rows is
  reported modulo `256 ^ width`.
-/

namespace Gumshoe

variable (fo : FloatOps)

/-! ## One cell -/

/-- `*dst += *src` on an integer cell inside both buffers. -/
theorem addInto_of_ne {t : Typ} (ht : t ≠ .float32) {dst src : List UInt8} {dOff sOff : ℕ}
    (hd : dOff + t.width ≤ dst.length) (hs : sOff + t.width ≤ src.length) :
    addInto fo t dst dOff src sOff =
      .ok (setCell dst dOff t.width
        ((getCell dst dOff t.width + getCell src sOff t.width) % t.modulus)) := by
  simp only [addInto, readCell_of_le hd, readCell_of_le hs, ok_bind, Typ.add_of_ne ht,
    writeCell_of_le _ hd]

theorem getCell_setCell_mod {t : Typ} {b : List UInt8} {off : ℕ} (n : ℕ)
    (h : off + t.width ≤ b.length) :
    getCell (setCell b off t.width (n % t.modulus)) off t.width = n % t.modulus := by
  rw [getCell_setCell_self _ h, Typ.modulus, Nat.mod_mod]

theorem getCell_mod (t : Typ) (b : List UInt8) (off : ℕ) :
    getCell b off t.width % t.modulus = getCell b off t.width :=
  Nat.mod_eq_of_lt (getCell_lt b off t.width)

/-! ## Summing a column -/

/-- Folding `sumFunc` over rows adds all their cells into the accumulator's, modulo
`256 ^ width`. -/
theorem foldlM_addInto {t : Typ} (ht : t ≠ .float32) {off : ℕ} (rows : List (List UInt8))
    (hrows : ∀ x ∈ rows, off + t.width ≤ x.length) {acc : List UInt8}
    (hacc : t.width ≤ acc.length) :
    rows.foldlM (fun a x => addInto fo t a 0 x off) acc =
      .ok (setCell acc 0 t.width
        ((getCell acc 0 t.width + (rows.map (getCell · off t.width)).sum) % t.modulus)) := by
  have hacc' : 0 + t.width ≤ acc.length := by omega
  induction rows generalizing acc with
  | nil =>
    rw [List.map_nil, List.sum_nil, Nat.add_zero, getCell_mod, setCell_getCell hacc']
    rfl
  | cons r rs ih =>
    have hr := hrows r (List.mem_cons_self _ _)
    have hlen : t.width ≤ (setCell acc 0 t.width
        ((getCell acc 0 t.width + getCell r off t.width) % t.modulus)).length := by
      rw [length_setCell _ hacc']; exact hacc
    rw [List.foldlM_cons, addInto_of_ne fo ht hacc' hr, ok_bind,
      ih (fun x hx => hrows x (List.mem_cons_of_mem _ hx)) hlen (by omega),
      getCell_setCell_mod _ hacc', setCell_setCell_self _ _ hacc', Nat.mod_add_mod,
      List.map_cons, List.sum_cons, Nat.add_assoc]

/-! ## Metric layouts -/

/-- The cells `(offset, type)` the loop of `MetricBytes.add` visits. -/
def cellsOf (cs : List MetricColumn) (offs : List ℕ) : List (ℕ × Typ) :=
  (cs.zip offs).map fun p => (p.2, p.1.type)

/-- The cells of a schema's metric columns. -/
def Schema.metricSlots (s : Schema) : List (ℕ × Typ) := cellsOf s.metricColumns s.metricOffsets

/-- Two cells that share no byte. -/
def Apart (p q : ℕ × Typ) : Prop := p.1 + p.2.width ≤ q.1 ∨ q.1 + q.2.width ≤ p.1

/-- A metric layout for rows of `len` bytes, all of whose columns have integer types: every
column has an offset, every cell lies inside the row, and no two cells overlap. -/
structure IntMetricLayout (s : Schema) (len : ℕ) : Prop where
  offsets_length : s.metricColumns.length ≤ s.metricOffsets.length
  int_types : ∀ c ∈ s.metricColumns, c.type ∈ intTypes
  in_bounds : ∀ p ∈ s.metricSlots, p.1 + p.2.width ≤ len
  pairwise_apart : s.metricSlots.Pairwise Apart

theorem type_mem_intTypes_of_mem_cellsOf {cs : List MetricColumn} {offs : List ℕ}
    (hint : ∀ c ∈ cs, c.type ∈ intTypes) {p : ℕ × Typ} (hp : p ∈ cellsOf cs offs) :
    p.2 ∈ intTypes := by
  obtain ⟨⟨c, o⟩, hmem, rfl⟩ := List.mem_map.mp hp
  exact hint c (List.of_mem_zip hmem).1

/-- The loop of `MetricBytes.add` sums every visited cell and leaves every byte outside them
alone. -/
theorem addColumns_spec {len : ℕ} {cs : List MetricColumn} {offs : List ℕ}
    (hoffs : cs.length ≤ offs.length) (hint : ∀ c ∈ cs, c.type ∈ intTypes)
    (hin : ∀ p ∈ cellsOf cs offs, p.1 + p.2.width ≤ len)
    (hap : (cellsOf cs offs).Pairwise Apart) {m other : List UInt8} (hm : m.length = len)
    (ho : other.length = len) :
    ∃ m', addColumns fo cs offs m other = .ok m' ∧ m'.length = len ∧
      (∀ p ∈ cellsOf cs offs, getCell m' p.1 p.2.width =
        (getCell m p.1 p.2.width + getCell other p.1 p.2.width) % p.2.modulus) ∧
      ∀ q : ℕ × ℕ, (∀ p ∈ cellsOf cs offs, q.1 + q.2 ≤ p.1 ∨ p.1 + p.2.width ≤ q.1) →
        getCell m' q.1 q.2 = getCell m q.1 q.2 := by
  induction cs generalizing offs m with
  | nil => exact ⟨m, rfl, hm, by simp [cellsOf], fun _ _ => rfl⟩
  | cons c cs ih =>
    cases offs with
    | nil => simp at hoffs
    | cons o os =>
      have hcells : cellsOf (c :: cs) (o :: os) = (o, c.type) :: cellsOf cs os := rfl
      rw [hcells] at hin hap
      obtain ⟨hhead, hrest⟩ := List.pairwise_cons.mp hap
      have hct := hint c (List.mem_cons_self _ _)
      have hne := (mem_intTypes.mp hct).2
      have hbound : o + c.type.width ≤ m.length := hm ▸ hin _ (List.mem_cons_self _ _)
      set m₁ := setCell m o c.type.width
        ((getCell m o c.type.width + getCell other o c.type.width) % c.type.modulus)
      obtain ⟨m', hrun, hlen, hsum, hframe⟩ := ih (Nat.le_of_succ_le_succ hoffs)
        (fun c' hc' => hint c' (List.mem_cons_of_mem _ hc'))
        (fun p hp => hin p (List.mem_cons_of_mem _ hp)) hrest
        (show m₁.length = len by rw [length_setCell _ hbound, hm])
      have hstep : addColumns fo (c :: cs) (o :: os) m other = addColumns fo cs os m₁ other := by
        simp only [addColumns, if_pos (mem_types_of_mem_intTypes hct),
          addInto_of_ne fo hne hbound (ho ▸ hm ▸ hbound), ok_bind, m₁]
      refine ⟨m', hstep.trans hrun, hlen, ?_, ?_⟩
      · rw [hcells]
        rintro p (_ | ⟨_, hp⟩)
        · rw [hframe (o, c.type.width) (fun p hp => hhead p hp), getCell_setCell_mod _ hbound]
        · rw [hsum p hp, getCell_setCell_of_disjoint _ hbound (hhead p hp).symm]
      · intro q hq
        rw [hcells] at hq
        rw [hframe q (fun p hp => hq p (List.mem_cons_of_mem _ hp)),
          getCell_setCell_of_disjoint _ hbound (hq _ (List.mem_cons_self _ _))]

/-- `MetricBytes.add` of two rows of a layout sums every metric cell. -/
theorem MetricBytes.add_cells {s : Schema} {len : ℕ} (hlay : IntMetricLayout s len)
    {m other r : List UInt8} (hm : m.length = len) (ho : other.length = len)
    (h : MetricBytes.add fo s m other = .ok r) :
    r.length = len ∧ ∀ p ∈ s.metricSlots, getCell r p.1 p.2.width =
      (getCell m p.1 p.2.width + getCell other p.1 p.2.width) % p.2.modulus := by
  rcases Nat.eq_zero_or_pos len with rfl | hpos
  · rw [List.length_eq_zero.mp hm] at h
    cases h
  obtain ⟨m', hrun, hlen, hsum, -⟩ := addColumns_spec fo hlay.offsets_length hlay.int_types
    hlay.in_bounds hlay.pairwise_apart hm ho
  simp only [MetricBytes.add, byteAt_of_lt (hm ▸ hpos : 0 < m.length),
    byteAt_of_lt (ho ▸ hpos : 0 < other.length), ok_bind, hrun] at h
  cases h
  exact ⟨hlen, hsum⟩

/-! ## Collapsing -/

/-- `Collapses s g r`: collapsing the rows `g` by repeated `MetricBytes.add`, in some order
and grouping, can produce `r`. -/
inductive Collapses (s : Schema) : List (List UInt8) → List UInt8 → Prop
  | single (r : List UInt8) : Collapses s [r] r
  | add {g₁ g₂ : List (List UInt8)} {r₁ r₂ r : List UInt8} :
      Collapses s g₁ r₁ → Collapses s g₂ r₂ → MetricBytes.add fo s r₁ r₂ = .ok r →
        Collapses s (g₁ ++ g₂) r
  | perm {g g' : List (List UInt8)} {r : List UInt8} : g.Perm g' → Collapses s g r →
      Collapses s g' r

/-- Each metric cell of a collapsed row is the sum of that cell over the rows collapsed,
modulo `256 ^ width`. -/
theorem Collapses.cells {s : Schema} {len : ℕ} (hlay : IntMetricLayout s len)
    {g : List (List UInt8)} {r : List UInt8} (hc : Collapses fo s g r)
    (hg : ∀ x ∈ g, x.length = len) :
    r.length = len ∧ ∀ p ∈ s.metricSlots,
      getCell r p.1 p.2.width = (g.map (getCell · p.1 p.2.width)).sum % p.2.modulus := by
  induction hc with
  | single r =>
    refine ⟨hg r (List.mem_singleton_self r), fun p _ => ?_⟩
    rw [List.map_singleton, List.sum_singleton, getCell_mod]
  | add _ _ hadd ih₁ ih₂ =>
    obtain ⟨hl₁, hs₁⟩ := ih₁ fun x hx => hg x (List.mem_append_left _ hx)
    obtain ⟨hl₂, hs₂⟩ := ih₂ fun x hx => hg x (List.mem_append_right _ hx)
    obtain ⟨hl, hs⟩ := MetricBytes.add_cells fo hlay hl₁ hl₂ hadd
    refine ⟨hl, fun p hp => ?_⟩
    rw [hs p hp, hs₁ p hp, hs₂ p hp, List.map_append, List.sum_append, ← Nat.add_mod]
  | perm hp _ ih =>
    obtain ⟨hl, hs⟩ := ih fun x hx => hg x (hp.subset hx)
    exact ⟨hl, fun p hq => by rw [hs p hq, (hp.map _).sum_eq]⟩

/-- Over a partition into groups, adding up each group's sum taken modulo `M` is adding up
everything, modulo `M`. -/
theorem sum_map_sum_mod (f : List UInt8 → ℕ) (M : ℕ) (ls : List (List (List UInt8))) :
    (ls.map fun g => (g.map f).sum % M).sum % M = (ls.flatten.map f).sum % M := by
  induction ls with
  | nil => rfl
  | cons g ls ih =>
    rw [List.map_cons, List.sum_cons, List.flatten_cons, List.map_append, List.sum_append,
      Nat.add_mod, ih, Nat.mod_mod, ← Nat.add_mod]

/-- Collapsing every group of a partition: each collapsed row is a row of the layout, and
each metric cell of it is its group's sum. -/
theorem forall₂_collapses_cells {s : Schema} {len : ℕ} (hlay : IntMetricLayout s len)
    {groups : List (List (List UInt8))} {collapsed : List (List UInt8)}
    (hcoll : List.Forall₂ (Collapses fo s) groups collapsed)
    (hg : ∀ g ∈ groups, ∀ x ∈ g, x.length = len) {p : ℕ × Typ} (hp : p ∈ s.metricSlots) :
    (∀ r ∈ collapsed, r.length = len) ∧ collapsed.map (getCell · p.1 p.2.width) =
      groups.map fun g => (g.map (getCell · p.1 p.2.width)).sum % p.2.modulus := by
  induction hcoll with
  | nil => exact ⟨by simp, rfl⟩
  | cons hc _ ih =>
    obtain ⟨hl, hs⟩ := Collapses.cells fo hlay hc (hg _ (List.mem_cons_self _ _))
    obtain ⟨hls, hmap⟩ := ih fun g hg' => hg g (List.mem_cons_of_mem _ hg')
    refine ⟨fun r hr => ?_, by rw [List.map_cons, List.map_cons, hmap, hs p hp]⟩
    rcases List.mem_cons.mp hr with rfl | hr
    · exact hl
    · exact hls r hr

/-- The sum of a metric column does not depend on how the rows were collapsed, nor on the
order in which either set of rows is summed. -/
theorem collapsing_preserves_metric_sums {s : Schema} {len : ℕ} (hlay : IntMetricLayout s len)
    {rows : List (List UInt8)} (hrows : ∀ r ∈ rows, r.length = len)
    {groups : List (List (List UInt8))} {collapsed : List (List UInt8)}
    (hpart : groups.flatten.Perm rows) (hcoll : List.Forall₂ (Collapses fo s) groups collapsed)
    {off : ℕ} {t : Typ} (hslot : (off, t) ∈ s.metricSlots) {mk : ℕ → SumFunc}
    (hmk : makeSumFuncGen fo t = .ok mk) {order₁ order₂ : List (List UInt8)}
    (h₁ : order₁.Perm collapsed) (h₂ : order₂.Perm rows) {acc : List UInt8}
    (hacc : t.width ≤ acc.length) :
    ∃ acc', order₁.foldlM (mk off) acc = .ok acc' ∧ order₂.foldlM (mk off) acc = .ok acc' := by
  have ht := type_mem_intTypes_of_mem_cellsOf hlay.int_types hslot
  have hne := (mem_intTypes.mp ht).2
  simp only [makeSumFuncGen, if_pos (mem_types_of_mem_intTypes ht)] at hmk
  cases hmk
  have hbound := hlay.in_bounds _ hslot
  have hg : ∀ g ∈ groups, ∀ x ∈ g, x.length = len := fun g hg x hx =>
    hrows x (hpart.subset (List.mem_flatten.mpr ⟨g, hg, hx⟩))
  obtain ⟨hcl, hmap⟩ := forall₂_collapses_cells fo hlay hcoll hg hslot
  have hsum : (order₁.map (getCell · off t.width)).sum % t.modulus =
      (order₂.map (getCell · off t.width)).sum % t.modulus := by
    rw [(h₁.map _).sum_eq, hmap, sum_map_sum_mod, (hpart.map _).sum_eq, (h₂.map _).sum_eq]
  refine ⟨_, foldlM_addInto fo hne order₁ (fun x hx => ?_) hacc, ?_⟩
  · rw [hcl x (h₁.subset hx)]; exact hbound
  · rw [foldlM_addInto fo hne order₂ (fun x hx => by rw [hrows x (h₂.subset hx)]; exact hbound)
      hacc, Nat.add_mod, ← hsum, ← Nat.add_mod]

/-- The rows `[1]` and `[2]` of a one-column `uint8` layout, collapsed into `[3]` and summed in
both orders. -/
theorem collapsing_preserves_metric_sums_uint8 :
    let s : Schema :=
      { timestampColumn := ⟨"at", .uint32⟩, dimensionColumns := [],
        metricColumns := [{ name := "metric1", type := .uint8 }], metricOffsets := [0],
        segmentSize := 1000000, intervalDuration := 3600000000000, diskBacked := false,
        dir := "", runConfig := ⟨false, 0⟩ }
    IntMetricLayout s 1 ∧ (∀ r ∈ [[1], [2]], List.length (α := UInt8) r = 1) ∧
      ([[[1], [2]]] : List (List (List UInt8))).flatten.Perm [[1], [2]] ∧
      List.Forall₂ (Collapses default s) [[[1], [2]]] [[3]] ∧ (0, Typ.uint8) ∈ s.metricSlots ∧
      makeSumFuncGen default .uint8 =
        .ok (fun offset sum metrics => addInto default .uint8 sum 0 metrics offset) ∧
      ([[3]] : List (List UInt8)).Perm [[3]] ∧ ([[2], [1]] : List (List UInt8)).Perm [[1], [2]] ∧
      Typ.uint8.width ≤ [0].length ∧
      ∃ acc', ([[3]] : List (List UInt8)).foldlM (addInto default .uint8 · 0 · 0) [0] = .ok acc' ∧
        ([[2], [1]] : List (List UInt8)).foldlM (addInto default .uint8 · 0 · 0) [0] = .ok acc' := by
  intro s
  have hlay : IntMetricLayout s 1 :=
    ⟨by decide, by simp [s, intTypes, types, Typ.isInt], by simp [s, Schema.metricSlots, cellsOf,
      Typ.width], by simp [s, Schema.metricSlots, cellsOf]⟩
  have hcoll : List.Forall₂ (Collapses default s) [[[1], [2]]] [[3]] :=
    .cons (.add (.single [1]) (.single [2]) rfl) .nil
  have hrows : ∀ r ∈ [[1], [2]], List.length (α := UInt8) r = 1 := by decide
  have hslot : (0, Typ.uint8) ∈ s.metricSlots := by simp [s, Schema.metricSlots, cellsOf]
  have hpart : ([[[1], [2]]] : List (List (List UInt8))).flatten.Perm [[1], [2]] := .refl _
  exact ⟨hlay, hrows, hpart, hcoll, hslot, rfl, .refl _, .swap _ _ _, by decide,
    collapsing_preserves_metric_sums default hlay hrows hpart hcoll hslot rfl (.refl _)
      (.swap _ _ _) (by decide)⟩

/-- The accumulator of a sum has the column's own type: 256 rows holding `1` in a `uint8`
metric sum to `0`. -/
theorem sum_of_256_ones_wraps_to_zero :
    (do let mk ← makeSumFuncGen default .uint8
        (List.replicate 256 [1]).foldlM (mk 0) [0]) = .ok [0] := by
  have hmk : makeSumFuncGen default .uint8 =
      .ok fun offset sum metrics => addInto default .uint8 sum 0 metrics offset := rfl
  rw [hmk, ok_bind, foldlM_addInto default (by decide) _
    (fun x hx => by rw [List.eq_of_mem_replicate hx]; decide) (by decide),
    List.map_replicate, List.sum_replicate]
  rfl

end Gumshoe
