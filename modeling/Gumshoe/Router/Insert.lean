import Gumshoe.Router.Merge

/-!
# The router: inserting rows

`HandleInsert` checks the names of every row of a request against the schema, picks each row's
shard with `Hash`, and then sends every shard its rows, one goroutine per shard.  The router's
`main` refuses to start without a shard.

## What is proved

* A request one of whose rows names a column outside the schema is answered `400`, naming such
  a column of the first such row, whatever the shards would answer: no shard is sent anything
  (`handleInsert_rejects_invalid_row`).
* Otherwise shard `i` is sent exactly the rows `Hash` assigns to it, in request order, and the
  batches together are the request's rows, each once (`prepareInsert_partitions`).
* `%` by `len(r.Shards)` panics on a router without shards; `main` never starts one, so no
  insert into the router `main` starts panics while its shard addresses make URLs
  (`handleInsert_never_panics`).

## Honest boundary

* The request body is given decoded; a body that does not decode is given as the decoder's
  error text.
* `Hash` writes the `json.Encoder` encoding of each value into `crc32.NewIEEE`: the checksum of
  those encodings is the parameter `crc`.  Encoding a decoded JSON value cannot fail, so the
  `panic(err)` branches of `Hash` are left out.
* `int` is 64 bits wide, so `int(crc.Sum32())` is the checksum itself.
* `http.NewRequest` parses `"http://" + shard + "/insert"` with `url.Parse`, which is not among
  the sources: whether it accepts a shard's URL is the parameter `urlOk`.  Marshalling decoded
  rows cannot fail, so the `"unexpected marshal error"` panic is left out.
* A goroutine reads only `shardedRows[i]` and sends it, so the goroutines share nothing: the
  model gives each shard's answer to its batch.  `wait.Group` is not among the sources: `Wait`
  is read as returning the error of one of the goroutines that failed.
-/

namespace Gumshoe

/-- The panic of `%` by zero. -/
def integerDivideByZero : String := "runtime error: integer divide by zero"

/-- A row of an insert request, a decoded JSON object: its names, each once, with their values,
in the order a `range` over the map visits them (an order Go leaves unspecified). -/
structure InsertRow where
  fields : List (String × Untyped)
  nodup : (fields.map Prod.fst).Nodup

/-- `row[name]`: `nil` for a name the row lacks. -/
def InsertRow.get (row : InsertRow) (name : String) : Untyped :=
  (row.fields.lookup name).getD .nil

/-! ## The shards `main` starts with -/

/-- The shards of the `-shards` flag, `strings.Split(*shardsFlag, ",")`: `main` stops
(`Log.Fatal`) on an empty flag or an empty list. -/
def parseShards (shardsFlag : String) : Except String (List String) :=
  let shardAddrs := (shardsFlag.toList.splitOn ',').map String.mk
  if shardsFlag = "" ∨ shardAddrs.length = 0 then .error "At least one shard required"
  else .ok shardAddrs

theorem parseShards_ne_nil {shardsFlag : String} {shards : List String}
    (h : parseShards shardsFlag = .ok shards) : shards ≠ [] := by
  dsimp only [parseShards] at h
  split_ifs at h with hs
  cases h
  exact List.ne_nil_of_length_pos (Nat.pos_of_ne_zero fun h0 => hs (.inr h0))

/-- A router `main` starts has a shard. -/
theorem newRouter_shards_ne_nil {shardsFlag : String} {shards : List String} {c : Config}
    {r : Router} (hp : parseShards shardsFlag = .ok shards) (hr : newRouter c shards = .ok r) :
    r.shards ≠ [] := by
  unfold newRouter at hr
  cases hs : c.makeSchema with
  | error e => rw [hs] at hr; cases hr
  | ok schema =>
    rw [hs] at hr
    cases hr
    exact parseShards_ne_nil hp

/-! ## The loop over the rows -/

namespace Router

variable (r : Router) (crc : List Untyped → UInt32)

/-- The check `HandleInsert` makes of a row: `writeInvalidColumnError` for the first of its
names that `validColumnName` refuses. -/
def checkRow (row : InsertRow) : Option ErrorResponse :=
  row.fields.findSome? fun field => r.checkColumn field.1

/-- What `Hash` encodes: the row's timestamp, then its dimensions in schema order. -/
def hashedValues (row : InsertRow) : List Untyped :=
  row.get r.schema.timestampColumn.name :: r.schema.dimensionColumns.map fun col => row.get col.name

/-- `int(crc.Sum32()) % len(r.Shards)`, on a router with shards. -/
def shardOf (row : InsertRow) : ℕ := (crc (r.hashedValues row)).toNat % r.shards.length

/-- `Hash`: `%` panics on a router without shards. -/
def hash (row : InsertRow) : Except String ℕ :=
  if r.shards.length = 0 then .error integerDivideByZero else .ok (r.shardOf crc row)

/-- The loop of `HandleInsert` over the request's rows, with `shardedRows` so far: the response
to the first row with an invalid name, a panic, or the rows of each shard.  The index
`shardIdx` is in range, `Hash` being below `len(r.Shards)`. -/
def shardRows : List (List InsertRow) → List InsertRow →
    Except String (Except ErrorResponse (List (List InsertRow)))
  | shardedRows, [] => .ok (.ok shardedRows)
  | shardedRows, row :: rows =>
    match r.checkRow row with
    | some e => .ok (.error e)
    | none => r.hash crc row >>= fun shardIdx =>
      shardRows (shardedRows.modify (· ++ [row]) shardIdx) rows

/-- What `HandleInsert` does before it starts the goroutines: the response to a body that does
not decode (`WriteError(w, err, http.StatusBadRequest)`) or to a row with an invalid name, a
panic, or the rows of each shard. -/
def prepareInsert (body : Except String (List InsertRow)) :
    Except String (Except ErrorResponse (List (List InsertRow))) :=
  match body with
  | .error m => .ok (.error ⟨400, m⟩)
  | .ok rows => r.shardRows crc (List.replicate r.shards.length []) rows

/-- The rows of `rows` that `Hash` assigns to shard `i`, in order. -/
def batch (rows : List InsertRow) (i : ℕ) : List InsertRow :=
  rows.filter fun row => r.shardOf crc row = i

end Router

namespace HandleInsert

/-- How `HandleInsert` ends. -/
inductive Outcome where
  /-- Every shard accepted its rows: status 200 and no body. -/
  | inserted
  | error (e : ErrorResponse)
  | panic (msg : String)

/-- The panic of a goroutine whose request `http.NewRequest` refuses. -/
def couldNotMakeRequest : String := "could not make http request"

/-- The ways `HandleInsert` can answer, given whether `http.NewRequest` accepts the URL of a
shard (`urlOk`) and what shard `i` answers the rows it is sent (`none` for status 200).  A
goroutine that cannot make its request panics, and the panic ends the process whatever the
others do.  Otherwise every goroutine sends its batch whatever the others answer, and `Wait`
returns the error of a goroutine that failed. -/
inductive Responds (r : Router) (crc : List Untyped → UInt32) (urlOk : String → Bool)
    (body : Except String (List InsertRow)) (reply : ℕ → List InsertRow → Option ErrorResponse) :
    Outcome → Prop
  | rejected {e : ErrorResponse} (h : r.prepareInsert crc body = .ok (.error e)) :
      Responds r crc urlOk body reply (.error e)
  | panicked {m : String} (h : r.prepareInsert crc body = .error m) :
      Responds r crc urlOk body reply (.panic m)
  | requestPanic {batches : List (List InsertRow)} (h : r.prepareInsert crc body = .ok (.ok batches))
      (hu : ∃ shard ∈ r.shards, urlOk shard = false) :
      Responds r crc urlOk body reply (.panic couldNotMakeRequest)
  | failed {batches : List (List InsertRow)} {i : ℕ} {e : ErrorResponse}
      (h : r.prepareInsert crc body = .ok (.ok batches)) (hu : ∀ shard ∈ r.shards, urlOk shard = true)
      (hi : i < batches.length) (he : reply i batches[i] = some e) :
      Responds r crc urlOk body reply (.error e)
  | inserted {batches : List (List InsertRow)} (h : r.prepareInsert crc body = .ok (.ok batches))
      (hu : ∀ shard ∈ r.shards, urlOk shard = true)
      (hall : ∀ i (hi : i < batches.length), reply i batches[i] = none) :
      Responds r crc urlOk body reply .inserted

end HandleInsert

/-! ### Requests on `config.toml`'s schema -/

/-- A stand-in for `Hash`'s checksum in the examples: the length of the first dimension's
string. -/
def crcOfName : List Untyped → UInt32
  | _ :: .string name :: _ => name.length.toUInt32
  | _ => 0

/-- A row with one click by `name`, at time 0. -/
def clickBy (name : String) : InsertRow :=
  ⟨[("at", .float64 0), ("name", .string name), ("clicks", .float64 1)],
    (by decide : (["at", "name", "clicks"] : List String).Nodup)⟩

/-- A stand-in for `url.Parse` in the examples: a host, then optionally `:` and a port of
digits. -/
def hostPortOk (shard : String) : Bool :=
  match shard.toList.splitOn ':' with
  | [_] => true
  | [_, port] => !port.isEmpty && port.all Char.isDigit
  | _ => false

/-- A row naming `color`, which `config.toml` does not declare. -/
def colorRow : InsertRow := ⟨[("at", .float64 0), ("color", .string "red")], by decide⟩

/-! ## What the loop does -/

namespace Router

variable {r : Router} {crc : List Untyped → UInt32}

/-- A refused row is answered with an invalid name of its own. -/
theorem checkRow_eq_some {row : InsertRow} {e : ErrorResponse} (h : r.checkRow row = some e) :
    ∃ field ∈ row.fields, r.validColumnName field.1 = false ∧ e = invalidColumnError field.1 := by
  obtain ⟨field, hf, he⟩ := List.exists_of_findSome?_eq_some h
  by_cases hv : r.validColumnName field.1 <;> simp only [checkColumn, hv] at he
  · cases he
  · exact ⟨field, hf, by simpa using hv, (Option.some.inj he).symm⟩

theorem hash_of_ne_nil (hs : r.shards ≠ []) (row : InsertRow) :
    r.hash crc row = .ok (r.shardOf crc row) :=
  if_neg (mt List.length_eq_zero.mp hs)

theorem shardOf_lt (hs : r.shards ≠ []) (row : InsertRow) : r.shardOf crc row < r.shards.length :=
  Nat.mod_lt _ (List.length_pos.mpr hs)

/-- One row of the loop: it joins the batch of its shard. -/
theorem shardRows_cons_of_valid (hs : r.shards ≠ []) {row : InsertRow} (hv : r.checkRow row = none)
    (acc : List (List InsertRow)) (rows : List InsertRow) :
    r.shardRows crc acc (row :: rows) =
      r.shardRows crc (acc.modify (· ++ [row]) (r.shardOf crc row)) rows := by
  simp only [shardRows, hv, hash_of_ne_nil hs, ok_bind]

/-- **The loop's closed form.**  On valid rows, each shard's batch grows by the rows `Hash`
assigns to it. -/
theorem shardRows_of_valid (hs : r.shards ≠ []) (acc : List (List InsertRow))
    {rows : List InsertRow} (hv : ∀ row ∈ rows, r.checkRow row = none) :
    r.shardRows crc acc rows = .ok (.ok (acc.mapIdx fun i b => b ++ r.batch crc rows i)) := by
  induction rows generalizing acc with
  | nil => exact congrArg _ (congrArg _ (List.ext_getElem (by simp) fun _ _ _ => by simp [batch]))
  | cons row rows ih =>
    obtain ⟨hrow, hrows⟩ := List.forall_mem_cons.mp hv
    rw [shardRows_cons_of_valid hs hrow, ih _ hrows]
    refine congrArg _ (congrArg _ (List.ext_getElem (by simp) fun i _ _ => ?_))
    simp only [List.getElem_mapIdx, List.getElem_modify, batch, List.filter_cons]
    by_cases hi : r.shardOf crc row = i <;> simp [hi]

/-- **The loop stops at the first row with an invalid name.** -/
theorem shardRows_of_invalid (hs : r.shards ≠ []) {pre post : List InsertRow} {row : InsertRow}
    {e : ErrorResponse} (hpre : ∀ row ∈ pre, r.checkRow row = none) (he : r.checkRow row = some e)
    (acc : List (List InsertRow)) : r.shardRows crc acc (pre ++ row :: post) = .ok (.error e) := by
  induction pre generalizing acc with
  | nil => simp only [List.nil_append, shardRows, he]
  | cons row' pre ih =>
    obtain ⟨hrow, hpre⟩ := List.forall_mem_cons.mp hpre
    rw [List.cons_append, shardRows_cons_of_valid hs hrow]
    exact ih hpre _

/-- Appending a row to one batch adds it once to the rows of all batches. -/
theorem flatten_modify_append_perm (row : InsertRow) :
    ∀ (acc : List (List InsertRow)) (k : ℕ), k < acc.length →
      (acc.modify (· ++ [row]) k).flatten.Perm (acc.flatten ++ [row])
  | [], _, hk => absurd hk (Nat.not_lt_zero _)
  | b :: bs, 0, _ => by
    simp only [List.modify_zero_cons, List.flatten_cons, List.append_assoc]
    exact List.perm_append_comm.append_left b
  | b :: bs, k + 1, hk => by
    simp only [List.modify_succ_cons, List.flatten_cons, List.append_assoc]
    exact (flatten_modify_append_perm row bs k (Nat.lt_of_succ_lt_succ hk)).append_left b

/-- **No row is lost or sent twice.**  Over a whole run of the loop, the batches hold the rows
they started with and the request's rows. -/
theorem shardRows_perm (hs : r.shards ≠ []) {acc batches : List (List InsertRow)}
    {rows : List InsertRow} (hacc : acc.length = r.shards.length)
    (h : r.shardRows crc acc rows = .ok (.ok batches)) : batches.flatten.Perm (acc.flatten ++ rows) := by
  induction rows generalizing acc with
  | nil =>
    cases h
    rw [List.append_nil]
  | cons row rows ih =>
    cases hrow : r.checkRow row with
    | some e => simp only [shardRows, hrow] at h; cases h
    | none =>
      rw [shardRows_cons_of_valid hs hrow] at h
      have hk : r.shardOf crc row < acc.length := hacc ▸ shardOf_lt hs row
      refine (ih (by rw [List.length_modify, hacc]) h).trans ?_
      rw [show acc.flatten ++ row :: rows = acc.flatten ++ [row] ++ rows by simp]
      exact (flatten_modify_append_perm row acc _ hk).append_right rows

/-- With a shard, the loop never panics. -/
theorem shardRows_ne_error (hs : r.shards ≠ []) (m : String) :
    ∀ (acc : List (List InsertRow)) (rows : List InsertRow), r.shardRows crc acc rows ≠ .error m
  | _, [] => nofun
  | acc, row :: rows => by
    cases hrow : r.checkRow row with
    | some e => simp only [shardRows, hrow]; exact nofun
    | none =>
      rw [shardRows_cons_of_valid hs hrow]
      exact shardRows_ne_error hs m _ rows

theorem prepareInsert_of_valid (hs : r.shards ≠ []) {rows : List InsertRow}
    (hv : ∀ row ∈ rows, r.checkRow row = none) :
    r.prepareInsert crc (.ok rows) = .ok (.ok ((List.range r.shards.length).map (r.batch crc rows))) := by
  rw [prepareInsert, shardRows_of_valid hs _ hv]
  exact congrArg _ (congrArg _ (List.ext_getElem (by simp) fun _ _ _ => by simp))

/-- **The batches of a valid request.**  Shard `i` is sent the rows `Hash` assigns to it, in
request order, and together the batches are the request's rows, each once. -/
theorem prepareInsert_partitions (hs : r.shards ≠ []) {rows : List InsertRow}
    (hv : ∀ row ∈ rows, r.checkRow row = none) :
    r.prepareInsert crc (.ok rows) = .ok (.ok ((List.range r.shards.length).map (r.batch crc rows))) ∧
      ((List.range r.shards.length).map (r.batch crc rows)).flatten.Perm rows :=
  ⟨prepareInsert_of_valid hs hv, by simpa using shardRows_perm hs (by simp) (prepareInsert_of_valid hs hv)⟩

theorem prepareInsert_partitions_clicks :
    twoShards.shards ≠ [] ∧ (∀ row ∈ [clickBy "a", clickBy "bb"], twoShards.checkRow row = none) ∧
      (twoShards.prepareInsert crcOfName (.ok [clickBy "a", clickBy "bb"]) =
          .ok (.ok ((List.range twoShards.shards.length).map
            (twoShards.batch crcOfName [clickBy "a", clickBy "bb"]))) ∧
        ((List.range twoShards.shards.length).map
          (twoShards.batch crcOfName [clickBy "a", clickBy "bb"])).flatten.Perm
            [clickBy "a", clickBy "bb"]) :=
  have hv : ∀ row ∈ [clickBy "a", clickBy "bb"], twoShards.checkRow row = none :=
    List.forall_mem_cons.mpr ⟨rfl, List.forall_mem_singleton.mpr rfl⟩
  ⟨List.cons_ne_nil _ _, hv, prepareInsert_partitions (List.cons_ne_nil _ _) hv⟩

end Router

/-! ## How `HandleInsert` answers -/

namespace HandleInsert

variable {r : Router} {crc : List Untyped → UInt32} {urlOk : String → Bool}
  {reply : ℕ → List InsertRow → Option ErrorResponse}

/-- With every shard's URL accepted, none is refused. -/
theorem not_exists_bad_url (hu : ∀ shard ∈ r.shards, urlOk shard = true) :
    ¬ ∃ shard ∈ r.shards, urlOk shard = false :=
  fun ⟨shard, hm, hf⟩ => Bool.false_ne_true (hf.symm.trans (hu shard hm))

/-- **A request with an invalid name.**  It is answered with an invalid name of the first row
that has one, whatever the shards would answer: no shard is sent anything. -/
theorem handleInsert_rejects_invalid_row (hs : r.shards ≠ []) {pre post : List InsertRow}
    {row : InsertRow} {e : ErrorResponse} (hpre : ∀ row ∈ pre, r.checkRow row = none)
    (he : r.checkRow row = some e) :
    (∃ field ∈ row.fields, r.validColumnName field.1 = false ∧ e = invalidColumnError field.1) ∧
      ∀ o, Responds r crc urlOk (.ok (pre ++ row :: post)) reply o ↔ o = .error e := by
  have hprep : r.prepareInsert crc (.ok (pre ++ row :: post)) = .ok (.error e) :=
    Router.shardRows_of_invalid hs hpre he _
  refine ⟨Router.checkRow_eq_some he, fun o => ⟨?_, fun ho => ho ▸ .rejected hprep⟩⟩
  rintro (⟨h⟩ | ⟨h⟩ | ⟨h⟩ | ⟨h⟩ | ⟨h⟩) <;> rw [hprep] at h <;> cases h
  rfl

theorem handleInsert_rejects_invalid_row_color :
    twoShards.shards ≠ [] ∧ (∀ row ∈ [clickBy "a"], twoShards.checkRow row = none) ∧
      twoShards.checkRow colorRow = some (invalidColumnError "color") ∧
      ((∃ field ∈ colorRow.fields, twoShards.validColumnName field.1 = false ∧
          invalidColumnError "color" = invalidColumnError field.1) ∧
        ∀ o, Responds twoShards crcOfName hostPortOk (.ok ([clickBy "a"] ++ [colorRow]))
          (fun _ _ => none) o ↔ o = .error (invalidColumnError "color")) :=
  have hv : ∀ row ∈ [clickBy "a"], twoShards.checkRow row = none := List.forall_mem_singleton.mpr rfl
  ⟨List.cons_ne_nil _ _, hv, rfl, handleInsert_rejects_invalid_row (List.cons_ne_nil _ _) hv rfl⟩

/-- **No insert panics** on a router `main` starts, while every shard's URL is accepted. -/
theorem handleInsert_never_panics {shardsFlag : String} {shards : List String} {c : Config}
    (hp : parseShards shardsFlag = .ok shards) (hr : newRouter c shards = .ok r)
    (hu : ∀ shard ∈ r.shards, urlOk shard = true) (body : Except String (List InsertRow))
    (m : String) : ¬ Responds r crc urlOk body reply (.panic m) := by
  intro h
  cases h with
  | panicked h =>
    cases body with
    | error m' => cases h
    | ok rows => exact Router.shardRows_ne_error (newRouter_shards_ne_nil hp hr) m _ rows h
  | requestPanic _ hbad => exact not_exists_bad_url hu hbad

theorem handleInsert_never_panics_configToml :
    parseShards "shard0,shard1" = .ok ["shard0", "shard1"] ∧
      newRouter configToml ["shard0", "shard1"] = .ok twoShards ∧
      (∀ shard ∈ twoShards.shards, hostPortOk shard = true) ∧
      ¬ Responds twoShards crcOfName hostPortOk (.ok [clickBy "a", colorRow]) (fun _ _ => none)
        (.panic integerDivideByZero) :=
  have hp : parseShards "shard0,shard1" = .ok ["shard0", "shard1"] := rfl
  have hu : ∀ shard ∈ twoShards.shards, hostPortOk shard = true := by decide
  ⟨hp, newRouter_configToml _, hu, handleInsert_never_panics hp (newRouter_configToml _) hu _ _⟩

end HandleInsert

end Gumshoe
