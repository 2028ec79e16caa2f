import Gridbook.Proofs.Column.Inference
import Gridbook.Proofs.Merge.Blanks

/-! # Merges of merges

A merge may be cut between two joins: the joins before the cut are run on their own, and those
behind it start from the source that this gives. Each part turns nothing into empty texts at its
end, and the whole only once. As long as no left key behind the cut is nothing or empty, the parts
give what the whole gives, if inference comes through the source between them.
-/

namespace Gridbook

namespace JoinSide

variable {a b : JoinSide} {key : String}

@[simp] theorem blanked_blanked (side : JoinSide) : side.blanked.blanked = side.blanked := by
  simp [blanked]

theorem getD_blankedRow (row : List Cell) (i : Nat) :
    (blankedRow row).getD i (.text "") = (row.getD i .null).blanked := by
  simp only [blankedRow, List.getD_eq_getElem?_getD, List.getElem?_map]
  cases row[i]? <;> rfl

/-- Of two sides that differ in blanks at most, neither has nothing for a key if one has its keys
filled. -/
theorem KeysFilled.cell_ne_null (filled : a.KeysFilled key) (alike : a.blanked = b.blanked) :
    ∀ row ∈ b.rows, b.cell row key ≠ .null := by
  intro row member missing
  have columns : a.blanked.columns = b.blanked.columns := congrArg _ alike
  have rows : a.blanked.rows = b.blanked.rows := congrArg _ alike
  have among : blankedRow row ∈ a.blanked.rows := rows ▸ List.mem_map_of_mem member
  obtain ⟨twin, inA, same⟩ := List.mem_map.mp among
  have cells : (a.cell twin key).blanked = (b.cell row key).blanked := by
    rw [cell, cell, ← getD_blankedRow, ← getD_blankedRow, same]
    exact congrArg (fun names => (blankedRow row).getD (names.idxOf key) (.text "")) columns
  obtain ⟨some, filled⟩ := filled twin inA
  rw [Cell.blanked_of_ne some, missing] at cells
  exact filled cells

end JoinSide

theorem Join.run_alike {join : Join} {a b : JoinSide} (filled : a.KeysFilled join.leftKey)
    (alike : a.blanked = b.blanked) (right : JoinSide) :
    Prod.map id (List.map blankedRow) <$> join.run a right =
      Prod.map id (List.map blankedRow) <$> join.run b right := by
  rw [← run_blanked fun row member => (filled row member).1, alike,
    run_blanked (filled.cell_ne_null alike)]

theorem Source.of_ok_iff {id : String} {columns : List String} {rows : List (List Cell)}
    {source : Source} : Source.of id columns rows = .ok source ↔
      source.id = id ∧ source.columns = columns ∧ source.rows = rows := by
  constructor
  · intro made
    unfold Source.of at made
    split at made
    · cases made
      exact ⟨rfl, rfl, rfl⟩
    · cases made
  · rintro ⟨rfl, rfl, rfl⟩
    exact dif_pos source.rectangular

namespace Merge

variable {sources others : List (String × Source)} {a b : JoinSide}

/-- No left key that joins come to is nothing or an empty text. -/
def KeysFilled (sources : List (String × Source)) : JoinSide → List Join → Prop
  | _, [] => True
  | side, join :: rest =>
      side.KeysFilled join.leftKey ∧
        ∀ next, step sources side join = .ok next → KeysFilled sources next rest

theorem step_known {join : Join} {right : Source}
    (known : source sources join.rightTable = .ok right) :
    step sources a join = (fun found => ⟨runningName, found.1, found.2⟩) <$>
      join.run a ⟨nameOr join.rightName join.rightTable, right.columns, right.rows⟩ := by
  rw [step, known, ← bind_pure_comp]
  rfl

theorem step_unknown {join : Join} {fault : Fault}
    (missing : source sources join.rightTable = .error fault) :
    step sources a join = .error fault := by
  rw [step, missing]
  rfl

theorem step_alike {join : Join} (filled : a.KeysFilled join.leftKey)
    (alike : a.blanked = b.blanked)
    (known : source others join.rightTable = source sources join.rightTable) :
    JoinSide.blanked <$> step sources a join = JoinSide.blanked <$> step others b join := by
  cases there : source sources join.rightTable with
  | error fault => rw [step_unknown there, step_unknown (known.trans there)]
  | ok right =>
      have ran := Join.run_alike filled alike
        ⟨nameOr join.rightName join.rightTable, right.columns, right.rows⟩
      have named := congrArg
        ((fun found => (⟨runningName, found.1, found.2⟩ : JoinSide)) <$> ·) ran
      rw [step_known there, step_known (known.trans there)]
      simp only [← comp_map] at named ⊢
      exact named

theorem foldlM_alike {joins : List Join} (filled : KeysFilled sources a joins)
    (alike : a.blanked = b.blanked)
    (known : ∀ join ∈ joins, source others join.rightTable = source sources join.rightTable) :
    JoinSide.blanked <$> joins.foldlM (step sources) a =
      JoinSide.blanked <$> joins.foldlM (step others) b := by
  induction joins generalizing a b with
  | nil => exact congrArg Except.ok alike
  | cons join rest ih =>
      obtain ⟨here, later⟩ := filled
      obtain ⟨knownHere, known⟩ := List.forall_mem_cons.mp known
      have stepped := step_alike here alike knownHere
      rw [List.foldlM_cons, List.foldlM_cons]
      cases inA : step sources a join with
      | error fault =>
          cases inB : step others b join with
          | error other =>
              rw [inA, inB] at stepped
              cases stepped
              rfl
          | ok next => simp [inA, inB] at stepped
      | ok next =>
          cases inB : step others b join with
          | error other => simp [inA, inB] at stepped
          | ok twin =>
              rw [inA, inB] at stepped
              exact ih (later next inA) (Except.ok.inj stepped) known

section Running

variable {merge : Merge} {found : Source}

/-- What the joins of a merge give, before nothing becomes an empty text. -/
def running (merge : Merge) (sources : List (String × Source)) : Except Fault JoinSide := do
  let left ← source sources merge.leftTable
  merge.joins.foldlM (step sources)
    ⟨nameOr merge.first.leftName merge.leftTable, left.columns, left.rows⟩

/-- The joins behind a cut go on from what those before it give. -/
theorem running_append (merge : Merge) (joins : List Join) (sources : List (String × Source)) :
    running { merge with later := merge.later ++ joins } sources =
      merge.running sources >>= joins.foldlM (step sources) := by
  simp only [running, Merge.joins, bind_assoc, ← List.cons_append, List.foldlM_append]

theorem running_name {side : JoinSide} (ran : merge.running sources = .ok side) :
    side.name = runningName := by
  obtain ⟨left, -, joined⟩ := bind_ok_iff.mp ran
  refine foldlM_ok_of_step (P := fun side => side.name = runningName) ?_ joined
  intro before join side stepped
  obtain ⟨right, -, stepped⟩ := bind_ok_iff.mp stepped
  obtain ⟨found, -, stepped⟩ := bind_ok_iff.mp stepped
  cases stepped
  rfl

theorem running_even {side : JoinSide} (ran : merge.running sources = .ok side) : side.Even := by
  obtain ⟨left, -, joined⟩ := bind_ok_iff.mp ran
  exact foldlM_ok_of_step (fun _ _ _ stepped => step_even stepped) joined

theorem mem_sourceIds {id : String} :
    id ∈ merge.sourceIds ↔ id = merge.leftTable ∨ ∃ join ∈ merge.joins, join.rightTable = id := by
  simp [sourceIds]

/-- Joins that come to their end have found every table that the merge reads. -/
theorem running_known {side : JoinSide} (ran : merge.running sources = .ok side) :
    ∀ id ∈ merge.sourceIds, ∃ found, source sources id = .ok found := by
  obtain ⟨left, first, joined⟩ := bind_ok_iff.mp ran
  intro id member
  obtain rfl | ⟨join, among, rfl⟩ := mem_sourceIds.mp member
  · exact ⟨left, first⟩
  · obtain ⟨before, after, stepped⟩ := foldlM_ok_mem joined among
    obtain ⟨right, known, -⟩ := bind_ok_iff.mp stepped
    exact ⟨right, known⟩

theorem joined_ok_iff :
    merge.joined sources = .ok found ↔
      ∃ side, merge.running sources = .ok side ∧
        found.id = runningName ∧ found.columns = side.columns ∧ found.rows = side.blanked.rows := by
  have parts : merge.joined sources = (do
      let _ ← merge.sourceIds.mapM (source sources)
      let side ← merge.running sources
      Source.of runningName side.columns side.blanked.rows) := by
    simp only [joined, running, bind_assoc]
    rfl
  rw [parts]
  constructor
  · intro joined
    obtain ⟨_, -, joined⟩ := bind_ok_iff.mp joined
    obtain ⟨side, ran, joined⟩ := bind_ok_iff.mp joined
    exact ⟨side, ran, Source.of_ok_iff.mp joined⟩
  · rintro ⟨side, ran, delivered⟩
    obtain ⟨_, known⟩ := Stops.exists_mapM_ok (running_known ran)
    rw [known, ran]
    exact Source.of_ok_iff.mpr delivered

end Running

theorem of_ok_iff {first : Join} {later : List Join} {merge : Merge} :
    Merge.of (first :: later) = .ok merge ↔
      ∃ table, first.leftTable = some table ∧ table ≠ "" ∧ merge = ⟨table, first, later⟩ := by
  obtain ⟨leftTable, rightTable, leftKey, rightKey, kind, leftName, rightName, fromLeft, fromRight⟩ :=
    first
  cases leftTable with
  | none => simp [Merge.of]
  | some table =>
      by_cases empty : table = ""
      · simp [Merge.of, empty]
      · simp [Merge.of, empty, eq_comm]

end Merge

/-- A join that reads its left rows from a source, under the name of a result so far. -/
def Join.resumed (join : Join) (id : String) : Join :=
  { join with leftTable := some id, leftName := some Merge.runningName }

/-- What comes before a cut, as a source with an id. -/
def JoinSide.delivered (side : JoinSide) (id : String) (even : side.Even) : Source where
  id := id
  columns := side.columns
  rows := side.blanked.rows
  rectangular := by
    intro row member
    obtain ⟨raw, among, rfl⟩ := List.mem_map.mp member
    rw [blankedRow, List.length_map]
    exact even raw among

deriving instance DecidableEq for JoinSide

namespace Merge

variable {sources : List (String × Source)} {side : JoinSide} {fresh : String}

theorem running_resumed {next : Join} {later : List Join} (even : side.Even)
    (named : side.name = runningName) :
    running ⟨fresh, next.resumed fresh, later⟩
        (Assoc.set fresh (side.delivered fresh even) sources) =
      (next :: later).foldlM (step (Assoc.set fresh (side.delivered fresh even) sources))
        side.blanked := by
  have found : source (Assoc.set fresh (side.delivered fresh even) sources) fresh =
      .ok (side.delivered fresh even) := by
    simp [source, Assoc.lookup_set]
  have start : side.blanked = ⟨runningName, side.columns, side.blanked.rows⟩ := by
    rw [← named]
    rfl
  rw [running, found, start]
  rfl

theorem source_set {id : String} (other : id ≠ fresh) (added : Source) :
    source (Assoc.set fresh added sources) id = source sources id := by
  rw [source, source, Assoc.lookup_set, if_neg (by simpa using other)]

theorem running_resumed_ok {next : Join} {later : List Join} {result : JoinSide} (even : side.Even)
    (named : side.name = runningName) (filled : KeysFilled sources side (next :: later))
    (apart : ∀ join ∈ next :: later, join.rightTable ≠ fresh)
    (ran : (next :: later).foldlM (step sources) side = .ok result) :
    ∃ twin, running ⟨fresh, next.resumed fresh, later⟩
        (Assoc.set fresh (side.delivered fresh even) sources) = .ok twin ∧
      twin.blanked = result.blanked := by
  have alike := foldlM_alike filled side.blanked_blanked.symm fun join among =>
    source_set (apart join among) (side.delivered fresh even)
  rw [ran, ← running_resumed even named] at alike
  cases resumed : running ⟨fresh, next.resumed fresh, later⟩
      (Assoc.set fresh (side.delivered fresh even) sources) with
  | error fault => simp [resumed] at alike
  | ok twin =>
      rw [resumed] at alike
      exact ⟨twin, rfl, (Except.ok.inj alike).symm⟩

theorem joined_resumed {front : Merge} {next : Join} {later : List Join} {final : Source}
    (apart : ∀ join ∈ next :: later, join.rightTable ≠ fresh)
    (filled : ∀ side, front.running sources = .ok side → KeysFilled sources side (next :: later))
    (joined : Merge.joined { front with later := front.later ++ next :: later } sources =
      .ok final) :
    ∃ between, front.joined sources = .ok between ∧
      Merge.joined ⟨fresh, next.resumed fresh, later⟩
        (Assoc.set fresh { between with id := fresh } sources) = .ok final := by
  obtain ⟨result, ran, final_id, final_columns, final_rows⟩ := joined_ok_iff.mp joined
  rw [running_append] at ran
  obtain ⟨side, frontRan, rest⟩ := bind_ok_iff.mp ran
  have even := running_even frontRan
  obtain ⟨twin, backRan, alike⟩ :=
    running_resumed_ok even (running_name frontRan) (filled side frontRan) apart rest
  refine ⟨side.delivered runningName even, ?_, ?_⟩
  · exact joined_ok_iff.mpr ⟨side, frontRan, rfl, rfl, rfl⟩
  · refine joined_ok_iff.mpr ⟨twin, backRan, final_id, ?_, ?_⟩
    · exact final_columns.trans (congrArg JoinSide.columns alike).symm
    · exact final_rows.trans (congrArg JoinSide.rows alike).symm

/-- A merge that succeeds gives the same in two parts: the joins before a cut, delivered as a source
with an id of its own, and those behind it, which start from that source. The first part is run as
a merge of its own exactly if inference comes through what it gives. -/
theorem run_in_parts {front later : List Join} {next : Join} {whole : Merge} {inference : Inference}
    {table : Table} (nonempty : front ≠ [])
    (chained : Merge.of (front ++ next :: later) = .ok whole)
    (apart : fresh ∉ whole.sourceIds) (named : fresh ≠ "")
    (filled : ∀ first side, Merge.of front = .ok first → first.running sources = .ok side →
      KeysFilled sources side (next :: later))
    (ran : whole.run inference sources = .ok table) :
    ∃ first back between, Merge.of front = .ok first ∧
      Merge.of (next.resumed fresh :: later) = .ok back ∧ first.joined sources = .ok between ∧
      back.run inference (Assoc.set fresh { between with id := fresh } sources) = .ok table ∧
      ((∃ view, first.run inference sources = .ok view ∧
          back.run inference (Assoc.set fresh
            ⟨fresh, view.columns, view.rows, view.rectangular⟩ sources) = .ok table) ↔
        between.Inferable inference) := by
  obtain ⟨start, more, rfl⟩ := List.exists_cons_of_ne_nil nonempty
  obtain ⟨id, given, filledId, rfl⟩ := of_ok_iff.mp chained
  have first_of : Merge.of (start :: more) = .ok ⟨id, start, more⟩ :=
    of_ok_iff.mpr ⟨id, given, filledId, rfl⟩
  have others : ∀ join ∈ next :: later, join.rightTable ≠ fresh := by
    rintro join among rfl
    refine apart (mem_sourceIds.mpr (.inr ⟨join, ?_, rfl⟩))
    exact List.mem_cons_of_mem _ (List.mem_append_right _ among)
  obtain ⟨final, joined, typed⟩ := bind_ok_iff.mp ran
  obtain ⟨between, firstJoined, backJoined⟩ :=
    joined_resumed others (fun side => filled _ side first_of) joined
  have backRan : run ⟨fresh, next.resumed fresh, later⟩ inference
      (Assoc.set fresh { between with id := fresh } sources) = .ok table := by
    rw [run, backJoined]
    exact typed
  refine ⟨_, _, between, first_of, of_ok_iff.mpr ⟨fresh, rfl, named, rfl⟩, firstJoined, backRan, ?_⟩
  have firstRan : run ⟨id, start, more⟩ inference sources = Table.ofSource inference between := by
    rw [run, firstJoined]
    rfl
  rw [firstRan, ← Table.ofSource_ok_iff]
  refine exists_congr fun view => and_iff_left_of_imp fun made => ?_
  obtain ⟨columns, rows⟩ := Table.ofSource_frame made
  simp only [columns, rows]
  exact backRan

/-- Orders, the prices of some items, and the towns of clients. -/
def shop : List (String × Source) :=
  [("orders", ⟨"orders", ["client", "item"], [[.int 7, .text "pen"], [.int 8, .text "ink"]],
      by decide⟩),
    ("prices", ⟨"prices", ["item", "price"], [[.text "pen", .int 5]], by decide⟩),
    ("clients", ⟨"clients", ["id", "town"], [[.int 8, .text "Riga"], [.int 7, .text "Oslo"]],
      by decide⟩)]

def priced : Join :=
  ⟨some "orders", "prices", "item", "item", .left, none, none, none, some ["price"]⟩

def addressed : Join :=
  ⟨none, "clients", "client", "id", .inner, none, none, none, some ["town"]⟩

def bill : Table where
  columns := ["client", "item", "price", "town"]
  rows := [[.int 7, .text "pen", .int 5, .text "Oslo"], [.int 8, .text "ink", .text "", .text "Riga"]]
  info := [.plain "client" .number none, .plain "item" .text none, .plain "price" .number none,
    .plain "town" .text none]
  aligned := rfl
  rectangular := by decide

/-- An order without a price is delivered with an empty text and still gets its town. -/
theorem bill_in_parts :
    (Merge.mk "orders" priced [addressed]).run ⟨10, 2025⟩ shop = .ok bill ∧
      ∃ view, (Merge.mk "orders" priced []).run ⟨10, 2025⟩ shop = .ok view ∧
        (Merge.mk "m" (addressed.resumed "m") []).run ⟨10, 2025⟩
          (Assoc.set "m" ⟨"m", view.columns, view.rows, view.rectangular⟩ shop) = .ok bill := by
  have chained : Merge.of ([priced] ++ addressed :: []) = .ok ⟨"orders", priced, [addressed]⟩ := rfl
  have apart : "m" ∉ (Merge.mk "orders" priced [addressed]).sourceIds := by
    simp [mem_sourceIds, joins, priced, addressed]
  have whole : (Merge.mk "orders" priced [addressed]).run ⟨10, 2025⟩ shop = .ok bill := by
    decide +kernel
  have running : (Merge.mk "orders" priced []).running shop = .ok
      ⟨runningName, ["client", "item", "price"],
        [[.int 7, .text "pen", .int 5], [.int 8, .text "ink", .null]]⟩ := by decide +kernel
  have filled : ∀ first side, Merge.of [priced] = .ok first → first.running shop = .ok side →
      KeysFilled shop side [addressed] := by
    rintro first side ⟨⟩ ran
    cases running.symm.trans ran
    exact ⟨by decide +kernel, fun _ _ => trivial⟩
  obtain ⟨_, _, between, ⟨⟩, ⟨⟩, joined, -, parts⟩ :=
    run_in_parts (by simp) chained apart (by decide) filled whole
  have viewed : (Merge.mk "orders" priced []).run ⟨10, 2025⟩ shop =
      .ok ⟨["client", "item", "price"],
      [[.int 7, .text "pen", .int 5], [.int 8, .text "ink", .text ""]],
      [.plain "client" .number none, .plain "item" .text none, .plain "price" .number none],
      rfl, by decide⟩ := by decide +kernel
  rw [run, joined] at viewed
  exact ⟨whole, parts.mpr (Table.ofSource_ok_iff.mp ⟨_, viewed⟩)⟩

def probes : Source :=
  ⟨"probes", ["probe"], [[.text "x"]], by decide⟩

/-- Behind as many rows as a sample has stands an integer beyond the doubles. -/
def readings : Source where
  id := "readings"
  columns := ["probe", "value"]
  rows := List.replicate 10 [.text "y", .int 1] ++ [[.text "x", .int (10 ^ 400)]]
  rectangular := by decide

def measured : Join :=
  ⟨some "probes", "readings", "probe", "probe", .inner, none, none, none, none⟩

/-- Keeps the name of the probe alone. -/
def listed : Join :=
  ⟨none, "probes", "probe", "probe", .inner, none, none, some ["probe"], some []⟩

/-- The whole never comes to the integer among the readings, but its first part stops at it. -/
theorem reading_stops_part :
    (Merge.mk "probes" measured [listed]).run ⟨10, 2025⟩
          [("probes", probes), ("readings", readings)] =
        .ok ⟨["probe"], [[.text "x"]], [.plain "probe" .text none], rfl, probes.rectangular⟩ ∧
      (∃ side, (Merge.mk "probes" measured []).running
          [("probes", probes), ("readings", readings)] = .ok side ∧
        KeysFilled [("probes", probes), ("readings", readings)] side [listed]) ∧
      (Merge.mk "probes" measured []).run ⟨10, 2025⟩ [("probes", probes), ("readings", readings)] =
        .error .integerBeyondDouble := by
  refine ⟨by decide +kernel, ⟨⟨runningName, ["probe", "readings_probe", "value"],
    [[.text "x", .text "x", .int (10 ^ 400)]]⟩, by decide +kernel, ?_⟩, by decide +kernel⟩
  exact ⟨by decide +kernel, fun _ _ => trivial⟩

end Merge

end Gridbook
