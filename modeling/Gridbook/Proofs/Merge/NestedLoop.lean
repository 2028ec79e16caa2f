import Mathlib
import Gridbook.Proofs.Cell.Key
import Gridbook.Proofs.Merge.Join

/-! # Joins by nested loops

A join looks right rows up in an index of their keys. Its rows are those of two nested loops that
compare every left row with every right row by the values of their keys: no pair is lost and none
comes twice.
-/

namespace Gridbook

namespace KeyIndex

variable {entries : List (Cell × List Nat)} {key other : Cell} {keys : List Cell}

theorem keys_insertAt {i : Nat} : ∀ entry ∈ insertAt key i entries,
    entry.1 = key ∨ ∃ old ∈ entries, old.1 = entry.1 := by
  induction entries with
  | nil => simp [insertAt]
  | cons first rest ih =>
      obtain ⟨known, positions⟩ := first
      rw [insertAt]
      split
      · rw [List.forall_mem_cons]
        exact ⟨.inr ⟨_, List.mem_cons_self, rfl⟩,
          fun entry among => .inr ⟨entry, List.mem_cons_of_mem _ among, rfl⟩⟩
      · rw [List.forall_mem_cons]
        refine ⟨.inr ⟨_, List.mem_cons_self, rfl⟩, fun entry among => ?_⟩
        obtain same | ⟨old, member, same⟩ := ih entry among
        · exact .inl same
        · exact .inr ⟨old, List.mem_cons_of_mem _ member, same⟩

/-- One more row is found under the keys that count as its own, behind the rows before it. -/
theorem positions_insertAt (known : ∀ entry ∈ entries, entry.1.IsKey) (isKey : key.IsKey)
    (sought : other.IsKey) (i : Nat) : positions ⟨insertAt key i entries⟩ other =
      positions ⟨entries⟩ other ++ if key.matchesKey other then [i] else [] := by
  induction entries with
  | nil => cases found : key.matchesKey other <;> simp [insertAt, positions, found]
  | cons first rest ih =>
      obtain ⟨old, held⟩ := first
      obtain ⟨isOld, known⟩ := List.forall_mem_cons.mp known
      have ih := ih known
      have mine := isOld.matchesKey_iff isKey
      have theirs := isOld.matchesKey_iff sought
      have direct := isKey.matchesKey_iff sought
      rw [insertAt]
      by_cases same : old.matchesKey key = true
      · have equal : old.matchesKey other = key.matchesKey other := by
          rw [Bool.eq_iff_iff, theirs, direct, mine.mp same]
        cases found : key.matchesKey other <;> simp [same, positions, found, equal]
      · cases found : old.matchesKey other with
        | true =>
            -- the new row cannot count as the other too
            have apart : key.matchesKey other = false := by
              rw [Bool.eq_false_iff, Ne, direct]
              intro equal
              exact same (mine.mpr ((theirs.mp found).trans equal.symm))
            simp [same, positions, found, apart]
        | false => simpa [same, positions, found] using ih

theorem positions_ofKeys (isKey : ∀ key ∈ keys, key.IsKey) (sought : other.IsKey) :
    (ofKeys keys).positions other =
      (keys.zipIdx.filter fun entry => entry.1.matchesKey other).map Prod.snd := by
  have spec : (∀ entry ∈ (ofKeys keys).entries, entry.1 ∈ keys) ∧
      (ofKeys keys).positions other =
        (keys.zipIdx.filter fun entry => entry.1.matchesKey other).map Prod.snd := by
    induction keys using List.reverseRecOn with
    | nil => simp [ofKeys, positions]
    | append_singleton keys key ih =>
        rw [List.forall_mem_append, List.forall_mem_singleton] at isKey
        obtain ⟨known, found⟩ := ih isKey.1
        have step : ofKeys (keys ++ [key]) =
            ⟨insertAt key keys.length (ofKeys keys).entries⟩ := by
          simp [ofKeys, List.zipIdx_append]
        rw [step]
        constructor
        · intro entry among
          obtain same | ⟨old, member, same⟩ := keys_insertAt entry among
          · simp [same]
          · exact List.mem_append_left _ (same ▸ known old member)
        · rw [positions_insertAt (fun entry among => isKey.1 _ (known entry among)) isKey.2 sought,
            found]
          cases matched : key.matchesKey other <;> simp [List.zipIdx_append, matched]
  exact spec.2

end KeyIndex

namespace Join

/-- A left row with the right rows beside it; without any it stands alone or not at all. -/
def besides {α β : Type} (kind : JoinKind) (l : α) : List β → List (Option α × Option β)
  | [] => if kind.keepsLeft then [(some l, none)] else []
  | hits => hits.map fun r => (some l, some r)

/-- Compares every left row with every right row: each left row comes with all its matches, and the
right rows that match no left row come last. -/
def loop {α β : Type} (kind : JoinKind) (same : α → β → Bool) (left : List α) (right : List β) :
    List (Option α × Option β) :=
  (left.flatMap fun l => besides kind l (right.filter (same l))) ++
    if kind.keepsRight then
      (right.filter fun r => !left.any fun l => same l r).map fun r => (none, some r)
    else []

variable {kind : JoinKind} {left right : List (Cell × List Cell)}

theorem positions_right (isKey : ∀ r ∈ right, r.1.IsKey) {other : Cell} (sought : other.IsKey) :
    (KeyIndex.ofKeys (right.map fun r => r.1)).positions other =
      (right.zipIdx.filter fun entry => entry.1.1.matchesKey other).map Prod.snd := by
  rw [KeyIndex.positions_ofKeys (by simpa using isKey) sought, List.zipIdx_map, List.filter_map,
    List.map_map]
  rfl

theorem mem_positions_right (isKey : ∀ r ∈ right, r.1.IsKey) {other : Cell} (sought : other.IsKey)
    {r : Cell × List Cell} {i : Nat} (stands : (r, i) ∈ right.zipIdx) :
    i ∈ (KeyIndex.ofKeys (right.map fun r => r.1)).positions other ↔ r.1.matchesKey other := by
  rw [positions_right isKey sought, List.mem_map]
  constructor
  · rintro ⟨⟨s, j⟩, among, rfl⟩
    obtain ⟨member, found⟩ := List.mem_filter.mp among
    rw [List.mem_zipIdx_iff_getElem?] at member stands
    cases Option.some.inj (stands.symm.trans member)
    exact found
  · intro found
    exact ⟨(r, i), List.mem_filter.mpr ⟨stands, found⟩, rfl⟩

theorem filter_zipIdx {α : Type} (items : List α) (p : α → Bool) :
    (items.zipIdx.filter fun entry => p entry.1).map Prod.fst = items.filter p := by
  conv_rhs => rw [← List.zipIdx_map_fst 0 items, List.filter_map]
  rfl

theorem hits_eq (isKey : ∀ r ∈ right, r.1.IsKey) {other : Cell} (sought : other.IsKey) :
    ((KeyIndex.ofKeys (right.map fun r => r.1)).positions other).map
        (fun i => right[i]?.map fun r => r.2) =
      (right.filter fun r => other.keyValue? = r.1.keyValue?).map fun r => some r.2 := by
  have equal : ∀ entry ∈ right.zipIdx,
      entry.1.1.matchesKey other = decide (other.keyValue? = entry.1.1.keyValue?) := by
    intro entry among
    have both := (isKey _ (List.fst_mem_of_mem_zipIdx among)).matchesKey_iff sought
    rw [Bool.eq_iff_iff, both, decide_eq_true_eq, eq_comm]
  have stands : ∀ entry ∈ right.zipIdx.filter fun entry => entry.1.1.matchesKey other,
      (right[entry.2]?.map fun r => r.2) = some entry.1.2 := by
    intro entry among
    rw [List.mem_zipIdx_iff_getElem?.mp (List.mem_filter.mp among).1]
    rfl
  rw [positions_right isKey sought, List.map_map]
  refine (List.map_congr_left stands).trans ?_
  rw [List.filter_congr equal,
    ← filter_zipIdx right fun r => decide (other.keyValue? = r.1.keyValue?), List.map_map]
  rfl

/-- A left row stands beside the right rows whose keys count as its own. -/
theorem beside_eq (isKey : ∀ r ∈ right, r.1.IsKey) {l : Cell × List Cell} (sought : l.1.IsKey) :
    (match (KeyIndex.ofKeys (right.map fun r => r.1)).positions l.1 with
      | [] => if kind.keepsLeft then [(some l.2, none)] else []
      | hits => hits.map fun i => (some l.2, right[i]?.map fun r => r.2)) =
      (besides kind l (right.filter fun r => l.1.keyValue? = r.1.keyValue?)).map
        (Prod.map (Option.map Prod.snd) (Option.map Prod.snd)) := by
  have hits := hits_eq isKey sought
  cases found : (KeyIndex.ofKeys (right.map fun r => r.1)).positions l.1 with
  | nil =>
      rw [found] at hits
      rw [List.map_eq_nil_iff.mp hits.symm, besides]
      cases kind.keepsLeft <;> rfl
  | cons i more =>
      rw [found] at hits
      cases matching : right.filter fun r => l.1.keyValue? = r.1.keyValue? with
      | nil => simp [matching] at hits
      | cons r others =>
          have pairs := congrArg (List.map fun row => (some l.2, row)) hits
          rw [List.map_map, matching, List.map_map] at pairs
          rw [besides, List.map_map]
          · exact pairs
          · simp

/-- The right rows that no left row has found are those whose key counts as that of none. -/
theorem alone_eq (isKey : ∀ r ∈ right, r.1.IsKey) (sought : ∀ l ∈ left, l.1.IsKey) :
    (right.zipIdx.filter fun (_, i) => !(left.flatMap fun l =>
        (KeyIndex.ofKeys (right.map fun r => r.1)).positions l.1).contains i).map Prod.fst =
      right.filter fun r => !left.any fun l => l.1.keyValue? = r.1.keyValue? := by
  rw [← filter_zipIdx right]
  refine congrArg (List.map Prod.fst) (List.filter_congr ?_)
  rintro ⟨r, i⟩ among
  refine congrArg not ?_
  rw [Bool.eq_iff_iff, List.contains_iff_mem, List.mem_flatMap, List.any_eq_true]
  simp only [decide_eq_true_eq]
  refine exists_congr fun l => and_congr_right fun inLeft => ?_
  rw [mem_positions_right isKey (sought l inLeft) among,
    (isKey r (List.fst_mem_of_mem_zipIdx among)).matchesKey_iff (sought l inLeft), eq_comm]

/-- The rows that stand beside each other are those that nested loops put there. -/
theorem pairs_eq_loop (isKey : ∀ r ∈ right, r.1.IsKey) (sought : ∀ l ∈ left, l.1.IsKey) :
    pairs kind left right =
      (loop kind (fun l r => l.1.keyValue? = r.1.keyValue?) left right).map
        (Prod.map (Option.map Prod.snd) (Option.map Prod.snd)) := by
  have alone := congrArg (List.map fun r => ((none : Option (List Cell)), some r.2))
    (alone_eq isKey sought)
  rw [List.map_map] at alone
  have beside : (left.flatMap fun l =>
      match (KeyIndex.ofKeys (right.map fun r => r.1)).positions l.1 with
      | [] => if kind.keepsLeft then [(some l.2, none)] else []
      | hits => hits.map fun i => (some l.2, right[i]?.map fun r => r.2)) =
        left.flatMap fun l =>
          (besides kind l (right.filter fun r => l.1.keyValue? = r.1.keyValue?)).map
            (Prod.map (Option.map Prod.snd) (Option.map Prod.snd)) :=
    List.flatMap_congr fun l inLeft => beside_eq isKey (sought l inLeft)
  rw [loop, List.map_append, List.map_flatMap, ← beside]
  cases keeps : kind.keepsRight with
  | true =>
      rw [if_pos rfl, List.map_map]
      exact (if_pos keeps).trans (congrArg (_ ++ ·) alone)
  | false =>
      rw [if_neg Bool.false_ne_true, List.map_nil, List.append_nil]
      exact if_neg (Bool.eq_false_iff.mp keeps)

theorem besides_map {α β γ δ : Type} (f : α → γ) (g : β → δ) (l : α) (hits : List β) :
    (besides kind l hits).map (Prod.map (Option.map f) (Option.map g)) =
      besides kind (f l) (hits.map g) := by
  cases hits with
  | nil => cases keeps : kind.keepsLeft <;> simp [besides, keeps]
  | cons r others => simp [besides]

theorem loop_map {α β γ δ : Type} (f : α → γ) (g : β → δ) (same : γ → δ → Bool) (left : List α)
    (right : List β) : loop kind same (left.map f) (right.map g) =
      (loop kind (fun l r => same (f l) (g r)) left right).map
        (Prod.map (Option.map f) (Option.map g)) := by
  have beside (l : α) :
      (besides kind l (right.filter fun r => same (f l) (g r))).map
        (Prod.map (Option.map f) (Option.map g)) =
      besides kind (f l) ((right.map g).filter (same (f l))) := by
    rw [besides_map, List.filter_map]
    rfl
  rw [loop, loop, List.map_append, List.map_flatMap, List.flatMap_map]
  simp only [beside]
  cases kind.keepsRight with
  | true => simp [List.filter_map, Function.comp_def]
  | false => simp

end Join

namespace JoinSide

variable {side : JoinSide} {key : String} {names : List String}

def cell (side : JoinSide) (row : List Cell) (name : String) : Cell :=
  row.getD (side.columns.idxOf name) .null

/-- The cells of a row in some columns; a missing row has nothing in them. -/
def cells (side : JoinSide) (names : List String) : Option (List Cell) → List Cell
  | none => names.map fun _ => .null
  | some row => names.map (side.cell row)

/-- A side that can be joined by a key with some of its columns: it has the columns, no row stops
short of them, and its rows can be matched by the key. -/
structure Fits (side : JoinSide) (key : String) (names : List String) : Prop where
  known : ∀ name ∈ key :: names, name ∈ side.columns
  reach : ∀ row ∈ side.rows, ∀ name ∈ key :: names, side.columns.idxOf name < row.length
  keys : ∀ row ∈ side.rows, (side.cell row key).IsKey

theorem require_known (known : ∀ name ∈ names, name ∈ side.columns) :
    side.require names = .ok () := by
  have none : (names.filter fun name => !side.columns.contains name) = [] := by
    simpa using known
  rw [require, none]

theorem cellAt_cell {row : List Cell} {name : String}
    (reach : side.columns.idxOf name < row.length) :
    cellAt row (side.columns.idxOf name) = .ok (side.cell row name) := by
  simp [cellAt, cell, reach]

theorem Fits.keyed (fits : side.Fits key names) :
    side.keyed key = .ok (side.rows.map fun row => (side.cell row key, row)) := by
  refine mapM_ok_map ?_
  intro row member
  rw [cellAt_cell (fits.reach row member key List.mem_cons_self)]
  rfl

theorem Fits.select (fits : side.Fits key names) {row? : Option (List Cell)}
    (member : ∀ row, row? = some row → row ∈ side.rows) :
    side.select names row? = .ok (side.cells names row?) := by
  cases row? with
  | none => rfl
  | some row =>
      refine mapM_ok_map ?_
      intro name among
      exact cellAt_cell (fits.reach row (member row rfl) name (List.mem_cons_of_mem _ among))

end JoinSide

namespace Join

/-- The rows of a join by nested loops over the rows as they are: the selected cells of each pair,
with nothing in place of a missing row. -/
def nested (join : Join) (left right : JoinSide) : List (List Cell) :=
  (loop join.kind (fun l r =>
      (left.cell l join.leftKey).keyValue? = (right.cell r join.rightKey).keyValue?)
    left.rows right.rows).map fun (l, r) =>
      left.cells (join.selectedLeft.getD left.columns) l ++
        right.cells (join.selectedRight.getD right.columns) r

theorem mem_loop {α β : Type} {kind : JoinKind} {same : α → β → Bool} {left : List α}
    {right : List β} {l? : Option α} {r? : Option β}
    (member : (l?, r?) ∈ loop kind same left right) :
    (∀ l, l? = some l → l ∈ left) ∧ ∀ r, r? = some r → r ∈ right := by
  rcases List.mem_append.mp member with beside | alone
  · obtain ⟨l, inLeft, beside⟩ := List.mem_flatMap.mp beside
    unfold besides at beside
    split at beside
    · split at beside
      · cases List.mem_singleton.mp beside
        exact ⟨by simpa using inLeft, by simp⟩
      · cases beside
    · obtain ⟨r, hit, same⟩ := List.mem_map.mp beside
      cases same
      exact ⟨by simpa using inLeft, by simpa using (List.mem_filter.mp hit).1⟩
  · split at alone
    · obtain ⟨r, free, same⟩ := List.mem_map.mp alone
      cases same
      exact ⟨by simp, by simpa using (List.mem_filter.mp free).1⟩
    · cases alone

variable {join : Join} {left right : JoinSide}

theorem pairs_keyed {key other : String}
    (leftKeys : ∀ row ∈ left.rows, (left.cell row key).IsKey)
    (rightKeys : ∀ row ∈ right.rows, (right.cell row other).IsKey) (kind : JoinKind) :
    pairs kind (left.rows.map fun row => (left.cell row key, row))
        (right.rows.map fun row => (right.cell row other, row)) =
      loop kind (fun l r => (left.cell l key).keyValue? = (right.cell r other).keyValue?)
        left.rows right.rows := by
  rw [pairs_eq_loop (by simpa using rightKeys) (by simpa using leftKeys), loop_map, List.map_map]
  exact List.map_id'' (fun (l, r) => by cases l <;> cases r <;> rfl) _

/-- A join of sides that fit it finds all its cells, and its rows are those of nested loops: every
left row in order with each right row of an equal key in order, rows without a match kept as the
kind of join says, and nothing in the cells of a missing row. -/
theorem run_eq_nested
    (leftFits : left.Fits join.leftKey (join.selectedLeft.getD left.columns))
    (rightFits : right.Fits join.rightKey (join.selectedRight.getD right.columns)) :
    (join.run left right).map Prod.snd = .ok (join.nested left right) := by
  have leftKnown := List.forall_mem_cons.mp leftFits.known
  have rightKnown := List.forall_mem_cons.mp rightFits.known
  have rows : ((pairs join.kind (left.rows.map fun row => (left.cell row join.leftKey, row))
      (right.rows.map fun row => (right.cell row join.rightKey, row))).mapM fun (l, r) => do
        return (← left.select (join.selectedLeft.getD left.columns) l) ++
          (← right.select (join.selectedRight.getD right.columns) r)) =
      Except.ok (ε := Fault) (join.nested left right) := by
    rw [pairs_keyed leftFits.keys rightFits.keys]
    refine mapM_ok_map ?_
    rintro ⟨l, r⟩ together
    obtain ⟨inLeft, inRight⟩ := mem_loop together
    simp only [leftFits.select inLeft, rightFits.select inRight]
    rfl
  have leftKey := JoinSide.require_known (List.forall_mem_singleton.mpr leftKnown.1)
  have rightKey := JoinSide.require_known (List.forall_mem_singleton.mpr rightKnown.1)
  simp only [bind, Except.bind] at rows
  simp only [run, leftKey, rightKey, JoinSide.require_known leftKnown.2,
    JoinSide.require_known rightKnown.2, rightFits.keyed, leftFits.keyed, bind, Except.bind, rows]
  rfl

/-- Orders by the number of a client, which is written in several ways. -/
def orders : JoinSide where
  name := "orders"
  columns := ["client", "item"]
  rows := [[.bool true, .text "pen"], [.int 7, .text "ink"], [.null, .text "cap"],
    [.float (.ofInt 1), .text "nib"]]

/-- Clients by number; two of them have none. -/
def clients : JoinSide where
  name := "clients"
  columns := ["id", "town"]
  rows := [[.int 1, .text "Riga"], [.null, .text "Oslo"], [.int 8, .text "Bern"],
    [.float (.ofInt 1), .text "Cork"], [.null, .text "Bonn"]]

/-- Keeps the rows of both sides, and the town twice. -/
def ordersWithClients : Join :=
  ⟨some "orders", "clients", "client", "id", .full, none, none, some ["item"],
    some ["town", "town"]⟩

/-- Equal numbers and missing ones are found whatever their kind, with every match. -/
theorem orders_joined : orders.Fits "client" ["item"] ∧ clients.Fits "id" ["town", "town"] ∧
    (ordersWithClients.run orders clients).map Prod.snd = .ok
      [[.text "pen", .text "Riga", .text "Riga"], [.text "pen", .text "Cork", .text "Cork"],
        [.text "ink", .null, .null],
        [.text "cap", .text "Oslo", .text "Oslo"], [.text "cap", .text "Bonn", .text "Bonn"],
        [.text "nib", .text "Riga", .text "Riga"], [.text "nib", .text "Cork", .text "Cork"],
        [.null, .text "Bern", .text "Bern"]] := by
  have leftFits : orders.Fits "client" ["item"] :=
    ⟨by decide, by decide, by decide +kernel⟩
  have rightFits : clients.Fits "id" ["town", "town"] :=
    ⟨by decide, by decide, by decide +kernel⟩
  have joined : (ordersWithClients.run orders clients).map Prod.snd =
      .ok (ordersWithClients.nested orders clients) := run_eq_nested leftFits rightFits
  exact ⟨leftFits, rightFits, joined.trans (by decide +kernel)⟩

end Join

end Gridbook
