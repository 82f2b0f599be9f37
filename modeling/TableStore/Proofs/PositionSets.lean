import Mathlib.Data.List.Dedup
import TableStore.Proofs.Insertions
import TableStore.Proofs.PositionalCalls

/-!
# The rows that a call by positions names

A call by positions takes any list of numbers.  They can come in any order, a number can be there
several times, and it can lie beyond the last row.  What becomes of the file depends only on the
set of the rows that are named.

* Positions.  `Row.positionsBelow` lists the rows that are named, each of them once and in ascending
  order.  `assignAt_congr` and `removeAt_congr` say that nothing else about the positions matters.
* Calls.  `NodeCall.named` is the call that names each of these rows once.  `run_named` compares it
  with the call itself: both do the same to the files, and a removal also answers the same number.
  The answer of an update counts a row as often as it is named.
-/

namespace TableStore

namespace Row

/-! ## Positions -/

/-- The positions below `count` that occur in a list, each of them once and in ascending order. -/
def positionsBelow (count : Nat) (positions : List Nat) : List Nat :=
  (List.range count).filter (· ∈ positions)

section

variable {count position : Nat} {positions others : List Nat} {rows : List String}

theorem mem_positionsBelow :
    position ∈ positionsBelow count positions ↔ position ∈ positions ∧ position < count := by
  simp [positionsBelow, and_comm]

theorem mem_positionsBelow_of_lt (hlt : position < count) :
    position ∈ positionsBelow count positions ↔ position ∈ positions := by
  simp [mem_positionsBelow, hlt]

theorem positionsBelow_pairwise (count : Nat) (positions : List Nat) :
    (positionsBelow count positions).Pairwise (· < ·) :=
  List.pairwise_lt_range.filter _

theorem filter_positionsBelow (count : Nat) (positions : List Nat) :
    (positionsBelow count positions).filter (· < count) = positionsBelow count positions :=
  List.filter_eq_self.2 fun _ hposition => decide_eq_true (mem_positionsBelow.1 hposition).2

/-- These are the positions that are left when the repetitions are taken out. -/
theorem positionsBelow_perm_dedup (count : Nat) (positions : List Nat) :
    (positionsBelow count positions).Perm (positions.filter (· < count)).dedup := by
  have hnodup : (positionsBelow count positions).Nodup :=
    (positionsBelow_pairwise count positions).imp Nat.ne_of_lt
  rw [List.perm_ext_iff_of_nodup hnodup (List.nodup_dedup _)]
  intro position
  simp [mem_positionsBelow]

theorem length_positionsBelow_le (count : Nat) (positions : List Nat) :
    (positionsBelow count positions).length ≤ (positions.filter (· < count)).length := by
  rw [(positionsBelow_perm_dedup count positions).length_eq]
  exact (List.dedup_sublist _).length_le

/-- There are as many positions as rows named only if no row is named twice. -/
theorem length_filter_eq_iff :
    (positions.filter (· < count)).length = (positionsBelow count positions).length ↔
      (positions.filter (· < count)).Nodup := by
  rw [(positionsBelow_perm_dedup count positions).length_eq, ← List.dedup_eq_self]
  constructor
  · intro h
    exact (List.dedup_sublist _).eq_of_length h.symm
  · intro h
    rw [h]

/-- An assignment depends on which rows are named. -/
theorem assignAt_congr (h : ∀ position < rows.length, position ∈ positions ↔ position ∈ others)
    (columns : Option (List String)) (assignments : List (String × String)) :
    assignAt columns assignments positions rows = assignAt columns assignments others rows := by
  refine List.ext_getElem? fun i => ?_
  rw [assignAt, assignAt, List.getElem?_mapIdx, List.getElem?_mapIdx]
  cases hrow : rows[i]? with
  | none => rfl
  | some row =>
    have hlt : i < rows.length := (List.getElem?_eq_some_iff.1 hrow).1
    simp [h i hlt]

/-- A removal depends on which rows are named. -/
theorem removeAt_congr (h : ∀ position < rows.length, position ∈ positions ↔ position ∈ others) :
    removeAt positions rows = removeAt others rows := by
  unfold removeAt
  congr 1
  refine List.filter_congr fun row hrow => ?_
  have hrow : rows[row.2]? = some row.1 := List.mem_zipIdx_iff_getElem?.1 hrow
  have hlt : row.2 < rows.length := (List.getElem?_eq_some_iff.1 hrow).1
  simp [h row.2 hlt]

/-- A removal takes away as many rows as are named. -/
theorem length_removeAt_positionsBelow (positions : List Nat) (rows : List String) :
    rows.length - (removeAt positions rows).length =
      (positionsBelow rows.length positions).length := by
  have hnodup : (positionsBelow rows.length positions).Nodup :=
    (positionsBelow_pairwise rows.length positions).imp Nat.ne_of_lt
  have hsame : removeAt positions rows = removeAt (positionsBelow rows.length positions) rows :=
    removeAt_congr fun _ hlt => (mem_positionsBelow_of_lt hlt).symm
  rw [hsame, length_removeAt hnodup, filter_positionsBelow]

end

end Row

/-! ## Calls -/

namespace NodeCall

/-- The call that names every row that a call names below `count`, once and in ascending order. -/
def named (count : Nat) : NodeCall .count → NodeCall .count
  | .updateAt positions names values => .updateAt (Row.positionsBelow count positions) names values
  | .deleteAt positions => .deleteAt (Row.positionsBelow count positions)

/-- Whether a call by positions removes the rows. -/
def isRemoval : NodeCall .count → Bool
  | .updateAt .. => false
  | .deleteAt _ => true

theorem reads_of_count (call : NodeCall .count) : call.reads = true := by
  cases call <;> rfl

theorem isIdle_iff (call : NodeCall .count) (count : Nat) :
    call.isIdle count = true ↔ count = 0 := by
  cases call <;> simp [isIdle]

/-- The call that names each row once leaves the same rows.  It answers how many rows are named. -/
theorem onRows_named (call : NodeCall .count) (columns : Option (List String))
    (rows : List String) : (call.named rows.length).onRows columns rows =
      ((Row.positionsBelow rows.length call.positions).length, (call.onRows columns rows).2) := by
  cases call with
  | updateAt positions names values =>
    have hsame : Row.assignAt columns (names.zip values) (Row.positionsBelow rows.length positions)
        rows = Row.assignAt columns (names.zip values) (positions.filter (· < rows.length)) rows :=
      Row.assignAt_congr (fun position hlt => by simp [Row.mem_positionsBelow, hlt]) _ _
    simp only [named, onRows, NodeCall.positions, Row.filter_positionsBelow, hsame]
  | deleteAt positions =>
    have hsame : Row.removeAt (Row.positionsBelow rows.length positions) rows =
        Row.removeAt positions rows :=
      Row.removeAt_congr fun _ hlt => Row.mem_positionsBelow_of_lt hlt
    simp only [named, onRows, NodeCall.positions, hsame, Row.length_removeAt_positionsBelow]

/-- The answer of an update counts the positions, and that of a removal the rows. -/
theorem answer_onRows (call : NodeCall .count) (columns : Option (List String))
    (rows : List String) : (call.onRows columns rows).1 =
      if call.isRemoval then (Row.positionsBelow rows.length call.positions).length
      else (call.positions.filter (· < rows.length)).length := by
  cases call with
  | updateAt positions names values => rfl
  | deleteAt positions => exact Row.length_removeAt_positionsBelow positions rows

/-- Both calls leave the file alone in the same cases. -/
theorem isIdle_named (call : NodeCall .count) (columns : Option (List String))
    (rows : List String) :
    (call.named rows.length).isIdle (Row.positionsBelow rows.length call.positions).length =
      call.isIdle (call.onRows columns rows).1 := by
  have hnil := (Row.positionsBelow_perm_dedup rows.length call.positions).length_eq
  rw [Bool.eq_iff_iff, isIdle_iff, isIdle_iff, answer_onRows]
  split
  · rfl
  · rw [hnil, List.length_eq_zero_iff, List.length_eq_zero_iff, List.dedup_eq_nil]

end NodeCall

/-- What replacing a store's file comes to does not depend on the answer that is given then. -/
theorem RecordStore.replace_congr {α : Type} (store : RecordStore) (contents : Contents)
    (fs : FileSystem) (value other : α) :
    (∃ e fs', store.replace contents value fs = (.error e, fs') ∧
        store.replace contents other fs = (.error e, fs')) ∨
      ∃ fs', store.replace contents value fs = (.ok value, fs') ∧
        store.replace contents other fs = (.ok other, fs') := by
  unfold replace
  simp only
  split
  · exact Or.inl ⟨_, _, rfl, rfl⟩
  · split
    · exact Or.inl ⟨_, _, rfl, rfl⟩
    · exact Or.inr ⟨_, rfl, rfl⟩

namespace StorageNode

variable {node : StorageNode} {fs : FileSystem} {rows : List String}

/-- **A call by positions depends on the set of the rows that it names.**  The call that names each
of them once, in ascending order, fails with the same error, or both are carried out and leave the
same files.  That call answers the number of the rows named, and so does every removal.  An update
answers how many of its positions are there, which is more than that where a row is named twice. -/
theorem run_named (h : node.store.select fs = .ok rows) (call : NodeCall .count) :
    (∃ e fs', node.run call fs = (.error e, fs') ∧
        node.run (call.named rows.length) fs = (.error e, fs')) ∨
      ∃ count fs', node.run call fs = (.ok count, fs') ∧
        node.run (call.named rows.length) fs =
          (.ok (Row.positionsBelow rows.length call.positions).length, fs') ∧
        (call.isRemoval = true →
          count = (Row.positionsBelow rows.length call.positions).length) ∧
        (call.isRemoval = false →
          count = (call.positions.filter (· < rows.length)).length ∧
          (Row.positionsBelow rows.length call.positions).length ≤ count ∧
          (count = (Row.positionsBelow rows.length call.positions).length ↔
            (call.positions.filter (· < rows.length)).Nodup)) := by
  obtain ⟨contents, hread, rfl⟩ := RecordStore.contents_of_select h
  generalize hanswer : (call.onRows node.store.columns contents.rows).1 = count
  have hcount := (call.answer_onRows node.store.columns contents.rows).symm.trans hanswer
  -- what is said of the answer holds whether or not there is anything to write
  have hsays : (call.isRemoval = true →
        count = (Row.positionsBelow contents.rows.length call.positions).length) ∧
      (call.isRemoval = false →
        count = (call.positions.filter (· < contents.rows.length)).length ∧
        (Row.positionsBelow contents.rows.length call.positions).length ≤ count ∧
        (count = (Row.positionsBelow contents.rows.length call.positions).length ↔
          (call.positions.filter (· < contents.rows.length)).Nodup)) := by
    cases hremoval : call.isRemoval with
    | true => exact ⟨fun _ => by simp [← hcount, hremoval], fun h => by simp at h⟩
    | false =>
      obtain rfl : (call.positions.filter (· < contents.rows.length)).length = count := by
        simpa [hremoval] using hcount
      exact ⟨fun h => by simp at h,
        fun _ => ⟨rfl, Row.length_positionsBelow_le _ _, Row.length_filter_eq_iff⟩⟩
  have hsame := call.isIdle_named node.store.columns contents.rows
  rw [run_of_reads call.reads_of_count, run_of_reads (NodeCall.reads_of_count _), hread]
  simp only [NodeCall.onRows_named, hsame, hanswer]
  split
  · exact Or.inr ⟨count, fs, rfl, rfl, hsays⟩
  · rcases RecordStore.replace_congr node.store
        { contents with rows := (call.onRows node.store.columns contents.rows).2 } fs count
        (Row.positionsBelow contents.rows.length call.positions).length with
      ⟨e, fs', hfails, hfails'⟩ | ⟨fs', hdone, hdone'⟩
    · exact Or.inl ⟨e, fs', hfails, hfails'⟩
    · exact Or.inr ⟨count, fs', hdone, hdone', hsays⟩

/-- The last and the first of three members are removed, although the first one is named twice and
there is no eighth one. -/
theorem run_named_ragged : ∃ fs',
    members.run (.deleteAt [2, 0, 7, 0]) ragged = (.ok 2, fs') ∧
      members.run (.deleteAt [0, 2]) ragged = (.ok 2, fs') := by
  have hselect : members.store.select ragged = .ok ["1,Ida,", "2", "1"] := by decide
  rcases run_named hselect (.deleteAt [2, 0, 7, 0]) with
    ⟨e, fs', hfails, -⟩ | ⟨count, fs', hdone, hdone', hcount, -⟩
  · have hworks : (members.run (.deleteAt [2, 0, 7, 0]) ragged).1 = .ok 2 := by decide
    simp [hfails] at hworks
  · obtain rfl : count = 2 := hcount rfl
    exact ⟨fs', hdone, hdone'⟩

/-- **An update can count a row twice**: if the first member is named twice, the answer is two
although a single row has been touched. -/
theorem updates_can_count_rows_twice :
    ¬ ∀ (node : StorageNode) (fs fs' : FileSystem) (rows : List String) (positions : List Nat)
      (names values : List String) (count : Nat), node.store.select fs = .ok rows →
      node.run (.updateAt positions names values) fs = (.ok count, fs') →
      count = (Row.positionsBelow rows.length positions).length := by
  intro h
  have hcount := h members ragged _ ["1,Ida,", "2", "1"] [0, 0] ["name"] ["Eva"] 2
    (by decide) (Prod.ext (by decide) rfl)
  revert hcount
  decide

end StorageNode

end TableStore
