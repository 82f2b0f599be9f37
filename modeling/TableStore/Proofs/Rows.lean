import Mathlib.Algebra.Group.Nat.Even
import Mathlib.Data.List.Basic
import Mathlib.Tactic.Common
import TableStore.RecordStore.Rows
import TableStore.Text.Lines

/-!
# What is read back from rows

Rows are written as text and read again at every access.  This module shows that nothing changes
on the way, and restates the positional functions on rows as filters and maps.

There are three groups.

* Lines.  `lines_append` reads ended lines apart from what follows them, and `lines_unlines` reads
  back the lines of a text; `IsLine` is what a line must satisfy.
* Fields and pairs.  `parse_render` and `parsePairs_renderPairs` read back the parts of a row.
* Positions.  `positionsOf` numbers the elements with a property, and assignments and removals at
  these positions are a map and a filter (`assignAt_positionsOf`, `removeAt_positionsOf`).
-/

namespace TableStore

namespace Text

/-! ## Lines -/

/-- Whether a text is read back as one line when a line feed is put behind it.  A carriage return
at its end would be taken for a part of the line's end. -/
def IsLine (line : String) : Prop := '\n' ∉ line.toList ∧ line.toList.getLast? ≠ some '\r'

theorem unlines_cons (line : String) (rest : List String) :
    unlines (line :: rest) = line ++ "\n" ++ unlines rest := by
  simp [unlines]

theorem unlines_append (front rest : List String) :
    unlines (front ++ rest) = unlines front ++ unlines rest := by
  simp [unlines]

/-- Whether every line of a text is followed by a line feed. -/
def IsEnded (text : String) : Prop := ∃ ls, text = unlines ls

theorem isEnded_unlines (ls : List String) : IsEnded (unlines ls) := ⟨ls, rfl⟩

theorem IsEnded.concat {text : String} (h : IsEnded text) (line : String) :
    IsEnded (text ++ (line ++ "\n")) := by
  obtain ⟨ls, rfl⟩ := h
  exact ⟨ls ++ [line], by rw [unlines_append, unlines_cons]; simp [unlines]⟩

/-- A text whose lines are ended is split apart from what follows it. -/
theorem IsEnded.exists_splitOn {text : String} (h : IsEnded text) : ∃ front, ∀ rest : String,
    (text ++ rest).toList.splitOn '\n' = front ++ rest.toList.splitOn '\n' := by
  obtain ⟨ls, rfl⟩ := h
  induction ls with
  | nil => exact ⟨[], fun rest => by simp [unlines]⟩
  | cons line others ih =>
    obtain ⟨front, hfront⟩ := ih
    refine ⟨line.toList.splitOn '\n' ++ front, fun rest => ?_⟩
    have htext : (unlines (line :: others) ++ rest).toList =
        line.toList ++ '\n' :: (unlines others ++ rest).toList := by
      rw [unlines_cons]
      simp
    rw [htext, List.splitOn_append_cons_self, hfront, List.append_assoc]

/-- The lines of a text that follows ended lines come after them. -/
theorem lines_append {text : String} (h : IsEnded text) (rest : String) :
    lines (text ++ rest) = lines text ++ lines rest := by
  obtain ⟨front, hfront⟩ := h.exists_splitOn
  have hself := hfront ""
  rw [String.append_empty] at hself
  have hne : rest.toList.splitOn '\n' ≠ [] := List.splitOn_ne_nil _ _
  simp only [lines, hfront rest, hself, List.dropLast_append_of_ne_nil hne,
    List.getLast?_append_of_ne_nil _ hne]
  simp

/-- A line that is written is read back. -/
theorem lines_line {line : String} (h : IsLine line) : lines (line ++ "\n") = [line] := by
  have hsplit : (line ++ "\n").toList.splitOn '\n' = [line.toList, []] := by
    rw [String.toList_append]
    exact List.splitOn_append_cons_self_of_not_mem h.1 []
  have hended : dropReturn line.toList = line.toList := if_neg h.2
  simp only [lines, hsplit]
  simp [hended]

/-- Lines that are written one after another are read back. -/
theorem lines_unlines {ls : List String} (h : ∀ line ∈ ls, IsLine line) :
    lines (unlines ls) = ls := by
  induction ls with
  | nil => rfl
  | cons line rest ih =>
    obtain ⟨hline, hrest⟩ := List.forall_mem_cons.1 h
    have hended : IsEnded (line ++ "\n") := ⟨[line], by simp [unlines]⟩
    rw [unlines_cons, lines_append hended, lines_line hline, ih hrest]
    rfl

end Text

namespace Row

/-! ## Fields -/

theorem render_cons (field : String) (rest : List String) :
    render (field :: rest) = renderField field ++ render rest := by
  simp [render]

theorem render_append (front rest : List String) :
    render (front ++ rest) = render front ++ render rest := by
  simp [render]

theorem toList_renderField (field : String) :
    (renderField field).toList = field.toList ++ [separator] := by
  simp [renderField]

/-- A row that ends with a separator is its fields with separators between them, and one more. -/
theorem toList_render {fields : List String} (hne : fields ≠ []) :
    (render fields).toList =
      [separator].intercalate (fields.map String.toList) ++ [separator] := by
  induction fields with
  | nil => exact absurd rfl hne
  | cons field rest ih =>
    rw [render_cons, String.toList_append, toList_renderField]
    cases rest with
    | nil => simp [render, List.intercalate]
    | cons next rest =>
      rw [ih (List.cons_ne_nil _ _)]
      simp [List.intercalate]

theorem body_render {fields : List String} (hne : fields ≠ []) :
    body (render fields).toList = [separator].intercalate (fields.map String.toList) := by
  rw [toList_render hne]
  simp [body]

/-- The fields of a row are read back. -/
theorem parse_render {fields : List String} (hne : fields ≠ [])
    (hfree : ∀ field ∈ fields, separator ∉ field.toList) : parse (render fields) = fields := by
  rw [parse, body_render hne, pieces, List.splitOn_intercalate _ (by simpa using hfree) (by simpa)]
  simp [Function.comp_def]

/-- A row that has a field for each column, or more, is read back. -/
theorem parsePadded_render {fields : List String} {width : Nat} (hne : fields ≠ [])
    (hfree : ∀ field ∈ fields, separator ∉ field.toList) (hwidth : width ≤ fields.length) :
    parsePadded (render fields) width = fields := by
  simp [parsePadded, parse_render hne hfree, Nat.sub_eq_zero_of_le hwidth]

theorem render_ne_empty {fields : List String} (hne : fields ≠ []) : render fields ≠ "" := by
  intro h
  have hlist := toList_render hne
  rw [h] at hlist
  simp at hlist

/-- The pieces of a text hold its characters except the separator. -/
theorem mem_of_mem_splitOn {separator : Char} {text piece : List Char} {c : Char}
    (hpiece : piece ∈ text.splitOn separator) (hc : c ∈ piece) : c ∈ text ∧ c ≠ separator := by
  induction text generalizing piece with
  | nil =>
    obtain rfl : piece = [] := by simpa using hpiece
    simp at hc
  | cons first rest ih =>
    rw [List.splitOn_cons_eq_if_modifyHead] at hpiece
    split at hpiece
    · next heq =>
      rcases List.mem_cons.1 hpiece with rfl | hrest
      · simp at hc
      · exact (ih hrest hc).imp_left (List.mem_cons_of_mem _)
    · next hne =>
      cases hsplit : rest.splitOn separator with
      | nil => simp [hsplit] at hpiece
      | cons head tail =>
        rw [hsplit, List.modifyHead_cons] at hpiece
        rcases List.mem_cons.1 hpiece with rfl | htail
        · rcases List.mem_cons.1 hc with rfl | hhead
          · exact ⟨List.mem_cons_self, by simpa using hne⟩
          · exact (ih (hsplit ▸ List.mem_cons_self) hhead).imp_left (List.mem_cons_of_mem _)
        · exact (ih (hsplit ▸ List.mem_cons_of_mem _ htail) hc).imp_left (List.mem_cons_of_mem _)

theorem parse_ne_nil (line : String) : parse line ≠ [] := by
  simp [parse, pieces]

/-- Whether a text is read back as a field: neither a separator nor a line feed divides it. -/
def IsUnbroken (field : String) : Prop := separator ∉ field.toList ∧ '\n' ∉ field.toList

instance (field : String) : Decidable (IsUnbroken field) := inferInstanceAs (Decidable (_ ∧ _))

/-- A row is read back as one line, whatever its last field is. -/
theorem isLine_render {fields : List String} (hne : fields ≠ [])
    (hfree : ∀ field ∈ fields, '\n' ∉ field.toList) : Text.IsLine (render fields) := by
  constructor
  · rw [render, String.toList_join, List.mem_flatMap]
    rintro ⟨piece, hpiece, hmem⟩
    obtain ⟨field, hfield, rfl⟩ := List.mem_map.1 hpiece
    rw [toList_renderField, List.mem_append, List.mem_singleton] at hmem
    rcases hmem with hmem | hmem
    · exact hfree field hfield hmem
    · exact absurd hmem (by decide)
  · rw [toList_render hne, List.getLast?_concat]
    decide

/-- The value of a column is one of the values of the request, or empty. -/
theorem valueOf_mem_or (columns values : List String) (column : String) :
    valueOf columns values column ∈ values ∨ valueOf columns values column = "" := by
  unfold valueOf
  cases hvalue : (columns.idxOf? column).bind (values[·]?) with
  | none => exact Or.inr rfl
  | some value =>
    obtain ⟨i, -, hi⟩ := Option.bind_eq_some_iff.1 hvalue
    exact Or.inl (List.mem_of_getElem? hi)

/-! ## Pairs -/

theorem pairUp_flatten (pairs : List (String × String)) : pairUp (flatten pairs) = pairs := by
  induction pairs with
  | nil => rfl
  | cons pair rest ih =>
    show pairUp (pair.1 :: pair.2 :: flatten rest) = _
    rw [pairUp, ih]

theorem mem_flatten {pairs : List (String × String)} {field : String} :
    field ∈ flatten pairs ↔ ∃ pair ∈ pairs, field = pair.1 ∨ field = pair.2 := by
  simp [flatten]

theorem flatten_ne_nil {pairs : List (String × String)} (hne : pairs ≠ []) :
    flatten pairs ≠ [] := by
  cases pairs with
  | nil => exact absurd rfl hne
  | cons pair rest => exact List.cons_ne_nil _ _

theorem even_length_flatten (pairs : List (String × String)) : Even (flatten pairs).length := by
  refine ⟨pairs.length, ?_⟩
  simp [flatten]
  omega

/-- An even number of fields are the fields of pairs. -/
theorem flatten_pairUp {fields : List String} (h : Even fields.length) :
    flatten (pairUp fields) = fields := by
  induction fields using pairUp.induct with
  | case1 => rfl
  | case2 key => exact absurd h Nat.not_even_one
  | case3 key value rest ih =>
    have hrest : Even rest.length := by
      obtain ⟨half, hhalf⟩ := h
      simp only [List.length_cons] at hhalf
      exact ⟨half - 1, by omega⟩
    show key :: value :: flatten (pairUp rest) = _
    rw [ih hrest]

/-- The pairs of a row are read back. -/
theorem parsePairs_renderPairs {pairs : List (String × String)} (hne : pairs ≠ [])
    (hfree : ∀ field ∈ flatten pairs, separator ∉ field.toList) :
    parsePairs (renderPairs pairs) = pairs := by
  rw [parsePairs, renderPairs, parse_render (flatten_ne_nil hne) hfree, pairUp_flatten]

/-! ## Positions -/

/-- The positions of the elements with a property, in ascending order. -/
def positionsOf {α : Type} (p : α → Bool) (xs : List α) : List Nat :=
  (xs.zipIdx.filter fun x => p x.1).map Prod.snd

theorem matching_eq_positionsOf (columns : Option (List String)) (condition : Predicate)
    (rows : List String) :
    matching columns condition rows = positionsOf (satisfies columns condition) rows := rfl

section

variable {α : Type} {p : α → Bool} {xs : List α}

theorem mem_positionsOf {i : Nat} : i ∈ positionsOf p xs ↔ ∃ x, xs[i]? = some x ∧ p x := by
  simp [positionsOf, List.mem_zipIdx_iff_getElem?]

theorem lt_length_of_mem_positionsOf {i : Nat} (h : i ∈ positionsOf p xs) : i < xs.length := by
  obtain ⟨x, hx, -⟩ := mem_positionsOf.1 h
  exact (List.getElem?_eq_some_iff.1 hx).1

/-- The positions are in ascending order, and none is there twice. -/
theorem positionsOf_pairwise (p : α → Bool) (xs : List α) :
    (positionsOf p xs).Pairwise (· < ·) := by
  have hindices : (xs.zipIdx.map Prod.snd).Pairwise (· < ·) := by
    rw [List.zipIdx_map_snd]
    exact List.pairwise_lt_range'
  exact hindices.sublist (List.filter_sublist.map _)

/-- All positions with a property are positions in the list. -/
theorem filter_positionsOf (p : α → Bool) (xs : List α) :
    (positionsOf p xs).filter (· < xs.length) = positionsOf p xs :=
  List.filter_eq_self.2 fun _ hposition => decide_eq_true (lt_length_of_mem_positionsOf hposition)

/-- No position has the property only if no element has it. -/
theorem positionsOf_eq_nil : positionsOf p xs = [] ↔ ∀ x ∈ xs, p x = false := by
  rw [List.eq_nil_iff_forall_not_mem]
  constructor
  · intro h x hx
    obtain ⟨i, hi⟩ := List.mem_iff_getElem?.1 hx
    by_contra hp
    exact h i (mem_positionsOf.2 ⟨x, hi, by simpa using hp⟩)
  · intro h i hi
    obtain ⟨x, hx, hp⟩ := mem_positionsOf.1 hi
    exact absurd hp (by simp [h x (List.mem_of_getElem? hx)])

theorem positionsOf_map {β : Type} {p : β → Bool} (f : α → β) (xs : List α) :
    positionsOf p (xs.map f) = positionsOf (fun x => p (f x)) xs := by
  simp [positionsOf, List.zipIdx_map, List.filter_map, Function.comp_def]

theorem positionsOf_congr {q : α → Bool} (h : ∀ x ∈ xs, p x = q x) :
    positionsOf p xs = positionsOf q xs := by
  unfold positionsOf
  congr 1
  refine List.filter_congr fun x hx => h x.1 ?_
  exact List.mem_of_getElem? (List.mem_zipIdx_iff_getElem?.1 hx)

/-- An assignment at the positions with a property is made in the rows with the property. -/
theorem assignAt_positionsOf (columns : Option (List String))
    (assignments : List (String × String)) (f : α → String) :
    assignAt columns assignments (positionsOf p xs) (xs.map f) =
      xs.map fun x => if p x then assign columns assignments (f x) else f x := by
  refine List.ext_getElem? fun i => ?_
  rw [assignAt, List.getElem?_mapIdx, List.getElem?_map, List.getElem?_map]
  cases hx : xs[i]? with
  | none => rfl
  | some x =>
    have hmem : i ∈ positionsOf p xs ↔ p x := by simp [mem_positionsOf, hx]
    simp [hmem]

/-- A removal at the positions with a property leaves the rows without the property. -/
theorem removeAt_positionsOf (f : α → String) :
    removeAt (positionsOf p xs) (xs.map f) = (xs.filter fun x => !p x).map f := by
  have hkeep : (xs.zipIdx.filter fun x => x.2 ∉ positionsOf p xs) =
      xs.zipIdx.filter fun x => !p x.1 := by
    refine List.filter_congr fun x hx => ?_
    have hx := List.mem_zipIdx_iff_getElem?.1 hx
    simp [mem_positionsOf, hx]
  have hfst : (xs.zipIdx.filter fun x => !p x.1).map Prod.fst = xs.filter fun x => !p x := by
    conv_rhs => rw [← List.zipIdx_map_fst 0 xs, List.filter_map]
    rfl
  rw [removeAt, List.zipIdx_map, List.filter_map, ← hfst, ← hkeep]
  simp [Function.comp_def]

theorem assignAt_nil (columns : Option (List String)) (assignments : List (String × String))
    (rows : List String) : assignAt columns assignments [] rows = rows := by
  refine List.ext_getElem? fun i => ?_
  simp [assignAt]

theorem removeAt_nil (rows : List String) : removeAt [] rows = rows := by
  have hall : (rows.zipIdx.filter fun row => row.2 ∉ ([] : List Nat)) = rows.zipIdx :=
    List.filter_eq_self.2 (by simp)
  rw [removeAt, hall, List.zipIdx_map_fst]

/-- Of different positions, as many are removed as are there. -/
theorem length_removeAt {positions : List Nat} (hnodup : positions.Nodup) (rows : List String) :
    rows.length - (removeAt positions rows).length =
      (positions.filter (· < rows.length)).length := by
  have hsplit := List.length_eq_length_filter_add (l := rows.zipIdx)
    (fun row => decide (row.2 ∈ positions))
  have hperm : ((rows.zipIdx.filter fun row => row.2 ∈ positions).map Prod.snd).Perm
      (positions.filter (· < rows.length)) := by
    rw [List.perm_ext_iff_of_nodup ?_ (hnodup.filter _)]
    · intro i
      have hthere : (∃ row, rows[i]? = some row) ↔ i < rows.length :=
        ⟨fun ⟨_, hrow⟩ => (List.getElem?_eq_some_iff.1 hrow).1,
          fun hi => ⟨rows[i], List.getElem?_eq_getElem hi⟩⟩
      simp [List.mem_zipIdx_iff_getElem?, hthere, and_comm]
    · have hindices : (rows.zipIdx.map Prod.snd).Nodup := by
        rw [List.zipIdx_map_snd]
        exact List.nodup_range'
      exact hindices.sublist (List.filter_sublist.map _)
  have hlength := hperm.length_eq
  rw [List.length_map] at hlength
  have hkept : (removeAt positions rows).length =
      (rows.zipIdx.filter fun row => !decide (row.2 ∈ positions)).length := by
    simp [removeAt]
  rw [List.length_zipIdx] at hsplit
  omega

end

end Row

end TableStore
