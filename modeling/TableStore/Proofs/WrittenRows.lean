import Mathlib.Data.Set.Function
import TableStore.Proofs.Rows

/-!
# Rows and their parts

A row is written as one text, and the text is taken apart at every access.  Neither way loses
anything: a text that ends with a separator is the row of exactly one list of fields, and an even
number of separators makes it the row of exactly one list of pairs.

* Fields.  `parse_render` reads back what was written.  `render_parse` writes again what was read
  from any line; only the separator at its end may be new.
* Pairs.  The separators of a row are counted by its fields (`count_render`), so rows of pairs are
  the rows with an even number of separators.
* `parts_correspond` puts the two ways together.

Empty fields are where this could go wrong.  The empty list has no row of its own, because the
empty text is read as one empty field; that is why all lists here have an element.
-/

namespace TableStore.Row

/-- Whether fields can be told apart in a text: there is one at least, and no separator is in any of
them. -/
def AreFields (fields : List String) : Prop :=
  fields ≠ [] ∧ ∀ field ∈ fields, separator ∉ field.toList

instance (fields : List String) : Decidable (AreFields fields) :=
  inferInstanceAs (Decidable (_ ∧ _))

/-- Whether pairs can be told apart in a text. -/
def ArePairs (pairs : List (String × String)) : Prop :=
  pairs ≠ [] ∧ ∀ pair ∈ pairs, separator ∉ pair.1.toList ∧ separator ∉ pair.2.toList

instance (pairs : List (String × String)) : Decidable (ArePairs pairs) :=
  inferInstanceAs (Decidable (_ ∧ _))

/-- Whether a line ends with a separator. -/
def IsClosed (line : String) : Prop := line.toList.getLast? = some separator

instance (line : String) : Decidable (IsClosed line) := inferInstanceAs (Decidable (_ = _))

/-- Whether a line ends with a separator and has an even number of them. -/
def IsPaired (line : String) : Prop := IsClosed line ∧ Even (line.toList.count separator)

/-! ## Fields -/

theorem isClosed_render {fields : List String} (hne : fields ≠ []) : IsClosed (render fields) := by
  rw [IsClosed, toList_render hne, List.getLast?_concat]

/-- Whatever a line is, what is read from it can be told apart. -/
theorem areFields_parse (line : String) : AreFields (parse line) := by
  refine ⟨parse_ne_nil line, fun field hfield hmem => ?_⟩
  obtain ⟨piece, hpiece, rfl⟩ := List.mem_map.1 hfield
  rw [String.toList_ofList] at hmem
  exact (mem_of_mem_splitOn hpiece hmem).2 rfl

/-- The fields of a line with separators between them are the line without a last separator. -/
theorem intercalate_parse (line : String) :
    [separator].intercalate ((parse line).map String.toList) = body line.toList := by
  rw [parse, pieces, List.map_map]
  have hid : String.toList ∘ String.ofList = id := funext fun _ => String.toList_ofList
  rw [hid, List.map_id, List.intercalate_splitOn]

/-- The fields of a line make the line again, with a separator at its end. -/
theorem render_parse (line : String) :
    render (parse line) = if IsClosed line then line else line.push separator := by
  apply String.toList_injective
  rw [toList_render (parse_ne_nil line), intercalate_parse]
  by_cases hclosed : IsClosed line
  · have hlast : line.toList.getLast? = some separator := hclosed
    rw [if_pos hclosed, body, if_pos hlast]
    exact List.dropLast_append_getLast? separator hlast
  · have hlast : ¬ line.toList.getLast? = some separator := hclosed
    rw [if_neg hclosed, body, if_neg hlast, String.toList_push]

theorem render_parse_of_isClosed {line : String} (h : IsClosed line) :
    render (parse line) = line := by
  rw [render_parse, if_pos h]

/-! ## Pairs -/

theorem areFields_flatten {pairs : List (String × String)} (h : ArePairs pairs) :
    AreFields (flatten pairs) := by
  refine ⟨flatten_ne_nil h.1, fun field hfield => ?_⟩
  obtain ⟨pair, hpair, rfl | rfl⟩ := mem_flatten.1 hfield
  · exact (h.2 pair hpair).1
  · exact (h.2 pair hpair).2

/-- The parts of pairs are fields, and no others. -/
theorem arePairs_pairUp {fields : List String} (h : AreFields fields) (heven : Even fields.length) :
    ArePairs (pairUp fields) := by
  have hflatten := flatten_pairUp heven
  constructor
  · intro hnil
    rw [hnil] at hflatten
    exact h.1 hflatten.symm
  · intro pair hpair
    have hparts : ∀ field, field = pair.1 ∨ field = pair.2 → field ∈ fields := by
      intro field hfield
      rw [← hflatten]
      exact mem_flatten.2 ⟨pair, hpair, hfield⟩
    exact ⟨h.2 _ (hparts _ (Or.inl rfl)), h.2 _ (hparts _ (Or.inr rfl))⟩

/-- A row has as many separators as fields. -/
theorem count_render {fields : List String} (h : ∀ field ∈ fields, separator ∉ field.toList) :
    (render fields).toList.count separator = fields.length := by
  induction fields with
  | nil => rfl
  | cons field rest ih =>
    obtain ⟨hfield, hrest⟩ := List.forall_mem_cons.1 h
    rw [render_cons, String.toList_append, List.count_append, toList_renderField,
      List.count_append, List.count_eq_zero.2 hfield, ih hrest, List.count_singleton_self,
      List.length_cons]
    omega

/-- A line that is closed has as many fields as separators. -/
theorem length_parse {line : String} (h : IsClosed line) :
    (parse line).length = line.toList.count separator := by
  have hcount := count_render (areFields_parse line).2
  rw [render_parse_of_isClosed h] at hcount
  exact hcount.symm

theorem isPaired_renderPairs {pairs : List (String × String)} (h : ArePairs pairs) :
    IsPaired (renderPairs pairs) := by
  refine ⟨isClosed_render (flatten_ne_nil h.1), ?_⟩
  rw [renderPairs, count_render (areFields_flatten h).2]
  exact even_length_flatten pairs

theorem arePairs_parsePairs {line : String} (h : IsPaired line) : ArePairs (parsePairs line) := by
  have heven : Even (parse line).length := length_parse h.1 ▸ h.2
  exact arePairs_pairUp (areFields_parse line) heven

/-- The pairs of a line make the line again. -/
theorem renderPairs_parsePairs {line : String} (h : IsPaired line) :
    renderPairs (parsePairs line) = line := by
  have heven : Even (parse line).length := length_parse h.1 ▸ h.2
  rw [renderPairs, parsePairs, flatten_pairUp heven, render_parse_of_isClosed h.1]

/-! ## Headers -/

/-- The columns of a header are read back. -/
theorem parseHeader_renderHeader {columns : List String} (h : AreFields columns) :
    parseHeader (renderHeader columns) = columns := by
  have hlist : (renderHeader columns).toList =
      [separator].intercalate (columns.map String.toList) := String.toList_intercalate
  rw [parseHeader, pieces, hlist,
    List.splitOn_intercalate separator (by simpa using h.2) (by simpa using h.1)]
  simp [Function.comp_def]

/-! ## Both ways -/

/-- **A row is its fields, and a row of pairs is its pairs.**  Writing and reading are inverse to
each other between lists whose parts can be told apart and lines that end with a separator, and
every line is read as the fields of such a line. -/
theorem parts_correspond :
    (∀ fields, AreFields fields → parse (render fields) = fields) ∧
    (∀ line, render (parse line) = if IsClosed line then line else line.push separator) ∧
    Set.BijOn render {fields | AreFields fields} {line | IsClosed line} ∧
    Set.BijOn parse {line | IsClosed line} {fields | AreFields fields} ∧
    Set.InvOn parse render {fields | AreFields fields} {line | IsClosed line} ∧
    Set.BijOn renderPairs {pairs | ArePairs pairs} {line | IsPaired line} ∧
    Set.BijOn parsePairs {line | IsPaired line} {pairs | ArePairs pairs} ∧
    Set.InvOn parsePairs renderPairs {pairs | ArePairs pairs} {line | IsPaired line} ∧
    (∀ columns, AreFields columns → parseHeader (renderHeader columns) = columns) := by
  have hfields : Set.InvOn parse render {fields | AreFields fields} {line | IsClosed line} := by
    constructor
    · intro fields hfields
      exact parse_render hfields.1 hfields.2
    · intro line hline
      exact render_parse_of_isClosed hline
  have hpairs :
      Set.InvOn parsePairs renderPairs {pairs | ArePairs pairs} {line | IsPaired line} := by
    constructor
    · intro pairs hpairs
      exact parsePairs_renderPairs hpairs.1 (areFields_flatten hpairs).2
    · intro line hline
      exact renderPairs_parsePairs hline
  have hrender : Set.MapsTo render {fields | AreFields fields} {line | IsClosed line} :=
    fun fields hfields => isClosed_render hfields.1
  have hparse : Set.MapsTo parse {line | IsClosed line} {fields | AreFields fields} :=
    fun line _ => areFields_parse line
  have hrenderPairs : Set.MapsTo renderPairs {pairs | ArePairs pairs} {line | IsPaired line} :=
    fun pairs hpairs => isPaired_renderPairs hpairs
  have hparsePairs : Set.MapsTo parsePairs {line | IsPaired line} {pairs | ArePairs pairs} :=
    fun line hline => arePairs_parsePairs hline
  refine ⟨fun fields h => hfields.1 h, render_parse, hfields.bijOn hrender hparse,
    hfields.symm.bijOn hparse hrender, hfields, hpairs.bijOn hrenderPairs hparsePairs,
    hpairs.symm.bijOn hparsePairs hrenderPairs, hpairs, fun columns h => ?_⟩
  exact parseHeader_renderHeader h

/-- Empty fields at any place are told apart. -/
theorem parts_correspond_blanks :
    (AreFields ["", "Ida", "", ""] ∧
      parse (render ["", "Ida", "", ""]) = ["", "Ida", "", ""]) ∧
    (ArePairs [("", "Ida"), ("", "")] ∧
      parsePairs (renderPairs [("", "Ida"), ("", "")]) = [("", "Ida"), ("", "")]) ∧
    (AreFields [""] ∧ parseHeader (renderHeader [""]) = [""]) := by
  obtain ⟨hfields, -, -, -, -, -, -, hpairs, hcolumns⟩ := parts_correspond
  have hrow : AreFields ["", "Ida", "", ""] := by decide
  have hpair : ArePairs [("", "Ida"), ("", "")] := by decide
  have hheader : AreFields [""] := by decide
  exact ⟨⟨hrow, hfields _ hrow⟩, ⟨hpair, hpairs.1 hpair⟩, hheader, hcolumns _ hheader⟩

/-- A line of separators alone is as many empty fields. -/
example : parse ",,," = ["", "", ""] ∧ render ["", "", ""] = ",,," := by decide

end TableStore.Row
