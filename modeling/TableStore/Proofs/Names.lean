import TableStore.Proofs.Stores

/-!
# Names of replicas and of files

The text of a replica's identity joins four parts with hyphens, and the name of the table may hold
hyphens itself.  Read from its end the text still has one meaning, because decimal numbers and the
names of kinds hold none (`text_injective`).  Where the table's name is valid, the text is a single
part of a path, and its file is neither the file of another replica nor anybody's temporary file,
because the name of a temporary file has more hyphens (`fileName_ne_scratchName`).  Nor do two
replicas have the same temporary file (`names_disjoint`).  `names_do_not_collide` sums this up.
-/

namespace TableStore

open TableStore.Path (IsName)

/-! ## Decimal numbers -/

theorem hyphen_notMem_toString (n : Nat) : '-' ∉ (toString n).toList := by
  rw [Nat.toString_eq_repr, Nat.toList_repr]
  intro h
  exact absurd (Nat.isDigit_of_mem_toDigits (by decide) (by decide) h) (by decide)

theorem toString_nat_injective {m n : Nat} (h : toString m = toString n) : m = n := by
  rw [Nat.toString_eq_repr, Nat.toString_eq_repr, Nat.repr_eq_ofList_toDigits,
    Nat.repr_eq_ofList_toDigits, String.ofList_inj] at h
  rw [← Nat.ofDigitChars_ten_toDigits (n := m), h, Nat.ofDigitChars_ten_toDigits]

/-- What stands before and behind the last occurrence of an element. -/
theorem append_cons_inj_of_notMem_right {α : Type} {c : α} {a b x y : List α} (hx : c ∉ x)
    (hy : c ∉ y) (h : a ++ c :: x = b ++ c :: y) : a = b ∧ x = y := by
  rcases List.append_eq_append_iff.1 h with ⟨rest, hb, hrest⟩ | ⟨rest, ha, hrest⟩
  · cases rest with
    | nil => simp_all
    | cons z rest =>
      obtain ⟨-, rfl⟩ := List.cons.inj hrest
      exact absurd (by simp) hx
  · cases rest with
    | nil => simp_all
    | cons z rest =>
      obtain ⟨-, rfl⟩ := List.cons.inj hrest
      exact absurd (by simp) hy

namespace ReplicaId

/-! ## The text of an identity -/

theorem toList_tableKey (name : String) (kind : TableKind) :
    (tableKey name kind).toList = name.toList ++ '-' :: kind.text.toList := by
  rw [tableKey, String.toList_append, String.toList_append, List.append_assoc]
  rfl

theorem toList_text (id : ReplicaId) :
    id.text.toList =
      ((tableKey id.table id.kind).toList ++ '-' :: (toString id.partition).toList) ++
      '-' :: (toString id.replica).toList := by
  simp only [text, String.toList_append, List.append_assoc]
  rfl

theorem hyphen_notMem_kind (kind : TableKind) : '-' ∉ kind.text.toList := by
  cases kind <;> decide

theorem tableKey_injective {name name' : String} {kind kind' : TableKind}
    (h : tableKey name kind = tableKey name' kind') : name = name' ∧ kind = kind' := by
  have hlist := congrArg String.toList h
  rw [toList_tableKey, toList_tableKey] at hlist
  obtain ⟨hname, hkind⟩ := append_cons_inj_of_notMem_right (hyphen_notMem_kind _)
    (hyphen_notMem_kind _) hlist
  refine ⟨String.toList_inj.1 hname, ?_⟩
  have htext := congrArg TableKind.ofText? (String.toList_inj.1 hkind)
  simpa using htext

/-- Two identities with the same text are the same. -/
theorem text_injective {id id' : ReplicaId} (h : id.text = id'.text) : id = id' := by
  have hlist := congrArg String.toList h
  rw [toList_text, toList_text] at hlist
  obtain ⟨hfront, hreplica⟩ := append_cons_inj_of_notMem_right (hyphen_notMem_toString _)
    (hyphen_notMem_toString _) hlist
  obtain ⟨hkey, hpartition⟩ := append_cons_inj_of_notMem_right (hyphen_notMem_toString _)
    (hyphen_notMem_toString _) hfront
  obtain ⟨hname, hkind⟩ := tableKey_injective (String.toList_inj.1 hkey)
  have hp := toString_nat_injective (String.toList_inj.1 hpartition)
  have hr := toString_nat_injective (String.toList_inj.1 hreplica)
  cases id
  cases id'
  simp_all

/-- Whether the name of the replica's table is valid. -/
def IsValid (id : ReplicaId) : Prop := ∀ c ∈ id.table.toList, TableDef.isNameChar c = true

theorem isValid_of_hasValidName {table : TableDef} (h : table.hasValidName)
    (partition replica : Nat) :
    (ofTable table partition replica).IsValid := by
  simp only [TableDef.hasValidName, Bool.and_eq_true, List.all_eq_true] at h
  exact h.2

/-- The text of a replica's identity holds nothing but letters, digits, `_` and hyphens. -/
theorem mem_text {id : ReplicaId} (h : id.IsValid) {c : Char} (hc : c ∈ id.text.toList) :
    TableDef.isNameChar c = true ∨ c = '-' := by
  have hdigit : ∀ n : Nat, c ∈ (toString n).toList → TableDef.isNameChar c = true := by
    intro n hn
    rw [Nat.toString_eq_repr, Nat.toList_repr] at hn
    have hdigit := Nat.isDigit_of_mem_toDigits (by decide) (by decide) hn
    simp [TableDef.isNameChar, Char.isAlphanum, hdigit]
  have hkind : ∀ kind : TableKind, ∀ c ∈ kind.text.toList, TableDef.isNameChar c = true := by
    intro kind
    rw [← List.all_eq_true]
    cases kind <;> decide
  rw [toList_text, toList_tableKey] at hc
  simp only [List.mem_append, List.mem_cons] at hc
  rcases hc with ((hc | rfl | hc) | rfl | hc) | rfl | hc
  · exact Or.inl (h c hc)
  · exact Or.inr rfl
  · exact Or.inl (hkind _ _ hc)
  · exact Or.inr rfl
  · exact Or.inl (hdigit _ hc)
  · exact Or.inr rfl
  · exact Or.inl (hdigit _ hc)

/-- The name under which the table of a replica is registered. -/
def key (id : ReplicaId) : String := tableKey id.table id.kind

theorem key_ofTable (table : TableDef) (partition replica : Nat) :
    (ofTable table partition replica).key = table.key := rfl

/-! ## The name of a replica's file -/

theorem fileName_injective {id id' : ReplicaId} (h : id.fileName = id'.fileName) : id = id' := by
  simp only [fileName, String.append_left_inj] at h
  exact text_injective h

theorem isName_fileName (id : ReplicaId) : IsName id.fileName := by
  have hlength : id.fileName.length = id.text.length + 4 := String.length_append _ _
  refine ⟨fun h => ?_, fun h => ?_, fun h => ?_⟩ <;> rw [h] at hlength
  · have : "".length = 0 := rfl
    omega
  · have : ".".length = 1 := rfl
    omega
  · have : "..".length = 2 := rfl
    omega

theorem slash_notMem_fileName {id : ReplicaId} (h : id.IsValid) : '/' ∉ id.fileName.toList := by
  rw [fileName, String.toList_append, List.mem_append]
  rintro (hc | hc)
  · rcases mem_text h hc with hname | hhyphen
    · exact absurd hname (by decide)
    · exact absurd hhyphen (by decide)
  · exact absurd hc (by decide)

/-- The name of a replica's file is a path of one part. -/
theorem ofText_fileName {id : ReplicaId} (h : id.IsValid) :
    Path.ofText id.fileName = [id.fileName] := by
  rw [Path.ofText, List.splitOn_eq_singleton (slash_notMem_fileName h)]
  simp

/-- A replica's file lies in the directory of all files, under its own name. -/
theorem getLast?_join_fileName {id : ReplicaId} (h : id.IsValid) (dataDir : Path) :
    (dataDir.join (Path.ofText id.fileName)).getLast? = some id.fileName := by
  rw [ofText_fileName h]
  exact RecordStore.getLast?_join

/-- There are three hyphens in the name of a replica's file. -/
theorem count_hyphen_fileName {id : ReplicaId} (h : id.IsValid) :
    id.fileName.toList.count '-' = 3 := by
  have hnone : ∀ {cs : List Char}, '-' ∉ cs → cs.count '-' = 0 := List.count_eq_zero.2
  have htable : '-' ∉ id.table.toList := fun hc => absurd (h _ hc) (by decide)
  have hend : '-' ∉ ".csv".toList := by decide
  rw [fileName, String.toList_append, toList_text, toList_tableKey]
  simp only [List.count_append, List.count_cons_self, hnone htable, hnone hend,
    hnone (hyphen_notMem_kind _), hnone (hyphen_notMem_toString _)]

/-- The names under which calls on a replica write. -/
def names (id : ReplicaId) (scratch : Uuid) : List String :=
  [id.fileName, RecordStore.scratchName scratch id.fileName]

/-- There are more hyphens in the name of a temporary file, whatever file it is for. -/
theorem lt_count_hyphen_scratchName (scratch : Uuid) (name : String) :
    3 < (RecordStore.scratchName scratch name).toList.count '-' := by
  have htext : 4 ≤ scratch.text.toList.count '-' := by
    obtain ⟨i, j, k, l, m, hgroups⟩ := Uuid.groups_eq scratch.bits.toNat
    rw [Uuid.text, hgroups, String.toList_ofList]
    simp [List.intercalate, List.count_append]
    omega
  have htemp : "temp-".toList.count '-' = 1 := by decide
  simp only [RecordStore.scratchName, String.toList_append, List.count_append]
  omega

/-- The file of a replica is nobody's temporary file. -/
theorem fileName_ne_scratchName {id : ReplicaId} (h : id.IsValid) (scratch : Uuid)
    (name : String) : id.fileName ≠ RecordStore.scratchName scratch name := by
  intro heq
  have hlt := lt_count_hyphen_scratchName scratch name
  rw [← heq, count_hyphen_fileName h] at hlt
  exact absurd hlt (Nat.lt_irrefl 3)

/-- Calls on a replica do not write to the file of another. -/
theorem fileName_notMem_names {id id' : ReplicaId} (h : id.IsValid) (hne : id ≠ id')
    (scratch : Uuid) : id.fileName ∉ id'.names scratch := by
  intro hmem
  rcases List.mem_cons.1 hmem with heq | hmem
  · exact hne (fileName_injective heq)
  · exact fileName_ne_scratchName h scratch _ (List.mem_singleton.1 hmem)

/-- Calls on different replicas write under different names. -/
theorem names_disjoint {id id' : ReplicaId} (h : id.IsValid) (h' : id'.IsValid) (hne : id ≠ id')
    (scratch : Uuid) {name : String} (hname : name ∈ id.names scratch) :
    name ∉ id'.names scratch := by
  rcases List.mem_cons.1 hname with rfl | hname
  · exact fileName_notMem_names h hne scratch
  · rw [List.mem_singleton.1 hname]
    intro hmem
    rcases List.mem_cons.1 hmem with heq | hmem
    · exact fileName_ne_scratchName h' scratch _ heq.symm
    · have hscratch := List.mem_singleton.1 hmem
      simp only [RecordStore.scratchName, String.append_right_inj] at hscratch
      exact hne (fileName_injective hscratch)

/-! ## No collisions -/

theorem key_eq_iff {table table' : TableDef} :
    table.key = table'.key ↔ table.name = table'.name ∧ table.kind = table'.kind := by
  constructor
  · intro h
    exact tableKey_injective h
  · rintro ⟨hname, hkind⟩
    rw [TableDef.key, TableDef.key, hname, hkind]

/-- The temporary file of a store is not the file of a replica, wherever the two are. -/
theorem getLast?_scratchPath_ne {id : ReplicaId} (h : id.IsValid) (store : RecordStore)
    (scratch : Uuid) : (store.scratchPath scratch).getLast? ≠ some id.fileName := by
  rw [RecordStore.scratchPath, Path.sibling, RecordStore.getLast?_join]
  intro heq
  exact fileName_ne_scratchName h scratch _ (Option.some.inj heq).symm

/-- **Names do not collide.**  A replica is known from its text, and a table and its kind from the
name under which it is registered, whatever characters the table's name holds.  If the name is
valid, the file of a replica is a single part of a path, which is neither the file of another
replica nor the temporary file of any store. -/
theorem names_do_not_collide :
    (∀ id id' : ReplicaId, id.text = id'.text ↔ id = id') ∧
    (∀ table table' : TableDef,
      table.key = table'.key ↔ table.name = table'.name ∧ table.kind = table'.kind) ∧
    ∀ (table : TableDef) (partition replica : Nat), table.hasValidName →
      let id := ofTable table partition replica
      Path.ofText id.fileName = [id.fileName] ∧ IsName id.fileName ∧
      (∀ id' : ReplicaId, id'.fileName = id.fileName ↔ id' = id) ∧
      (∀ (scratch : Uuid) (file : String),
        id.fileName ≠ "temp-" ++ scratch.text ++ "-" ++ file) ∧
      ∀ (store : RecordStore) (scratch : Uuid),
        (store.scratchPath scratch).getLast? ≠ some id.fileName := by
  refine ⟨fun id id' => ⟨text_injective, congrArg text⟩, fun _ _ => key_eq_iff, ?_⟩
  intro table partition replica hname id
  have hvalid : id.IsValid := isValid_of_hasValidName hname partition replica
  exact ⟨ofText_fileName hvalid, isName_fileName id,
    fun id' => ⟨fileName_injective, congrArg fileName⟩, fileName_ne_scratchName hvalid,
    getLast?_scratchPath_ne hvalid⟩

/-- Not even a table called `temp` has a file like a temporary one, and a table whose name looks
like the text of a replica is told apart from the replica's. -/
theorem names_do_not_collide_temp :
    ((⟨"temp", .sql, none⟩ : TableDef).hasValidName = true ∧
      ∀ (scratch : Uuid) (file : String),
        "temp-SQL-1-0.csv" ≠ "temp-" ++ scratch.text ++ "-" ++ file) ∧
    (⟨"a-SQL-1", .sql, 0, 2⟩ : ReplicaId).text ≠ (⟨"a", .sql, 1, 2⟩ : ReplicaId).text := by
  have hvalid : (⟨"temp", .sql, none⟩ : TableDef).hasValidName = true := by decide
  obtain ⟨htext, -, hfiles⟩ := names_do_not_collide
  refine ⟨⟨hvalid, (hfiles _ 1 0 hvalid).2.2.2.1⟩, fun heq => ?_⟩
  exact absurd ((htext _ _).1 heq) (by decide)

end ReplicaId

end TableStore
