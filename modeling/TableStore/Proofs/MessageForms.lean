import Mathlib.Data.List.Forall2
import Mathlib.Data.List.Nodup
import Mathlib.Tactic.Common
import TableStore.Json.Record

/-!
# Forms of messages

A sender need not write the fields of a message in their declared order, may add fields that the
receiver does not ask for, and may leave out those that hold what the receiver takes for granted.
A `Form` says what the fields of a message are, and `Varies` relates a document to those that say
the same in another way, at any depth.

* Objects.  `decode_object_eq_ok_iff` says when an object is decoded: all fields are in order and no
  name that is asked for is there twice.  What is built then depends on no more than the documents
  of the fields that are asked for (`known`).
* Records.  `Record.Follows` relates a record to the fields of a form.  It goes through the
  operations that records are made with, so the form of a record can be read off its definition.
* `Record.Follows.steady` is the result: the decoder of a record does not tell the documents apart
  that `Varies` relates.
* `Record.Builds` goes through the same operations, and relates a record to one message that has all
  its fields in their declared order.
-/

namespace TableStore.Json

/-! ## Objects -/

/-- Whether a field of an object is in order: either it is asked for and can be decoded, or nobody
asks for it and it is well-formed. -/
def InOrder (fields : List Field) (given : Option String × Document) : Prop :=
  ∃ name, given.1 = some name ∧
    match fields.find? fun field => field.name = name with
    | none => given.2.isComplete = true
    | some field => field.check given.2 = .ok ()

/-- The name and the document of a field, if it is asked for. -/
def known? (fields : List Field) (given : Option String × Document) : Option (String × Document) :=
  given.1.bind fun name =>
    (fields.find? fun field => field.name = name).map fun _ => (name, given.2)

/-- The fields of an object that are asked for. -/
def known (fields : List Field) (object : List (Option String × Document)) : Given :=
  object.filterMap (known? fields)

section

variable {fields : List Field} {name : String} {field : Field}

theorem known_cons_of_unasked (hfind : (fields.find? fun field => field.name = name) = none)
    (content : Document) (rest : List (Option String × Document)) :
    known fields ((some name, content) :: rest) = known fields rest :=
  List.filterMap_cons_none (by simp [known?, hfind])

theorem known_cons_of_asked (hfind : (fields.find? fun field => field.name = name) = some field)
    (content : Document) (rest : List (Option String × Document)) :
    known fields ((some name, content) :: rest) = (name, content) :: known fields rest :=
  List.filterMap_cons_some (by simp [known?, hfind])

end

/-- A field that is asked for is gathered once, if it can be decoded. -/
theorem gatherFields_cons_eq_ok_iff {fields : List Field} {name : String} {field : Field}
    (hfind : (fields.find? fun field => field.name = name) = some field) {content : Document}
    {rest : List (Option String × Document)} {seen : List String} {given : Given} :
    gatherFields fields seen .closed ((some name, content) :: rest) = .ok given ↔
      name ∉ seen ∧ field.check content = .ok () ∧
        ∃ others, gatherFields fields (name :: seen) .closed rest = .ok others ∧
          given = (name, content) :: others := by
  rw [gatherFields, hfind]
  by_cases hseen : name ∈ seen
  · simp [hseen]
  · cases hcheck : field.check content with
    | error e => simp [hseen, hcheck]
    | ok =>
      cases gatherFields fields (name :: seen) .closed rest <;>
        simp [hseen, hcheck, eq_comm]

/-- What is gathered from an object whose fields are in order. -/
theorem gatherFields_eq_ok_iff {fields : List Field} {object : List (Option String × Document)}
    {seen : List String} {given : Given} :
    gatherFields fields seen .closed object = .ok given ↔
      (∀ field ∈ object, InOrder fields field) ∧
        ((known fields object).map Prod.fst).Nodup ∧
        (∀ name ∈ (known fields object).map Prod.fst, name ∉ seen) ∧
        given = known fields object := by
  -- the names met before grow on the way
  induction object generalizing seen given with
  | nil => simp [gatherFields, known, eq_comm]
  | cons first rest ih =>
    obtain ⟨_ | name, content⟩ := first
    · simp [gatherFields, InOrder]
    · cases hfind : fields.find? fun field => field.name = name with
      | none =>
        cases hcomplete : content.isComplete with
        | false => simp [gatherFields, hfind, hcomplete, InOrder]
        | true =>
          simp [gatherFields, hfind, hcomplete, ih, known_cons_of_unasked hfind, InOrder]
      | some field =>
        have horder : InOrder fields (some name, content) ↔ field.check content = .ok () := by
          simp [InOrder, hfind]
        rw [gatherFields_cons_eq_ok_iff hfind, known_cons_of_asked hfind, List.forall_mem_cons,
          horder]
        simp only [ih, List.map_cons, List.nodup_cons, List.mem_cons, forall_eq_or_imp, not_or]
        constructor
        · rintro ⟨hseen, hcheck, others, ⟨hrest, hnodup, hnames, rfl⟩, rfl⟩
          exact ⟨⟨hcheck, hrest⟩, ⟨fun hmem => (hnames name hmem).1 rfl, hnodup⟩,
            ⟨hseen, fun other hmem => (hnames other hmem).2⟩, rfl⟩
        · rintro ⟨⟨hcheck, hrest⟩, ⟨hnew, hnodup⟩, ⟨hseen, hnames⟩, rfl⟩
          refine ⟨hseen, hcheck, _, ⟨hrest, hnodup, fun other hmem => ?_, rfl⟩, rfl⟩
          exact ⟨fun heq => hnew (heq ▸ hmem), hnames other hmem⟩

/-- An object is decoded if its fields are in order, no name that is asked for is there twice, and
a value can be built from what is asked for. -/
theorem decode_object_eq_ok_iff {α : Type} {record : Record α}
    {object : List (Option String × Document)} {value : α} :
    record.decode (.object object .closed) = .ok value ↔
      (∀ field ∈ object, InOrder record.fields field) ∧
        ((known record.fields object).map Prod.fst).Nodup ∧
        record.build (known record.fields object) = .ok value := by
  have hgather (given : Given) : gatherFields record.fields [] .closed object = .ok given ↔
      (∀ field ∈ object, InOrder record.fields field) ∧
        ((known record.fields object).map Prod.fst).Nodup ∧ given = known record.fields object := by
    simp [gatherFields_eq_ok_iff]
  rw [Record.decode]
  cases hgathered : gatherFields record.fields [] .closed object with
  | error e =>
    have hnot := hgather (known record.fields object)
    rw [hgathered] at hnot
    simp only [reduceCtorEq, and_true, false_iff, not_and] at hnot
    simp only [reduceCtorEq, false_iff, not_and]
    exact fun horder hnodup => absurd hnodup (hnot horder)
  | ok given =>
    obtain ⟨horder, hnodup, rfl⟩ := (hgather given).1 hgathered
    exact ⟨fun hbuild => ⟨horder, hnodup, hbuild⟩, fun h => h.2.2⟩

/-! ## Look-up -/

namespace Given

theorem get?_cons (name : String) (content : Document) (rest : Given) (asked : String) :
    Given.get? ((name, content) :: rest) asked =
      if name = asked then some content else rest.get? asked := by
  unfold get?
  by_cases heq : name = asked <;> simp [heq]

theorem get?_eq_none {given : Given} {name : String} (h : name ∉ given.map Prod.fst) :
    given.get? name = none := by
  rw [get?, Option.map_eq_none_iff, List.find?_eq_none]
  intro field hfield heq
  exact h (List.mem_map.2 ⟨field, hfield, by simpa using heq⟩)

theorem get?_eq_some_iff {given : Given} (hnodup : (given.map Prod.fst).Nodup) {name : String}
    {content : Document} : given.get? name = some content ↔ (name, content) ∈ given := by
  induction given with
  | nil => simp [get?]
  | cons first rest ih =>
    obtain ⟨other, document⟩ := first
    rw [List.map_cons, List.nodup_cons] at hnodup
    rw [get?_cons, List.mem_cons, Prod.mk.injEq]
    by_cases heq : other = name
    · subst heq
      have hnot : (other, content) ∉ rest := fun hmem =>
        hnodup.1 (List.mem_map.2 ⟨_, hmem, rfl⟩)
      simp [hnot, eq_comm]
    · rw [if_neg heq, ih hnodup.2]
      simp [Ne.symm heq]

/-- The order of fields does not matter for look-up. -/
theorem get?_perm {given given' : Given} (hperm : given.Perm given')
    (hnodup : (given.map Prod.fst).Nodup) (name : String) :
    given.get? name = given'.get? name := by
  have hnodup' : (given'.map Prod.fst).Nodup := (hperm.map Prod.fst).nodup_iff.1 hnodup
  refine Option.ext fun content => ?_
  rw [get?_eq_some_iff hnodup, get?_eq_some_iff hnodup', hperm.mem_iff]

end Given

/-! ## Forms -/

/-- A field of a form. -/
structure Part (form : Type) where
  name : String
  form : form
  /-- What a receiver takes for the field if it is left out, if it may be. -/
  absent : Option Json

/-- What is known of the messages of one type: that they are records with certain fields, or
nothing. -/
inductive Form
  | plain
  | record (parts : List (Part Form))

/-- The documents that say the same in another way.  The fields of an object may stand in another
order; there may be others, which no form asks for; fields that hold what is taken for granted may
be missing; and the fields that are there may vary themselves. -/
inductive Varies : Form → Document → Document → Prop
  | refl (form : Form) (document : Document) : Varies form document document
  | trans {form : Form} {first second third : Document} (h : Varies form first second)
      (h' : Varies form second third) : Varies form first third
  | permute (parts : List (Part Form)) {fields fields' : List (Option String × Document)}
      (h : fields.Perm fields') :
      Varies (.record parts) (.object fields .closed) (.object fields' .closed)
  | extend {parts : List (Part Form)} {name : String} {content : Document}
      (fields : List (Option String × Document)) (hname : name ∉ parts.map Part.name)
      (hcontent : content.isComplete = true) :
      Varies (.record parts) (.object fields .closed)
        (.object ((some name, content) :: fields) .closed)
  | leaveOut {parts : List (Part Form)} {part : Part Form} {absent : Json}
      (fields : List (Option String × Document)) (hpart : part ∈ parts)
      (habsent : part.absent = some absent) :
      Varies (.record parts) (.object ((some part.name, absent.toDocument) :: fields) .closed)
        (.object fields .closed)
  | inside {parts : List (Part Form)} {part : Part Form} {content content' : Document}
      (fields : List (Option String × Document)) (hpart : part ∈ parts)
      (h : Varies part.form content content') :
      Varies (.record parts) (.object ((some part.name, content) :: fields) .closed)
        (.object ((some part.name, content') :: fields) .closed)

/-- Documents that vary are objects, if they are not the same. -/
theorem Varies.eq_or_objects {form : Form} {content content' : Document}
    (h : Varies form content content') :
    content = content' ∨
      form ≠ .plain ∧ (∃ fields, content = .object fields .closed) ∧
        ∃ fields, content' = .object fields .closed := by
  induction h with
  | refl => exact Or.inl rfl
  | trans _ _ ih ih' =>
    rcases ih with rfl | ⟨hform, hfirst, hsecond⟩
    · exact ih'
    · rcases ih' with rfl | ⟨-, -, hthird⟩
      · exact Or.inr ⟨hform, hfirst, hsecond⟩
      · exact Or.inr ⟨hform, hfirst, hthird⟩
  | permute => exact Or.inr ⟨by simp, ⟨_, rfl⟩, _, rfl⟩
  | extend => exact Or.inr ⟨by simp, ⟨_, rfl⟩, _, rfl⟩
  | leaveOut => exact Or.inr ⟨by simp, ⟨_, rfl⟩, _, rfl⟩
  | inside => exact Or.inr ⟨by simp, ⟨_, rfl⟩, _, rfl⟩

/-- Whether a decoder does not tell the documents apart that a form lets vary. -/
def Form.Steady {α : Type} (form : Form) (decode : Decoder α) : Prop :=
  ∀ ⦃content content' : Document⦄ ⦃value : α⦄, Varies form content content' →
    decode content = .ok value → decode content' = .ok value

theorem steady_plain {α : Type} (decode : Decoder α) : Form.plain.Steady decode := by
  intro content content' value h hdecode
  rcases h.eq_or_objects with rfl | ⟨hform, -⟩
  · exact hdecode
  · exact absurd rfl hform

theorem Form.Steady.asOption {α : Type} {form : Form} {decode : Decoder α}
    (hsteady : form.Steady decode) : form.Steady (asOption decode) := by
  intro content content' value h hdecode
  rcases h.eq_or_objects with rfl | ⟨-, ⟨fields, rfl⟩, ⟨fields', rfl⟩⟩
  · exact hdecode
  · simp only [Json.asOption] at hdecode ⊢
    cases hread : decode (.object fields .closed) with
    | error e => simp [hread, Except.map] at hdecode
    | ok found => rwa [hsteady h hread, ← hread]

theorem Form.Steady.map {α β : Type} {form : Form} {decode : Decoder α}
    (hsteady : form.Steady decode) (f : α → β) :
    form.Steady fun document => (decode document).map f := by
  intro content content' value h hdecode
  simp only at hdecode ⊢
  cases hread : decode content with
  | error e => simp [hread, Except.map] at hdecode
  | ok found => rwa [hsteady h hread, ← hread]

theorem Form.Steady.checking {α : Type} {form : Form} {decode : Decoder α}
    (hsteady : form.Steady decode) : form.Steady (Record.checking decode) :=
  hsteady.map _

/-! ## Records -/

/-- A field that is listed in step with a list of other things is found by its name. -/
theorem exists_find? {ι : Type} {R : ι → Field → Prop} {nameOf : ι → String}
    (hname : ∀ x field, R x field → field.name = nameOf x) {xs : List ι} {fields : List Field}
    (h : List.Forall₂ R xs fields) (hnodup : (xs.map nameOf).Nodup) {x : ι} (hx : x ∈ xs) :
    ∃ field, (fields.find? fun field => field.name = nameOf x) = some field ∧ R x field := by
  induction h with
  | nil => simp at hx
  | @cons first field xs fields hfirst _ ih =>
    rw [List.map_cons, List.nodup_cons] at hnodup
    rcases List.mem_cons.1 hx with rfl | hrest
    · exact ⟨field, List.find?_cons_of_pos (by simpa using hname _ _ hfirst), hfirst⟩
    · have hne : nameOf first ≠ nameOf x := fun heq =>
        hnodup.1 (heq ▸ List.mem_map.2 ⟨x, hrest, rfl⟩)
      rw [List.find?_cons_of_neg (by simpa [hname _ _ hfirst] using hne)]
      exact ih hnodup.2 hrest

/-- Two messages give a field with the same meaning. -/
inductive AgreeAt (part : Part Form) : Option Document → Option Document → Prop
  | same (given : Option Document) : AgreeAt part given given
  | varied {content content' : Document} (h : Varies part.form content content') :
      AgreeAt part (some content) (some content')
  | omitted {absent : Json} (h : part.absent = some absent) :
      AgreeAt part (some absent.toDocument) none

/-- Whether a field of a record is the one of a form. -/
def ReadsPart (part : Part Form) (field : Field) : Prop :=
  field.name = part.name ∧ part.form.Steady field.check

/-- A record reads the fields of a form, and does not tell fields with the same meaning apart. -/
structure Record.Follows {α : Type} (record : Record α) (parts : List (Part Form)) : Prop where
  fields : List.Forall₂ ReadsPart parts record.fields
  build : ∀ (given given' : Given) (value : α),
    (∀ part ∈ parts, AgreeAt part (given.get? part.name) (given'.get? part.name)) →
    record.build given = .ok value → record.build given' = .ok value

namespace Record

variable {α β : Type} {form : Form} {decode : Decoder α}

theorem build_map (f : α → β) (record : Record α) (given : Given) :
    (f <$> record).build given = (record.build given).map f := rfl

theorem build_seq (record : Record (α → β)) (next : Record α) (given : Given) :
    (record <*> next).build given =
      (record.build given).bind fun f => (next.build given).map f := by
  simp only [Seq.seq]
  cases record.build given <;> rfl

/-- What is read from a field depends on its meaning, if a missing field means what it should. -/
theorem read_of_agreeAt {part : Part Form} {given given' : Option Document} {value : α}
    (hsteady : part.form.Steady decode) {missing : Except Rejection α}
    (hmissing : ∀ absent, part.absent = some absent → decode absent.toDocument = missing)
    (hagree : AgreeAt part given given') (h : given.elim missing decode = .ok value) :
    given'.elim missing decode = .ok value := by
  cases hagree with
  | same => exact h
  | varied hvaries => exact hsteady hvaries h
  | omitted habsent => rwa [Option.elim_none, ← hmissing _ habsent]

theorem follows_required (name : String) (hsteady : form.Steady decode) :
    (required name decode).Follows [⟨name, form, none⟩] where
  fields := .cons ⟨rfl, hsteady.checking⟩ .nil
  build := by
    intro given given' value hagree h
    have hbuild (given : Given) : (required name decode).build given =
        (given.get? name).elim (.error .unexpected) decode := by
      simp only [required]
      cases given.get? name <;> rfl
    rw [hbuild] at h ⊢
    exact read_of_agreeAt hsteady (by simp) (hagree _ List.mem_cons_self) h

theorem follows_defaulted (name : String) (hsteady : form.Steady decode) {absent : α} {json : Json}
    (habsent : decode json.toDocument = .ok absent) :
    (defaulted name decode absent).Follows [⟨name, form, some json⟩] where
  fields := .cons ⟨rfl, hsteady.checking⟩ .nil
  build := by
    intro given given' value hagree h
    have hbuild (given : Given) : (defaulted name decode absent).build given =
        (given.get? name).elim (.ok absent) decode := by
      simp only [defaulted]
      cases given.get? name <;> rfl
    rw [hbuild] at h ⊢
    refine read_of_agreeAt hsteady (fun other hother => ?_) (hagree _ List.mem_cons_self) h
    rw [← Option.some.inj hother, habsent]

theorem follows_nullable (name : String) (hsteady : form.Steady decode) :
    (nullable name decode).Follows [⟨name, form, some .null⟩] where
  fields := .cons ⟨rfl, hsteady.asOption.checking⟩ .nil
  build := by
    have habsent : asOption decode Json.null.toDocument = .ok none := rfl
    exact (follows_defaulted name hsteady.asOption habsent).build

theorem Follows.map {record : Record α} {parts : List (Part Form)} (h : record.Follows parts)
    (f : α → β) : (f <$> record).Follows parts where
  fields := h.fields
  build := by
    intro given given' value hagree hbuild
    rw [build_map] at hbuild ⊢
    cases hfirst : record.build given with
    | error e => simp [hfirst, Except.map] at hbuild
    | ok found => rwa [h.build given given' found hagree hfirst, ← hfirst]

theorem Follows.seq {record : Record (α → β)} {next : Record α} {parts others : List (Part Form)}
    (h : record.Follows parts) (hnext : next.Follows others) :
    (record <*> next).Follows (parts ++ others) where
  fields := List.rel_append h.fields hnext.fields
  build := by
    intro given given' value hagree hbuild
    obtain ⟨hparts, hothers⟩ := List.forall_mem_append.1 hagree
    rw [build_seq] at hbuild ⊢
    cases hfirst : record.build given with
    | error e => simp [hfirst, Except.bind] at hbuild
    | ok g =>
      rw [hfirst] at hbuild
      rw [h.build given given' g hparts hfirst]
      cases hsecond : next.build given with
      | error e => simp [hsecond, Except.bind, Except.map] at hbuild
      | ok found => rwa [hnext.build given given' found hothers hsecond, ← hsecond]

/-! ## Messages that vary -/

theorem find?_of_notMem {name : String} {parts : List (Part Form)} {fields : List Field}
    (h : List.Forall₂ ReadsPart parts fields) (hname : name ∉ parts.map Part.name) :
    (fields.find? fun field => field.name = name) = none := by
  induction h with
  | nil => rfl
  | @cons part field parts fields hfirst _ ih =>
    obtain ⟨hne, hrest⟩ : name ≠ part.name ∧ name ∉ parts.map Part.name := by simpa using hname
    rw [List.find?_cons_of_neg (by simpa [hfirst.1] using Ne.symm hne)]
    exact ih hrest

section

variable {record : Record α} {parts : List (Part Form)}

/-- A message with the same meanings is decoded to the same value, if its fields are in order. -/
theorem Follows.decode_of_agree (h : record.Follows parts)
    {object object' : List (Option String × Document)} {value : α}
    (hdecode : record.decode (.object object .closed) = .ok value)
    (horder : ∀ field ∈ object', InOrder record.fields field)
    (hnodup : ((known record.fields object').map Prod.fst).Nodup)
    (hagree : ∀ part ∈ parts, AgreeAt part ((known record.fields object).get? part.name)
      ((known record.fields object').get? part.name)) :
    record.decode (.object object' .closed) = .ok value :=
  decode_object_eq_ok_iff.2 ⟨horder, hnodup,
    h.build _ _ value hagree (decode_object_eq_ok_iff.1 hdecode).2.2⟩

/-- **The decoder of a record does not tell messages apart that say the same.** -/
theorem Follows.steady (h : record.Follows parts) (hdistinct : (parts.map Part.name).Nodup) :
    (Form.record parts).Steady record.decode := by
  intro content content' value hvaries hdecode
  -- the form is an index of `Varies`, and the induction must keep it apart from `parts`
  generalize hform : Form.record parts = form at hvaries
  induction hvaries with
  | refl => exact hdecode
  | trans _ _ ih ih' => exact ih' (ih hdecode hform) hform
  | permute _ hperm =>
    obtain ⟨horder, hnodup, -⟩ := decode_object_eq_ok_iff.1 hdecode
    have hknown : (known record.fields _).Perm (known record.fields _) :=
      hperm.filterMap (known? record.fields)
    refine h.decode_of_agree hdecode (fun field hfield => horder field (hperm.mem_iff.2 hfield))
      ((hknown.map Prod.fst).nodup_iff.1 hnodup) fun part _ => ?_
    rw [Given.get?_perm hknown hnodup part.name]
    exact .same _
  | extend fields hname hcontent =>
    obtain rfl := Form.record.inj hform
    obtain ⟨horder, hnodup, -⟩ := decode_object_eq_ok_iff.1 hdecode
    have hfind := find?_of_notMem h.fields hname
    rw [← known_cons_of_unasked hfind] at hnodup
    refine h.decode_of_agree hdecode (List.forall_mem_cons.2 ⟨?_, horder⟩) hnodup fun part _ => ?_
    · exact ⟨_, rfl, by rw [hfind]; exact hcontent⟩
    · rw [known_cons_of_unasked hfind]
      exact .same _
  | @leaveOut _ part absent fields hpart habsent =>
    obtain rfl := Form.record.inj hform
    obtain ⟨horder, hnodup, -⟩ := decode_object_eq_ok_iff.1 hdecode
    obtain ⟨field, hfind, -⟩ := exists_find? (fun _ _ hreads => hreads.1) h.fields hdistinct hpart
    rw [known_cons_of_asked hfind, List.map_cons, List.nodup_cons] at hnodup
    -- no other field has the name, so it is not found any more
    refine h.decode_of_agree hdecode (List.forall_mem_cons.1 horder).2 hnodup.2
      fun other hother => ?_
    rw [known_cons_of_asked hfind, Given.get?_cons]
    split
    · next heq =>
      obtain rfl := List.inj_on_of_nodup_map hdistinct hpart hother heq
      rw [Given.get?_eq_none hnodup.1]
      exact .omitted habsent
    · exact .same _
  | @inside _ part content content' fields hpart hinside _ =>
    obtain rfl := Form.record.inj hform
    obtain ⟨horder, hnodup, -⟩ := decode_object_eq_ok_iff.1 hdecode
    obtain ⟨field, hfind, -, hsteady⟩ :=
      exists_find? (fun _ _ hreads => hreads.1) h.fields hdistinct hpart
    obtain ⟨⟨_, hname, hcheck⟩, hrest⟩ := List.forall_mem_cons.1 horder
    obtain rfl := Option.some.inj hname
    rw [hfind] at hcheck
    rw [known_cons_of_asked hfind, List.map_cons] at hnodup
    refine h.decode_of_agree hdecode (List.forall_mem_cons.2 ⟨⟨_, rfl, ?_⟩, hrest⟩) ?_
      fun other hother => ?_
    · rw [hfind]
      exact hsteady hinside hcheck
    · rwa [known_cons_of_asked hfind]
    · rw [known_cons_of_asked hfind, known_cons_of_asked hfind, Given.get?_cons, Given.get?_cons]
      split
      · next heq =>
        obtain rfl := List.inj_on_of_nodup_map hdistinct hpart hother heq
        exact .varied hinside
      · exact .same _

end

/-! ## Messages as they are written -/

/-- A record builds a value from a message that gives its fields these documents. -/
structure Builds (record : Record α) (contents : List (String × Document)) (value : α) : Prop where
  fields : List.Forall₂
    (fun content field => field.name = content.1 ∧ field.check content.2 = .ok ())
    contents record.fields
  build : ∀ given : Given, (∀ content ∈ contents, given.get? content.1 = some content.2) →
    record.build given = .ok value

section

variable {content : Document} {value : α}

theorem checking_of_ok (h : decode content = .ok value) : checking decode content = .ok () := by
  rw [checking, h]
  rfl

theorem builds_required (name : String) (h : decode content = .ok value) :
    (required name decode).Builds [(name, content)] value where
  fields := .cons ⟨rfl, checking_of_ok h⟩ .nil
  build given hgiven := by
    simp only [required, hgiven _ List.mem_cons_self]
    exact h

theorem builds_defaulted (name : String) (absent : α) (h : decode content = .ok value) :
    (defaulted name decode absent).Builds [(name, content)] value where
  fields := .cons ⟨rfl, checking_of_ok h⟩ .nil
  build given hgiven := by
    simp only [defaulted, hgiven _ List.mem_cons_self]
    exact h

end

theorem builds_nullable (name : String) {content : Document} {value : Option α}
    (h : asOption decode content = .ok value) :
    (nullable name decode).Builds [(name, content)] value where
  fields := .cons ⟨rfl, checking_of_ok h⟩ .nil
  build given hgiven := by
    simp only [nullable, hgiven _ List.mem_cons_self]
    exact h

theorem Builds.map {record : Record α} {contents : List (String × Document)} {value : α}
    (h : record.Builds contents value) (f : α → β) : (f <$> record).Builds contents (f value) where
  fields := h.fields
  build given hgiven := by
    rw [build_map, h.build given hgiven]
    rfl

theorem Builds.seq {record : Record (α → β)} {next : Record α}
    {contents others : List (String × Document)} {f : α → β} {value : α}
    (h : record.Builds contents f) (hnext : next.Builds others value) :
    (record <*> next).Builds (contents ++ others) (f value) where
  fields := List.rel_append h.fields hnext.fields
  build given hgiven := by
    obtain ⟨hcontents, hothers⟩ := List.forall_mem_append.1 hgiven
    rw [build_seq, h.build given hcontents]
    exact congrArg (Except.map f) (hnext.build given hothers)

/-- The fields in their declared order make the value. -/
theorem Builds.decode_object {record : Record α} {contents : List (String × Document)} {value : α}
    (h : record.Builds contents value) (hdistinct : (contents.map Prod.fst).Nodup) :
    record.decode (.object (contents.map fun content => (some content.1, content.2)) .closed) =
      .ok value := by
  have hfind {content : String × Document} (hcontent : content ∈ contents) :=
    exists_find? (fun _ _ hfield => hfield.1) h.fields hdistinct hcontent
  have hknown : known record.fields (contents.map fun content => (some content.1, content.2)) =
      contents := by
    rw [known, List.filterMap_map]
    refine (List.filterMap_congr fun content hcontent => ?_).trans List.filterMap_some
    obtain ⟨field, hfound, -⟩ := hfind hcontent
    simp [known?, hfound]
  rw [decode_object_eq_ok_iff, hknown]
  refine ⟨?_, hdistinct, h.build contents fun content hcontent =>
    (Given.get?_eq_some_iff hdistinct).2 hcontent⟩
  intro field hfield
  obtain ⟨content, hcontent, rfl⟩ := List.mem_map.1 hfield
  obtain ⟨field, hfound, -, hcheck⟩ := hfind hcontent
  exact ⟨_, rfl, by rw [hfound]; exact hcheck⟩

end Record

end TableStore.Json
