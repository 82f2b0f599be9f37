import Mathlib.Data.Int.ModEq
import Mathlib.Data.List.TakeWhile
import Mathlib.Data.Nat.Digits.Defs
import TableStore.Proofs.Routing

/-!
# The numbers of keys

A key may be written in many ways: white space around it, single quotes around the number, a plus
sign and leading zeros do not count.  This module says which texts are written forms of a number
(`Spells`) without the reader, and shows that the reader reads these and no others
(`keyNumber?_eq_some`).  A key then goes to the partition that is congruent to its number, so all
written forms of a number go to the same partition (`keys_by_residue`).

There are three groups.

* Numerals.  `Numeral` is an optional sign and digits; `readInt_eq_some` is the reader of these.
* Surroundings.  What is trimmed off is known as soon as no character of the rest would be trimmed
  (`trimWhile_append`).
* Keys.
-/

namespace TableStore

namespace Text

/-! ## Numerals -/

/-- The number of an ASCII digit. -/
def digitValue (c : Char) : Nat := c.toNat - '0'.toNat

/-- The number that ASCII digits denote, the last of them counting ones. -/
def digitsValue (digits : List Char) : Nat := Nat.ofDigits 10 (digits.reverse.map digitValue)

/-- An integer with the forms in which it is written: an optional sign and one or more digits. -/
inductive Numeral : List Char → Int → Prop
  | unsigned {digits : List Char} (ne_nil : digits ≠ [])
      (isDigit : ∀ c ∈ digits, c.isDigit = true) : Numeral digits (digitsValue digits)
  | plus {digits : List Char} (ne_nil : digits ≠ [])
      (isDigit : ∀ c ∈ digits, c.isDigit = true) : Numeral ('+' :: digits) (digitsValue digits)
  | minus {digits : List Char} (ne_nil : digits ≠ [])
      (isDigit : ∀ c ∈ digits, c.isDigit = true) : Numeral ('-' :: digits) (-digitsValue digits)

theorem digitsValue_cons (c : Char) (rest : List Char) :
    digitsValue (c :: rest) = digitValue c * 10 ^ rest.length + digitsValue rest := by
  simp only [digitsValue, List.reverse_cons, List.map_append, Nat.ofDigits_append, List.length_map,
    List.length_reverse, List.map_singleton, Nat.ofDigits_singleton]
  ring

theorem digit?_eq (c : Char) : digit? c = if c.isDigit then some (digitValue c) else none := by
  have hiff : ('0' ≤ c ∧ c ≤ '9') ↔ c.isDigit = true := by
    simp [Char.le_def, Char.isDigit]
  simp only [digit?, digitValue, hiff]

/-- The digits after others are read with these in front. -/
theorem readDigits_eq_some {acc n : Nat} {cs : List Char} : readDigits acc cs = some n ↔
    (∀ c ∈ cs, c.isDigit = true) ∧ n = acc * 10 ^ cs.length + digitsValue cs := by
  induction cs generalizing acc with
  | nil =>
    have hnil : digitsValue [] = 0 := rfl
    simpa [readDigits, hnil] using eq_comm
  | cons c rest ih =>
    rw [readDigits, digit?_eq]
    cases hdigit : c.isDigit with
    | false => simp [hdigit]
    | true =>
      simp only [if_true, Option.bind_some, ih, List.forall_mem_cons, hdigit, true_and]
      refine and_congr_right fun _ => ?_
      rw [digitsValue_cons, List.length_cons, Nat.pow_succ]
      constructor <;> rintro rfl <;> ring

theorem readNat_eq_some {n : Nat} {cs : List Char} : readNat cs = some n ↔
    cs ≠ [] ∧ (∀ c ∈ cs, c.isDigit = true) ∧ n = digitsValue cs := by
  cases cs with
  | nil => simp [readNat]
  | cons c rest => simp [readNat, readDigits_eq_some]

/-- The reader reads numerals and nothing else. -/
theorem readInt_eq_some {n : Int} {cs : List Char} : readInt cs = some n ↔ Numeral cs n := by
  constructor
  · intro h
    unfold readInt at h
    split at h
    · obtain ⟨value, hvalue, rfl⟩ := Option.map_eq_some_iff.1 h
      obtain ⟨hne, hdigits, rfl⟩ := readNat_eq_some.1 hvalue
      exact .plus hne hdigits
    · obtain ⟨value, hvalue, rfl⟩ := Option.map_eq_some_iff.1 h
      obtain ⟨hne, hdigits, rfl⟩ := readNat_eq_some.1 hvalue
      exact .minus hne hdigits
    · obtain ⟨value, hvalue, rfl⟩ := Option.map_eq_some_iff.1 h
      obtain ⟨hne, hdigits, rfl⟩ := readNat_eq_some.1 hvalue
      exact .unsigned hne hdigits
  · rintro (⟨hne, hdigits⟩ | ⟨hne, hdigits⟩ | ⟨hne, hdigits⟩)
    · have hread := readNat_eq_some.2 ⟨hne, hdigits, rfl⟩
      -- a sign is no digit, so the text is read as it is
      unfold readInt
      split
      · exact absurd (hdigits _ List.mem_cons_self) (by decide)
      · exact absurd (hdigits _ List.mem_cons_self) (by decide)
      · simp [hread]
    · have hread := readNat_eq_some.2 ⟨hne, hdigits, rfl⟩
      simp [readInt, hread]
    · have hread := readNat_eq_some.2 ⟨hne, hdigits, rfl⟩
      simp [readInt, hread]

/-- A numeral consists of signs and digits. -/
theorem Numeral.mem {n : Int} {cs : List Char} (h : Numeral cs n) :
    cs ≠ [] ∧ ∀ c ∈ cs, c = '+' ∨ c = '-' ∨ c.isDigit = true := by
  cases h with
  | unsigned hne hdigits => exact ⟨hne, fun c hc => Or.inr (Or.inr (hdigits c hc))⟩
  | plus hne hdigits =>
    refine ⟨List.cons_ne_nil _ _, List.forall_mem_cons.2 ⟨Or.inl rfl, fun c hc => ?_⟩⟩
    exact Or.inr (Or.inr (hdigits c hc))
  | minus hne hdigits =>
    refine ⟨List.cons_ne_nil _ _, List.forall_mem_cons.2 ⟨Or.inr (Or.inl rfl), fun c hc => ?_⟩⟩
    exact Or.inr (Or.inr (hdigits c hc))

/-! ## Surroundings -/

variable {p : Char → Bool}

theorem dropWhile_surrounded {front middle back : List Char} (hne : middle ≠ [])
    (hfront : ∀ c ∈ front, p c = true) (hmiddle : ∀ c ∈ middle, p c = false) :
    (front ++ (middle ++ back)).dropWhile p = middle ++ back := by
  rw [List.dropWhile_append_of_pos hfront]
  cases middle with
  | nil => exact absurd rfl hne
  | cons c rest =>
    exact List.dropWhile_cons_of_neg (by simp [hmiddle c List.mem_cons_self])

/-- What is trimmed off is known if nothing of the rest would be. -/
theorem trimWhile_append {front middle back : List Char} (hne : middle ≠ [])
    (hfront : ∀ c ∈ front, p c = true) (hmiddle : ∀ c ∈ middle, p c = false)
    (hback : ∀ c ∈ back, p c = true) : trimWhile p (front ++ (middle ++ back)) = middle := by
  have hreverse : (middle ++ back).reverse = back.reverse ++ (middle.reverse ++ []) := by simp
  rw [trimWhile, dropWhile_surrounded hne hfront hmiddle, hreverse, dropWhile_surrounded
    (by simpa using hne) (by simpa using hback) (by simpa using hmiddle)]
  simp

/-- A text is what is trimmed off around what remains. -/
theorem exists_trimWhile (p : Char → Bool) (cs : List Char) :
    ∃ front back, cs = front ++ (trimWhile p cs ++ back) ∧ (∀ c ∈ front, p c = true) ∧
      ∀ c ∈ back, p c = true := by
  refine ⟨cs.takeWhile p, ((cs.dropWhile p).reverse.takeWhile p).reverse, ?_, ?_, ?_⟩
  · rw [trimWhile, ← List.reverse_append, List.takeWhile_append_dropWhile, List.reverse_reverse,
      List.takeWhile_append_dropWhile]
  · exact fun c hc => List.mem_takeWhile_imp hc
  · exact fun c hc => List.mem_takeWhile_imp (List.mem_reverse.1 hc)

/-- The printable ASCII characters are not white space. -/
theorem isBlank_eq_false {c : Char} (h : 32 < c.toNat) (h' : c.toNat < 127) :
    isBlank c = false := by
  have hranges : ∀ range ∈ blankRanges, range.2 ≤ 32 ∨ 127 ≤ range.1 := by decide
  rw [isBlank, List.any_eq_false]
  intro range hrange
  have hout := hranges range hrange
  rw [Bool.and_eq_true, decide_eq_true_eq, decide_eq_true_eq]
  omega

/-- A numeral has nothing that is trimmed off a key. -/
theorem Numeral.not_trimmed {n : Int} {cs : List Char} (h : Numeral cs n) :
    ∀ c ∈ cs, isBlank c = false ∧ c ≠ '\'' := by
  intro c hc
  rcases h.mem.2 c hc with rfl | rfl | hdigit
  · decide
  · decide
  · have hrange : 48 ≤ c.toNat ∧ c.toNat ≤ 57 := by
      simpa [Char.isDigit, UInt32.le_iff_toNat_le] using hdigit
    refine ⟨isBlank_eq_false (by omega) (by omega), ?_⟩
    rintro rfl
    exact absurd hdigit (by decide)

end Text

/-! ## Keys -/

namespace Router

/-- Whether a key is a written form of a number: a numeral with single quotes around it and white
space around these, any number of either on each side. -/
def Spells (key : String) (number : Int) : Prop :=
  ∃ before opening numeral closing after,
    key.toList = before ++ ((opening ++ (numeral ++ closing)) ++ after) ∧
      (∀ c ∈ before ++ after, Text.isBlank c = true) ∧
      (∀ c ∈ opening ++ closing, c = '\'') ∧ Text.Numeral numeral number

/-- The integers of 64 bits with a sign. -/
def InWord (number : Int) : Prop := -2 ^ 63 ≤ number ∧ number < 2 ^ 63

theorem readInt64_eq_some {cs : List Char} {number : Int} :
    Text.readInt64 cs = some number ↔ Text.Numeral cs number ∧ InWord number := by
  rw [Text.readInt64, Option.filter_eq_some_iff, Text.readInt_eq_some]
  simp only [Text.inInt64, Text.int64Limit, InWord, Bool.and_eq_true]
  norm_num

/-- **Keys are read as they are written.** -/
theorem keyNumber?_eq_some {key : String} {number : Int} :
    keyNumber? key = some number ↔ Spells key number ∧ InWord number := by
  rw [keyNumber?, readInt64_eq_some]
  refine and_congr_left fun _ => ?_
  constructor
  · intro hnumeral
    obtain ⟨before, after, houter, hbefore, hafter⟩ :=
      Text.exists_trimWhile Text.isBlank key.toList
    obtain ⟨opening, closing, hinner, hopening, hclosing⟩ :=
      Text.exists_trimWhile (· = '\'') (Text.trim key.toList)
    refine ⟨before, opening, _, closing, after, ?_, List.forall_mem_append.2 ⟨hbefore, hafter⟩, ?_,
      hnumeral⟩
    · rw [← hinner]
      exact houter
    · simpa using List.forall_mem_append.2 ⟨hopening, hclosing⟩
  · rintro ⟨before, opening, numeral, closing, after, hkey, hblank, hquote, hnumeral⟩
    obtain ⟨hbefore, hafter⟩ := List.forall_mem_append.1 hblank
    obtain ⟨hopening, hclosing⟩ := List.forall_mem_append.1 hquote
    obtain ⟨hne, -⟩ := hnumeral.mem
    have hkept : ∀ c ∈ opening ++ (numeral ++ closing), Text.isBlank c = false := by
      intro c hc
      rcases List.mem_append.1 hc with hc | hc
      · rw [hopening c hc]
        decide
      · rcases List.mem_append.1 hc with hc | hc
        · exact (hnumeral.not_trimmed c hc).1
        · rw [hclosing c hc]
          decide
    have htrim : Text.trim key.toList = opening ++ (numeral ++ closing) := by
      rw [hkey]
      exact Text.trimWhile_append (by simp [hne]) hbefore hkept hafter
    rw [htrim, Text.trimWhile_append hne (by simpa using hopening)
      (by simpa using fun c hc => (hnumeral.not_trimmed c hc).2) (by simpa using hclosing)]
    exact hnumeral

/-! ## Partitions -/

/-- A key with a number goes to the one partition that is congruent to it. -/
theorem partitionForKey_of_keyNumber? {router : Router} (hpos : 0 < router.partitionCount)
    {key : String} {number : Int} (h : keyNumber? key = some number) :
    ∃ partition, router.partitionForKey key = .ok partition ∧
      partition < router.partitionCount ∧
      (partition : Int) ≡ number [ZMOD router.partitionCount] ∧
      ∀ other < router.partitionCount, (other : Int) ≡ number [ZMOD router.partitionCount] →
        other = partition := by
  have hkey : router.partitionForKey key =
      .ok (number % (router.partitionCount : Int)).toNat := by
    rw [partitionForKey, h]
  have hnonneg : 0 ≤ number % (router.partitionCount : Int) :=
    Int.emod_nonneg number (by omega)
  refine ⟨_, hkey, lt_of_partitionForKey hpos hkey, ?_, fun other hlt hother => ?_⟩
  · rw [Int.toNat_of_nonneg hnonneg]
    exact Int.mod_modEq number _
  · have hself : (other : Int) % (router.partitionCount : Int) = other :=
      Int.emod_eq_of_lt (by omega) (by omega)
    have hresidue : (other : Int) = number % (router.partitionCount : Int) := hself ▸ hother
    omega

/-- **A key goes to the partition that its number leaves as remainder.**  A key is sent somewhere if
and only if it is a written form of an integer of 64 bits.  Then it goes to the only partition that
is congruent to the integer, negative or not, and so does every other written form of it. -/
theorem keys_by_residue {layout : Layout} {table : TableDef} {router : Router}
    (hrouter : Router.create layout table = .ok router) (key : String) :
    ((∃ partition, router.partitionForKey key = .ok partition) ↔
        ∃ number, Spells key number ∧ InWord number) ∧
      ∀ number, Spells key number → InWord number →
        ∃ partition, router.partitionForKey key = .ok partition ∧
          partition < layout.partitionCount ∧
          (partition : Int) ≡ number [ZMOD layout.partitionCount] ∧
          (∀ other < layout.partitionCount,
            (other : Int) ≡ number [ZMOD layout.partitionCount] → other = partition) ∧
          ∀ key', Spells key' number → router.partitionForKey key' = .ok partition := by
  obtain ⟨rfl, hcheck⟩ := check_of_create hrouter
  have hpos : 0 < (Router.mk layout).partitionCount := Layout.partitionCount_pos hcheck
  have hread : keyNumber? key ≠ none ↔ ∃ number, Spells key number ∧ InWord number :=
    Option.ne_none_iff_exists'.trans (exists_congr fun number => keyNumber?_eq_some)
  refine ⟨(exists_partitionForKey_iff _).trans hread, fun number hspells hword => ?_⟩
  have hnumber := keyNumber?_eq_some.2 ⟨hspells, hword⟩
  obtain ⟨partition, hkey, hlt, hcongruent, hunique⟩ :=
    partitionForKey_of_keyNumber? hpos hnumber
  refine ⟨partition, hkey, hlt, hcongruent, hunique, fun key' hspells' => ?_⟩
  have hsame := keyNumber?_eq_some.2 ⟨hspells', hword⟩
  rw [← hkey, partitionForKey, partitionForKey, hnumber, hsame]

/-- The least integer of 64 bits in quotes, and with leading zeros, leaves 1 when divided by 3. -/
theorem keys_by_residue_least :
    ∃ router, Router.create (.byKey 3) ⟨"levels", .noSql, none⟩ = .ok router ∧
      Spells "\t''-9223372036854775808' " (-9223372036854775808) ∧
      Spells "-009223372036854775808" (-9223372036854775808) ∧
      router.partitionForKey "\t''-9223372036854775808' " = .ok 1 ∧
      router.partitionForKey "-009223372036854775808" = .ok 1 := by
  have hquoted : Spells "\t''-9223372036854775808' " (-9223372036854775808) :=
    ⟨['\t'], ['\'', '\''], "-9223372036854775808".toList, ['\''], [' '], by decide,
      List.all_eq_true.1 (by decide), by simp,
      .minus (by decide : "9223372036854775808".toList ≠ []) (List.all_eq_true.1 (by decide))⟩
  have hzeros : Spells "-009223372036854775808" (-9223372036854775808) :=
    ⟨[], [], "-009223372036854775808".toList, [], [], by decide, by simp, by simp,
      .minus (by decide : "009223372036854775808".toList ≠ []) (List.all_eq_true.1 (by decide))⟩
  have hrouter : Router.create (.byKey 3) ⟨"levels", .noSql, none⟩ = .ok ⟨.byKey 3⟩ := by decide
  obtain ⟨partition, hkey, -, -, hunique, hsame⟩ :=
    (keys_by_residue hrouter "\t''-9223372036854775808' ").2 _ hquoted ⟨by decide, by decide⟩
  obtain rfl : 1 = partition := hunique 1 (by decide) (by decide)
  exact ⟨_, hrouter, hquoted, hzeros, hkey, hsame _ hzeros⟩

end Router

end TableStore
