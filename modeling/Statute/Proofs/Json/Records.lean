import Mathlib.Data.List.Nodup
import Statute.Json.Decode
import Statute.Proofs.Number.Digits

/-!
# Records survive their JSON form

How a record is written is described field by field: a field is always written, or it may be left
out when it has a certain value, or it is written only when there is something to write. Members in
any order, with unknown ones among them, present the fields when each field is there in one of its
forms. A reader that finds every presented field reads back what was written.
-/

namespace Statute.Json

open Number

/-! ## Values -/

theorem string?_string (text : String) : string? (.string text) = some text :=
  rfl

theorem bool?_bool (value : Bool) : bool? (.bool value) = some value :=
  rfl

/-- A signed number of 64 bits is read back from the integer that it is written as. -/
theorem int64?_integer (value : Int64) : int64? (.integer value.toInt) = some value :=
  int64?_toInt value

/-- An unsigned number of 64 bits is read back from the integer that it is written as. -/
theorem uint64?_integer (value : UInt64) :
    uint64? (.integer value.toNat) = some value := by
  have bound : value.toNat < Nat.pow 2 64 := value.toNat_lt
  rw [uint64?, Number.uint64?, unsigned?, if_pos ⟨Int.natCast_nonneg _, bound⟩]
  exact congrArg some value.ofNat_toNat

/-- A list is read back when each of its items is. -/
theorem list?_array {α : Type} {encode : α → Json} {decode : Json → Option α} {items : List α}
    (each : ∀ item ∈ items, decode (encode item) = some item) :
    list? decode (.array (items.map encode)) = some items := by
  induction items with
  | nil => rfl
  | cons item items inductionHypothesis =>
    obtain ⟨first, others⟩ := List.forall_mem_cons.mp each
    have rest := inductionHypothesis others
    rw [list?] at rest ⊢
    rw [List.map_cons, List.mapM_cons, first, rest]
    rfl

theorem list?_nil {α : Type} (decode : Json → Option α) : list? decode (.array []) = some [] :=
  rfl

/-! ## Fields -/

/-- How a field of a value is written. -/
inductive FieldForm where
  /-- The field is always there. -/
  | required (form : Json)
  /-- The field is written; where it is left out, it has a form of its own. -/
  | defaulted (absent form : Json)
  /-- The field is written when there is something to write. -/
  | optional (form : Option Json)

namespace FieldForm

/-- What is written for a field. -/
def member? : FieldForm → Option Json
  | required form => some form
  | defaulted _ form => some form
  | optional form => form

/-- What is found under the name of a field stands for what is written for it. -/
def Admits : FieldForm → Option Json → Prop
  | required form, found => found = some form
  | defaulted absent form, found => found = some form ∨ found = none ∧ form = absent
  | optional form, found => found = form ∨ found = some .null ∧ form = none

/-- What is written for a field stands for it, whichever form the field has. -/
theorem admits_member? (field : FieldForm) : field.Admits field.member? := by
  cases field with
  | required form => exact Eq.refl (some form)
  | defaulted absent form => exact Or.inl rfl
  | optional form => exact Or.inl rfl

end FieldForm

/-- The members that are written for fields. -/
def written : List (String × FieldForm) → List (String × Json)
  | [] => []
  | (name, field) :: fields =>
    match field.member? with
    | some form => (name, form) :: written fields
    | none => written fields

/-- Members present fields, in whatever order they stand and whatever other members stand among
them: no field is there twice, and what is found for a field stands for it. -/
structure Presents (fields : List (String × FieldForm)) (members : List (String × Json)) :
    Prop where
  once : ((members.filter fun (name, _) => (fields.map Prod.fst).contains name).map
    Prod.fst).Nodup
  each : ∀ field ∈ fields, field.2.Admits (members.lookup field.1)

/-- Names that differ from each other pass the check for fields that are there twice. -/
theorem distinct_of_nodup {names : List String} (nodup : names.Nodup) : distinct names = true := by
  induction names with
  | nil => rfl
  | cons name names inductionHypothesis =>
    obtain ⟨new, others⟩ := List.nodup_cons.mp nodup
    simp [distinct, new, inductionHypothesis others]

/-- Known members are found among all of them. -/
theorem lookup_filter_contains {names : List String} {name : String} (known : name ∈ names)
    (members : List (String × Json)) :
    (members.filter fun (name, _) => names.contains name).lookup name = members.lookup name := by
  induction members with
  | nil => rfl
  | cons member members inductionHypothesis =>
    obtain ⟨first, value⟩ := member
    by_cases kept : first ∈ names
    · rw [List.filter_cons_of_pos (by simpa using kept), List.lookup_cons, List.lookup_cons,
        inductionHypothesis]
    · have other : name ≠ first := fun same => kept (same ▸ known)
      rw [List.filter_cons_of_neg (by simpa using kept), inductionHypothesis, List.lookup_cons,
        beq_eq_false_iff_ne.mpr other]

/-- The written members have the names of fields. -/
theorem sublist_written (fields : List (String × FieldForm)) :
    ((written fields).map Prod.fst).Sublist (fields.map Prod.fst) := by
  induction fields with
  | nil => exact .slnil
  | cons field fields inductionHypothesis =>
    rw [written]
    split
    next => exact inductionHypothesis.cons_cons field.1
    next => exact inductionHypothesis.cons field.1

/-- A name that no field has is not among the written members. -/
theorem lookup_written_eq_none {fields : List (String × FieldForm)} {name : String}
    (unknown : name ∉ fields.map Prod.fst) : (written fields).lookup name = none := by
  refine List.lookup_eq_none_iff.mpr fun member isWritten => bne_iff_ne.mpr fun same => ?_
  exact unknown ((sublist_written fields).subset (same ▸ List.mem_map_of_mem isWritten))

/-- Under the name of a field stands what is written for it. -/
theorem lookup_written {fields : List (String × FieldForm)} (nodup : (fields.map Prod.fst).Nodup) :
    ∀ field ∈ fields, (written fields).lookup field.1 = field.2.member? := by
  induction fields with
  | nil => exact nofun
  | cons field fields inductionHypothesis =>
    obtain ⟨new, others⟩ := List.nodup_cons.mp nodup
    have later := inductionHypothesis others
    rw [written]
    split
    next json value =>
      refine List.forall_mem_cons.mpr ⟨?_, fun other member => ?_⟩
      · rw [List.lookup_cons_self, value]
      · have differs : other.1 ≠ field.1 := fun same => new (same ▸ List.mem_map_of_mem member)
        rw [List.lookup_cons, beq_eq_false_iff_ne.mpr differs]
        exact later other member
    next value =>
      exact List.forall_mem_cons.mpr ⟨(lookup_written_eq_none new).trans value.symm, later⟩

/-- The written members present the fields. -/
theorem presents_written {fields : List (String × FieldForm)}
    (nodup : (fields.map Prod.fst).Nodup) : Presents fields (written fields) where
  once := nodup.sublist ((List.filter_sublist.map _).trans (sublist_written fields))
  each := fun field member => lookup_written nodup field member ▸ field.2.admits_member?

/-! ## Records -/

namespace Record

/-- What stands for each of the fields is found in a record. -/
def Finds (record : Record) : List (String × FieldForm) → Prop
  | [] => True
  | (name, field) :: fields =>
    field.Admits (record.fields.lookup name) ∧ record.Finds fields

/-- What stands for each field is found in a record when it is found under the name of each. -/
theorem finds_of_forall {record : Record} {fields : List (String × FieldForm)}
    (each : ∀ field ∈ fields, field.2.Admits (record.fields.lookup field.1)) :
    record.Finds fields := by
  induction fields with
  | nil => trivial
  | cons field fields inductionHypothesis =>
    obtain ⟨first, others⟩ := List.forall_mem_cons.mp each
    exact ⟨first, inductionHypothesis others⟩

end Record

/-- Members that present the fields are a record in which they are found. -/
theorem Presents.record {fields : List (String × FieldForm)} {members : List (String × Json)}
    (presents : Presents fields members) :
    ∃ record, record? (fields.map Prod.fst) (.object members) = some record ∧
      record.positional = false ∧ record.Finds fields := by
  refine ⟨⟨false, members.filter fun (name, _) => (fields.map Prod.fst).contains name⟩, ?_, rfl,
    Record.finds_of_forall fun field member => ?_⟩
  · rw [record?, if_pos (distinct_of_nodup presents.once)]
  · rw [lookup_filter_contains (List.mem_map_of_mem member)]
    exact presents.each field member

variable {α : Type} {decode : Json → Option α} {record : Record} {name : String} {value : α}

/-- A required field is read. -/
theorem FieldForm.Admits.required {form : Json}
    (admits : (FieldForm.required form).Admits (record.fields.lookup name))
    (reads : decode form = some value) : record.required name decode = some value := by
  have found : record.fields.lookup name = some form := admits
  rw [Record.required, found]
  exact reads

/-- A field with a default is read, also where it is left out because it has the default. -/
theorem FieldForm.Admits.defaulted {absent form : Json} {default : α}
    (admits : (FieldForm.defaulted absent form).Admits (record.fields.lookup name))
    (reads : decode form = some value) (readsDefault : decode absent = some default) :
    record.defaulted name default decode = some value := by
  rcases admits with found | ⟨missing, rfl⟩
  · rw [Record.defaulted, found]
    exact reads
  · rw [Record.defaulted, missing]
    exact readsDefault.symm.trans reads

/-- Where null is allowed, any other form is read as it is without that. -/
theorem nullable?_of_ne_null {form : Json} (notNull : form ≠ .null)
    (reads : decode form = some value) : nullable? decode form = some (some value) := by
  rw [nullable?.eq_2 _ _ notNull, reads]
  rfl

variable {encode : α → Json} {part : Option α}

/-- A field that may be missing is read; null stands for nothing. -/
theorem FieldForm.Admits.nullable
    (admits : (FieldForm.optional (part.map encode)).Admits (record.fields.lookup name))
    (notNull : ∀ value, encode value ≠ .null)
    (reads : ∀ value, decode (encode value) = some value) :
    record.defaulted name none (nullable? decode) = some part := by
  rcases admits with found | ⟨null, nothing⟩
  · rw [Record.defaulted, found]
    cases part with
    | none => rfl
    | some value => exact nullable?_of_ne_null (notNull value) (reads value)
  · rw [Record.defaulted, null, Option.map_eq_none_iff.mp nothing]
    rfl

/-- The same holds of a field that may be missing only where fields are named. -/
theorem FieldForm.Admits.optional
    (admits : (FieldForm.optional (part.map encode)).Admits (record.fields.lookup name))
    (named : record.positional = false) (notNull : ∀ value, encode value ≠ .null)
    (reads : ∀ value, decode (encode value) = some value) :
    record.optional name decode = some part := by
  rw [← admits.nullable notNull reads, Record.optional, Record.defaulted, named]
  rfl

/-! ## Survival -/

/-- Values survive their JSON form: it is the written form of their fields, and whatever presents
the fields of a value is read as the value. So the form that a value is written in is read as the
value, and when anything has been read, what is written for it is read as the same value again. -/
structure Survives (fields : α → List (String × FieldForm)) (encode : α → Json)
    (decode : Json → Option α) (within : α → Prop) : Prop where
  writes : ∀ value, encode value = .object (written (fields value))
  presented : ∀ value members, within value → Presents (fields value) members →
    decode (.object members) = some value
  restored : ∀ value, within value → decode (encode value) = some value
  again : ∀ json value, decode json = some value → within value →
    decode (encode value) = some value

/-- Values survive when what is read from a record in which their fields are found is the value. -/
theorem survives_of_finds {fields : α → List (String × FieldForm)} {within : α → Prop}
    {names : List String} {read : Record → Option α} (nodup : names.Nodup)
    (named : ∀ value, (fields value).map Prod.fst = names)
    (writes : ∀ value, encode value = .object (written (fields value)))
    (decodes : ∀ json, decode json = json.record? names >>= read)
    (reads : ∀ value record, within value → record.positional = false →
      record.Finds (fields value) → read record = some value) :
    Survives fields encode decode within := by
  have presented (value : α) (members : List (String × Json)) (inside : within value)
      (presents : Presents (fields value) members) : decode (.object members) = some value := by
    obtain ⟨record, made, byName, finds⟩ := presents.record
    rw [named] at made
    rw [decodes, made]
    exact reads value record inside byName finds
  have restored (value : α) (inside : within value) : decode (encode value) = some value := by
    rw [writes]
    exact presented value _ inside (presents_written (named value ▸ nodup))
  exact ⟨writes, presented, restored, fun _ value _ => restored value⟩

/-- Lists of values that survive are read back. -/
theorem Survives.list?_map {fields : α → List (String × FieldForm)}
    (survives : Survives fields encode decode fun _ => True) (values : List α) :
    list? decode (.array (values.map encode)) = some values :=
  list?_array fun value _ => survives.restored value trivial

end Statute.Json
