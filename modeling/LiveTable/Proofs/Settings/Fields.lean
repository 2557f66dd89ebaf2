import LiveTable.Proofs.Json.Records
import LiveTable.Settings
import Mathlib.Data.Finset.Insert
set_option autoImplicit false

/-!
# The fields of settings

Settings are decoded from an object field by field: each of the five is what stands under its own
name, or its default where nothing does, and a value that does not fit its field is refused,
whatever the other fields are. A sort order has no defaults of its own. Main statements:
`ofJson?_object_eq_some_iff` and `ofJson?_object_eq_none_iff`, which objects are decoded and which
are refused, and `fields_override_defaults`.
-/

namespace LiveTable

theorem DuplicatePolicy.ofJson?_eq_some_iff {v : Json} {policy : DuplicatePolicy} :
    DuplicatePolicy.ofJson? v = some policy ↔
      v = .text policy.name ∨ v = .object [(policy.name, .null)] := by
  apply Json.case?_eq_some_iff
  · rintro (_ | _ | _) <;> decide
  · rintro (_ | _ | _) (_ | _ | _) <;> decide

namespace Settings

inductive Field
  | batchSize
  | duplicatePolicy
  | hideXxx
  | eventCapacity
  | defaultSort
deriving DecidableEq

namespace Field

def name : Field → String
  | batchSize => "batchSize"
  | duplicatePolicy => "duplicatePolicy"
  | hideXxx => "hideXxx"
  | eventCapacity => "eventCapacity"
  | defaultSort => "defaultSort"

/-- What a field has for its content. -/
def Content : Field → Type
  | batchSize => UInt32
  | duplicatePolicy => DuplicatePolicy
  | hideXxx => Bool
  | eventCapacity => UInt64
  | defaultSort => SortOrder

def encode : (field : Field) → field.Content → Json
  | batchSize => Json.ofWord32
  | duplicatePolicy => DuplicatePolicy.toJson
  | hideXxx => .bool
  | eventCapacity => Json.ofWord64
  | defaultSort => SortOrder.toJson

def decode? : (field : Field) → Json → Option field.Content
  | batchSize => Json.word32?
  | duplicatePolicy => DuplicatePolicy.ofJson?
  | hideXxx => Json.flag?
  | eventCapacity => Json.word64?
  | defaultSort => SortOrder.ofJson?

/-- The values that fit a field: integers in the range of their words, the names of the policies,
flags, and sort orders of which nothing is missing. Null fits no field. -/
inductive Fits : Field → Json → Prop
  | batchSize {n : Int} (natural : 0 ≤ n) (bound : n < 2 ^ 32) : Fits batchSize (.number (.int n))
  | policyName (policy : DuplicatePolicy) : Fits duplicatePolicy (.text policy.name)
  | policyCase (policy : DuplicatePolicy) :
    Fits duplicatePolicy (.object [(policy.name, .null)])
  | hideXxx (flag : Bool) : Fits hideXxx (.bool flag)
  | eventCapacity {n : Int} (natural : 0 ≤ n) (bound : n < 2 ^ 64) :
    Fits eventCapacity (.number (.int n))
  | sortFields {fields : Fields} {column : String} {ascending : Bool}
    (first : Fields.get? "column" fields = some (.text column))
    (second : Fields.get? "ascending" fields = some (.bool ascending)) :
    Fits defaultSort (.object fields)
  | sortItems (column : String) (ascending : Bool) :
    Fits defaultSort (.array [.text column, .bool ascending])

private theorem forall_iff {P : Field → Prop} :
    (∀ field, P field) ↔
      P batchSize ∧ P duplicatePolicy ∧ P hideXxx ∧ P eventCapacity ∧ P defaultSort := by
  constructor
  · intro all
    exact ⟨all _, all _, all _, all _, all _⟩
  · rintro ⟨_, _, _, _, _⟩ (_ | _ | _ | _ | _) <;> assumption

private theorem decode?_encode (field : Field) (content : field.Content) :
    field.decode? (field.encode content) = some content := by
  cases field with
  | batchSize => exact Json.word32?_eq_some_iff.mpr rfl
  | duplicatePolicy => exact DuplicatePolicy.ofJson?_eq_some_iff.mpr (.inl rfl)
  | hideXxx => rfl
  | eventCapacity => exact Json.word64?_eq_some_iff.mpr rfl
  | defaultSort => exact SortOrder.ofJson?_eq_some_iff.mpr (.object rfl rfl)

private theorem fits_of_decode? {field : Field} {v : Json} {content : field.Content}
    (read : field.decode? v = some content) : field.Fits v := by
  cases field with
  | batchSize =>
    obtain rfl := Json.word32?_eq_some_iff.mp read
    have bound := UInt32.toNat_lt content
    exact .batchSize (Int.natCast_nonneg _) (by omega)
  | duplicatePolicy =>
    rcases DuplicatePolicy.ofJson?_eq_some_iff.mp read with rfl | rfl
    · exact .policyName content
    · exact .policyCase content
  | hideXxx =>
    obtain rfl := Json.flag?_eq_some_iff.mp read
    exact .hideXxx content
  | eventCapacity =>
    obtain rfl := Json.word64?_eq_some_iff.mp read
    have bound := UInt64.toNat_lt content
    exact .eventCapacity (Int.natCast_nonneg _) (by omega)
  | defaultSort =>
    cases SortOrder.ofJson?_eq_some_iff.mp read with
    | object first second => exact .sortFields first second
    | array => exact .sortItems _ _

private theorem Fits.exists_content {field : Field} {v : Json} (fits : field.Fits v) :
    ∃ content, field.decode? v = some content := by
  cases fits with
  | batchSize natural bound =>
    obtain ⟨word, same⟩ := Json.exists_ofWord32 natural bound
    exact ⟨word, Json.word32?_eq_some_iff.mpr same⟩
  | policyName policy => exact ⟨policy, DuplicatePolicy.ofJson?_eq_some_iff.mpr (.inl rfl)⟩
  | policyCase policy => exact ⟨policy, DuplicatePolicy.ofJson?_eq_some_iff.mpr (.inr rfl)⟩
  | hideXxx flag => exact ⟨flag, rfl⟩
  | eventCapacity natural bound =>
    obtain ⟨word, same⟩ := Json.exists_ofWord64 natural bound
    exact ⟨word, Json.word64?_eq_some_iff.mpr same⟩
  | sortFields first second =>
    exact ⟨⟨_, _⟩, SortOrder.ofJson?_eq_some_iff.mpr (.object first second)⟩
  | sortItems column ascending => exact ⟨⟨column, ascending⟩, rfl⟩

end Field

/-! ## Settings as their fields -/

def get (s : Settings) : (field : Field) → field.Content
  | .batchSize => s.batchSize
  | .duplicatePolicy => s.duplicatePolicy
  | .hideXxx => s.hideXxx
  | .eventCapacity => s.eventCapacity
  | .defaultSort => s.defaultSort

def ofContents (contents : (field : Field) → field.Content) : Settings where
  batchSize := contents .batchSize
  duplicatePolicy := contents .duplicatePolicy
  hideXxx := contents .hideXxx
  eventCapacity := contents .eventCapacity
  defaultSort := contents .defaultSort

def overriddenBy (base s : Settings) (given : Finset Field) : Settings :=
  ofContents fun field => if field ∈ given then s.get field else base.get field

variable {s t : Settings} {fields other : Fields} {field : Field}

@[simp] theorem get_ofContents (contents : (field : Field) → field.Content) (field : Field) :
    (ofContents contents).get field = contents field := by
  cases field <;> rfl

private theorem get?_toJson (s : Settings) (field : Field) :
    s.toJson.get? field.name = some (field.encode (s.get field)) := by
  cases field <;> rfl

/-- An object is decoded field by field: what is missing has its default, and the others are read
by themselves. -/
theorem ofJson?_object_eq_some_iff :
    Settings.ofJson? (.object fields) = some s ↔
      ∀ field : Field, Json.withDefault (default.get field) field.decode?
        (Fields.get? field.name fields) = some (s.get field) := by
  obtain ⟨_, _, _, _, _⟩ := s
  rw [Field.forall_iff]
  simp only [ofJson?, Json.recordWithDefaults?, fieldNames, List.map_cons, List.map_nil,
    Option.bind_eq_bind, Option.bind_eq_some_iff, Option.pure_def, Option.some.injEq,
    Settings.mk.injEq]
  constructor
  · rintro ⟨_, batch, _, policy, _, hide, _, capacity, _, sort, rfl, rfl, rfl, rfl, rfl⟩
    exact ⟨batch, policy, hide, capacity, sort⟩
  · rintro ⟨batch, policy, hide, capacity, sort⟩
    exact ⟨_, batch, _, policy, _, hide, _, capacity, _, sort, rfl, rfl, rfl, rfl, rfl⟩

theorem ofJson?_object_eq_none_iff :
    Settings.ofJson? (.object fields) = none ↔
      ∃ (field : Field) (v : Json), Fields.get? field.name fields = some v ∧ ¬ field.Fits v := by
  constructor
  · intro refused
    by_contra all
    push Not at all
    -- Otherwise every field has a content, and these make up settings.
    have contents (field : Field) : ∃ content, Json.withDefault (default.get field) field.decode?
        (Fields.get? field.name fields) = some content := by
      cases held : Fields.get? field.name fields with
      | none => exact ⟨_, rfl⟩
      | some v => exact (all field v held).exists_content
    choose content read using contents
    have decoded := (ofJson?_object_eq_some_iff (s := ofContents content)).mpr fun field => by
      rw [read, get_ofContents]
    rw [refused] at decoded
    cases decoded
  · rintro ⟨field, v, held, unfit⟩
    rw [Option.eq_none_iff_forall_ne_some]
    intro s decoded
    have read := ofJson?_object_eq_some_iff.mp decoded field
    rw [held] at read
    exact unfit (Field.fits_of_decode? read)

private theorem ofJson?_object_of_given {given : Finset Field}
    (kept : ∀ field : Field, Fields.get? field.name fields =
      if field ∈ given then s.toJson.get? field.name else none) :
    Settings.ofJson? (.object fields) = some (default.overriddenBy s given) := by
  rw [ofJson?_object_eq_some_iff]
  intro field
  rw [kept, overriddenBy, get_ofContents]
  by_cases member : field ∈ given
  · rw [if_pos member, if_pos member, get?_toJson]
    exact field.decode?_encode _
  · rw [if_neg member, if_neg member]
    rfl

private theorem ofJson?_toJson (s : Settings) : Settings.ofJson? s.toJson = some s := by
  refine ofJson?_object_eq_some_iff.mpr fun field => ?_
  have held : Fields.get? field.name _ = _ := s.get?_toJson field
  rw [held]
  exact field.decode?_encode _

private theorem get_eq_of_ofJson?
    (same : Fields.get? field.name fields = Fields.get? field.name other)
    (decoded : Settings.ofJson? (.object fields) = some s)
    (decoded' : Settings.ofJson? (.object other) = some t) : s.get field = t.get field := by
  have read := ofJson?_object_eq_some_iff.mp decoded field
  rw [same, ofJson?_object_eq_some_iff.mp decoded' field] at read
  exact (Option.some.inj read).symm

/-- An object that has some fields of settings as they are written, and whatever else under other
names, is decoded to the default settings with these fields replaced; with all fields that is how
settings read back. Each field depends on what stands under its name only, and an object is refused
exactly if one of its values does not fit the field of its name. -/
theorem fields_override_defaults :
    (∀ (s : Settings) (given : Finset Field) (fields : Fields),
      (∀ field : Field, Fields.get? field.name fields =
        if field ∈ given then s.toJson.get? field.name else none) →
      Settings.ofJson? (.object fields) = some (default.overriddenBy s given)) ∧
    (∀ s : Settings, Settings.ofJson? s.toJson = some s) ∧
    (∀ (fields other : Fields) (s t : Settings) (field : Field),
      Fields.get? field.name fields = Fields.get? field.name other →
      Settings.ofJson? (.object fields) = some s → Settings.ofJson? (.object other) = some t →
      s.get field = t.get field) ∧
    ∀ fields : Fields, Settings.ofJson? (.object fields) = none ↔
      ∃ (field : Field) (v : Json), Fields.get? field.name fields = some v ∧ ¬ field.Fits v := by
  refine ⟨?_, ofJson?_toJson, ?_, fun fields => ofJson?_object_eq_none_iff⟩
  · intro s given fields kept
    exact ofJson?_object_of_given kept
  · intro fields other s t field same decoded decoded'
    exact get_eq_of_ofJson? same decoded decoded'

theorem fields_override_defaults_of_sort_order :
    let s : Settings := ⟨20, .append, false, 1, ⟨"size", false⟩⟩
    let given : Finset Field := {.defaultSort}
    let theme : Fields := [("theme", .null)]
    let sorted : Fields := ("defaultSort", s.defaultSort.toJson) :: theme
    let cut : Fields :=
      [("defaultSort", .object [("column", .text "size")]), ("hideXxx", .bool true)]
    (∀ field : Field, Fields.get? field.name sorted =
      if field ∈ given then s.toJson.get? field.name else none) ∧
    Settings.ofJson? (.object sorted) = some ⟨50, .dropIncoming, true, 256, ⟨"size", false⟩⟩ ∧
    Settings.ofJson? (.object theme) = some default ∧
    default.get .hideXxx = (default.overriddenBy s given).get .hideXxx ∧
    Settings.ofJson? (.object cut) = none := by
  intro s given theme sorted cut
  obtain ⟨overrides, -, depends, refused⟩ := fields_override_defaults
  have kept : ∀ field : Field, Fields.get? field.name sorted =
      if field ∈ given then s.toJson.get? field.name else none := by
    rintro (_ | _ | _ | _ | _) <;> rfl
  have none : ∀ field : Field, Fields.get? field.name theme =
      if field ∈ (∅ : Finset Field) then s.toJson.get? field.name else none := by
    rintro (_ | _ | _ | _ | _) <;> rfl
  have decoded := overrides s given sorted kept
  have decoded' := overrides s ∅ theme none
  refine ⟨kept, decoded, decoded', ?_, (refused cut).mpr ⟨.defaultSort, _, rfl, ?_⟩⟩
  · exact depends theme sorted _ _ .hideXxx rfl decoded' decoded
  · rintro (_ | _)
    contradiction

end Settings

end LiveTable
