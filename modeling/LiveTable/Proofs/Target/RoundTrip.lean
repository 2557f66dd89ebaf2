import LiveTable.Proofs.Epoch.Layouts
import LiveTable.Proofs.Json.Records
import LiveTable.Target
set_option autoImplicit false

/-!
# Stored targets and rows

Targets, items, sort orders, windows and epochs are stored as values and read back from them. What
is stored as a record is also read back from an object that has further fields. Main statements:
`Target.ofJson?_object_eq_some_iff` for all objects that are read as targets, and
`stored_values_read_back`.
-/

namespace LiveTable

/-! ## Added fields -/

namespace Json

variable {fields : Fields}

/-- The fields of a value stand in an object, which may have others. -/
def KeptIn (v : Json) (fields : Fields) : Prop :=
  ∀ name content, v.get? name = some content → Fields.get? name fields = some content

private theorem keptIn_self (fields : Fields) :
    KeptIn (.object fields) fields := fun _ _ held => held

private theorem keptIn_overriddenBy {more : Fields}
    (unknown : ∀ name, Fields.get? name fields ≠ none → Fields.get? name more = none) :
    KeptIn (.object fields) (fields.overriddenBy more) := by
  intro name content held
  have found : Fields.get? name fields = some content := held
  have free : Fields.get? name more = none := unknown name (by simp [found])
  rw [Fields.get?_overriddenBy, free, found, Option.none_or]

private theorem pair_of_keptIn {first second : String} {x y : Json} (distinct : first ≠ second)
    (kept : (ofPairs [(first, x), (second, y)]).KeptIn fields) :
    Pair first second x y (.object fields) := by
  refine .object (kept first x ?_) (kept second y ?_) <;>
    simp [ofPairs, Json.get?, Fields.get?, distinct]

end Json

/-! ## Targets -/

namespace Target

variable {fields : Fields} {name : String} {field other : Option Json} {target : Target}

/-- A value has a target's own fields; the type of rows may be missing. -/
def Within (v : Json) : Target → Prop
  | search metadataType => v.Holds "metadataType" (metadataType.map .text)
  | filteredListing subscribed => v.get? "subscribed" = some (.bool subscribed)
  | parentScoped publicKey channelId =>
    v.get? "publicKey" = some (.text publicKey) ∧
      v.get? "channelId" = some (Json.ofWord64 channelId)
  | ownedListing excludeDeleted => v.get? "excludeDeleted" = some (.bool excludeDeleted)

private theorem fieldNames?_eq_some_iff {names : List String} :
    fieldNames? name = some names ↔
      (name = "search" ∧ names = ["metadataType"]) ∨
        (name = "filtered-listing" ∧ names = ["subscribed"]) ∨
        (name = "parent-scoped" ∧ names = ["publicKey", "channelId"]) ∨
        (name = "owned-listing" ∧ names = ["excludeDeleted"]) := by
  unfold fieldNames?
  split_ifs <;> subst_vars <;> simp_all [eq_comm]

private theorem ofFields?_search_iff :
    ofFields? "search" [Fields.get? name fields] = some target ↔
      ∃ content : Option String,
        Json.Holds (.object fields) name (content.map .text) ∧ search content = target := by
  have decoded (content : Option String) :
      Json.optional Json.text? (Json.get? name (.object fields)) = some content ↔
        Json.Holds (.object fields) name (content.map .text) :=
    Json.optional_eq_some_iff (fun _ _ => Json.text?_eq_some_iff) (fun _ => by simp)
  simp only [ofFields?, if_true, Option.map_eq_some_iff]
  exact exists_congr fun content => and_congr_left' (decoded content)

private theorem ofFields?_filteredListing_iff :
    ofFields? "filtered-listing" [field] = some target ↔
      ∃ subscribed, field = some (.bool subscribed) ∧ filteredListing subscribed = target := by
  simp [ofFields?, Json.required_eq_some_iff fun _ _ => Json.flag?_eq_some_iff]

private theorem ofFields?_parentScoped_iff :
    ofFields? "parent-scoped" [field, other] = some target ↔
      ∃ publicKey channelId,
        (field = some (.text publicKey) ∧ other = some (Json.ofWord64 channelId)) ∧
          parentScoped publicKey channelId = target := by
  simp [ofFields?, Option.bind_eq_some_iff, and_assoc,
    Json.required_eq_some_iff fun _ _ => Json.text?_eq_some_iff,
    Json.required_eq_some_iff fun _ _ => Json.word64?_eq_some_iff]

private theorem ofFields?_ownedListing_iff :
    ofFields? "owned-listing" [field] = some target ↔
      ∃ excludeDeleted, field = some (.bool excludeDeleted) ∧
        ownedListing excludeDeleted = target := by
  simp [ofFields?, Json.required_eq_some_iff fun _ _ => Json.flag?_eq_some_iff]

theorem ofJson?_object_eq_some_iff :
    ofJson? (.object fields) = some target ↔
      Fields.get? "kind" fields = some (.text target.name) ∧ Within (.object fields) target := by
  have steps : ofJson? (.object fields) = some target ↔
      ∃ kind names, Fields.get? "kind" fields = some (.text kind) ∧
        fieldNames? kind = some names ∧
        ofFields? kind (names.map (Fields.get? · fields)) = some target := by
    simp [ofJson?, Option.bind_eq_some_iff, Json.text?_eq_some_iff]
  rw [steps]
  constructor
  · rintro ⟨kind, names, named, known, own⟩
    obtain ⟨rfl, rfl⟩ | ⟨rfl, rfl⟩ | ⟨rfl, rfl⟩ | ⟨rfl, rfl⟩ := fieldNames?_eq_some_iff.mp known
    · obtain ⟨content, held, rfl⟩ := ofFields?_search_iff.mp own
      exact ⟨named, held⟩
    · obtain ⟨subscribed, held, rfl⟩ := ofFields?_filteredListing_iff.mp own
      exact ⟨named, held⟩
    · obtain ⟨publicKey, channelId, held, rfl⟩ := ofFields?_parentScoped_iff.mp own
      exact ⟨named, held⟩
    · obtain ⟨excludeDeleted, held, rfl⟩ := ofFields?_ownedListing_iff.mp own
      exact ⟨named, held⟩
  · rintro ⟨named, held⟩
    cases target with
    | search metadataType =>
      exact ⟨_, _, named, rfl, ofFields?_search_iff.mpr ⟨_, held, rfl⟩⟩
    | filteredListing subscribed =>
      exact ⟨_, _, named, rfl, ofFields?_filteredListing_iff.mpr ⟨_, held, rfl⟩⟩
    | parentScoped publicKey channelId =>
      exact ⟨_, _, named, rfl, ofFields?_parentScoped_iff.mpr ⟨_, _, held, rfl⟩⟩
    | ownedListing excludeDeleted =>
      exact ⟨_, _, named, rfl, ofFields?_ownedListing_iff.mpr ⟨_, held, rfl⟩⟩

private theorem ofJson?_of_keptIn (kept : target.toJson.KeptIn fields) :
    ofJson? (.object fields) = some target := by
  have stored {name : String} {content : Json} (held : target.toJson.get? name = some content) :
      Fields.get? name fields = some content := kept name content held
  rw [ofJson?_object_eq_some_iff]
  refine ⟨stored (by simp [toJson, Json.ofPairs, Json.get?, Fields.get?]), ?_⟩
  cases target with
  | search metadataType =>
    cases metadataType with
    | none => exact .inr (stored (by simp [toJson, Json.ofPairs, Json.get?, Fields.get?]))
    | some content => exact stored (by simp [toJson, Json.ofPairs, Json.get?, Fields.get?])
  | filteredListing | ownedListing =>
    exact stored (by simp [toJson, Json.ofPairs, Json.get?, Fields.get?])
  | parentScoped publicKey channelId =>
    constructor <;> exact stored (by simp [toJson, Json.ofPairs, Json.get?, Fields.get?])

private theorem ofJson?_toJson (target : Target) : ofJson? target.toJson = some target :=
  ofJson?_of_keptIn (Json.keptIn_self _)

end Target

/-! ## Other stored values -/

private theorem SortOrder.ofJson?_of_keptIn {sort : SortOrder} {fields : Fields}
    (kept : sort.toJson.KeptIn fields) : SortOrder.ofJson? (.object fields) = some sort :=
  SortOrder.ofJson?_eq_some_iff.mpr (Json.pair_of_keptIn (by decide) kept)

private theorem Window.ofJson?_of_keptIn {w : Window} {fields : Fields}
    (kept : w.toJson.KeptIn fields) :
    Window.ofJson? (.object fields) = some w :=
  Window.ofJson?_eq_some_iff.mpr (Json.pair_of_keptIn (by decide) kept)

private theorem Epoch.ofJson?_toJson (e : Epoch) : Epoch.ofJson? e.toJson = some e := by
  have spelled : Spells e.hyphenated .hyphenated e := by
    rw [Spells, hyphenated, String.toList_ofList, map_toLower_hyphenate, toLower_digits,
      Layout.write]
  rw [ofJson?, toJson, Json.text?, Option.bind_some]
  exact ofText?_eq_some_iff.mpr ⟨.hyphenated, spelled⟩

/-- Stored values are read back as themselves, records also beside fields of other names, and
different targets are stored as different values. -/
theorem stored_values_read_back :
    (∀ (target : Target) (fields : Fields), target.toJson.KeptIn fields →
      Target.ofJson? (.object fields) = some target) ∧
    (∀ target : Target, Target.ofJson? target.toJson = some target) ∧
    Function.Injective Target.toJson ∧
    (∀ fields : Fields, Item.ofJson? (.object fields) = some ⟨fields⟩ ∧
      (Item.mk fields).toJson = .object fields) ∧
    (∀ item : Item, Item.ofJson? item.toJson = some item) ∧
    (∀ (sort : SortOrder) (fields : Fields), sort.toJson.KeptIn fields →
      SortOrder.ofJson? (.object fields) = some sort) ∧
    (∀ sort : SortOrder, SortOrder.ofJson? sort.toJson = some sort) ∧
    (∀ (w : Window) (fields : Fields), w.toJson.KeptIn fields →
      Window.ofJson? (.object fields) = some w) ∧
    (∀ w : Window, Window.ofJson? w.toJson = some w) ∧
    ∀ e : Epoch, Epoch.ofJson? e.toJson = some e := by
  have injective : Function.Injective Target.toJson := by
    intro target other same
    have read := Target.ofJson?_toJson target
    rw [same, Target.ofJson?_toJson] at read
    exact (Option.some.inj read).symm
  exact ⟨fun _ _ => Target.ofJson?_of_keptIn, Target.ofJson?_toJson, injective,
    fun _ => ⟨rfl, rfl⟩, Item.ofJson?_toJson, fun _ _ => SortOrder.ofJson?_of_keptIn,
    fun _ => SortOrder.ofJson?_of_keptIn (Json.keptIn_self _),
    fun _ _ => Window.ofJson?_of_keptIn, fun _ => Window.ofJson?_of_keptIn (Json.keptIn_self _),
    Epoch.ofJson?_toJson⟩

theorem stored_values_read_back_beside_theme :
    let target : Target := .parentScoped "a:b" 18446744073709551615
    let channel : Fields := [("channelId", .number (.int 18446744073709551615)),
      ("kind", .text "parent-scoped"), ("publicKey", .text "a:b")]
    let page : Fields := [("first", .number (.int 1)), ("last", .number (.int 4294967295))]
    let more : Fields := [("metadataType", .null), ("theme", .text "dark")]
    (target.toJson.KeptIn (channel.overriddenBy more) ∧
      Target.ofJson? (.object (channel.overriddenBy more)) = some target) ∧
    Json.KeptIn (Window.toJson ⟨1, 4294967295⟩) (page.overriddenBy more) ∧
      Window.ofJson? (.object (page.overriddenBy more)) = some ⟨1, 4294967295⟩ := by
  intro target channel page more
  obtain ⟨targets, -, -, -, -, -, -, windows, -, -⟩ := stored_values_read_back
  have kept : target.toJson.KeptIn (channel.overriddenBy more) := by
    have same : target.toJson = .object channel := by decide
    rw [same]
    apply Json.keptIn_overriddenBy
    simp only [channel, more, Fields.get?]
    grind
  have kept' : Json.KeptIn (Window.toJson ⟨1, 4294967295⟩) (page.overriddenBy more) := by
    have same : Window.toJson ⟨1, 4294967295⟩ = .object page := by decide
    rw [same]
    apply Json.keptIn_overriddenBy
    simp only [page, more, Fields.get?]
    grind
  exact ⟨⟨kept, targets _ _ kept⟩, kept', windows _ _ kept'⟩

end LiveTable
