import LiveTable.Proofs.Answer.Read
set_option autoImplicit false

/-!
# Two readers of answers

An object is taken for an answer in two ways: `Answer.read` goes through its fields by hand, and
`Answer.ofJson?` decodes them as those of a record. Both look at the known fields only, and find in
each of them what `Json.Holds` says, so the one accepts what the other does as long as all rows have
identities. Main statement: `readers_agree_on_objects`. The readers differ in what is no answer: an
object without any field counts as empty, and one with unknown fields only is at fault.
-/

namespace LiveTable

def Fields.AgreeOn (names : List String) (fields other : Fields) : Prop :=
  ∀ name ∈ names, get? name other = get? name fields

namespace Json

private theorem record?_congr {names : List String} {fields other : Fields}
    (agree : Fields.AgreeOn names fields other) :
    record? names (.object other) = record? names (.object fields) := by
  simp only [record?, Option.some.injEq]
  exact List.map_congr_left agree

end Json

theorem Item.ofJson?_eq_some_iff {v : Json} {item : Item} :
    Item.ofJson? v = some item ↔ v = item.toJson := by
  obtain ⟨fields⟩ := item
  cases v <;> simp [ofJson?, toJson]

namespace Answer

variable {answer : Answer} {fields other : Fields}

/-! ## The same answers -/

theorem ofJson?_object_eq_some_iff :
    Answer.ofJson? (.object fields) = some answer ↔
      (Json.object fields).Holds "uuid" (answer.token.map .text) ∧
      Fields.get? "results" fields = some (.array (answer.results.map Item.toJson)) ∧
      (Json.object fields).Holds "total" (answer.total.map Json.ofWord64) ∧
      (Json.object fields).Holds "dirty" (answer.dirty.map .bool) := by
  have decoded : Answer.ofJson? (.object fields) = some answer ↔
      Json.optional Json.text? ((Json.object fields).get? "uuid") = some answer.token ∧
      Json.required (Json.list? Item.ofJson?) (Fields.get? "results" fields) =
        some answer.results ∧
      Json.optional Json.word64? ((Json.object fields).get? "total") = some answer.total ∧
      Json.optional Json.flag? ((Json.object fields).get? "dirty") = some answer.dirty := by
    obtain ⟨token, results, total, dirty⟩ := answer
    simp only [ofJson?, Json.record?, fieldNames, List.map_cons, List.map_nil, Option.bind_eq_bind,
      Option.bind_eq_some_iff, Option.pure_def, Option.some.injEq, Answer.mk.injEq, Json.get?]
    constructor
    · rintro ⟨_, ht, _, hr, _, hn, _, hd, rfl, rfl, rfl, rfl⟩
      exact ⟨ht, hr, hn, hd⟩
    · rintro ⟨ht, hr, hn, hd⟩
      exact ⟨_, ht, _, hr, _, hn, _, hd, rfl, rfl, rfl, rfl⟩
  have rows (w : Json) (items : List Item) :
      Json.list? Item.ofJson? w = some items ↔ w = .array (items.map Item.toJson) :=
    Json.list?_eq_some_iff fun _ _ => Item.ofJson?_eq_some_iff
  rw [decoded, Json.optional_eq_some_iff (fun _ _ => Json.text?_eq_some_iff) (by simp),
    Json.required_eq_some_iff rows,
    Json.optional_eq_some_iff (fun _ _ => Json.word64?_eq_some_iff) (by simp [Json.ofWord64]),
    Json.optional_eq_some_iff (fun _ _ => Json.flag?_eq_some_iff) (by simp)]

theorem writtenAs_object_iff :
    answer.WrittenAs (.object fields) ↔ Answer.ofJson? (.object fields) = some answer ∧
      ∀ item ∈ answer.results, item.identity?.isSome := by
  rw [ofJson?_object_eq_some_iff]
  constructor
  · intro written
    exact ⟨⟨written.token, written.results, written.total, written.dirty⟩, written.identified⟩
  · rintro ⟨⟨token, results, total, dirty⟩, identified⟩
    exact ⟨token, results, identified, total, dirty⟩

theorem WrittenAs.not_void {v : Json} (written : answer.WrittenAs v) : ¬ v.Void := by
  intro void
  have results := written.results
  cases void <;> cases results

theorem read_object_eq_ok_some_iff :
    Answer.read (.object fields) = .ok (some answer) ↔
      Answer.ofJson? (.object fields) = some answer ∧
        ∀ item ∈ answer.results, item.identity?.isSome := by
  rw [read_eq_ok_iff_writtenAs, ← writtenAs_object_iff]
  exact ⟨And.right, fun written => ⟨written.not_void, written⟩⟩

private theorem exists_fields_of_read {v : Json} (read : Answer.read v = .ok (some answer)) :
    ∃ fields, v = .object fields := by
  have results := (read_eq_ok_iff_writtenAs.mp read).2.results
  cases v with
  | object fields => exact ⟨fields, rfl⟩
  | _ => cases results

/-! ## Unknown fields -/

private theorem ofJson?_congr (agree : Fields.AgreeOn fieldNames fields other) :
    Answer.ofJson? (.object other) = Answer.ofJson? (.object fields) := by
  unfold Answer.ofJson?
  rw [Json.record?_congr agree]

private theorem readFields_congr (agree : Fields.AgreeOn fieldNames fields other) :
    readFields other = readFields fields := by
  have token := agree "uuid" (by decide)
  have results := agree "results" (by decide)
  have total := agree "total" (by decide)
  have dirty := agree "dirty" (by decide)
  simp only [readFields, token, results, total, dirty]

private theorem read_object_of_ne_nil (some : fields ≠ []) :
    Answer.read (.object fields) = (readFields fields).map .some := by
  have full : (Json.object fields).isFalsy = false := by
    simpa [Json.isFalsy] using some
  simp only [Answer.read, full, Bool.false_eq_true, if_false]

private theorem read_object_congr (agree : Fields.AgreeOn fieldNames fields other)
    (empty : other = [] ↔ fields = []) :
    Answer.read (.object other) = Answer.read (.object fields) := by
  by_cases none : fields = []
  · rw [none, empty.mpr none]
  · have some : other ≠ [] := mt empty.mp none
    rw [read_object_of_ne_nil none, read_object_of_ne_nil some, readFields_congr agree]

private theorem read_object_of_unknown (agree : Fields.AgreeOn fieldNames [] other)
    (some : other ≠ []) :
    Answer.read (.object other) = .error (.malformed .noResults) := by
  rw [read_object_of_ne_nil some, readFields_congr agree]
  rfl

/-- An object is read as an answer exactly if the record format decodes it to that answer and all
rows have identities. So where there is no answer, the record format has none either, or one of a
row without an identity. Nothing but an object is read as an answer. Unknown fields have no
influence on the record format, and none on reading but one: without any field there is no answer,
and with unknown fields only there is a fault. -/
theorem readers_agree_on_objects (fields : Fields) :
    (∀ answer, Answer.read (.object fields) = .ok (some answer) ↔
      Answer.ofJson? (.object fields) = some answer ∧
        ∀ item ∈ answer.results, item.identity?.isSome) ∧
    ((∀ answer, Answer.read (.object fields) ≠ .ok (some answer)) →
      Answer.ofJson? (.object fields) = none ∨
        ∃ answer, Answer.ofJson? (.object fields) = some answer ∧
          ∃ item ∈ answer.results, item.identity? = none) ∧
    (∀ v answer, Answer.read v = .ok (some answer) → ∃ fields, v = .object fields) ∧
    ∀ other, Fields.AgreeOn fieldNames fields other →
      Answer.ofJson? (.object other) = Answer.ofJson? (.object fields) ∧
      ((other = [] ↔ fields = []) →
        Answer.read (.object other) = Answer.read (.object fields)) ∧
      (fields = [] → other ≠ [] →
        Answer.read (.object fields) = .ok none ∧
          Answer.read (.object other) = .error (.malformed .noResults)) := by
  refine ⟨fun answer => read_object_eq_ok_some_iff, ?_, fun v answer => exists_fields_of_read, ?_⟩
  · intro unread
    cases decoded : Answer.ofJson? (.object fields) with
    | none => exact .inl rfl
    | some answer =>
      refine .inr ⟨answer, rfl, ?_⟩
      have unidentified : ¬ ∀ item ∈ answer.results, item.identity?.isSome :=
        fun all => unread answer (read_object_eq_ok_some_iff.mpr ⟨decoded, all⟩)
      simpa using unidentified
  · intro other agree
    refine ⟨ofJson?_congr agree, read_object_congr agree, ?_⟩
    rintro rfl some
    exact ⟨rfl, read_object_of_unknown agree some⟩

theorem readers_agree_on_objects_of_nameless_row :
    let rows : Json := .array [.object [("infohash", .text "a")], .object [("name", .text "b")]]
    let fields : Fields := [("results", rows), ("total", .null)]
    let other : Fields := [("page", .number (.int 1)), ("results", rows), ("total", .null)]
    let answer : Answer :=
      ⟨none, [⟨[("infohash", .text "a")]⟩, ⟨[("name", .text "b")]⟩], none, none⟩
    Fields.AgreeOn fieldNames fields other ∧ Answer.ofJson? (.object other) = some answer ∧
      (∀ answer, Answer.read (.object other) ≠ .ok (some answer)) ∧
      Answer.read (.object other) = Answer.read (.object fields) := by
  intro rows fields other answer
  have agree : Fields.AgreeOn fieldNames fields other := by
    unfold Fields.AgreeOn
    decide
  obtain ⟨same, -, -, unknown⟩ := readers_agree_on_objects fields
  obtain ⟨decodes, reads, -⟩ := unknown other agree
  have decoded : Answer.ofJson? (.object fields) = some answer := rfl
  have nameless : ¬ ∀ item ∈ answer.results, item.identity?.isSome := by decide
  have again : Answer.read (.object other) = Answer.read (.object fields) :=
    reads (by simp [fields, other])
  refine ⟨agree, decodes.trans decoded, ?_, again⟩
  intro found read
  obtain ⟨taken, identified⟩ := (same found).mp (again.symm.trans read)
  rw [decoded] at taken
  cases taken
  exact nameless identified

/-- A field of an unknown name makes a fault out of what was no answer. -/
theorem unknown_field_is_a_fault : ¬ ∀ fields other : Fields,
    Fields.AgreeOn fieldNames fields other →
      Answer.read (.object other) = Answer.read (.object fields) := by
  intro same
  have agree : Fields.AgreeOn fieldNames [] [("x", .number (.int 1))] := by
    unfold Fields.AgreeOn
    decide
  have empty : Answer.read (.object []) = .ok none := rfl
  have fault : Answer.read (.object [("x", .number (.int 1))]) =
      .error (.malformed .noResults) := rfl
  have equal := same _ _ agree
  rw [empty, fault] at equal
  cases equal

end Answer

end LiveTable
