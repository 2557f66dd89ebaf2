import LiveTable.Proofs.Answer.Agreement
set_option autoImplicit false

/-!
# Answers there and back

Writing an answer leaves out the fields that it has no content for, and reading takes a missing
field for one without content; so what has been written is read as what it was. Main statements:
`Answer.read_toJson`, `Answer.normalize_eq_of_normalize`, by which writing again what has been read
leaves it as it is, and `EditAnswer.read_toJson`.
-/

namespace LiveTable

private theorem Fields.get?_append (name : String) (fields more : Fields) :
    get? name (fields ++ more) = (get? name fields).or (get? name more) := by
  induction fields with
  | nil => rfl
  | cons field rest ih =>
    obtain ⟨key, value⟩ := field
    by_cases same : key = name
    · simp [get?, same]
    · simp [get?, same, ih]

namespace Json

private theorem get?_present (name other : String) (content : Option Json) :
    Fields.get? name (present other content) = if other = name then content else none := by
  cases content <;> simp [present, Fields.get?]

private theorem holds_of_get? {v : Json} {name : String} {content : Option Json}
    (found : v.get? name = content) : v.Holds name content := by
  cases content with
  | none => exact .inl found
  | some w => exact found

end Json

namespace Answer

variable {answer : Answer} {v w : Json}

/-- A value that is read, as an answer would be written, or nothing if it is no answer. -/
def normalize (v : Json) : Except Failure (Option Json) := (Answer.read v).map (Option.map toJson)

private theorem writtenAs_toJson (identified : ∀ item ∈ answer.results, item.identity?.isSome) :
    answer.WrittenAs answer.toJson := by
  have fields (name : String) : answer.toJson.get? name =
      ((if "uuid" = name then answer.token.map .text else none).or
        (if "results" = name then some (.array (answer.results.map Item.toJson))
        else (if "total" = name then answer.total.map Json.ofWord64 else none).or
          (if "dirty" = name then answer.dirty.map .bool else none))) := by
    simp only [toJson, Json.ofPairs, Json.get?, Fields.get?_ofList, Fields.get?_append,
      Fields.get?, Json.get?_present]
  constructor
  · apply Json.holds_of_get?
    simp [fields]
  · simp [fields]
  · exact identified
  · apply Json.holds_of_get?
    simp [fields]
  · apply Json.holds_of_get?
    simp [fields]

theorem read_toJson (identified : ∀ item ∈ answer.results, item.identity?.isSome) :
    Answer.read answer.toJson = .ok (some answer) := by
  have written := writtenAs_toJson identified
  exact read_eq_ok_iff_writtenAs.mpr ⟨written.not_void, written⟩

theorem read_toJson_of_read (read : Answer.read v = .ok (some answer)) :
    Answer.read answer.toJson = .ok (some answer) := read_toJson (identified_of_read read)

theorem normalize_eq_some_iff :
    normalize v = .ok (some w) ↔
      ∃ answer, Answer.read v = .ok (some answer) ∧ w = answer.toJson := by
  unfold normalize
  rcases Answer.read v with failure | _ | answer
  · simp [Except.map]
  · simp [Except.map]
  · simp [Except.map, eq_comm]

theorem normalize_eq_of_normalize (once : normalize v = .ok (some w)) :
    normalize w = .ok (some w) := by
  obtain ⟨answer, read, rfl⟩ := normalize_eq_some_iff.mp once
  exact normalize_eq_some_iff.mpr ⟨answer, read_toJson_of_read read, rfl⟩

end Answer

theorem EditAnswer.read_toJson (answer : EditAnswer) :
    EditAnswer.read answer.toJson = .ok (some answer) := rfl

end LiveTable
