import LiveTable.Proofs.Json.Decoding
import LiveTable.SortOrder
import LiveTable.Window
set_option autoImplicit false

/-!
# Records of two fields

Sort orders and windows are written as objects of two fields, which both have to be there, or as
arrays of their contents. Fields of other names have no influence. Main statements:
`SortOrder.ofJson?_eq_some_iff` and `Window.ofJson?_eq_some_iff`.
-/

namespace LiveTable

namespace Json

/-- A value has two fields with some contents: it is an object that has them under their names, or
an array of the contents. -/
inductive Pair (first second : String) (x y : Json) : Json → Prop
  | object {fields : Fields} (left : Fields.get? first fields = some x)
    (right : Fields.get? second fields = some y) : Pair first second x y (.object fields)
  | array : Pair first second x y (.array [x, y])

variable {α β : Type} {left : Json → Option α} {right : Json → Option β} {encode : α → Json}
  {encode' : β → Json} {first second : String} {v : Json} {a : α} {b : β}

private theorem record?_pair_iff (decodes : ∀ w x, left w = some x ↔ w = encode x)
    (decodes' : ∀ w y, right w = some y ↔ w = encode' y) :
    (∃ x y, record? [first, second] v = some [x, y] ∧ required left x = some a ∧
      required right y = some b) ↔ Pair first second (encode a) (encode' b) v := by
  simp only [required_eq_some_iff decodes, required_eq_some_iff decodes']
  constructor
  · rintro ⟨x, y, read, rfl, rfl⟩
    match v, read with
    | .object fields, read =>
      simp only [record?, List.map_cons, List.map_nil, Option.some.injEq, List.cons.injEq,
        and_true] at read
      exact .object read.1 read.2
    | .array items, read =>
      simp only [record?] at read
      split at read
      · rename_i two
        match items, two with
        | [_, _], _ =>
          cases read
          exact .array
      · cases read
  · rintro (⟨held, held'⟩ | _)
    · exact ⟨_, _, by simp [record?, held, held'], rfl, rfl⟩
    · exact ⟨_, _, rfl, rfl, rfl⟩

end Json

theorem SortOrder.ofJson?_eq_some_iff {v : Json} {sort : SortOrder} :
    SortOrder.ofJson? v = some sort ↔
      Json.Pair "column" "ascending" (.text sort.column) (.bool sort.ascending) v := by
  obtain ⟨column, ascending⟩ := sort
  rw [← Json.record?_pair_iff (fun _ _ => Json.text?_eq_some_iff)
    (fun _ _ => Json.flag?_eq_some_iff)]
  unfold ofJson? fieldNames
  split
  · rename_i x y record
    simp [record, Option.bind_eq_some_iff, and_assoc]
  · rename_i other
    simp only [reduceCtorEq, false_iff]
    rintro ⟨x, y, record, -⟩
    exact other x y record

theorem Window.ofJson?_eq_some_iff {v : Json} {w : Window} :
    Window.ofJson? v = some w ↔
      Json.Pair "first" "last" (Json.ofWord32 w.first) (Json.ofWord32 w.last) v := by
  obtain ⟨first, last⟩ := w
  rw [← Json.record?_pair_iff (fun _ _ => Json.word32?_eq_some_iff)
    (fun _ _ => Json.word32?_eq_some_iff)]
  unfold ofJson?
  split
  · rename_i x y record
    simp [record, Option.bind_eq_some_iff, and_assoc]
  · rename_i other
    simp only [reduceCtorEq, false_iff]
    rintro ⟨x, y, record, -⟩
    exact other x y record

end LiveTable
