import LiveTable.Answer
import LiveTable.Proofs.Json.Decoding
set_option autoImplicit false

/-!
# Reading answers

When a value is read as an answer, and as which. `Json.Void` says which values are empty, and
`Answer.WrittenAs` how an answer is written, field by field. Main statements:
`Answer.read_eq_ok_iff_writtenAs`, by which what is read is what is written;
`Answer.malformed_of_read`, by which whatever is wrong with a value, it is called malformed; and
`Answer.identified_of_read`, by which the rows of whatever is read have identities.
-/

namespace LiveTable

private theorem except_bind_eq_ok_iff {ε α β : Type} {x : Except ε α} {f : α → Except ε β}
    {result : β} :
    x >>= f = .ok result ↔ ∃ value, x = .ok value ∧ f value = .ok result := by
  cases x <;> simp [bind, Except.bind]

private theorem except_bind_eq_error_iff {ε α β : Type} {x : Except ε α} {f : α → Except ε β}
    {error : ε} :
    x >>= f = .error error ↔
      x = .error error ∨ ∃ value, x = .ok value ∧ f value = .error error := by
  cases x <;> simp [bind, Except.bind]

namespace Json

/-- The values that stand for nothing. -/
inductive Void : Json → Prop
  | null : Void .null
  | bool : Void (.bool false)
  | int : Void (.number (.int 0))
  | float {value : Float} (zero : value == 0.0) : Void (.number (.float value))
  | text : Void (.text "")
  | array : Void (.array [])
  | object : Void (.object [])

theorem isFalsy_iff_void {v : Json} : v.isFalsy = true ↔ v.Void := by
  constructor
  · intro falsy
    match v, falsy with
    | .null, _ => exact .null
    | .bool false, _ => exact .bool
    | .number (.int value), zero =>
      obtain rfl : value = 0 := by simpa [isFalsy] using zero
      exact .int
    | .number (.float value), zero => exact .float zero
    | .text content, empty =>
      obtain rfl : content = "" := by simpa [isFalsy] using empty
      exact .text
    | .array [], _ => exact .array
    | .object [], _ => exact .object
  · intro void
    cases void with
    | float zero => exact zero
    | _ => rfl

end Json

namespace Item

theorem read_eq_ok_iff {v : Json} {item : Item} :
    Item.read v = .ok item ↔ v = item.toJson ∧ item.identity?.isSome := by
  cases v with
  | object fields =>
    simp only [Item.read, ofJson?]
    constructor
    · intro read
      split at read
      · cases read
        exact ⟨rfl, by assumption⟩
      · cases read
    · rintro ⟨same, identified⟩
      cases same
      exact if_pos identified
  | _ => simp [Item.read, ofJson?, toJson]

theorem mapM_read_eq_ok_iff {values : List Json} {items : List Item} :
    values.mapM Item.read = .ok items ↔
      values = items.map Item.toJson ∧ ∀ item ∈ items, item.identity?.isSome := by
  induction values generalizing items with
  | nil => cases items <;> simp [pure, Except.pure]
  | cons v values ih =>
    simp only [List.mapM_cons, except_bind_eq_ok_iff, read_eq_ok_iff, ih, pure, Except.pure]
    constructor
    · rintro ⟨item, ⟨rfl, first⟩, others, ⟨rfl, rest⟩, same⟩
      cases same
      exact ⟨rfl, List.forall_mem_cons.mpr ⟨first, rest⟩⟩
    · rintro ⟨same, identified⟩
      cases items with
      | nil => cases same
      | cons item others =>
        obtain ⟨rfl, rfl⟩ := List.cons.inj same
        obtain ⟨first, rest⟩ := List.forall_mem_cons.mp identified
        exact ⟨item, ⟨rfl, first⟩, others, ⟨rfl, rest⟩, rfl⟩

end Item

namespace Answer

variable {answer : Answer}

theorem readFields_eq_ok_iff {fields : Fields} :
    readFields fields = .ok answer ↔
      readToken (Fields.get? "uuid" fields) = .ok answer.token ∧
      readResults (Fields.get? "results" fields) = .ok answer.results ∧
      readTotal (Fields.get? "total" fields) = .ok answer.total ∧
      readDirty (Fields.get? "dirty" fields) = .ok answer.dirty := by
  simp only [readFields, except_bind_eq_ok_iff, pure, Except.pure, Except.ok.injEq]
  constructor
  · rintro ⟨token, ht, results, hr, total, hn, dirty, hd, rfl⟩
    exact ⟨ht, hr, hn, hd⟩
  · rintro ⟨ht, hr, hn, hd⟩
    exact ⟨_, ht, _, hr, _, hn, _, hd, rfl⟩

theorem read_eq_ok_iff {v : Json} :
    Answer.read v = .ok (some answer) ↔ v.isFalsy = false ∧
      readToken (v.get? "uuid") = .ok answer.token ∧
      readResults (v.get? "results") = .ok answer.results ∧
      readTotal (v.get? "total") = .ok answer.total ∧
      readDirty (v.get? "dirty") = .ok answer.dirty := by
  unfold Answer.read
  cases empty : v.isFalsy with
  | true => simp
  | false =>
    cases v with
    | object fields =>
      simp only [Bool.false_eq_true, if_false, true_and, Json.get?, ← readFields_eq_ok_iff]
      cases readFields fields <;> simp [Except.map]
    | _ => simp [Json.get?, readResults]

/-! ## How answers are written -/

/-- A value is how an answer is written: the rows have to be there and to have identities, the other
fields may be left out. -/
structure WrittenAs (answer : Answer) (v : Json) : Prop where
  token : v.Holds "uuid" (answer.token.map .text)
  results : v.get? "results" = some (.array (answer.results.map Item.toJson))
  identified : ∀ item ∈ answer.results, item.identity?.isSome
  total : v.Holds "total" (answer.total.map Json.ofWord64)
  dirty : v.Holds "dirty" (answer.dirty.map .bool)

variable {v : Json} {name : String}

theorem readToken_eq_ok_iff {token : Option String} :
    readToken (v.get? name) = .ok token ↔ v.Holds name (token.map .text) := by
  unfold readToken
  split <;> cases token <;> simp_all [Json.Holds]

theorem readResults_eq_ok_iff {field : Option Json} {items : List Item} :
    readResults field = .ok items ↔
      field = some (.array (items.map Item.toJson)) ∧ ∀ item ∈ items, item.identity?.isSome := by
  unfold readResults
  split
  · simp [Item.mapM_read_eq_ok_iff]
  · rename_i other
    constructor
    · intro read
      cases read
    · rintro ⟨rfl, -⟩
      exact absurd rfl (other _)

theorem readTotal_eq_ok_iff {total : Option UInt64} :
    readTotal (v.get? name) = .ok total ↔ v.Holds name (total.map Json.ofWord64) := by
  unfold readTotal
  split
  · rename_i missing
    cases total <;> simp [Json.Holds, missing]
  · rename_i null
    cases total <;> simp [Json.Holds, null, Json.ofWord64]
  · rename_i content present held
    have counted (n : UInt64) : content.word64? = some n ↔ content = Json.ofWord64 n :=
      Json.word64?_eq_some_iff
    cases number : content.word64? with
    | some n =>
      obtain rfl := (counted n).mp number
      cases total with
      | none => simp [Json.Holds, held, Json.ofWord64]
      | some total => simp [Json.Holds, held, Json.ofWord64_inj]
    | none =>
      simp only [number, reduceCtorEq, false_iff] at counted
      cases total <;> simp_all [Json.Holds]

theorem readDirty_eq_ok_iff {dirty : Option Bool} :
    readDirty (v.get? name) = .ok dirty ↔ v.Holds name (dirty.map .bool) := by
  unfold readDirty
  split
  · rename_i missing
    cases dirty <;> simp [Json.Holds, missing]
  · rename_i null
    cases dirty <;> simp [Json.Holds, null]
  · rename_i flag held
    cases dirty <;> simp [Json.Holds, held]
  · rename_i content present unflagged held
    cases dirty with
    | none => simp_all [Json.Holds]
    | some flag =>
      have other : content ≠ .bool flag := unflagged flag
      simp [Json.Holds, held, other]

theorem read_eq_ok_iff_writtenAs :
    Answer.read v = .ok (some answer) ↔ ¬ v.Void ∧ answer.WrittenAs v := by
  rw [read_eq_ok_iff, readToken_eq_ok_iff, readResults_eq_ok_iff, readTotal_eq_ok_iff,
    readDirty_eq_ok_iff, ← Json.isFalsy_iff_void, Bool.not_eq_true]
  constructor
  · rintro ⟨full, token, ⟨results, identified⟩, total, dirty⟩
    exact ⟨full, token, results, identified, total, dirty⟩
  · rintro ⟨full, token, results, identified, total, dirty⟩
    exact ⟨full, token, ⟨results, identified⟩, total, dirty⟩

theorem identified_of_read (read : Answer.read v = .ok (some answer)) :
    ∀ item ∈ answer.results, item.identity?.isSome :=
  (read_eq_ok_iff_writtenAs.mp read).2.identified

/-! ## What is wrong with the others -/

variable {failure : Failure}

private theorem malformed_of_readItem {value : Json} (wrong : Item.read value = .error failure) :
    ∃ cause, failure = .malformed cause := by
  unfold Item.read at wrong
  split at wrong
  · cases wrong
    exact ⟨_, rfl⟩
  · split at wrong
    · cases wrong
    · cases wrong
      exact ⟨_, rfl⟩

private theorem malformed_of_mapM_readItem {values : List Json}
    (wrong : values.mapM Item.read = .error failure) : ∃ cause, failure = .malformed cause := by
  induction values with
  | nil => cases wrong
  | cons value values ih =>
    rw [List.mapM_cons, except_bind_eq_error_iff] at wrong
    rcases wrong with first | ⟨item, -, others⟩
    · exact malformed_of_readItem first
    · rcases except_bind_eq_error_iff.mp others with rest | ⟨items, -, done⟩
      · exact ih rest
      · cases done

private theorem malformed_of_readFields {fields : Fields}
    (wrong : readFields fields = .error failure) :
    ∃ cause, failure = .malformed cause := by
  simp only [readFields, except_bind_eq_error_iff] at wrong
  rcases wrong with token | ⟨_, -, results | ⟨_, -, total | ⟨_, -, dirty | ⟨_, -, done⟩⟩⟩⟩
  · unfold readToken at token
    split at token <;> cases token
    exact ⟨_, rfl⟩
  · unfold readResults at results
    split at results
    · exact malformed_of_mapM_readItem results
    · cases results
      exact ⟨_, rfl⟩
  · unfold readTotal at total
    repeat' split at total
    all_goals cases total
    exact ⟨_, rfl⟩
  · unfold readDirty at dirty
    split at dirty <;> cases dirty
    exact ⟨_, rfl⟩
  · cases done

/-- Whatever is wrong with a value, it is called malformed. -/
theorem malformed_of_read (wrong : Answer.read v = .error failure) :
    ∃ cause, failure = .malformed cause := by
  unfold Answer.read at wrong
  split at wrong
  · cases wrong
  · split at wrong
    · rename_i fields _
      cases read : readFields fields with
      | error other =>
        rw [read] at wrong
        cases wrong
        exact malformed_of_readFields read
      | ok answer =>
        rw [read] at wrong
        cases wrong
    · cases wrong
      exact ⟨_, rfl⟩

theorem read_eq_ok_none_iff : Answer.read v = .ok none ↔ v.Void := by
  rw [← Json.isFalsy_iff_void]
  unfold Answer.read
  cases v.isFalsy with
  | true => simp
  | false =>
    cases v with
    | object fields => cases read : readFields fields <;> simp [read, Except.map]
    | _ => simp

end Answer

end LiveTable
