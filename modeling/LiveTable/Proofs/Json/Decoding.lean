import LiveTable.Json.Decode
import Mathlib.Algebra.Group.Int.Defs
set_option autoImplicit false

/-!
# What decoders accept

Each decoder accepts the values that its encoder writes and no others; the case of an enumeration
has a second form, an object with its name as the only field. Main statements: one equivalence
`…_eq_some_iff` for each decoder.
-/

namespace LiveTable.Json

variable {α : Type} {decode : Json → Option α} {encode : α → Json} {v : Json} {name : String}

/-- A field of a value has some content; where there is none, it is missing or null. -/
def Holds (v : Json) (name : String) : Option Json → Prop
  | some content => v.get? name = some content
  | none => v.get? name = none ∨ v.get? name = some .null

/-! ## Flags, texts and lists -/

theorem text?_eq_some_iff {content : String} : v.text? = some content ↔ v = .text content := by
  cases v <;> simp [text?]

theorem flag?_eq_some_iff {flag : Bool} : v.flag? = some flag ↔ v = .bool flag := by
  cases v <;> simp [flag?]

theorem items?_eq_some_iff {items : List Json} : v.items? = some items ↔ v = .array items := by
  cases v <;> simp [items?]

theorem list?_eq_some_iff (decodes : ∀ w x, decode w = some x ↔ w = encode x) {xs : List α} :
    list? decode v = some xs ↔ v = .array (xs.map encode) := by
  have elements (items : List Json) (xs : List α) :
      items.mapM decode = some xs ↔ items = xs.map encode := by
    induction items generalizing xs with
    | nil => cases xs <;> simp
    | cons item items ih =>
      simp only [List.mapM_cons, Option.bind_eq_bind, Option.bind_eq_some_iff, Option.pure_def,
        Option.some.injEq, decodes, ih]
      constructor
      · rintro ⟨x, rfl, rest, rfl, rfl⟩
        rfl
      · intro same
        cases xs with
        | nil => cases same
        | cons x rest =>
          obtain ⟨first, others⟩ := List.cons.inj same
          exact ⟨x, first, rest, others, rfl⟩
  have whole : list? decode v = some xs ↔
      ∃ items, v = .array items ∧ items = xs.map encode := by
    simp only [list?, Option.bind_eq_some_iff, items?_eq_some_iff, elements]
  rw [whole]
  simp

/-! ## Numbers -/

theorem natural?_eq_some_iff {n : Nat} : v.natural? = some n ↔ v = .number (.int n) := by
  match v with
  | .number (.int value) =>
    have natural : natural? (.number (.int value)) = some n ↔ 0 ≤ value ∧ value.toNat = n := by
      simp [natural?]
    rw [natural, Json.number.injEq, Number.int.injEq]
    omega
  | .null | .bool _ | .number (.float _) | .text _ | .array _ | .object _ => simp [natural?]

@[simp] theorem natural?_int (n : Nat) : natural? (.number (.int n)) = some n :=
  natural?_eq_some_iff.mpr rfl

theorem word32?_eq_some_iff {n : UInt32} : v.word32? = some n ↔ v = ofWord32 n := by
  simp only [word32?, Option.bind_eq_some_iff, natural?_eq_some_iff]
  constructor
  · rintro ⟨m, rfl, fits⟩
    split at fits
    · cases fits
      simp [ofWord32]
    · cases fits
  · rintro rfl
    have bound : n.toNat < UInt32.size := n.toNat_lt
    exact ⟨n.toNat, rfl, by simp [bound]⟩

@[simp] theorem word32?_ofWord32 (n : UInt32) : word32? (ofWord32 n) = some n :=
  word32?_eq_some_iff.mpr rfl

theorem word64?_eq_some_iff {n : UInt64} : v.word64? = some n ↔ v = ofWord64 n := by
  simp only [word64?, Option.bind_eq_some_iff, natural?_eq_some_iff]
  constructor
  · rintro ⟨m, rfl, fits⟩
    split at fits
    · cases fits
      simp [ofWord64]
    · cases fits
  · rintro rfl
    have bound : n.toNat < UInt64.size := n.toNat_lt
    exact ⟨n.toNat, rfl, by simp [bound]⟩

theorem exists_ofWord32 {n : Int} (natural : 0 ≤ n) (bound : n < 2 ^ 32) :
    ∃ word, number (.int n) = ofWord32 word := by
  have fits : n.toNat < UInt32.size := by
    rw [UInt32.size]
    omega
  exact ⟨.ofNatLT n.toNat fits, by simp [ofWord32, Int.max_eq_left natural]⟩

theorem exists_ofWord64 {n : Int} (natural : 0 ≤ n) (bound : n < 2 ^ 64) :
    ∃ word, number (.int n) = ofWord64 word := by
  have fits : n.toNat < UInt64.size := by
    rw [UInt64.size]
    omega
  exact ⟨.ofNatLT n.toNat fits, by simp [ofWord64, Int.max_eq_left natural]⟩

theorem word64?_int {n : Nat} (bound : n < UInt64.size) :
    ∃ word, word64? (.number (.int n)) = some word ∧ word.toNat = n := by
  refine ⟨UInt64.ofNatLT n bound, word64?_eq_some_iff.mpr ?_, by simp⟩
  simp [ofWord64]

theorem ofWord64_inj {m n : UInt64} : ofWord64 m = ofWord64 n ↔ m = n := by
  rw [← word64?_eq_some_iff, word64?_eq_some_iff.mpr rfl, Option.some.injEq]

/-! ## Cases -/

theorem caseName?_eq_some_iff :
    v.caseName? = some name ↔ v = .text name ∨ v = .object [(name, .null)] := by
  unfold caseName?
  split <;> simp_all

theorem case?_eq_some_iff {cases : List α} {name : α → String} (complete : ∀ a, a ∈ cases)
    (distinct : Function.Injective name) {a : α} :
    case? cases name v = some a ↔ v = .text (name a) ∨ v = .object [(name a, .null)] := by
  have found (given : String) :
      cases.find? (fun b => name b = given) = some a ↔ name a = given := by
    constructor
    · intro found
      simpa using List.find?_some found
    · rintro rfl
      cases first : cases.find? fun b => name b = name a with
      | none =>
        have unnamed := List.find?_eq_none.mp first a (complete a)
        simp at unnamed
      | some b =>
        have same : name b = name a := by simpa using List.find?_some first
        rw [distinct same]
  simp only [case?, Option.bind_eq_some_iff, found, caseName?_eq_some_iff]
  simp

/-! ## Fields -/

theorem required_eq_some_iff (decodes : ∀ w x, decode w = some x ↔ w = encode x)
    {field : Option Json} {x : α} : required decode field = some x ↔ field = some (encode x) := by
  simp [required, Option.bind_eq_some_iff, decodes]

theorem optional_eq_some_iff (decodes : ∀ w x, decode w = some x ↔ w = encode x)
    (full : ∀ x, encode x ≠ .null) {content : Option α} :
    optional decode (v.get? name) = some content ↔ v.Holds name (content.map encode) := by
  unfold optional
  split
  · rename_i missing
    cases content <;> simp [Holds, missing]
  · rename_i null
    cases content with
    | none => simp [Holds, null]
    | some x => simp [Holds, null, (full x).symm]
  · rename_i w present held
    have filled : w ≠ .null := present
    cases content with
    | none => simp [Holds, held, filled]
    | some x => simp [Holds, held, decodes]

end LiveTable.Json
