set_option autoImplicit false

/-!
# JSON values

The values that rows, answers and settings are written in. Integers and floating point numbers are
different values even when they denote the same number, and the fields of an object stand in the
order of their names. Main statements: looking a field up after `Fields.insert` or
`Fields.overriddenBy` gives what a finite map gives.
-/

namespace LiveTable

/-- A number is an integer, or a double when it was written with a fraction or an exponent or
does not fit in 64 bits. -/
inductive Number
  | int (value : Int)
  | float (value : Float)
deriving DecidableEq

/-- A JSON value; the fields of an object are pairs of a name and a value. -/
inductive Json
  | null
  | bool (flag : Bool)
  | number (value : Number)
  | text (content : String)
  | array (items : List Json)
  | object (fields : List (String × Json))

namespace Json

mutual

protected def decEq : (a b : Json) → Decidable (a = b)
  | .null, .null => isTrue rfl
  | .bool a, .bool b => decidable_of_iff (a = b) (by simp)
  | .number a, .number b => decidable_of_iff (a = b) (by simp)
  | .text a, .text b => decidable_of_iff (a = b) (by simp)
  | .array a, .array b => @decidable_of_iff _ (a = b) (by simp) (Json.decEqItems a b)
  | .object a, .object b => @decidable_of_iff _ (a = b) (by simp) (Json.decEqFields a b)
  | .null, .bool _ | .null, .number _ | .null, .text _ | .null, .array _ | .null, .object _
  | .bool _, .null | .bool _, .number _ | .bool _, .text _ | .bool _, .array _
  | .bool _, .object _ | .number _, .null | .number _, .bool _ | .number _, .text _
  | .number _, .array _ | .number _, .object _ | .text _, .null | .text _, .bool _
  | .text _, .number _ | .text _, .array _ | .text _, .object _ | .array _, .null
  | .array _, .bool _ | .array _, .number _ | .array _, .text _ | .array _, .object _
  | .object _, .null | .object _, .bool _ | .object _, .number _ | .object _, .text _
  | .object _, .array _ => isFalse (by simp)

protected def decEqItems : (a b : List Json) → Decidable (a = b)
  | [], [] => isTrue rfl
  | [], _ :: _ | _ :: _, [] => isFalse (by simp)
  | x :: xs, y :: ys =>
    match Json.decEq x y, Json.decEqItems xs ys with
    | isTrue hx, isTrue hxs => isTrue (by rw [hx, hxs])
    | isFalse hx, _ => isFalse (by simp [hx])
    | _, isFalse hxs => isFalse (by simp [hxs])

protected def decEqFields : (a b : List (String × Json)) → Decidable (a = b)
  | [], [] => isTrue rfl
  | [], _ :: _ | _ :: _, [] => isFalse (by simp)
  | (k, x) :: xs, (l, y) :: ys =>
    match decEq k l, Json.decEq x y, Json.decEqFields xs ys with
    | isTrue hk, isTrue hx, isTrue hxs => isTrue (by rw [hk, hx, hxs])
    | isFalse hk, _, _ => isFalse (by simp [hk])
    | _, isFalse hx, _ => isFalse (by simp [hx])
    | _, _, isFalse hxs => isFalse (by simp [hxs])

end

instance : DecidableEq Json := Json.decEq

instance : Inhabited Json := ⟨.null⟩

end Json

/-- The fields of an object, in the order of their names and each name once. -/
abbrev Fields := List (String × Json)

namespace Fields

def get? (name : String) : Fields → Option Json
  | [] => none
  | (key, value) :: rest => if key = name then some value else get? name rest

/-- Sets one field and leaves the others alone; a new name is put at its place in the order. -/
def insert (name : String) (value : Json) : Fields → Fields
  | [] => [(name, value)]
  | (key, old) :: rest =>
    if key = name then (name, value) :: rest
    else if name < key then (name, value) :: (key, old) :: rest
    else (key, old) :: insert name value rest

/-- The fields of a list of pairs; the first pair of a name counts. -/
def ofList : List (String × Json) → Fields
  | [] => []
  | (name, value) :: rest => insert name value (ofList rest)

/-- The fields of `base` with those of `upper` set on top of them. -/
def overriddenBy (base : Fields) : (upper : Fields) → Fields
  | [] => base
  | (name, value) :: rest => insert name value (overriddenBy base rest)

@[simp] theorem get?_nil (name : String) : get? name [] = none := rfl

theorem get?_insert (name other : String) (value : Json) (fields : Fields) :
    get? other (insert name value fields) =
      if name = other then some value else get? other fields := by
  induction fields with
  | nil => simp [insert, get?]
  | cons field rest ih =>
    obtain ⟨key, old⟩ := field
    by_cases hk : key = name
    · subst hk
      simp [insert, get?]
      split <;> rfl
    · by_cases hlt : name < key
      · simp [insert, hk, hlt, get?]
      · simp only [insert, hk, hlt, if_false, get?, ih]
        by_cases ho : key = other
        · subst ho
          simp [Ne.symm hk]
        · simp [ho]

@[simp] theorem get?_insert_self (name : String) (value : Json) (fields : Fields) :
    get? name (insert name value fields) = some value := by
  simp [get?_insert]

theorem get?_insert_of_ne {name other : String} (h : name ≠ other) (value : Json)
    (fields : Fields) : get? other (insert name value fields) = get? other fields := by
  simp [get?_insert, h]

@[simp] theorem ofList_nil : ofList [] = [] := rfl

@[simp] theorem get?_ofList (name : String) (pairs : List (String × Json)) :
    get? name (ofList pairs) = get? name pairs := by
  induction pairs with
  | nil => rfl
  | cons pair rest ih =>
    obtain ⟨key, value⟩ := pair
    simp [ofList, get?_insert, get?, ih]

/-- What is set on top wins, and the rest shows through. -/
theorem get?_overriddenBy (name : String) (base upper : Fields) :
    get? name (base.overriddenBy upper) = (get? name upper).or (get? name base) := by
  induction upper with
  | nil => simp [overriddenBy]
  | cons field rest ih =>
    obtain ⟨key, value⟩ := field
    by_cases h : key = name <;> simp [overriddenBy, get?_insert, get?, ih, h]

end Fields

def Json.ofPairs (pairs : List (String × Json)) : Json := .object (Fields.ofList pairs)

def Json.get? (name : String) : Json → Option Json
  | .object fields => Fields.get? name fields
  | _ => none

example : Fields.insert "b" .null [("a", .null), ("c", .null)] =
    [("a", .null), ("b", .null), ("c", .null)] := by decide

example : Fields.ofList [("b", .null), ("a", .bool true)] =
    [("a", .bool true), ("b", .null)] := by decide

end LiveTable
