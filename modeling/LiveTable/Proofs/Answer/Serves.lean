import LiveTable.Proofs.Answer.Read
import LiveTable.Request
set_option autoImplicit false

/-!
# Serving a listing

A backend serves a listing when it answers each query with the rows of the window that was asked
for, with the number of all rows, and under the query's own token or none. Main statement:
`Serves.read`, which says as what such an answer is read.
-/

namespace LiveTable

/-! ## Windows of requests -/

def Request.window? (r : Request) : Option Window := do
  let first ← (Fields.get? "first" r.params).bind Json.word32?
  let last ← (Fields.get? "last" r.params).bind Json.word32?
  return ⟨first, last⟩

theorem Query.window?_request (q : Query) (endpoint : String)
    (first : Fields.get? "first" q.extra = none) (last : Fields.get? "last" q.extra = none) :
    (q.request endpoint).window? = some q.window := by
  simp [Request.window?, Query.request, Query.params, Fields.get?_overriddenBy, Query.baseParams,
    Fields.get?, first, last]

def Window.slice (w : Window) (list : List Item) : List Item :=
  (list.drop (w.first.toNat - 1)).take (w.last.toNat - w.first.toNat)

/-! ## Answers -/

/-- The rows of a backend: each has an identity, no two the same, and they can be counted. -/
structure Listing (list : List Item) : Prop where
  identified : ∀ item ∈ list, item.identity?.isSome
  distinct : (list.map Item.identity?).Nodup
  countable : list.length < UInt64.size

/-- A value answers a request with the rows of a list. -/
structure Serves (list : List Item) (r : Request) (v : Json) : Prop where
  results : ∀ w, r.window? = some w →
    v.get? "results" = some (.array ((w.slice list).map Item.toJson))
  total : v.get? "total" = some (.number (.int list.length))
  dirty : ∃ flag, v.get? "dirty" = some (.bool flag)
  token : v.get? "uuid" = none ∨ v.get? "uuid" = Fields.get? "uuid" r.params

theorem Serves.read {list : List Item} {r : Request} {v : Json} {w : Window} {token : String}
    (serves : Serves list r v) (listing : Listing list) (asked : r.window? = some w)
    (carries : Fields.get? "uuid" r.params = some (.text token)) :
    ∃ answer, Answer.read v = .ok (some answer) ∧ answer.results = w.slice list ∧
      (∃ total, answer.total = some total ∧ total.toNat = list.length) ∧
      answer.dirty ≠ none := by
  have results := serves.results w asked
  obtain ⟨flag, dirty⟩ := serves.dirty
  obtain ⟨total, counted, number⟩ := Json.word64?_int listing.countable
  obtain ⟨echo, readToken⟩ : ∃ echo, Answer.readToken (v.get? "uuid") = .ok echo := by
    rcases serves.token with absent | own
    · exact ⟨none, by rw [absent]; rfl⟩
    · exact ⟨some token, by rw [own, carries]; rfl⟩
  have full : v.isFalsy = false := by
    cases v with
    | object fields =>
      cases fields with
      | nil => simp [Json.get?] at results
      | cons field fields => rfl
    | _ => simp [Json.get?] at results
  have members : ∀ item ∈ w.slice list, item.identity?.isSome := fun item member =>
    listing.identified item (List.mem_of_mem_drop (List.mem_of_mem_take member))
  have readResults : Answer.readResults (v.get? "results") = .ok (w.slice list) := by
    rw [results]
    exact Item.mapM_read_eq_ok_iff.mpr ⟨rfl, members⟩
  have readTotal : Answer.readTotal (v.get? "total") = .ok (some total) := by
    rw [serves.total]
    simp [Answer.readTotal, counted]
  have readDirty : Answer.readDirty (v.get? "dirty") = .ok (some flag) := by
    rw [dirty]
    rfl
  exact ⟨⟨echo, w.slice list, some total, some flag⟩,
    Answer.read_eq_ok_iff.mpr ⟨full, readToken, readResults, readTotal, readDirty⟩, rfl,
    ⟨total, rfl, number⟩, by simp⟩

end LiveTable
