import LiveTable.Proofs.Answer.Read
import LiveTable.Proofs.Rows.Index
import LiveTable.Proofs.Session.Step
import Mathlib.Data.List.Induction
set_option autoImplicit false

/-!
# The index of a table

Looking a row up under an identity finds what a scan of the rows finds, in every state of a run,
unless an edit changes what its row is known by. `Filed` is the invariant, and `Renames` holds of
the edits that break it. Main statements: look-ups agree with a scan throughout exactly the runs
without such an edit, and always in tables that cannot be edited, by `Reachable.agrees`.
-/

namespace LiveTable

def Item.identityFields : List String := ["infohash", "public_key", "id"]

private theorem Item.identity?_set {item : Item} {field : String} (value : Json)
    (apart : field ∉ identityFields) : (item.set field value).identity? = item.identity? := by
  have same : ∀ name ∈ identityFields, (item.set field value).get? name = item.get? name := by
    intro name member
    have other : field ≠ name := by
      rintro rfl
      exact apart member
    exact Fields.get?_insert_of_ne other value item.fields
  have hash := same "infohash" (by decide)
  have key := same "public_key" (by decide)
  have id := same "id" (by decide)
  simp only [identity?, text?, hash, key, id]

namespace Session

/-- Look-ups under an identity find the first row that has it, and no two rows have one identity
where only one copy is kept. -/
structure Agrees (s : Session) : Prop where
  find : ∀ id, s.rows.find? id = s.rows.scan? id
  distinct : s.settings.duplicatePolicy ≠ .append →
    (s.rows.items.toList.filterMap Item.identity?).Nodup

structure Filed (s : Session) : Prop where
  indexed : s.rows.Indexed
  distinct : s.settings.duplicatePolicy ≠ .append → s.rows.identities.Nodup

/-- The edits that change what a row is known by. -/
inductive Renames (s : Session) : Action → Prop
  | patchField {identity column : String} {value : Json} {request : Request} {item : Item}
      (done : (s.patchField identity column value).2 = .ok request)
      (found : s.rows.find? identity = some item)
      (other : (item.set (attributeOf column) value).identity? ≠ item.identity?) :
      Renames s (.patchField identity column value)

namespace Filed

variable {s t : Session}

theorem agrees (filed : s.Filed) : s.Agrees where
  find := filed.indexed.find?_eq_scan?
  distinct unique := by
    have known := filed.distinct unique
    have same : s.rows.items.toList.filterMap Item.identity? =
        s.rows.identities.filterMap id := by
      rw [Rows.identities, List.filterMap_map]
      rfl
    rw [same]
    exact known.filterMap fun first second _ left right => left.trans right.symm

private theorem of_rows (filed : s.Filed) (settings : t.settings = s.settings)
    (rows : t.rows = s.rows) :
    t.Filed := by
  constructor
  · rw [rows]
    exact filed.indexed
  · rw [rows, settings]
    exact filed.distinct

private theorem of_empty (empty : t.rows = .empty) : t.Filed := by
  constructor
  · rw [empty]
    exact Rows.indexed_empty
  · simp [empty]

private theorem absorb (filed : s.Filed) {v : Json} {answer : Answer} (origin : Origin)
    (read : Answer.read v = .ok (some answer)) : (s.absorb answer origin).Filed := by
  have identified := Answer.identified_of_read read
  constructor
  · rw [rows_absorb]
    exact filed.indexed.merge identified
  · rw [rows_absorb, (s.sameQueries_absorb answer origin).settings]
    exact fun unique =>
      Rows.nodup_merge filed.indexed identified unique (filed.distinct unique)

private theorem of_handling {next : Session} {message : Message} (filed : s.Filed)
    (handling : Handling s message next) : next.Filed := by
  cases handling with
  | ignored => exact filed
  | absorbed _ read => exact filed.absorb _ read
  | dirtied => exact filed.of_rows rfl rfl
  | failed => exact filed.of_rows rfl rfl

theorem step {next : Session} {fresh : Epoch} {action : Action} (filed : s.Filed)
    (step : Step s fresh action next) (kept : ¬ s.Renames action) : next.Filed := by
  cases step with
  | idle => exact filed
  | listing => exact of_empty rfl
  | preview => exact of_empty rfl
  | dispatch => exact filed.of_rows rfl rfl
  | turn => exact filed.of_rows rfl rfl
  | edit editable =>
    rename_i identity column value endpoint
    have keeps : ∀ item, s.rows.find? identity = some item →
        (item.set (attributeOf column) value).identity? = item.identity? := by
      intro item found
      by_contra other
      have done : (s.patchField identity column value).2 =
          .ok (.edit endpoint (attributeOf column) value) := by
        simp only [patchField, editable]
      exact kept (.patchField done found other)
    constructor
    · exact filed.indexed.edit keeps
    · intro unique
      show (s.rows.edit identity (attributeOf column) value).1.identities.Nodup
      rw [Rows.identities_edit keeps]
      exact filed.distinct unique
  | respond _ read => exact filed.absorb _ read
  | respondEdit => exact filed.of_rows rfl rfl
  | select => exact filed.of_rows rfl rfl
  | answer => exact filed.of_rows rfl rfl
  | push => exact filed.of_rows rfl rfl
  | process =>
    rename_i messages rest _ _
    have emptied : { s with inbox := rest }.Filed := filed.of_rows rfl rfl
    exact handleAll_keeps (fun s message _ filed => filed.of_handling (s.handling message)) emptied

end Filed

private theorem Renames.attribute_mem {s : Session} {identity column : String} {value : Json}
    (renames : s.Renames (.patchField identity column value)) :
    attributeOf column ∈ Item.identityFields := by
  cases renames with
  | patchField _ _ other =>
    by_contra apart
    exact other (Item.identity?_set value apart)

private theorem Renames.isOwned {s : Session} {action : Action} (renames : s.Renames action) :
    s.target.isOwned := by
  cases renames with
  | patchField done =>
    by_contra foreign
    simp [Session.patchField, Target.editEndpoint, foreign] at done

private theorem Renames.not_agrees {s : Session} {fresh : Epoch} {action : Action}
    (agrees : s.Agrees) (renames : s.Renames action) : ¬ (s.act fresh action).Agrees := by
  intro later
  cases renames with
  | patchField done found other =>
    rename_i identity column value request item
    have known : item.identity? = some identity := by
      apply Rows.identity?_of_scan?
      rw [← agrees.find, found]
    have edited : (s.act fresh (.patchField identity column value)).rows =
        (s.rows.edit identity (attributeOf column) value).1 := by
      simp only [act]
      unfold Session.patchField at done ⊢
      split at done
      · cases done
      · rfl
    have refound : (s.act fresh (.patchField identity column value)).rows.find? identity =
        some (item.set (attributeOf column) value) := by
      rw [edited]
      exact Rows.find?_edit_self found
    -- A scan finds only rows that have the identity, and the edited one has lost it.
    rw [later.find] at refound
    exact other ((Rows.identity?_of_scan? refound).trans known.symm)

private theorem filed_of_begin {target : Target} {settings : Settings} {allocates : Nat → Bool}
    {first : Session}
    (opening : begin target settings allocates = .opened first) : first.Filed := by
  rw [begin_eq_opened opening]
  exact .of_empty rfl

/-- Look-ups agree with a scan of the rows throughout a run exactly if no edit of the run changes
what its row is known by. -/
theorem find_agrees_with_scan_iff {target : Target} {settings : Settings} {allocates : Nat → Bool}
    {first : Session}
    (opening : begin target settings allocates = .opened first) (steps : List (Epoch × Action)) :
    (∀ before after, steps = before ++ after → (first.run before).Agrees) ↔
    ∀ before fresh action after, steps = before ++ (fresh, action) :: after →
      ¬ (first.run before).Renames action := by
  constructor
  · intro agrees before fresh action after split renames
    have now := agrees before _ split
    have next := agrees (before ++ [(fresh, action)]) after (by simp [split])
    rw [run_append] at next
    exact renames.not_agrees now next
  · intro kept before after split
    suffices filed : (first.run before).Filed from filed.agrees
    induction before using List.reverseRecOn generalizing after with
    | nil => exact filed_of_begin opening
    | append_singleton before step ih =>
      obtain ⟨fresh, action⟩ := step
      have longer : steps = before ++ (fresh, action) :: after := by simp [split]
      rw [run_append]
      exact (ih _ longer).step ((first.run before).step fresh action)
        (kept before fresh action after longer)

theorem find_agrees_with_scan_after_naming :
    let row : Json := .object [("infohash", .text "a")]
    let v : Json := .object [("dirty", .bool false), ("results", .array [row])]
    let edit : Action := .patchField "a" "name" (.text "b")
    let steps : List (Epoch × Action) := [(⟨1#128⟩, .refresh), (⟨2#128⟩, .answer 0 (.ok v)),
      (⟨3#128⟩, .processNext), (⟨4#128⟩, edit)]
    let last := (initial (.ownedListing true) .default).run steps
    last.rows.scan? "a" = some ⟨[("infohash", .text "a"), ("title", .text "b")]⟩ ∧ last.Agrees := by
  intro row v edit steps last
  have opening : begin (.ownedListing true) .default =
      .opened (initial (.ownedListing true) .default) := begin_default _
  refine ⟨by decide +kernel, (find_agrees_with_scan_iff opening steps).mpr ?_ steps [] (by simp)⟩
  intro before fresh action after split renames
  cases renames with
  | patchField done found other =>
    rename_i identity column value request item
    have member : (fresh, .patchField identity column value) ∈ steps := by simp [split]
    obtain ⟨-, -, rfl, -⟩ : _ ∧ _ ∧ column = "name" ∧ _ := by simpa [steps, edit] using member
    have renamed := (Renames.patchField done found other).attribute_mem
    exact absurd renamed (by decide)

/-- A row gets another hash by an edit. It is still found under the former one, and not under its
own. -/
theorem find_disagrees_after_rename : ¬ ∀ s : Session, Reachable s → s.Agrees := by
  intro agrees
  let row : Json := .object [("infohash", .text "a")]
  let v : Json := .object [("dirty", .bool false), ("results", .array [row])]
  let steps : List (Epoch × Action) := [(⟨1#128⟩, .refresh), (⟨2#128⟩, .answer 0 (.ok v)),
    (⟨3#128⟩, .processNext), (⟨4#128⟩, .patchField "a" "infohash" (.text "b"))]
  let last := (initial (.ownedListing true) .default).run steps
  have opened : Reachable (initial (.ownedListing true) .default) :=
    .opened (begin_default _)
  have found : (last.rows.find? "a").isSome = true := by decide +kernel
  have missing : last.rows.scan? "a" = none := by decide +kernel
  rw [(agrees last (opened.run steps)).find, missing] at found
  cases found

theorem Reachable.agrees {s : Session} (reachable : Reachable s)
    (foreign : s.target.isOwned = false) : s.Agrees := by
  suffices filed : s.Filed from filed.agrees
  induction reachable with
  | opened opening => exact filed_of_begin opening
  | @act s fresh action _ ih =>
    rw [(s.extends_act fresh action).target] at foreign
    refine (ih foreign).step (s.step fresh action) ?_
    intro renames
    simp [renames.isOwned] at foreign

end Session

end LiveTable
