import LiveTable.Proofs.Epoch.Token
import LiveTable.Proofs.Session.Step
import Mathlib.Data.List.Induction
set_option autoImplicit false

/-!
# What an epoch asks

All queries of an epoch ask the same question and differ in their pages only, unless the epoch is
that of a preview and a page of the table's own listing is asked for in it. `Consistent` is the
invariant: queries of one token agree, and those of the current epoch agree with what the table
would ask next, except while a preview is shown. Main statement: the queries of one token agree in
exactly the runs that page no preview.
-/

namespace LiveTable

/-! ## Requests -/

/-- Requests that ask the same question, possibly for different pages. -/
structure Request.SameQuestion (r t : Request) : Prop where
  method : r.method = t.method
  endpoint : r.endpoint = t.endpoint
  params : ∀ name, name ≠ "first" → name ≠ "last" → r.params.get? name = t.params.get? name
  body : r.body = t.body

namespace Request.SameQuestion

private theorem refl (r : Request) : r.SameQuestion r := ⟨rfl, rfl, fun _ _ _ => rfl, rfl⟩

private theorem symm {r t : Request} (same : r.SameQuestion t) : t.SameQuestion r :=
  ⟨same.method.symm, same.endpoint.symm, fun name first last => (same.params name first last).symm,
    same.body.symm⟩

private theorem trans {r t u : Request} (first : r.SameQuestion t) (second : t.SameQuestion u) :
    r.SameQuestion u :=
  ⟨first.method.trans second.method, first.endpoint.trans second.endpoint,
    fun name f l => (first.params name f l).trans (second.params name f l),
    first.body.trans second.body⟩

end Request.SameQuestion

private theorem Query.sameQuestion_window (q : Query) (window : Window) (endpoint : String) :
    (q.request endpoint).SameQuestion ({ q with window := window }.request endpoint) := by
  refine ⟨rfl, rfl, ?_, rfl⟩
  intro name first last
  simp only [Query.request, Query.params, Fields.get?_overriddenBy, Query.baseParams,
    Fields.get?_ofList, Fields.get?, if_neg first.symm, if_neg last.symm]

private theorem Query.get?_uuid (q : Query) (endpoint : String)
    (free : Fields.get? "uuid" q.extra = none) :
    (q.request endpoint).params.get? "uuid" = some (.text q.epoch.token) := by
  simp [Query.request, Query.params, Fields.get?_overriddenBy, Query.baseParams, Fields.get?, free]

theorem Target.get?_extraParams (target : Target) {name : String}
    (common : name ∉ ["metadata_type", "subscribed", "exclude_deleted"]) :
    Fields.get? name target.extraParams = none := by
  simp only [List.mem_cons, not_or] at common
  obtain ⟨type, subscribed, excluded, -⟩ := common
  rcases target with (_ | _) | _ | _ | _ <;>
    simp [extraParams, Fields.get?, Ne.symm type, Ne.symm subscribed, Ne.symm excluded]

theorem Target.preview_eq_ok {target : Target} {preview : Target.Preview}
    (has : target.preview = .ok preview) :
    target.endpoint ≠ preview.endpoint ∧
      ∀ name, name ≠ "metadata_type" → Fields.get? name preview.extra = none := by
  cases target with
  | parentScoped publicKey channelId =>
    cases has
    constructor
    · intro same
      have letters := congrArg String.toList same
      simp [endpoint, channelsEndpoint, searchEndpoint] at letters
    · intro name other
      simp [Fields.get?, Ne.symm other]
  | search => cases has
  | filteredListing => cases has
  | ownedListing => cases has

namespace Session

/-- What the table would ask next for its own listing, in an epoch. -/
def listingRequest (s : Session) (epoch : Epoch) : Request :=
  Query.request ⟨epoch, Filter.compile s.filterText, s.sort, s.window, s.settings.hideXxx,
    s.target.extraParams⟩ s.target.endpoint

theorem get?_uuid_listingRequest (s : Session) (epoch : Epoch) :
    (s.listingRequest epoch).params.get? "uuid" = some (.text epoch.token) :=
  Query.get?_uuid _ _ (s.target.get?_extraParams (by decide))

def previewRequest (s : Session) (epoch : Epoch) (preview : Target.Preview) : Request :=
  Query.request ⟨epoch, Filter.compile preview.filterSource, s.sort,
    Window.firstPage s.settings.batchSize, s.settings.hideXxx, preview.extra⟩ preview.endpoint

theorem wire_startPreview (s : Session) (fresh : Epoch) (preview : Target.Preview) :
    (s.startPreview fresh preview).wire = s.wire.push (s.previewRequest fresh preview) := rfl

private theorem wire_queryListing (s : Session) (fresh : Epoch) (window : Window) :
    (s.queryListing fresh window []).wire =
      s.wire.push ({ s with window := window }.listingRequest (s.epoch?.getD fresh)) := rfl

theorem wire_queryListing_current (s : Session) (fresh : Epoch) (window : Window) {epoch : Epoch}
    (newest : s.epoch? = some epoch) :
    (s.queryListing fresh window []).wire =
      s.wire.push ({ s with window := window }.listingRequest epoch) := by
  rw [wire_queryListing, newest]
  rfl

def CarriesToken (epoch : Epoch) (r : Request) : Prop :=
  r.method = .get ∧ r.params.get? "uuid" = some (.text epoch.token)

private theorem CarriesToken.epoch_eq {e other : Epoch} {r : Request} (first : CarriesToken e r)
    (second : CarriesToken other r) : e = other := by
  have same := first.2.symm.trans second.2
  simpa using same

private theorem CarriesToken.mem_of_push {epoch other : Epoch} {wire : Array Request}
    {r q : Request} (newest : CarriesToken epoch r) (apart : other ≠ epoch) (sent : q ∈ wire.push r)
    (carried : CarriesToken other q) : q ∈ wire := by
  rcases Array.mem_push.mp sent with older | rfl
  · exact older
  · exact absurd (carried.epoch_eq newest) apart

def Known (s : Session) : Prop :=
  ∀ r ∈ s.wire, r.method = .get → ∃ epoch ∈ s.epochs, CarriesToken epoch r

namespace Known

variable {s t : Session} {epoch : Epoch} {r : Request}

theorem mem_epochs (known : s.Known) (sent : r ∈ s.wire) (carries : CarriesToken epoch r) :
    epoch ∈ s.epochs := by
  obtain ⟨past, member, carried⟩ := known r sent carries.1
  rw [carries.epoch_eq carried]
  exact member

theorem of_query (known : s.Known) (carries : CarriesToken epoch r) (current : epoch ∈ t.epochs)
    (kept : ∀ past ∈ s.epochs, past ∈ t.epochs) (wire : t.wire = s.wire.push r) : t.Known := by
  intro q sent get
  rw [wire] at sent
  rcases Array.mem_push.mp sent with older | rfl
  · obtain ⟨past, member, carried⟩ := known q older get
    exact ⟨past, kept past member, carried⟩
  · exact ⟨epoch, current, carries⟩

theorem initial (target : Target) (settings : Settings) : (initial target settings).Known := by
  simp [Known, Session.initial]

end Known

/-- Queries of one token ask the same question. Those of the current epoch ask what the table would
ask next, unless a preview is shown. -/
structure Consistent (s : Session) (previewing : Prop) : Prop where
  known : s.Known
  agree : ∀ epoch, ∀ r ∈ s.wire, ∀ t ∈ s.wire, CarriesToken epoch r → CarriesToken epoch t →
    r.SameQuestion t
  current : ¬ previewing → ∀ epoch, s.epoch? = some epoch → ∀ r ∈ s.wire, CarriesToken epoch r →
    r.SameQuestion (s.listingRequest epoch)

namespace Consistent

variable {s t : Session} {previewing later : Prop}

private theorem of_same (consistent : s.Consistent previewing) (target : t.target = s.target)
    (settings : t.settings = s.settings) (epochs : t.epochs = s.epochs)
    (filterText : t.filterText = s.filterText) (sort : t.sort = s.sort)
    (window : t.window = s.window) (wire : ∀ r ∈ t.wire, r.method = .get → r ∈ s.wire)
    (still : t.epoch? = s.epoch? → previewing → later) : t.Consistent later := by
  have newest : t.epoch? = s.epoch? := congrArg List.head? epochs
  have next : t.listingRequest = s.listingRequest := by
    funext epoch
    simp only [listingRequest, target, settings, filterText, sort, window]
  constructor
  · intro r sent get
    rw [epochs]
    exact consistent.known r (wire r sent get) get
  · intro epoch r sentr u sentu carriedr carriedu
    exact consistent.agree epoch r (wire r sentr carriedr.1) u (wire u sentu carriedu.1) carriedr
      carriedu
  · intro own epoch current r sent carried
    rw [newest] at current
    rw [next]
    exact consistent.current (fun shown => own (still newest shown)) epoch current r
      (wire r sent carried.1) carried

private theorem of_sameQueries (consistent : s.Consistent previewing) (same : s.SameQueries t)
    (still : t.epoch? = s.epoch? → previewing → later) : t.Consistent later :=
  consistent.of_same same.target same.settings same.epochs same.filterText same.sort same.window
    (fun _ sent _ => same.wire ▸ sent) still

private theorem start {fresh : Epoch} {r : Request} (consistent : s.Consistent previewing)
    (new : fresh ∉ s.epochs) (carries : CarriesToken fresh r)
    (epochs : t.epochs = fresh :: s.epochs) (wire : t.wire = s.wire.push r)
    (own : ¬ later → r.SameQuestion (t.listingRequest fresh)) : t.Consistent later := by
  have only : ∀ q ∈ t.wire, CarriesToken fresh q → q = r := by
    intro q sent carried
    rw [wire] at sent
    rcases Array.mem_push.mp sent with older | rfl
    · exact absurd (consistent.known.mem_epochs older carried) new
    · rfl
  constructor
  · refine consistent.known.of_query carries ?_ ?_ wire
    · rw [epochs]
      exact List.mem_cons_self
    · intro past member
      rw [epochs]
      exact List.mem_cons_of_mem _ member
  · intro epoch q sentq u sentu carriedq carriedu
    -- All queries of the fresh epoch are the one that starts it; others are as before.
    by_cases same : epoch = fresh
    · subst same
      rw [only q sentq carriedq, only u sentu carriedu]
      exact .refl r
    · rw [wire] at sentq sentu
      exact consistent.agree epoch q (carries.mem_of_push same sentq carriedq) u
        (carries.mem_of_push same sentu carriedu) carriedq carriedu
  · intro shown epoch newest q sent carried
    rw [epoch?, epochs] at newest
    cases newest
    rw [only q sent carried]
    exact own shown

private theorem further {epoch : Epoch} {r : Request} (consistent : s.Consistent previewing)
    (own : ¬ previewing) (newest : s.epoch? = some epoch) (carries : CarriesToken epoch r)
    (epochs : t.epochs = s.epochs) (wire : t.wire = s.wire.push r)
    (asks : r.SameQuestion (s.listingRequest epoch))
    (next : (s.listingRequest epoch).SameQuestion (t.listingRequest epoch)) :
    t.Consistent later := by
  have like : ∀ q ∈ t.wire, CarriesToken epoch q → q.SameQuestion (s.listingRequest epoch) := by
    intro q sent carried
    rw [wire] at sent
    rcases Array.mem_push.mp sent with older | rfl
    · exact consistent.current own epoch newest q older carried
    · exact asks
  constructor
  · refine consistent.known.of_query carries ?_ ?_ wire
    · rw [epochs]
      exact List.mem_of_mem_head? newest
    · intro past member
      rw [epochs]
      exact member
  · intro other q sentq u sentu carriedq carriedu
    by_cases same : other = epoch
    · subst same
      exact (like q sentq carriedq).trans (like u sentu carriedu).symm
    · rw [wire] at sentq sentu
      exact consistent.agree other q (carries.mem_of_push same sentq carriedq) u
        (carries.mem_of_push same sentu carriedu) carriedq carriedu
  · intro _ other newest' q sent carried
    rw [epoch?, epochs, ← epoch?, newest] at newest'
    cases newest'
    exact (like q sent carried).trans next

private theorem queryListing (consistent : s.Consistent previewing) (own : ¬ previewing)
    (fresh : Epoch) (window : Window) : (s.queryListing fresh window []).Consistent later := by
  have paged (epoch : Epoch) :
      (s.listingRequest epoch).SameQuestion ({ s with window := window }.listingRequest epoch) :=
    Query.sameQuestion_window _ window _
  cases newest : s.epoch? with
  | none =>
    have unasked : s.epochs = [] := List.head?_eq_none_iff.mp newest
    have new : fresh ∉ s.epochs := by simp [unasked]
    refine consistent.start new (r := { s with window := window }.listingRequest fresh)
      ⟨rfl, get?_uuid_listingRequest _ _⟩ ?_ ?_ fun _ => .refl _
    · simp [epochs_queryListing, newest, unasked]
    · rw [wire_queryListing, newest]
      rfl
  | some epoch =>
    refine consistent.further own newest (r := { s with window := window }.listingRequest epoch)
      ⟨rfl, get?_uuid_listingRequest _ _⟩ ?_ ?_ (paged epoch).symm (paged epoch)
    · exact s.epochs_queryListing_current fresh window [] newest
    · exact s.wire_queryListing_current fresh window newest

end Consistent

/-! ## Runs -/

/-- The actions by which the owner has a query sent without starting an epoch. -/
inductive Pages (s : Session) (fresh : Epoch) : Action → Prop
  | dispatch {extra : Fields} : Pages s fresh (.dispatch extra)
  | continueQuery {ticket : Ticket} (done : (s.continueQuery fresh).2 = .ok (some ticket)) :
      Pages s fresh .continueQuery
  | scroll {atBottom : Bool} {ticket : Ticket}
      (done : (s.scroll fresh atBottom).2 = .ok (some ticket)) : Pages s fresh (.scroll atBottom)

/-- The current epoch of a run is one that a preview started. -/
def Previewing (first : Session) (steps : List (Epoch × Action)) : Prop :=
  ∃ before epoch between, steps = before ++ (epoch, .fetchPreview) :: between ∧
    (first.run before).Starts epoch .fetchPreview ∧ (first.run steps).epoch? = some epoch

/-- Somewhere in a run a page of the table's own listing is asked for in the epoch of a preview. -/
def PagesPreview (first : Session) (steps : List (Epoch × Action)) : Prop :=
  ∃ before fresh action after, steps = before ++ (fresh, action) :: after ∧
    first.Previewing before ∧ (first.run before).Pages fresh action

theorem Pages.act_eq_queryListing {s : Session} {fresh : Epoch} {action : Action}
    (pages : s.Pages fresh action) :
    ∃ window extra, s.act fresh action = s.queryListing fresh window extra ∧
      (action = .dispatch extra ∨ extra = []) := by
  cases pages with
  | @dispatch extra => exact ⟨s.window, extra, rfl, .inl rfl⟩
  | continueQuery done =>
    obtain ⟨-, -, -, same⟩ := continueQuery_eq_some done
    exact ⟨_, [], same, .inr rfl⟩
  | @scroll atBottom _ done =>
    cases atBottom with
    | false => cases done
    | true =>
      obtain ⟨-, -, -, same⟩ := continueQuery_eq_some done
      exact ⟨_, [], same, .inr rfl⟩

private theorem Pages.act_eq {s : Session} {fresh : Epoch} {action : Action}
    (pages : s.Pages fresh action) (plain : ∀ extra, action = .dispatch extra → extra = []) :
    ∃ window, s.act fresh action = s.queryListing fresh window [] := by
  obtain ⟨window, extra, same, dispatched | rfl⟩ := pages.act_eq_queryListing
  · rw [same, plain extra dispatched]
    exact ⟨window, rfl⟩
  · exact ⟨window, same⟩

private theorem Previewing.snoc {first : Session} {steps : List (Epoch × Action)} {fresh : Epoch}
    {action : Action} (shown : first.Previewing steps)
    (same : ((first.run steps).act fresh action).epoch? = (first.run steps).epoch?) :
    first.Previewing (steps ++ [(fresh, action)]) := by
  obtain ⟨before, epoch, between, rfl, starts, newest⟩ := shown
  refine ⟨before, epoch, between ++ [(fresh, action)], by simp, starts, ?_⟩
  rw [run_append]
  exact same.trans newest

private theorem previewing_of_preview {first : Session} {steps : List (Epoch × Action)}
    {fresh : Epoch}
    {preview : Target.Preview} (has : (first.run steps).target.preview = .ok preview) :
    first.Previewing (steps ++ [(fresh, .fetchPreview)]) := by
  have ran : (first.run steps).fetchPreview fresh =
      ((first.run steps).startEpoch fresh none).sendQuery fresh preview.endpoint
        (Filter.compile preview.filterSource) preview.extra := by
    simp only [fetchPreview, has]
  refine ⟨steps, fresh, [], rfl, .fetchPreview (congrArg Prod.snd ran), ?_⟩
  rw [run_append]
  show ((first.run steps).fetchPreview fresh).1.epoch? = some fresh
  rw [ran]
  rfl

private theorem Consistent.initial (target : Target) (settings : Settings) (previewing : Prop) :
    (initial target settings).Consistent previewing :=
  ⟨.initial target settings, by simp [Session.initial], by simp [Session.initial]⟩

theorem Consistent.step {s next : Session} {fresh : Epoch} {action : Action}
    {previewing later : Prop} (consistent : s.Consistent previewing)
    (step : Step s fresh action next) (plain : ∀ extra, action = .dispatch extra → extra = [])
    (distinct : next.epochs.Nodup) (own : s.Pages fresh action → ¬ previewing)
    (still : next.epoch? = s.epoch? → previewing → later)
    (shows : ∀ preview, s.target.preview = .ok preview → action = .fetchPreview → later) :
    next.Consistent later := by
  cases step with
  | idle => exact consistent.of_sameQueries (.refl s) still
  | listing =>
    rename_i sort text window _ _
    have new : fresh ∉ s.epochs := (List.nodup_cons.mp distinct).1
    exact consistent.start new
      (r := (s.startListing fresh sort text window).listingRequest fresh)
      ⟨rfl, get?_uuid_listingRequest _ _⟩ rfl rfl fun _ => .refl _
  | preview has =>
    rename_i preview
    have new : fresh ∉ s.epochs := (List.nodup_cons.mp distinct).1
    refine consistent.start new ⟨rfl, ?_⟩ rfl rfl fun own => absurd (shows preview has rfl) own
    exact Query.get?_uuid _ _ ((Target.preview_eq_ok has).2 _ (by decide))
  | dispatch =>
    rename_i extra
    rw [plain extra rfl]
    exact consistent.queryListing (own .dispatch) fresh s.window
  | turn scrolled _ _ _ done =>
    have pages : s.Pages fresh action := by
      rcases scrolled with rfl | rfl
      · exact .continueQuery done
      · exact .scroll done
    exact consistent.queryListing (own pages) fresh _
  | edit =>
    refine consistent.of_same rfl rfl rfl rfl rfl rfl ?_ still
    intro r sent get
    rcases Array.mem_push.mp sent with older | rfl
    · exact older
    · cases get
  | respond => exact consistent.of_sameQueries (s.sameQueries_absorb _ _) still
  | respondEdit => exact consistent.of_sameQueries (s.sameQueries_setDirty _) still
  | select => exact consistent.of_sameQueries (s.sameQueries_emit _) still
  | answer => exact consistent.of_same rfl rfl rfl rfl rfl rfl (fun _ sent _ => sent) still
  | push => exact consistent.of_same rfl rfl rfl rfl rfl rfl (fun _ sent _ => sent) still
  | process =>
    rename_i messages rest _ _
    have emptied : { s with inbox := rest }.Consistent previewing :=
      consistent.of_same rfl rfl rfl rfl rfl rfl (fun _ sent _ => sent) fun _ => id
    exact emptied.of_sameQueries (sameQueries_handleAll _ messages) still

theorem consistent_run {target : Target} {settings : Settings} {allocates : Nat → Bool}
    {first : Session}
    (opening : begin target settings allocates = .opened first) {steps : List (Epoch × Action)}
    (plain : ∀ step ∈ steps, ∀ extra, step.2 = .dispatch extra → extra = [])
    (distinct : (first.run steps).epochs.Nodup) (apart : ¬ first.PagesPreview steps) :
    (first.run steps).Consistent (first.Previewing steps) := by
  induction steps using List.reverseRecOn with
  | nil =>
    rw [begin_eq_opened opening]
    exact .initial _ _ _
  | append_singleton steps step ih =>
    obtain ⟨fresh, action⟩ := step
    have ran : first.run (steps ++ [(fresh, action)]) = (first.run steps).act fresh action :=
      run_append _ _ _
    rw [ran] at distinct ⊢
    have kept := ((first.run steps).extends_act fresh action).epochs
    have earlier : ¬ first.PagesPreview steps := by
      rintro ⟨before, fresh', action', after, rfl, shown, pages⟩
      exact apart ⟨before, fresh', action', after ++ [(fresh, action)], by simp, shown, pages⟩
    refine (ih (fun step member => plain step (List.mem_append_left _ member))
      (distinct.sublist kept.sublist) earlier).step ((first.run steps).step fresh action)
      (plain (fresh, action) (by simp)) distinct ?_ ?_ ?_
    · intro pages shown
      exact apart ⟨steps, fresh, action, [], rfl, shown, pages⟩
    · exact fun same shown => shown.snoc same
    · rintro preview has rfl
      exact previewing_of_preview has

private theorem Starts.preview_eq_ok {s : Session} {fresh : Epoch}
    (starts : s.Starts fresh .fetchPreview) :
    ∃ preview, s.target.preview = .ok preview ∧
      s.act fresh .fetchPreview = s.startPreview fresh preview := by
  rcases starts.act_eq with ⟨_, _, _, demand, -⟩ | previewed
  · cases demand
  · exact previewed

private theorem Previewing.asked {first : Session} {steps : List (Epoch × Action)}
    (shown : first.Previewing steps) :
    ∃ epoch, (first.run steps).epoch? = some epoch ∧
      ∃ r ∈ (first.run steps).wire, CarriesToken epoch r ∧
        r.endpoint ≠ (first.run steps).target.endpoint := by
  obtain ⟨before, epoch, between, rfl, starts, newest⟩ := shown
  obtain ⟨preview, has, ran⟩ := starts.preview_eq_ok
  obtain ⟨other, free⟩ := Target.preview_eq_ok has
  have kept := extends_run ((first.run before).act epoch .fetchPreview) between
  rw [ran] at kept
  have same : first.run (before ++ (epoch, .fetchPreview) :: between) =
      ((first.run before).startPreview epoch preview).run between := by
    rw [run_append, run_cons, ran]
  rw [same] at newest ⊢
  have sent : (first.run before).previewRequest epoch preview ∈
      ((first.run before).startPreview epoch preview).wire := by
    rw [wire_startPreview]
    exact Array.mem_push_self
  have carries : CarriesToken epoch ((first.run before).previewRequest epoch preview) :=
    ⟨rfl, Query.get?_uuid _ _ (free _ (by decide))⟩
  refine ⟨epoch, newest, _, ?_, carries, ?_⟩
  · exact Array.mem_toList_iff.mp (kept.wire.subset (Array.mem_toList_iff.mpr sent))
  · rw [kept.target]
    exact other.symm

/-- The queries that carry one token ask the same question in exactly those runs in which nothing
of the table's own listing is asked for while the epoch of a preview is current. -/
theorem one_token_one_question_iff {target : Target} {settings : Settings} {allocates : Nat → Bool}
    {first : Session}
    (opening : begin target settings allocates = .opened first) {steps : List (Epoch × Action)}
    (plain : ∀ step ∈ steps, ∀ extra, step.2 = .dispatch extra → extra = [])
    (distinct : (first.run steps).epochs.Nodup) :
    (∀ r ∈ (first.run steps).wire, ∀ t ∈ (first.run steps).wire, r.method = .get →
      t.method = .get → r.params.get? "uuid" = t.params.get? "uuid" → r.SameQuestion t) ↔
    ¬ first.PagesPreview steps := by
  constructor
  · rintro agree ⟨before, fresh, action, after, rfl, shown, pages⟩
    obtain ⟨epoch, newest, r, asked, carries, other⟩ := shown.asked
    obtain ⟨window, ran⟩ := pages.act_eq (plain (fresh, action) (by simp))
    have same : first.run (before ++ (fresh, action) :: after) =
        ((first.run before).queryListing fresh window []).run after := by
      rw [run_append, run_cons, ran]
    have kept := extends_run ((first.run before).queryListing fresh window []) after
    have sent : ∀ q ∈ ((first.run before).queryListing fresh window []).wire,
        q ∈ (first.run (before ++ (fresh, action) :: after)).wire := by
      intro q member
      rw [same]
      exact Array.mem_toList_iff.mp (kept.wire.subset (Array.mem_toList_iff.mpr member))
    -- The preview's query and the page carry one token but go to different endpoints.
    rw [wire_queryListing, newest] at sent
    have joined := agree r (sent r (Array.mem_push_of_mem _ asked)) _ (sent _ Array.mem_push_self)
      carries.1 rfl (carries.2.trans (get?_uuid_listingRequest _ _).symm)
    exact other joined.endpoint
  · intro apart r sentr t sentt getr gett same
    have consistent := consistent_run opening plain distinct apart
    obtain ⟨epoch, -, carries⟩ := consistent.known r sentr getr
    exact consistent.agree epoch r sentr t sentt carries ⟨gett, same ▸ carries.2⟩

theorem one_token_one_question_of_two_pages :
    let row : Json := .object [("infohash", .text "a")]
    let steps : List (Epoch × Action) := [(⟨1#128⟩, .refresh),
      (⟨2#128⟩, .answer 0 (.ok (.object [("dirty", .bool false), ("results", .array [row])]))),
      (⟨3#128⟩, .processNext), (⟨4#128⟩, .scroll true)]
    let last := (initial (.parentScoped "ab" 1) .default).run steps
    last.wire.size = 2 ∧ last.epochs.Nodup ∧
      ∀ r ∈ last.wire, ∀ t ∈ last.wire, r.method = .get → t.method = .get →
        r.params.get? "uuid" = t.params.get? "uuid" → r.SameQuestion t := by
  intro row steps last
  have opening : begin (.parentScoped "ab" 1) .default =
      .opened (initial (.parentScoped "ab" 1) .default) := begin_default _
  have plain : ∀ step ∈ steps, ∀ extra, step.2 = .dispatch extra → extra = [] := by
    simp [steps]
  have distinct : last.epochs.Nodup := by decide +kernel
  have apart : ¬ (initial (.parentScoped "ab" 1) .default).PagesPreview steps := by
    rintro ⟨_, fresh, action, after, split, ⟨before, epoch, between, rfl, -, -⟩, -⟩
    have previewed : (epoch, .fetchPreview) ∈ steps := by simp [split]
    simp [steps] at previewed
  exact ⟨by decide +kernel, distinct,
    (one_token_one_question_iff opening plain distinct).mpr apart⟩

/-- The page after a preview's rows is asked for under the preview's token, but it is a page of the
table's own listing. -/
theorem two_questions_of_one_token :
    ¬ ∀ (target : Target) (settings : Settings) (first : Session) (steps : List (Epoch × Action)),
      begin target settings = .opened first →
      (∀ step ∈ steps, ∀ extra, step.2 = .dispatch extra → extra = []) →
      (first.run steps).epochs.Nodup →
      ∀ r ∈ (first.run steps).wire, ∀ t ∈ (first.run steps).wire, r.method = .get →
        t.method = .get → r.params.get? "uuid" = t.params.get? "uuid" → r.SameQuestion t := by
  intro agree
  let row : Json := .object [("infohash", .text "a")]
  let steps : List (Epoch × Action) := [(⟨1#128⟩, .fetchPreview),
    (⟨2#128⟩, .answer 0 (.ok (.object [("results", .array [row])]))), (⟨3#128⟩, .processNext),
    (⟨4#128⟩, .continueQuery)]
  let last := (initial (.parentScoped "ab" 1) .default).run steps
  have found : ∃ r ∈ last.wire, ∃ t ∈ last.wire, r.method = .get ∧ t.method = .get ∧
      r.params.get? "uuid" = t.params.get? "uuid" ∧ r.endpoint ≠ t.endpoint := by
    decide +kernel
  obtain ⟨r, sentr, t, sentt, getr, gett, same, other⟩ := found
  have joined := agree (.parentScoped "ab" 1) .default _ steps (begin_default _)
    (by simp [steps]) (by decide +kernel) r sentr t sentt getr gett same
  exact other joined.endpoint

end Session

end LiveTable
