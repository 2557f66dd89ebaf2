import LiveTable.Proofs.Item.Identity
import LiveTable.Proofs.Session.Ticket
set_option autoImplicit false

/-!
# Tables and their queries

The rows of a channel are asked for at an endpoint that has the key of the channel and its number in
it, between slashes. The key may have slashes, the number has none, so that the last slash before
the fixed end tells where the key ends, whatever the key looks like. All other endpoints are fixed
texts, at which the parameter of the target tells what is asked for. Main statements:
`Target.endpoint_eq_iff`, and `queries_tell_targets`.
-/

namespace LiveTable

namespace Target

variable {target other : Target} {publicKey publicKey' : String} {channelId channelId' : UInt64}

/-- The parameters by which targets differ from each other. -/
def ownNames : List String := ["metadata_type", "subscribed", "exclude_deleted"]

def channel? : Target → Option (String × UInt64)
  | parentScoped publicKey channelId => some (publicKey, channelId)
  | _ => none

/-! ## Endpoints -/

private theorem toList_endpoint_parentScoped (publicKey : String) (channelId : UInt64) :
    (parentScoped publicKey channelId).endpoint.toList =
      ("metadata/channels/".toList ++ publicKey.toList) ++
        '/' :: (Nat.toDigits 10 channelId.toNat ++ "/torrents".toList) := by
  simp [endpoint, channelsEndpoint, Nat.repr]

theorem endpoint_parentScoped_eq_iff :
    (parentScoped publicKey channelId).endpoint = (parentScoped publicKey' channelId').endpoint ↔
      publicKey = publicKey' ∧ channelId = channelId' := by
  constructor
  · intro same
    have chars := congrArg String.toList same
    rw [toList_endpoint_parentScoped, toList_endpoint_parentScoped, ← List.cons_append,
      ← List.cons_append, ← List.append_assoc, ← List.append_assoc] at chars
    have clean (n : Nat) : '/' ∉ Nat.toDigits 10 n := Text.mark_notMem_toDigits (by decide) n
    obtain ⟨keys, numbers⟩ :=
      Text.eq_of_last_separator (clean _) (clean _) (List.append_cancel_right chars)
    exact ⟨String.toList_inj.mp (List.append_cancel_left keys),
      UInt64.toNat_inj.mp (Text.toDigits_injective numbers)⟩
  · rintro ⟨rfl, rfl⟩
    rfl

private theorem endpoint_parentScoped_ne (fixed : other.channel? = none) :
    (parentScoped publicKey channelId).endpoint ≠ other.endpoint := by
  intro same
  have chars := congrArg String.toList same
  rw [toList_endpoint_parentScoped] at chars
  cases other with
  | parentScoped => cases fixed
  | search | filteredListing | ownedListing =>
    simp [endpoint, searchEndpoint, channelsEndpoint, ownedEndpoint] at chars

theorem endpoint_eq_iff :
    target.endpoint = other.endpoint ↔
      target.name = other.name ∧ target.channel? = other.channel? := by
  cases target with
  | parentScoped publicKey channelId =>
    cases other with
    | parentScoped publicKey' channelId' =>
      rw [endpoint_parentScoped_eq_iff]
      simp [name, channel?]
    | search | filteredListing | ownedListing =>
      exact iff_of_false (endpoint_parentScoped_ne rfl) (by simp [channel?])
  | search | filteredListing | ownedListing =>
    cases other with
    | parentScoped =>
      exact iff_of_false (endpoint_parentScoped_ne rfl).symm (by simp [channel?])
    | search | filteredListing | ownedListing =>
      simp [endpoint, name, channel?, searchEndpoint, channelsEndpoint, ownedEndpoint]

/-! ## Parameters -/

private theorem get?_extraParams_search (metadataType : Option String) :
    Fields.get? "metadata_type" (search metadataType).extraParams = metadataType.map .text := by
  cases metadataType <;> rfl

private theorem eq_of_endpoint_of_ownNames (endpoints : target.endpoint = other.endpoint)
    (params : ∀ name ∈ ownNames,
      Fields.get? name target.extraParams = Fields.get? name other.extraParams) :
    target = other := by
  obtain ⟨names, channels⟩ := endpoint_eq_iff.mp endpoints
  simp only [ownNames, List.forall_mem_cons] at params
  obtain ⟨types, subscriptions, deletions, -⟩ := params
  cases target with
  | parentScoped =>
    cases other with
    | parentScoped =>
      obtain ⟨rfl, rfl⟩ := endpoint_parentScoped_eq_iff.mp endpoints
      rfl
    | search | filteredListing | ownedListing => cases channels
  | search metadataType =>
    cases other with
    | search metadataType' =>
      rw [get?_extraParams_search, get?_extraParams_search] at types
      have texts : Function.Injective Json.text := fun _ _ => Json.text.inj
      rw [Option.map_injective texts types]
    | parentScoped | filteredListing | ownedListing => simp [name] at names
  | filteredListing subscribed =>
    cases other with
    | filteredListing subscribed' => simpa [extraParams, Fields.get?] using subscriptions
    | search | parentScoped | ownedListing => simp [name] at names
  | ownedListing excludeDeleted =>
    cases other with
    | ownedListing excludeDeleted' => simpa [extraParams, Fields.get?] using deletions
    | search | parentScoped | filteredListing => simp [name] at names

private theorem endpoint_extraParams_injective :
    Function.Injective fun target : Target => (target.endpoint, target.extraParams) := by
  intro target other same
  obtain ⟨endpoints, params⟩ := Prod.mk.inj same
  exact eq_of_endpoint_of_ownNames endpoints fun name _ => by rw [params]

end Target

namespace Session

variable {s t : Session} {fresh fresh' : Epoch} {action action' : Action} {ticket ticket' : Ticket}

/-- A call of the owner has sent a query of the table's own listing, not of a preview, and has given
no parameter in the place of one of the target's. -/
structure Lists (s : Session) (fresh : Epoch) (action : Action) (ticket : Ticket) : Prop where
  granted : s.reply? fresh action = some (.ok (some ticket))
  listing : action ≠ .fetchPreview
  free : ∀ name ∈ Target.ownNames, Fields.get? name action.extra = none

namespace Lists

private theorem endpoint (lists : s.Lists fresh action ticket) :
    ticket.request.endpoint = s.target.endpoint := by
  have sent := matches_of_reply? lists.granted
  have kept := (s.extends_act fresh action).target
  rw [sent.endpoint, ← kept]
  cases action with
  | fetchPreview => exact absurd rfl lists.listing
  | _ => rfl

private theorem params (lists : s.Lists fresh action ticket) {name : String}
    (own : name ∈ Target.ownNames) :
    Fields.get? name ticket.request.params = Fields.get? name s.target.extraParams := by
  have sent := matches_of_reply? lists.granted
  have kept := (s.extends_act fresh action).target
  have common : Fields.get? name ((s.act fresh action).commonParams ticket.epoch
      ((s.act fresh action).filterSource action)) = none := by
    simp only [Target.ownNames, List.mem_cons, List.not_mem_nil, or_false] at own
    rcases own with rfl | rfl | rfl <;> rfl
  rw [sent.params, lists.free name own, Option.none_or, common, Option.or_none, ← kept]
  cases action with
  | fetchPreview => exact absurd rfl lists.listing
  | _ => rfl

private theorem target_eq (lists : s.Lists fresh action ticket)
    (lists' : t.Lists fresh' action' ticket')
    (endpoints : ticket.request.endpoint = ticket'.request.endpoint)
    (params : ∀ name ∈ Target.ownNames,
      Fields.get? name ticket.request.params = Fields.get? name ticket'.request.params) :
    s.target = t.target := by
  apply Target.eq_of_endpoint_of_ownNames
  · rw [← lists.endpoint, endpoints, lists'.endpoint]
  · intro name own
    rw [← lists.params own, params name own, lists'.params own]

end Lists

/-- A query tells its table. Different targets have different endpoints or different parameters, and
so the queries of sessions with different targets differ in the endpoint or in a parameter that
targets give, whatever else the sessions and the calls that send the queries have in common. -/
theorem queries_tell_targets :
    (Function.Injective fun target : Target => (target.endpoint, target.extraParams)) ∧
    ∀ (s t : Session) (fresh fresh' : Epoch) (action action' : Action) (ticket ticket' : Ticket),
      s.Lists fresh action ticket → t.Lists fresh' action' ticket' → s.target ≠ t.target →
      ticket.request.endpoint ≠ ticket'.request.endpoint ∨
        ∃ name ∈ Target.ownNames,
          Fields.get? name ticket.request.params ≠ Fields.get? name ticket'.request.params := by
  refine ⟨Target.endpoint_extraParams_injective, ?_⟩
  intro s t fresh fresh' action action' ticket ticket' lists lists' apart
  by_contra same
  push Not at same
  exact apart (lists.target_eq lists' same.1 same.2)

/-- A slash moves between the key and the number of a channel; a search for rows of an unnamed type
is not a search for rows of any type. -/
theorem queries_tell_targets_of_slashes :
    let channel (publicKey : String) (channelId : UInt64) :=
      initial (.parentScoped publicKey channelId) .default
    let search (metadataType : Option String) := initial (.search metadataType) .default
    let bySize : Action := .dispatch [("sort_by", .text "size")]
    (∃ ticket ticket', (channel "x/1" 2).Lists ⟨1#128⟩ .refresh ticket ∧
      (channel "x" 12).Lists ⟨1#128⟩ .refresh ticket' ∧
      ticket.request.endpoint ≠ ticket'.request.endpoint) ∧
    ∃ ticket ticket', (search none).Lists ⟨1#128⟩ .refresh ticket ∧
      (search (some "")).Lists ⟨1#128⟩ bySize ticket' ∧
      ∃ name ∈ Target.ownNames,
        Fields.get? name ticket.request.params ≠ Fields.get? name ticket'.request.params := by
  intro channel search bySize
  obtain ⟨-, tells⟩ := queries_tell_targets
  constructor
  · have lists : (channel "x/1" 2).Lists ⟨1#128⟩ .refresh _ := ⟨rfl, by simp, by decide⟩
    have lists' : (channel "x" 12).Lists ⟨1#128⟩ .refresh _ := ⟨rfl, by simp, by decide⟩
    refine ⟨_, _, lists, lists', ?_⟩
    rcases tells _ _ _ _ _ _ _ _ lists lists' (by decide) with apart | ⟨name, own, apart⟩
    · exact apart
    · rw [lists.params own, lists'.params own] at apart
      exact absurd rfl apart
  · have lists : (search none).Lists ⟨1#128⟩ .refresh _ := ⟨rfl, by simp, by decide⟩
    have lists' : (search (some "")).Lists ⟨1#128⟩ bySize _ := ⟨rfl, by simp [bySize], by decide⟩
    refine ⟨_, _, lists, lists', ?_⟩
    rcases tells _ _ _ _ _ _ _ _ lists lists' (by decide) with apart | apart
    · rw [lists.endpoint, lists'.endpoint] at apart
      exact absurd rfl apart
    · exact apart

end Session

end LiveTable
