import BucketSteward.Proofs.MissingMembers
import BucketSteward.Proofs.Sending
import BucketSteward.Remote.Server

/-! Calls that write a configuration, and what keeps them from being sent. The value is put into its
wire form first: its first gap ends the call, as a request that the service would reject. A whole value
goes into one request (`Call.SentAs`), which is asked unless the sender refuses it. -/
namespace BucketSteward

/-! ## What is written -/

/-- The call writes a value that is put into its wire form. -/
def Call.Carries : Call → Prop
  | putSetting _ _ _ | putDocument _ _ _ | putObjectLock _ _ | putItem _ _ _ | tag _ _ _ => True
  | _ => False

/-- What is built of the value that a call writes. Object lock is built of nothing. -/
def Call.built : Call → List Wire.Construction
  | putSetting setting _ value => setting.built value
  | putDocument document _ content => document.built content
  | putItem collection _ item => collection.built item
  | tag _ _ tags => tags.flatMap Wire.Tag.built
  | _ => []

/-- The members that are missing in the value that a call writes, in the order of construction. -/
def Call.gaps (call : Call) : List Wire.MissingMember :=
  Wire.allGaps call.built

/-- The request of a call carries its value in the wire form. -/
inductive Call.SentAs : Call → Request → Prop where
  | setting {setting : Setting} {bucket : String} {value : setting.Value} {sent : setting.Sent}
      (encoded : setting.encode value = .ok sent) :
      SentAs (.putSetting setting bucket value) (.putSetting setting bucket sent)
  | document {document : Document} {bucket : String} {content : document.Content}
      {sent : document.Sent} (encoded : document.encode content = .ok sent) :
      SentAs (.putDocument document bucket content) (.putDocument document bucket sent)
  | objectLock (bucket : String) (enabled : Bool) :
      SentAs (.putObjectLock bucket enabled)
        (.putObjectLock bucket (if enabled then some "Enabled" else none))
  | item {collection : Collection} {bucket : String} {item : collection.Item}
      {sent : collection.Sent} (encoded : collection.encode item = .ok sent) :
      SentAs (.putItem collection bucket item) (.putItem collection bucket sent)
  | tag {account arn : String} {tags : List Tag} {sent : List Wire.Tag}
      (encoded : Wire.encodeList Wire.Tag.encode tags = .ok sent) :
      SentAs (.tag account arn tags) (.tag account arn sent)

namespace Call.SentAs

variable {call : Call} {request other : Request}

theorem operation (sent : call.SentAs request) : request.operation = call.operation := by
  cases sent <;> rfl

/-- A value has one wire form. -/
theorem unique (sent : call.SentAs request) (again : call.SentAs other) : request = other := by
  cases sent with
  | objectLock =>
    cases again
    rfl
  | setting encoded | document encoded | item encoded | tag encoded =>
    cases again with
    | _ also =>
      cases encoded.symm.trans also
      rfl

end Call.SentAs

/-! ## One program, one request -/

namespace Client

/-- A program has one request sent, and does nothing else. -/
def Sends {β : Type} (sender : Sender) (program : Work β) (request : Request) : Prop :=
  ∃ same : request.Response = β, program = same ▸ send sender request

section Sends
variable {β σ : Type} {sender : Sender} {program : Work β} {request : Request}

theorem Sends.unsent (sends : Sends sender program request) {refusal : Refusal}
    (refused : sender.refusal? request = some refusal) (serve : Service Remote σ) (state : σ) :
    program.Fails serve state [] (fault request refusal) state := by
  obtain ⟨rfl, rfl⟩ := sends
  exact send_fails_unsent refused serve state

theorem Sends.sent (sends : Sends sender program request)
    (accepted : sender.refusal? request = none) (serve : Service Remote σ) (state : σ) :
    program.trace serve state = [(request, state)] ∧
      (program.run serve state).2 = (serve request state).2 := by
  obtain ⟨rfl, rfl⟩ := sends
  rw [send_eq_ask accepted]
  exact ⟨rfl, rfl⟩

end Sends

/-- A value with a gap ends the work before anything is asked; a whole one goes on in its wire form. -/
theorem encoded_bind {α β : Type} {gaps : List Wire.MissingMember} {encoding : Wire.Encoded α}
    (lacks : Wire.Lacks encoding gaps) (operation : String) (next : α → Work β) :
    (gaps = [] → ∃ sent, encoding = .ok sent ∧
      (encoded operation encoding).bind next = next sent) ∧
    ∀ missing rest, gaps = missing :: rest →
      (encoded operation encoding).bind next
        = .done (.error ⟨operation, some invalidRequest, missing.message⟩) := by
  constructor
  · rintro rfl
    obtain ⟨sent, rfl⟩ := lacks
    exact ⟨sent, rfl, rfl⟩
  · rintro missing rest rfl
    rw [show encoding = .error missing from lacks]
    rfl

theorem perform_whole {call : Call} (carries : call.Carries) (whole : call.gaps = [])
    (sender : Sender) (limit : Nat) :
    ∃ request, call.SentAs request ∧ Sends sender (perform sender limit call) request := by
  cases call with
  | putSetting setting bucket value =>
    obtain ⟨sent, encoded, now⟩ := (encoded_bind (setting.follows value) _ _).1 whole
    exact ⟨_, .setting encoded, rfl, now⟩
  | putDocument document bucket content =>
    obtain ⟨sent, encoded, now⟩ := (encoded_bind (document.follows content) _ _).1 whole
    exact ⟨_, .document encoded, rfl, now⟩
  | putObjectLock bucket enabled => exact ⟨_, .objectLock bucket enabled, rfl, rfl⟩
  | putItem collection bucket item =>
    obtain ⟨sent, encoded, now⟩ := (encoded_bind (collection.follows item) _ _).1 whole
    exact ⟨_, .item encoded, rfl, now⟩
  | tag account arn tags =>
    obtain ⟨sent, encoded, now⟩ := (encoded_bind (Wire.Tag.follows.list tags) _ _).1 whole
    exact ⟨_, .tag encoded, rfl, now⟩
  | _ => exact carries.elim

theorem perform_gap {call : Call} (carries : call.Carries) {missing : Wire.MissingMember}
    {rest : List Wire.MissingMember} (gap : call.gaps = missing :: rest) (sender : Sender)
    (limit : Nat) :
    perform sender limit call
      = .done (.error ⟨call.operation, some invalidRequest, missing.message⟩) := by
  cases call with
  | putSetting setting bucket value =>
    exact (encoded_bind (setting.follows value) _ _).2 missing rest gap
  | putDocument document bucket content =>
    exact (encoded_bind (document.follows content) _ _).2 missing rest gap
  | putObjectLock => cases gap
  | putItem collection bucket item =>
    exact (encoded_bind (collection.follows item) _ _).2 missing rest gap
  | tag account arn tags =>
    exact (encoded_bind (Wire.Tag.follows.list tags) _ _).2 missing rest gap
  | _ => exact carries.elim

end Client

/-! ## What keeps a call from being sent -/

namespace Call

/-- A call that writes a configuration asks nothing and changes nothing exactly when its value has a gap
or its sender refuses the request with the value in its wire form. The first gap ends it as a rejected
request would, for good. A whole value goes into one request; if that is refused by a sender that has no
codes, the call is tried again. -/
theorem unsent_iff {σ : Type} (sender : Sender) (serve : Service Remote σ) (limit : Nat) (call : Call)
    (carries : call.Carries) (state : σ) :
    (((Client.perform sender limit call).trace serve state = [] ∧
        ((Client.perform sender limit call).run serve state).2 = state) ↔
      call.gaps ≠ [] ∨ ∃ request, call.SentAs request ∧ sender.refusal? request ≠ none) ∧
    (∀ missing rest, call.gaps = missing :: rest →
      (Client.perform sender limit call).Fails serve state []
        ⟨call.operation, some "InvalidRequest", missing.message⟩ state ∧
      Fault.isTerminal Fault.defaultTerminalCodes
        (.api ⟨call.operation, some "InvalidRequest", missing.message⟩) = true) ∧
    (call.gaps = [] → ∃ request, call.SentAs request ∧
      (sender.refusal? request = none →
        (Client.perform sender limit call).trace serve state = [(request, state)] ∧
        ((Client.perform sender limit call).run serve state).2 = (serve request state).2) ∧
      ∀ refusal, sender.refusal? request = some refusal →
        (Client.perform sender limit call).Fails serve state []
          ⟨call.operation, refusal.code, refusal.message⟩ state ∧
        (sender.IsCodeless → Fault.isTerminal Fault.defaultTerminalCodes
          (.api ⟨call.operation, refusal.code, refusal.message⟩) = false)) := by
  have lacking {missing : Wire.MissingMember} {rest : List Wire.MissingMember}
      (gap : call.gaps = missing :: rest) : (Client.perform sender limit call).Fails serve state []
        ⟨call.operation, some "InvalidRequest", missing.message⟩ state := by
    rw [Client.perform_gap carries gap]
    exact ⟨rfl, rfl⟩
  have refused {request : Request} (sends : Client.Sends sender (Client.perform sender limit call) request)
      (sentAs : call.SentAs request) {refusal : Refusal}
      (unsent : sender.refusal? request = some refusal) :
      (Client.perform sender limit call).Fails serve state []
        ⟨call.operation, refusal.code, refusal.message⟩ state := by
    rw [← sentAs.operation]
    exact sends.unsent unsent serve state
  refine ⟨⟨fun ⟨silent, _⟩ => ?silent, fun kept => ?kept⟩, fun missing rest gap => ⟨lacking gap, rfl⟩,
    fun whole => ?whole⟩
  case silent =>
    by_contra goes
    obtain ⟨whole, accepted⟩ := not_or.mp goes
    obtain ⟨request, sentAs, sends⟩ := Client.perform_whole carries (not_not.mp whole) sender limit
    have asked := (sends.sent (by_contra fun refused => accepted ⟨request, sentAs, refused⟩) serve state).1
    simp [asked] at silent
  case kept =>
    have ⟨error, fails⟩ : ∃ error,
        (Client.perform sender limit call).Fails serve state [] error state := by
      cases whole : call.gaps with
      | cons missing rest => exact ⟨_, lacking whole⟩
      | nil =>
        obtain ⟨request, sentAs, unsent⟩ := kept.resolve_left (not_not.mpr whole)
        obtain ⟨refusal, unsent⟩ := Option.ne_none_iff_exists'.mp unsent
        obtain ⟨own, also, sends⟩ := Client.perform_whole carries whole sender limit
        obtain rfl := sentAs.unique also
        exact ⟨_, refused sends sentAs unsent⟩
    exact ⟨List.map_eq_nil_iff.mp fails.trace, congrArg Prod.snd fails.run⟩
  case whole =>
    obtain ⟨request, sentAs, sends⟩ := Client.perform_whole carries whole sender limit
    refine ⟨request, sentAs, fun accepted => sends.sent accepted serve state, fun refusal unsent => ?_⟩
    refine ⟨refused sends sentAs unsent, fun codeless => ?_⟩
    simp [Fault.isTerminal, ApiError.hasCode, codeless request refusal unsent]

/-- A server that has one bucket. -/
def ledger : Server where
  buckets := .ofList [("ledger", {})]

/-- A sender that needs an id for every item that it addresses. -/
def needsIds : Sender where
  refusal? request :=
    if request.itemId? = some "" then some ⟨none, "failed to construct request"⟩ else none

/-- A rule whose tags lack a value and a key, and which lacks its status, before one that lacks only
that. -/
def gappyRules : Call :=
  .putDocument .lifecycle "ledger" {
    rules := some [
      { filter := some {
          and := some { tags := some [{ key := some "team" }] }
          tag := some { value := some "red" } } },
      {}] }

/-- A configuration with an empty id. -/
def emptyId : Call :=
  .putItem .analytics "ledger" { id := some "" }

/-- Four gaps, of which the first is told; an id that is refused without a code; and tags that are
sent. -/
theorem unsent_iff_gappy_rules :
    gappyRules.gaps = [⟨"Tag", "value"⟩, ⟨"Tag", "key"⟩, ⟨"LifecycleRule", "status"⟩,
      ⟨"LifecycleRule", "status"⟩] ∧
    (Client.perform needsIds 1 gappyRules).Fails Server.serve ledger []
      ⟨"PutBucketLifecycleConfiguration", some "InvalidRequest",
        "value was missing: value was not specified but it is required when building Tag"⟩ ledger ∧
    ((Client.perform needsIds 1 emptyId).Fails Server.serve ledger []
        ⟨"PutBucketAnalyticsConfiguration", none, "failed to construct request"⟩ ledger ∧
      Fault.isTerminal Fault.defaultTerminalCodes
        (.api ⟨"PutBucketAnalyticsConfiguration", none, "failed to construct request"⟩) = false) ∧
    (Client.perform needsIds 1 (.tag "111122223333" "arn" [⟨some "team", some "red"⟩])).trace
      Server.serve ledger = [(.tag "111122223333" "arn" [⟨"team", "red"⟩], ledger)] := by
  have codeless : needsIds.IsCodeless := by
    intro request refusal refused
    simp only [needsIds, Option.ite_none_right_eq_some, Option.some.injEq] at refused
    rw [← refused.2]
  have addressed : emptyId.SentAs (.putItem .analytics "ledger" ⟨"", none, none⟩) := .item rfl
  have ⟨request, sentAs, _, refused⟩ := (unsent_iff needsIds Server.serve 1 emptyId trivial ledger).2.2 rfl
  obtain rfl := sentAs.unique addressed
  obtain ⟨unsent, again⟩ := refused ⟨none, "failed to construct request"⟩ (by decide)
  have tagged : Call.SentAs (.tag "111122223333" "arn" [⟨some "team", some "red"⟩])
      (.tag "111122223333" "arn" [⟨"team", "red"⟩]) := .tag rfl
  have ⟨request, sentAs, sent, _⟩ := (unsent_iff needsIds Server.serve 1
    (.tag "111122223333" "arn" [⟨some "team", some "red"⟩]) trivial ledger).2.2 rfl
  obtain rfl := sentAs.unique tagged
  exact ⟨rfl, ((unsent_iff needsIds Server.serve 1 gappyRules trivial ledger).2.1 _ _ rfl).1,
    ⟨unsent, again codeless⟩, (sent (by decide)).1⟩

/-- An empty id is no gap, but it makes no address. That refusal has no code, so the call would be tried
again, where one without an id is given up. -/
theorem empty_id_unsent :
    ¬ (((Client.perform needsIds 1 emptyId).trace Server.serve ledger = [] ∧
        ((Client.perform needsIds 1 emptyId).run Server.serve ledger).2 = ledger) ↔ emptyId.gaps ≠ []) ∧
    ((Client.perform needsIds 1 emptyId).run Server.serve ledger).1
      = .error ⟨"PutBucketAnalyticsConfiguration", none, "failed to construct request"⟩ ∧
    Fault.isTerminal Fault.defaultTerminalCodes
      (.api ⟨"PutBucketAnalyticsConfiguration", none, "failed to construct request"⟩) = false ∧
    ((Client.perform needsIds 1 (.putItem .analytics "ledger" {})).run Server.serve ledger).1
      = .error ⟨"PutBucketAnalyticsConfiguration", some "InvalidRequest",
        "id was missing: id was not specified but it is required when building AnalyticsConfiguration"⟩ := by
  have refused : needsIds.refusal? (Request.putItem .analytics "ledger" ⟨"", none, none⟩)
      = some ⟨none, "failed to construct request"⟩ := by decide
  have fails : (Client.perform needsIds 1 emptyId).Fails Server.serve ledger []
      ⟨"PutBucketAnalyticsConfiguration", none, "failed to construct request"⟩ ledger :=
    Client.send_fails_unsent refused Server.serve ledger
  refine ⟨fun claimed => ?_, congrArg Prod.fst fails.run, rfl, rfl⟩
  exact claimed.mp ⟨List.map_eq_nil_iff.mp fails.trace, congrArg Prod.snd fails.run⟩ rfl

end Call

end BucketSteward
