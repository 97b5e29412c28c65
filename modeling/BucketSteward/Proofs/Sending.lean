import BucketSteward.Proofs.Trace
import BucketSteward.Remote.Client

/-! One request on its way. A request that its sender does not refuse is asked exactly once; one that
is refused is never asked. Either refusal, the sender's or the service's, becomes a fault under the name
of the operation. -/
namespace BucketSteward.Client

open Program (done ask)

variable {sender : Sender} {request : Request} {refusal : Refusal}

theorem send_eq_ask (accepted : sender.refusal? request = none) :
    send sender request = ask request fun (answer : Except Refusal request.Response) =>
      done (answer.mapError (fault request)) := by
  rw [send, dispatch, accepted]
  refine congrArg (ask (I := Remote) request) ?_
  funext answer
  cases answer <;> rfl

theorem send_eq_fault (refused : sender.refusal? request = some refusal) :
    send sender request = done (.error (fault request refusal)) := by
  rw [send, dispatch, refused]
  rfl

section Services
variable {σ : Type} {serve : Service Remote σ} {state after : σ}

theorem send_succeeds {response : request.Response} (accepted : sender.refusal? request = none)
    (answered : serve request state = (.ok response, after)) :
    (send sender request).Succeeds serve state [request] response after := by
  rw [send_eq_ask accepted]
  constructor
  · rw [Program.run, answered]
    rfl
  · rfl

theorem send_fails (accepted : sender.refusal? request = none)
    (answered : serve request state = (.error refusal, after)) :
    (send sender request).Fails serve state [request] (fault request refusal) after := by
  rw [send_eq_ask accepted]
  constructor
  · rw [Program.run, answered]
    rfl
  · rfl

theorem send_fails_unsent (refused : sender.refusal? request = some refusal)
    (serve : Service Remote σ) (state : σ) :
    (send sender request).Fails serve state [] (fault request refusal) state := by
  rw [send_eq_fault refused]
  exact ⟨rfl, rfl⟩

end Services
end BucketSteward.Client
