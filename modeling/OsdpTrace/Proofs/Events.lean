import OsdpTrace.Events.Orchestrator

/-! Processing an access event runs its four stages in a fixed order, whatever the collaborators
answer and whatever monad they run in. The verdict is the processor's, or a refusal with a fixed
message when the processor fails; the verdict alone chooses how the event is stored and which
feedback is resolved, and that feedback is what is sent. A failure to store or to send is only
recorded, so every event ends with an outcome, and the outcome is a full success exactly when the
verdict is a success and both were done. Logging each call before it runs shows the calls: once
each, in that order, and the log leaves the outcome as it was. -/
namespace OsdpTrace

namespace Call

def store (v : Verdict) : Call := if v.success then .persistSuccess v else .persistError v.message

def resolve (v : Verdict) : Call := if v.success then .successFeedback else .failureFeedback

end Call

theorem succeeded_eq_true {α : Type} {x : Except EventError α} : succeeded x = true ↔ ∃ a, x = .ok a := by
  cases x <;> simp [succeeded]

theorem EventOutcome.fullySuccessful_iff (o : EventOutcome) :
    o.fullySuccessful = true ↔ o.verdict.success = true ∧ o.persisted = true ∧ o.delivered = true := by
  simp [EventOutcome.fullySuccessful, Bool.and_eq_true, and_assoc]

namespace Collaborators

variable {m : Type → Type} [Monad m] (c : Collaborators m)

-- the logged store and resolver branch on the verdict as the plain ones do
theorem logged_persist (e : ReadEvent) (v : Verdict) :
    c.logged.persist e v = (do
      modify (· ++ [Call.store v])
      c.persist e v) := by
  unfold persist Call.store
  cases v.success <;> rfl

theorem logged_feedbackFor (v : Verdict) :
    c.logged.feedbackFor v = (do
      modify (· ++ [Call.resolve v])
      c.feedbackFor v) := by
  unfold feedbackFor Call.resolve
  cases v.success <;> rfl

end Collaborators

section Processing

variable {m : Type → Type} [Monad m] [LawfulMonad m] (c : Collaborators m)

/-- A logged run makes the calls of a plain one, each logged as it is made. -/
theorem processEvent_logged (e : ReadEvent) (log : List Call) :
    (processEvent c.logged e).run log = (do
      let v := verdictOf (← c.process e)
      let stored ← c.persist e v
      let feedback ← c.feedbackFor v
      let sent ← c.send e.readerId feedback
      pure (⟨e.kind, v, feedback, succeeded stored, succeeded sent⟩,
        log ++ [.process, Call.store v, Call.resolve v, .send e.readerId feedback])) := by
  simp only [processEvent, StateT.run_bind, Collaborators.logged_persist, Collaborators.logged_feedbackFor]
  simp [Collaborators.logged]

theorem processEvent_logged_outcome (e : ReadEvent) (log : List Call) :
    Prod.fst <$> (processEvent c.logged e).run log = processEvent c e := by
  rw [processEvent_logged]
  simp [processEvent]

end Processing

/-- Every event is handled to the end, whatever the processor, the store and the sender answer
and whatever they keep between calls. Under the verdict `v` (the processor's, or a refusal with
the fixed plugin message when it fails), the collaborators are called once per stage and in
order: the processor, the store as a success or as an error as `v` says, the resolver for the
feedback `v` calls for, and the sender with that feedback. The outcome carries the event's kind,
`v`, that feedback and whether storing and sending were done, the same as without the log, and
it is a full success exactly when `v` is one and both were. -/
theorem processEvent_contract {m : Type → Type} [Monad m] [LawfulMonad m] (c : Collaborators m) (e : ReadEvent)
    (log : List Call) :
    (processEvent c.logged e).run log = (do
        let v := verdictOf (← c.process e)
        let stored ← c.persist e v
        let feedback ← c.feedbackFor v
        let sent ← c.send e.readerId feedback
        pure (⟨e.kind, v, feedback, succeeded stored, succeeded sent⟩,
          log ++ [.process, Call.store v, Call.resolve v, .send e.readerId feedback])) ∧
    Prod.fst <$> (processEvent c.logged e).run log = processEvent c e ∧
    ∀ (v : Verdict) (feedback : Feedback) (stored sent : Except EventError Unit),
      (EventOutcome.mk e.kind v feedback (succeeded stored) (succeeded sent)).fullySuccessful = true ↔
        v.success = true ∧ (∃ u, stored = .ok u) ∧ ∃ u, sent = .ok u := by
  refine ⟨processEvent_logged c e log, processEvent_logged_outcome c e log, fun v feedback stored sent => ?_⟩
  rw [EventOutcome.fullySuccessful_iff, succeeded_eq_true, succeeded_eq_true]

/-- With the processor, the store and the sender all failing, the event is still handled to the
end: refused with the plugin message, stored as an error, answered with the failure feedback. -/
theorem processEvent_contract_everything_failing :
    let c : Collaborators Id :=
      ⟨fun _ => pure (.error (.processor "down")), fun _ _ => pure (.error (.persistence "down")),
        fun _ _ => pure (.error (.persistence "down")), pure Feedback.granted, pure Feedback.denied,
        fun _ _ => pure (.error (.delivery "down"))⟩
    (processEvent c.logged default).run [] =
      (⟨(default : ReadEvent).kind, ⟨false, pluginErrorMessage⟩, Feedback.denied, false, false⟩,
        [.process, .persistError pluginErrorMessage, .failureFeedback, .send (default : ReadEvent).readerId Feedback.denied]) := by
  intro c
  rw [(processEvent_contract c default []).1]
  rfl

end OsdpTrace
