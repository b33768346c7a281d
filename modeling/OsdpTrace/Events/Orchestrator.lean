import OsdpTrace.Events.Event
import OsdpTrace.Failure

/-!
Processing an access event. The processor decides; a processor that fails counts as a refusal
with a fixed message. The decision is then stored, as a success or as an error, feedback for
the decision is chosen, and the feedback is sent to the reader. A failure to store or to send is
recorded in the outcome and does not stop the later steps.

The processor, the store, the feedback resolver and the sender are actions of any monad, so what
they do, and what they remember between calls, is theirs; processing runs them one after the
other. Recording each call before it runs gives the calls in the order they are made.
-/
namespace OsdpTrace

inductive EventError where
  | processor (message : String)
  | persistence (message : String)
  | delivery (message : String)
  | core (failure : Failure)

def EventError.message : EventError → String
  | .processor m => "Processor error: " ++ m
  | .persistence m => "Persistence error: " ++ m
  | .delivery m => "Feedback delivery error: " ++ m
  | .core f => f.message

structure Verdict where
  success : Bool
  message : String
deriving DecidableEq, Repr, Inhabited

def pluginErrorMessage : String := "Plugin processing error occurred"

/-- The verdict an answer of the processor stands for: its own, or the refusal that stands for a
failed processor. -/
def verdictOf : Except EventError Verdict → Verdict
  | .ok v => v
  | .error _ => ⟨false, pluginErrorMessage⟩

/-- The services event processing calls on, as actions of a monad `m`. -/
structure Collaborators (m : Type → Type) where
  process : ReadEvent → m (Except EventError Verdict)
  persistSuccess : ReadEvent → Verdict → m (Except EventError Unit)
  persistError : ReadEvent → String → m (Except EventError Unit)
  successFeedback : m Feedback
  failureFeedback : m Feedback
  send : ReaderId → Feedback → m (Except EventError Unit)

inductive Call where
  | process
  | persistSuccess (verdict : Verdict)
  | persistError (message : String)
  | successFeedback
  | failureFeedback
  | send (readerId : ReaderId) (feedback : Feedback)
deriving DecidableEq, Repr

structure EventOutcome where
  kind : EventKind
  verdict : Verdict
  feedback : Feedback
  persisted : Bool
  delivered : Bool
deriving DecidableEq, Repr

def EventOutcome.fullySuccessful (o : EventOutcome) : Bool :=
  o.verdict.success && o.persisted && o.delivered

def succeeded {α : Type} : Except EventError α → Bool
  | .ok _ => true
  | .error _ => false

namespace Collaborators

variable {m : Type → Type} (c : Collaborators m)

def persist (e : ReadEvent) (v : Verdict) : m (Except EventError Unit) :=
  if v.success then c.persistSuccess e v else c.persistError e v.message

def feedbackFor (v : Verdict) : m Feedback :=
  if v.success then c.successFeedback else c.failureFeedback

end Collaborators

/-- Processes an event: decides, stores the decision, resolves the feedback for it and sends
that feedback, each step whatever the one before answered. -/
def processEvent {m : Type → Type} [Monad m] (c : Collaborators m) (e : ReadEvent) : m EventOutcome := do
  let verdict := verdictOf (← c.process e)
  let stored ← c.persist e verdict
  let feedback ← c.feedbackFor verdict
  let sent ← c.send e.readerId feedback
  return ⟨e.kind, verdict, feedback, succeeded stored, succeeded sent⟩

/-- The collaborators with every call appended to a log before it runs. -/
def Collaborators.logged {m : Type → Type} [Monad m] (c : Collaborators m) :
    Collaborators (StateT (List Call) m) where
  process e := do
    modify (· ++ [.process])
    c.process e
  persistSuccess e v := do
    modify (· ++ [.persistSuccess v])
    c.persistSuccess e v
  persistError e message := do
    modify (· ++ [.persistError message])
    c.persistError e message
  successFeedback := do
    modify (· ++ [.successFeedback])
    c.successFeedback
  failureFeedback := do
    modify (· ++ [.failureFeedback])
    c.failureFeedback
  send id feedback := do
    modify (· ++ [.send id feedback])
    c.send id feedback

end OsdpTrace
