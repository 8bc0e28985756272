import Mathlib.Data.List.DropRight
import Mathlib.Data.List.Forall2
import SynthesisHoles.Proofs.Reporting

/-!
# What is emitted is delivered

A queue of diagnostics is emptied in two ways. To display the diagnostics turns them into a text and leaves
the counter and the flag; to flush the queue hands them over together with the counter and the flag, and
resets both. A run keeps the answers to some calls on a new queue. What an answer delivers is read off it: the
diagnostics of a queue that was handed over, or those that a displayed text renders.

The main statement says that in any run the delivered diagnostics and those that still wait are together the
emitted ones in their order, and that the counter and the flag are about what was emitted since the last
flush, whatever was displayed in between.
-/

namespace SynthesisHoles

/-! ## Calls and answers -/

/-- What can be asked of a queue of diagnostics. -/
inductive QueueCall
  | emit (diagnostic : Diagnostic)
  | flush
  | display

/-- What a queue answers. -/
inductive QueueAnswer
  | silence
  | handedOver (queue : DiagnosticQueue)
  | displayed (text : String)

/-- Whether the call leaves the counter and the flag as they are about earlier diagnostics. -/
def QueueCall.keepsCounting : QueueCall → Bool
  | .emit _ => true
  | .flush => false
  | .display => true

/-- What the call emits. -/
def QueueCall.emitted? : QueueCall → Option Diagnostic
  | .emit diagnostic => some diagnostic
  | .flush => none
  | .display => none

/-- Diagnostics that the calls emit, in order. -/
def emittedBy (calls : List QueueCall) : List Diagnostic :=
  calls.filterMap QueueCall.emitted?

/-- The calls behind the last flush. -/
def sinceFlush (calls : List QueueCall) : List QueueCall :=
  calls.rtakeWhile QueueCall.keepsCounting

/-- The answer delivers the diagnostics. -/
inductive QueueAnswer.Delivers : QueueAnswer → List Diagnostic → Prop
  | silence : Delivers .silence []
  | handedOver (queue : DiagnosticQueue) : Delivers (.handedOver queue) queue.pending
  | displayed (diagnostics : List Diagnostic) :
      Delivers (.displayed ("\r" ++ String.join (diagnostics.map Diagnostic.render))) diagnostics

theorem emittedBy_concat (calls : List QueueCall) (call : QueueCall) :
    emittedBy (calls ++ [call]) = emittedBy calls ++ call.emitted?.toList := by
  rw [emittedBy, List.filterMap_append]
  cases call <;> rfl

/-! ## Runs -/

/-- Calls on a queue that were answered: the answers in order, and the queue afterwards. -/
structure QueueRun where
  answers : List QueueAnswer := []
  queue : DiagnosticQueue

namespace QueueRun

/-- The run with a further call. -/
def after (run : QueueRun) : QueueCall → QueueRun
  | .emit diagnostic =>
      { answers := run.answers ++ [.silence]
        queue := run.queue.push diagnostic }
  | .flush =>
      { answers := run.answers ++ [.handedOver run.queue.flush.1]
        queue := run.queue.flush.2 }
  | .display =>
      { answers := run.answers ++ [.displayed run.queue.display.1]
        queue := run.queue.display.2 }

/-- The run of some calls on a new queue. -/
def ofCalls (subject : String) (calls : List QueueCall) : QueueRun :=
  calls.foldl after { queue := { subject := subject } }

theorem ofCalls_concat (subject : String) (calls : List QueueCall) (call : QueueCall) :
    ofCalls subject (calls ++ [call]) = (ofCalls subject calls).after call := by
  rw [ofCalls, List.foldl_concat]
  rfl

/--
The run accounts for what the calls emit: everything was delivered or waits, and counter and flag are about
what was displayed and what waits since the last flush.
-/
structure Accounts (run : QueueRun) (calls : List QueueCall) : Prop where
  delivery :
    ∃ deliveries,
      List.Forall₂ QueueAnswer.Delivers run.answers deliveries ∧
        deliveries.flatten ++ run.queue.pending = emittedBy calls
  counting :
    ∃ displayed,
      run.queue.Counts displayed ∧
        displayed ++ run.queue.pending = emittedBy (sinceFlush calls)

/-- An answer that delivers what does not wait any more, and an emission that waits, leave nothing out. -/
theorem delivery_concat
    {answers : List QueueAnswer}
    {answer : QueueAnswer}
    {delivered waiting left : List Diagnostic}
    {calls : List QueueCall}
    {call : QueueCall}
    (before :
      ∃ deliveries,
        List.Forall₂ QueueAnswer.Delivers answers deliveries ∧
          deliveries.flatten ++ waiting = emittedBy calls)
    (delivers : answer.Delivers delivered)
    (nothingLost : delivered ++ left = waiting ++ call.emitted?.toList) :
    ∃ deliveries,
      List.Forall₂ QueueAnswer.Delivers (answers ++ [answer]) deliveries ∧
        deliveries.flatten ++ left = emittedBy (calls ++ [call]) := by
  rcases before with ⟨deliveries, deliveredEach, whole⟩
  refine ⟨deliveries ++ [delivered], ?_, ?_⟩
  · exact List.rel_append deliveredEach (.cons delivers .nil)
  · rw [List.flatten_append, List.flatten_singleton, List.append_assoc, nothingLost,
      ← List.append_assoc, whole, emittedBy_concat]

/-- A new queue accounts for no call. -/
theorem accounts_nil (subject : String) :
    (ofCalls subject []).Accounts [] where
  delivery := ⟨[], .nil, rfl⟩
  counting := ⟨[], ⟨rfl, rfl⟩, rfl⟩

/-- Each call keeps the account. After a display, what waited counts as displayed, and nothing is new. -/
theorem Accounts.after
    {run : QueueRun}
    {calls : List QueueCall}
    (accounts : run.Accounts calls)
    (call : QueueCall) :
    (run.after call).Accounts (calls ++ [call]) := by
  rcases accounts.counting with ⟨displayed, counts, recent⟩
  cases call with
  | emit diagnostic =>
      constructor
      · exact delivery_concat accounts.delivery .silence rfl
      · refine ⟨displayed, counts.push diagnostic, ?_⟩
        have continued :
            sinceFlush (calls ++ [.emit diagnostic]) = sinceFlush calls ++ [.emit diagnostic] :=
          List.rtakeWhile_concat_pos _ _ _ rfl
        rw [continued, emittedBy_concat, ← recent, List.append_assoc]
        rfl
  | flush =>
      constructor
      · exact delivery_concat accounts.delivery (.handedOver run.queue) rfl
      · refine ⟨[], DiagnosticQueue.counts_flush run.queue, ?_⟩
        have begun : sinceFlush (calls ++ [.flush]) = [] :=
          List.rtakeWhile_concat_neg _ _ _ Bool.false_ne_true
        rw [begun]
        rfl
  | display =>
      constructor
      · exact delivery_concat accounts.delivery (.displayed run.queue.pending) rfl
      · refine ⟨displayed ++ run.queue.pending, counts.display, ?_⟩
        have continued : sinceFlush (calls ++ [.display]) = sinceFlush calls ++ [.display] :=
          List.rtakeWhile_concat_pos _ _ _ rfl
        rw [continued, emittedBy_concat, ← recent]
        rfl

/-- Every run accounts for its calls. -/
theorem accounts_ofCalls (subject : String) (calls : List QueueCall) :
    (ofCalls subject calls).Accounts calls := by
  induction calls using List.reverseRecOn with
  | nil => exact accounts_nil subject
  | append_singleton calls call hypothesis =>
      rw [ofCalls_concat]
      exact hypothesis.after call

/-! ## Delivery -/

/--
Whatever is called on a new queue, nothing is lost, doubled or put in another place. Each answer delivers
some diagnostics, and all of these, answer after answer, and then those that wait are the emitted ones. The
counter is the number of errors emitted since the last flush, and the flag says whether there are any. A
flush at this point hands over just what waits, with the counter and the flag, and leaves nothing of them. A
display at this point delivers just what waits, and leaves the counter and the flag as they are.
-/
theorem ofCalls_delivers (subject : String) (calls : List QueueCall) :
    (∃ deliveries,
        List.Forall₂ QueueAnswer.Delivers (ofCalls subject calls).answers deliveries ∧
          deliveries.flatten ++ (ofCalls subject calls).queue.pending = emittedBy calls) ∧
      (ofCalls subject calls).queue.errorCount =
        (emittedBy (sinceFlush calls)).countP Diagnostic.isError ∧
      ((ofCalls subject calls).queue.hasErrors = true ↔
        0 < (ofCalls subject calls).queue.errorCount) ∧
      (∃ taken left,
        ofCalls subject (calls ++ [.flush]) =
            ⟨(ofCalls subject calls).answers ++ [.handedOver taken], left⟩ ∧
          taken.pending = (ofCalls subject calls).queue.pending ∧
          taken.errorCount = (ofCalls subject calls).queue.errorCount ∧
          taken.hasErrors = (ofCalls subject calls).queue.hasErrors ∧
          left.pending = [] ∧
          left.errorCount = 0 ∧
          left.hasErrors = false) ∧
      ∃ text left,
        ofCalls subject (calls ++ [.display]) =
            ⟨(ofCalls subject calls).answers ++ [.displayed text], left⟩ ∧
          (QueueAnswer.displayed text).Delivers (ofCalls subject calls).queue.pending ∧
          left.pending = [] ∧
          left.errorCount = (ofCalls subject calls).queue.errorCount ∧
          left.hasErrors = (ofCalls subject calls).queue.hasErrors := by
  have accounts := accounts_ofCalls subject calls
  rcases accounts.counting with ⟨displayed, counts, recent⟩
  refine ⟨accounts.delivery, ?_, ?_, ?_, ?_⟩
  · rw [counts.count, recent]
  · rw [counts.count, counts.flag, List.any_eq_true, List.countP_pos_iff]
  · rw [ofCalls_concat]
    exact ⟨_, _, rfl, rfl, rfl, rfl, rfl, rfl, rfl⟩
  · rw [ofCalls_concat]
    exact ⟨_, _, rfl, .displayed _, rfl, rfl, rfl⟩

end QueueRun

end SynthesisHoles
