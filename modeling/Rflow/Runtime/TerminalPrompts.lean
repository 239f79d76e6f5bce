import Rflow.Foundation.Worker
import Rflow.Runtime.Events
import Rflow.Runtime.PlacementPrompt
import Rflow.Runtime.Supervisor

/-!
# Prompts on the terminal

The loop of a session hands its prompts to a thread that asks the user, and acts on the answers.
The snapshot of the runtime is looked at when an answer is acted on.  What the loop waits for apart
from its prompts is left out.
-/

namespace Rflow

open Foundation

inductive TerminalPrompt where
  | pairing (request : PairingRequestSummary)
  | placement (request : PlacementRequestSummary)
  deriving DecidableEq

inductive TerminalPromptResponse where
  | pairing (requestId : PairingRequestId) (accepted : Bool)
  | placement (decision : Outcome String (Option PlacementDecision))
  deriving DecidableEq

/-- What the loop does about an answer. -/
inductive PromptAction where
  | send (command : AppCommand)
  | applyLayout (expectedRevision : Nat) (command : LayoutCommand)
  | print (text : String)
  deriving DecidableEq

/-- The answer to a question, of which one line is read. -/
def confirms : List PromptRead → Bool
  | .line text :: _ => (trim text).map Char.toLower ∈ ["y".toList, "yes".toList]
  | _ => false

/-- The response of the thread to what is read at a prompt. -/
def TerminalPrompt.respond : TerminalPrompt → List PromptRead → TerminalPromptResponse
  | pairing request, reads => .pairing request.requestId (confirms reads)
  | placement request, reads => .placement (promptPeerPlacement request reads).outcome

/-- What the loop does about a response while a pairing request is pending, or none. -/
def TerminalPromptResponse.actions (pending : Option PairingRequestId) :
    TerminalPromptResponse → List PromptAction
  | pairing requestId accepted =>
      if pending = some requestId then
        [.send (if accepted then .acceptPairing requestId else .rejectPairing requestId)]
      else
        []
  | placement (.ok (some decision)) => [.applyLayout decision.revision decision.command]
  | placement (.ok none) =>
      [.print "Device left unplaced. Configure it later with `rflow layout place`."]
  | placement (.err error) => [.print ("Could not read placement choice: " ++ error)]
  | placement (.panic _) => []

abbrev PromptInput := WorkerInput TerminalPrompt (List PromptRead) (Option PairingRequestId)

abbrev PromptOutput :=
  WorkerOutput TerminalPrompt TerminalPromptResponse (List PromptRead) (Option PairingRequestId)

/-- The loop and its thread, with the prompts and the answers between them. -/
abbrev TerminalPrompts := Worker TerminalPrompt TerminalPromptResponse 8 8

namespace TerminalPrompts

def step : Machine.Step TerminalPrompts PromptInput PromptOutput Unit :=
  Worker.step TerminalPrompt.respond

def start : TerminalPrompts := Worker.start

/-- What the loop does about an answer that it takes. -/
def actions (output : PromptOutput) : List PromptAction :=
  match output.collectedOf with
  | some (_, response, pending) => response.actions pending
  | none => []

variable {prompts : TerminalPrompts} {inputs : List PromptInput} {outputs : List PromptOutput}

/-- The loop acts on its prompts one after the other: what it does about each follows from what was
typed at this prompt and from the request that is pending when it takes the answer. -/
theorem prompts_answered_in_order
    (ran : Machine.run step start inputs = .ok (outputs, prompts)) :
    ∃ served : List ((TerminalPrompt × List PromptRead) × Option PairingRequestId),
      served.map (fun item => item.1.1) <+: inputs.filterMap WorkerInput.submitted ∧
      served.map (fun item => item.1.2) <+: inputs.filterMap WorkerInput.effort ∧
      served.map Prod.snd = inputs.filterMap WorkerInput.context ∧
      outputs.flatMap actions =
        served.flatMap fun item => (item.1.1.respond item.1.2).actions item.2 := by
  obtain ⟨served, requests, worked, contexts, collected⟩ := Worker.run_serves ran
  refine ⟨served, requests, worked, contexts, ?_⟩
  have acted (output : PromptOutput) : actions output =
      output.collectedOf.toList.flatMap fun item => item.2.1.actions item.2.2 := by
    unfold actions
    cases output.collectedOf <;> simp
  calc
    outputs.flatMap actions =
        (outputs.filterMap WorkerOutput.collectedOf).flatMap fun item =>
          item.2.1.actions item.2.2 := by
      rw [List.filterMap_eq_flatMap_toList, List.flatMap_assoc]
      exact congrArg (List.flatMap · outputs) (funext acted)
    _ = served.flatMap fun item => (item.1.1.respond item.1.2).actions item.2 := by
      rw [collected, List.flatMap_map]

def samplePrompt : PairingRequestSummary where
  requestId := ⟨5⟩
  deviceName := "laptop"
  address := ⟨.v4 0x0a000002, 2451⟩
  fingerprint := ⟨List.replicate 32 9, List.length_replicate⟩
  code := ⟨123456⟩
  expiresAtUnixSeconds := 0

def sampleAnswer : List PromptInput :=
  [.submit (.pairing samplePrompt), .send, .take, .finish [.line " Yes\n".toList], .deliver,
    .collect (some ⟨5⟩)]

theorem prompts_answered_in_order_accepted :
    ∃ outputs final, Machine.run step start sampleAnswer = .ok (outputs, final) ∧
      outputs.flatMap actions = [.send (.acceptPairing ⟨5⟩)] := by
  obtain ⟨outputs, final, ran⟩ :
      ∃ outputs final, Machine.run step start sampleAnswer = .ok (outputs, final) := ⟨_, _, rfl⟩
  obtain ⟨served, prompts, typed, pendings, acted⟩ := prompts_answered_in_order ran
  refine ⟨outputs, final, ran, acted.trans ?_⟩
  simp only [sampleAnswer, List.filterMap_cons, List.filterMap_nil, WorkerInput.submitted,
    WorkerInput.effort, WorkerInput.context] at prompts typed pendings
  obtain ⟨⟨⟨prompt, reads⟩, pending⟩, rest, rfl, same, restNil⟩ := List.map_eq_cons_iff.mp pendings
  obtain rfl := List.map_eq_nil_iff.mp restNil
  obtain rfl := List.singleton_prefix_cons_iff.mp prompts
  obtain rfl := List.singleton_prefix_cons_iff.mp typed
  obtain rfl : pending = some ⟨5⟩ := same
  decide

/-- The prompts that the loop has not acted on. -/
def outstanding (prompts : TerminalPrompts) : Nat := Worker.outstanding prompts

/-- The loop gets to do something else than wait for room for a prompt. -/
def Frees (prompts : TerminalPrompts) : Prop :=
  ∃ inputs outputs final,
    Machine.run step prompts inputs = .ok (outputs, final) ∧ final.sending = none

/-- Whatever has happened, the loop can never do anything again, not even notice that it is to stop,
exactly if eighteen prompts are outstanding. -/
theorem loop_stuck_iff : ¬ prompts.Frees ↔ prompts.outstanding = 18 :=
  Worker.waits_forever_iff (by decide)

end TerminalPrompts
end Rflow
