import Fuelmint.Relayer

/-!
# What a failing relayer leaves behind

The relayer panics on any error of its client, and the error does not say how
far the request got.  The interface it implements has three calls for fraud
proofs besides those it relays; it answers them itself.  This module follows a
run over the whole interface up to such a panic.
-/

namespace Fuelmint

open Foundation

variable {T : Types}

namespace Response

structure GenerateFraudProof where
  fraudProof : Option Bytes := none
  deriving DecidableEq

structure GetAppHash where
  appHash : Bytes := []
  deriving DecidableEq

structure VerifyFraudProof where
  success : Bool := false
  deriving DecidableEq

end Response

/-- The whole interface of a Go application. -/
inductive ApplicationCall where
  | relayed (call : Call)
  | generateFraudProof
  | getAppHash
  | verifyFraudProof
  deriving DecidableEq

inductive ApplicationAnswer where
  | relayed (answer : Response)
  | generateFraudProof (answer : Response.GenerateFraudProof)
  | getAppHash (answer : Response.GetAppHash)
  | verifyFraudProof (answer : Response.VerifyFraudProof)
  deriving DecidableEq

namespace ABCIRelayer

def generateFraudProof (_app : ABCIRelayer T) :
    Relayed T Response.GenerateFraudProof :=
  pure {}

def getAppHash (_app : ABCIRelayer T) : Relayed T Response.GetAppHash :=
  pure {}

def verifyFraudProof (_app : ABCIRelayer T) :
    Relayed T Response.VerifyFraudProof :=
  pure {}

/-- Serve one call of the whole interface. -/
def serve (app : ABCIRelayer T) (timed : Tai64 × ApplicationCall) :
    Relayed T ApplicationAnswer :=
  match timed.2 with
  | .relayed call => return .relayed (← app.call (timed.1, call))
  | .generateFraudProof =>
      return .generateFraudProof (← app.generateFraudProof)
  | .getAppHash => return .getAppHash (← app.getAppHash)
  | .verifyFraudProof => return .verifyFraudProof (← app.verifyFraudProof)

end ABCIRelayer

/-! ## What goes over the socket -/

def Call.isForwarded : Call → Bool
  | .setOption _ _ => false
  | .beginBlock height => height != 1
  | _ => true

def ApplicationCall.forwarded : ApplicationCall → Option Call
  | .relayed call => if call.isForwarded then some call else none
  | _ => none

/-- The requests of a run that cross the socket. -/
def socketLog (calls : List (Tai64 × ApplicationCall)) :
    List TimedRequest :=
  calls.flatMap fun timed =>
    (timed.2.forwarded.map fun call =>
      (timed.1, call.request)).toList

theorem Client.target_isSome_iff (client : Client T) (call : Call) :
    (client.target call).isSome ↔ call.isForwarded = true := by
  cases call with
  | beginBlock height =>
      by_cases first : height = 1
      · simp [Client.target, Call.isForwarded, first]
      · simp [Client.target, Call.isForwarded, first]
  | _ => simp [Client.target, Call.isForwarded]

section OneCall

variable {F : FuelCore T} {app : ABCIRelayer T} {now : Tai64}
  {call : Call} {world stuck : World T}

/-- How far a failed request may have got: not to the application, through it
with the answer lost, or into a panic. -/
def InDoubt (F : FuelCore T) (now : Tai64) (request : Request)
    (world stuck : World T) : Prop :=
  stuck = world ∨
    (∃ answer, App.call F now request world = .ok answer stuck) ∨
      ∃ panic, App.call F now request world = .error panic stuck

/-- An error of the client leaves its one request in doubt, no more. -/
def ClientFailures (F : FuelCore T) (client : Client T) : Prop :=
  ∀ call sync now world message stuck,
    client.target call = some sync →
    sync now world = .error message stuck →
      InDoubt F now call.request world stuck

/-- The relayer panics in forwarded calls only, and with one request in
doubt. -/
theorem ABCIRelayer.serve_error
    (failures : ClientFailures F app.client)
    {timed : Tai64 × ApplicationCall} {panic : RelayerPanic}
    (failed : app.serve timed world = .error panic stuck) :
    ∃ call,
      timed.2 = .relayed call ∧ call.isForwarded = true ∧
        InDoubt F timed.1 call.request world stuck := by
  obtain ⟨now, applied⟩ := timed
  cases applied with
  | relayed call =>
      have refused : app.call (now, call) world = .error panic stuck :=
        of_wrap_error failed
      cases target : app.client.target call with
      | none =>
          obtain ⟨answer, answered⟩ :
              ∃ answer, app.call (now, call) world = .ok answer world :=
            ABCIRelayer.call_of_local target world
          rw [answered] at refused
          cases refused
      | some sync =>
          have forwarded : call.isForwarded = true := by
            rw [← app.client.target_isSome_iff, target]
            rfl
          rw [ABCIRelayer.call_of_target target] at refused
          unfold orPanic at refused
          cases outcome : sync now world with
          | ok answer next =>
              simp [outcome] at refused
          | error message left =>
              simp only [outcome, EStateM.Result.error.injEq] at refused
              obtain ⟨_, rfl⟩ := refused
              exact ⟨call, rfl, forwarded,
                failures call sync now world message left target outcome⟩
  | _ => cases failed

/-- An answered call is what crossed the socket for it: one request or
none. -/
theorem ABCIRelayer.serve_ok
    (laws : ClientLaws F app.client)
    {timed : Tai64 × ApplicationCall} {next : World T}
    {answer : ApplicationAnswer}
    (answered : app.serve timed world = .ok answer next) :
    Answered (serveRequest F) (socketLog [timed]) world next := by
  obtain ⟨now, applied⟩ := timed
  cases applied with
  | relayed call =>
      obtain ⟨response, called, _⟩ := wrap_ok_iff.mp answered
      by_cases forwarded : call.isForwarded = true
      · obtain ⟨direct, requested, _⟩ := ABCIRelayer.call_ok laws called
        simp only [socketLog, List.flatMap_singleton,
          ApplicationCall.forwarded, if_pos forwarded]
        exact answered_cons.mpr
          ⟨direct, next, requested, answered_nil.mpr rfl⟩
      · have untargeted : app.client.target call = none := by
          rw [← Option.not_isSome_iff_eq_none, Client.target_isSome_iff]
          exact forwarded
        obtain ⟨_, unchanged⟩ :
            ∃ answer, app.call (now, call) world = .ok answer world :=
          ABCIRelayer.call_of_local untargeted world
        rw [unchanged] at called
        cases called
        simp only [socketLog, List.flatMap_singleton,
          ApplicationCall.forwarded, if_neg forwarded]
        exact answered_nil.mpr rfl
  | _ =>
      cases answered
      exact answered_nil.mpr rfl

end OneCall

section Lossy

variable {F : FuelCore T}

/-- The response arrives unless the connection breaks first. -/
def beforeBreak {Result : Type} (breaks : Bool)
    (sync : EStateM String (World T) Result) :
    EStateM String (World T) Result :=
  fun world =>
    match sync world with
    | .ok answer next =>
        if breaks then .error "EOF" next else .ok answer next
    | .error message stuck => .error message stuck

theorem beforeBreak_ok
    {Result : Type} {breaks : Bool} {sync : EStateM String (World T) Result}
    {world next : World T} {answer : Result}
    (answered : beforeBreak breaks sync world = .ok answer next) :
    sync world = .ok answer next := by
  unfold beforeBreak at answered
  cases outcome : sync world with
  | error message stuck =>
      simp [outcome] at answered
  | ok response reached =>
      cases breaks with
      | true => simp [outcome] at answered
      | false => simpa [outcome] using answered

end Lossy

end Fuelmint
