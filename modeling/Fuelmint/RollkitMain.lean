import Fuelmint.Foundation.Procedures
import Fuelmint.RollkitNode

/-!
# How the Go process ends

`main` starts the relayer, the server and the node, and waits for a signal.
It defers the stop of the node and leaves through `os.Exit`, which does not
run deferred calls.
-/

namespace Fuelmint

open Foundation

variable {G : GoTypes}

inductive Signal where
  | interrupt
  | terminate
  deriving DecidableEq

/-- The flags that `main` reads itself, and those it leaves to `newRollup`. -/
structure Arguments where
  help : Bool := false
  configFile : String := "$HOME/.tendermint/config/config.toml"
  address : String := "tcp://0.0.0.0:26658"
  flags : Flags := {}
  deriving DecidableEq

/-- What `flag.Parse` makes of the command line.  It exits by itself where a
flag is refused, and after `-h`, which is not a flag of this program. -/
inductive Parsed where
  | arguments (args : Arguments)
  | helpRequested
  | refused (err : String)
  deriving DecidableEq

/-- The calls that do something outside; the reply is what they return, or
what was waited for. -/
inductive MainCall (G : GoTypes) where
  | usage
  | startClient (addr : String)
  | printError (err : String)
  | startServer (server : G.Server)
  | startNode (node : G.Node)
  | stopNode (node : G.Node)
  | waitNode (node : G.Node)
  | notify (signals : List Signal)
  | receiveSignal

/-- While `main` waits, the node runs in goroutines of its own, and a panic in
one of them, such as that of the relayer, takes the process down. -/
@[reducible]
def MainCall.Reply : MainCall G → Type
  | .startClient _ => Except String G.Application
  | .startServer _ | .startNode _ => Except Failure Unit
  | .stopNode _ => Option String
  | .notify _ => Except String Unit
  | .receiveSignal => Except String Signal
  | .usage | .printError _ | .waitNode _ => Unit

abbrev MainAction (G : GoTypes) (Result : Type) :=
  Procedure (MainCall G) MainCall.Reply Result

abbrev MainTrace (G : GoTypes) := Exchanges (MainCall G) MainCall.Reply

def MainCall.perform (name : MainCall G) : MainAction G name.Reply :=
  Procedure.perform name

/-- `NewABCIRelayer`: a client that does not start is a panic. -/
def newABCIRelayer (addr : String) :
    MainAction G (Except String G.Application) :=
  (MainCall.startClient addr).perform

/-- What `main` defers: both errors are dropped. -/
def stopAndWait (node : G.Node) : MainAction G (Ending Unit) := do
  let _ ← (MainCall.stopNode node).perform
  (MainCall.waitNode node).perform
  return .returned ()

/-- After the start of the node: the stop is deferred, then `main` waits. -/
def waitForSignal (node : G.Node) : MainAction G (Ending Unit) :=
  Procedure.deferring (stopAndWait node) do
    match ← (MainCall.notify [.interrupt, .terminate]).perform with
    | .error err => return .crashed err
    | .ok () =>
        match ← MainCall.receiveSignal.perform with
        | .error err => return .crashed err
        | .ok _ => return .exited 0

/-- From the start of the node on; an error that it returns is dropped. -/
def serveUntilSignal (node : G.Node) : MainAction G (Ending Unit) := do
  match ← (MainCall.startNode node).perform with
  | .error (.panic err) => return .panicked err
  | .error (.exit code) => return .exited code
  | .error (.error _) => waitForSignal node
  | .ok () => waitForSignal node

/-- An error is printed before `main` leaves; a panic or an exit has its own
way. -/
def exitWith (failure : Failure) (code : Nat) :
    MainAction G (Ending Unit) :=
  match failure with
  | .error err => do
      (MainCall.printError err).perform
      return .exited code
  | .panic err => return .panicked err
  | .exit code => return .exited code

def main (P : GoPackages G) : Parsed → MainAction G (Ending Unit)
  | .helpRequested => do
      MainCall.usage.perform
      return .exited 0
  | .refused err => do
      (MainCall.printError err).perform
      MainCall.usage.perform
      return .exited 2
  | .arguments args =>
      if args.help then do
        MainCall.usage.perform
        return .returned ()
      else do
        match ← newABCIRelayer args.address with
        | .error err => return .panicked err
        | .ok app =>
            match newRollup P args.flags app args.configFile with
            | .error failure => exitWith failure 1
            | .ok rollup =>
                match ← (MainCall.startServer rollup.server).perform with
                | .error failure => exitWith failure 2
                | .ok () => serveUntilSignal rollup.node

/-! ## The ways to end -/

/-- The exit code is for errors; a panic and an exit have their own end. -/
def Failure.ending (code : Nat) : Failure → Ending Unit
  | .error _ => .exited code
  | .panic err => .panicked err
  | .exit own => .exited own

def Failure.printed : Failure → MainTrace G
  | .error err => [⟨.printError err, ()⟩]
  | .panic _ | .exit _ => []

/-- The call comes back to `main`, with an error or without. -/
def comesBack : Except Failure Unit → Bool
  | .ok () | .error (.error _) => true
  | .error (.panic _) | .error (.exit _) => false

/-- The complete traces from the start of the node on. -/
inductive NodeEnds (node : G.Node) : Ending Unit → MainTrace G → Prop
  | notStarted {failure : Failure} :
      comesBack (.error failure) = false →
        NodeEnds node (failure.ending 0)
          [⟨.startNode node, .error failure⟩]
  | crashedEarly {started : Except Failure Unit} {err : String} :
      comesBack started = true →
        NodeEnds node (.crashed err)
          [⟨.startNode node, started⟩,
            ⟨.notify [.interrupt, .terminate], .error err⟩]
  | crashed {started : Except Failure Unit} {err : String} :
      comesBack started = true →
        NodeEnds node (.crashed err)
          [⟨.startNode node, started⟩,
            ⟨.notify [.interrupt, .terminate], .ok ()⟩,
            ⟨.receiveSignal, .error err⟩]
  | signal {started : Except Failure Unit} (received : Signal) :
      comesBack started = true →
        NodeEnds node (.exited 0)
          [⟨.startNode node, started⟩,
            ⟨.notify [.interrupt, .terminate], .ok ()⟩,
            ⟨.receiveSignal, .ok received⟩]

/-- The complete traces of the process, by the way it ends. -/
inductive Ends (P : GoPackages G) :
    Parsed → Ending Unit → MainTrace G → Prop
  | helpRequested :
      Ends P .helpRequested (.exited 0) [⟨.usage, ()⟩]
  | refused {err : String} :
      Ends P (.refused err) (.exited 2)
        [⟨.printError err, ()⟩, ⟨.usage, ()⟩]
  | help {args : Arguments} :
      args.help = true →
        Ends P (.arguments args) (.returned ()) [⟨.usage, ()⟩]
  | noClient {args : Arguments} {err : String} :
      args.help = false →
        Ends P (.arguments args) (.panicked err)
          [⟨.startClient args.address, .error err⟩]
  | noNode {args : Arguments} {app : G.Application} {failure : Failure} :
      args.help = false →
      newRollup P args.flags app args.configFile = .error failure →
        Ends P (.arguments args) (failure.ending 1)
          (⟨.startClient args.address, .ok app⟩ :: failure.printed)
  | noServer {args : Arguments} {app : G.Application} {rollup : Rollup G}
      {failure : Failure} :
      args.help = false →
      newRollup P args.flags app args.configFile = .ok rollup →
        Ends P (.arguments args) (failure.ending 2)
          (⟨.startClient args.address, .ok app⟩ ::
            ⟨.startServer rollup.server, .error failure⟩ ::
            failure.printed)
  | node {args : Arguments} {app : G.Application} {rollup : Rollup G}
      {ending : Ending Unit} {later : MainTrace G} :
      args.help = false →
      newRollup P args.flags app args.configFile = .ok rollup →
      NodeEnds rollup.node ending later →
        Ends P (.arguments args) ending
          (⟨.startClient args.address, .ok app⟩ ::
            ⟨.startServer rollup.server, .ok ()⟩ :: later)

/-- A call that is part of the deferred stop. -/
def MainCall.isStop : MainCall G → Bool
  | .stopNode _ | .waitNode _ => true
  | _ => false

def NotStopped (trace : MainTrace G) : Prop :=
  ∀ exchange ∈ trace, exchange.1.isStop = false

theorem notStopped_nil : NotStopped ([] : MainTrace G) := by
  intro exchange member
  cases member

theorem notStopped_cons
    {exchange : (name : MainCall G) × name.Reply} {later : MainTrace G} :
    NotStopped (exchange :: later) ↔
      exchange.1.isStop = false ∧ NotStopped later :=
  List.forall_mem_cons

theorem Failure.printed_notStopped (failure : Failure) :
    NotStopped (failure.printed : MainTrace G) := by
  cases failure <;> simp [Failure.printed, NotStopped, MainCall.isStop]

theorem NodeEnds.notStopped
    {node : G.Node} {ending : Ending Unit} {trace : MainTrace G}
    (ends : NodeEnds node ending trace) : NotStopped trace := by
  cases ends <;> simp [NotStopped, MainCall.isStop]

theorem Ends.notStopped
    {P : GoPackages G} {parsed : Parsed} {ending : Ending Unit}
    {trace : MainTrace G} (ends : Ends P parsed ending trace) :
    NotStopped trace := by
  cases ends with
  | helpRequested => simp [NotStopped, MainCall.isStop]
  | refused => simp [NotStopped, MainCall.isStop]
  | help _ => simp [NotStopped, MainCall.isStop]
  | noClient _ => simp [NotStopped, MainCall.isStop]
  | @noNode _ _ failure _ failed =>
      have printed := failure.printed_notStopped (G := G)
      simpa [notStopped_cons, MainCall.isStop] using printed
  | @noServer _ _ _ failure _ built =>
      have printed := failure.printed_notStopped (G := G)
      simpa [notStopped_cons, MainCall.isStop] using printed
  | node _ built later =>
      simpa [notStopped_cons, MainCall.isStop] using later.notStopped

/-- The deferred stop is registered and never runs: nothing after it returns
or panics in `main` itself. -/
theorem waitForSignal_meets
    (node : G.Node) {started : Except Failure Unit}
    (back : comesBack started = true) :
    (waitForSignal node).Meets
      (fun later => NotStopped (⟨.startNode node, started⟩ :: later))
      (fun ending later =>
        NodeEnds node ending (⟨.startNode node, started⟩ :: later) ∧
          ending.unwinds = false) := by
  apply Procedure.Meets.deferring_of_gone
  · intro ending later ended
    exact ended.1.notStopped
  · apply Procedure.Meets.call
    · simp [NotStopped, MainCall.isStop]
    · intro notified
      cases notified with
      | error err =>
          apply Procedure.Meets.done
          · simp [NotStopped, MainCall.isStop]
          · exact ⟨.crashedEarly back, rfl⟩
      | ok _ =>
          apply Procedure.Meets.call
          · simp [NotStopped, MainCall.isStop]
          · intro received
            cases received with
            | error err =>
                apply Procedure.Meets.done
                · simp [NotStopped, MainCall.isStop]
                · exact ⟨.crashed back, rfl⟩
            | ok signal =>
                apply Procedure.Meets.done
                · simp [NotStopped, MainCall.isStop]
                · exact ⟨.signal signal back, rfl⟩
  · intro ending later ended
    exact ended.2

theorem serveUntilSignal_meets (node : G.Node) :
    (serveUntilSignal node).Meets NotStopped (NodeEnds node) := by
  apply Procedure.Meets.call notStopped_nil
  intro started
  have waits (back : comesBack started = true) :
      (waitForSignal node).Meets
        (fun later => NotStopped (⟨.startNode node, started⟩ :: later))
        (fun ending later =>
          NodeEnds node ending (⟨.startNode node, started⟩ :: later)) :=
    (waitForSignal_meets node back).weaken
      (fun _ before => before) (fun _ _ ended => ended.1)
  rcases started with (err | err | code) | _
  · exact waits rfl
  · apply Procedure.Meets.done
    · simp [NotStopped, MainCall.isStop]
    · exact @NodeEnds.notStarted _ node (.panic err) rfl
  · apply Procedure.Meets.done
    · simp [NotStopped, MainCall.isStop]
    · exact @NodeEnds.notStarted _ node (.exit code) rfl
  · exact waits rfl

theorem exitWith_meets (failure : Failure) (code : Nat) :
    (exitWith failure code : MainAction G (Ending Unit)).Meets NotStopped
      (fun ending trace =>
        ending = failure.ending code ∧ trace = failure.printed) := by
  cases failure with
  | error err =>
      apply Procedure.Meets.call notStopped_nil
      intro _
      apply Procedure.Meets.done
      · simp [NotStopped, MainCall.isStop]
      · exact ⟨rfl, rfl⟩
  | panic err => exact Procedure.Meets.done notStopped_nil ⟨rfl, rfl⟩
  | exit own => exact Procedure.Meets.done notStopped_nil ⟨rfl, rfl⟩

/-- The part after `flag.Parse`. -/
theorem main_arguments_meets (P : GoPackages G) (args : Arguments) :
    (main P (.arguments args)).Meets NotStopped
      (Ends P (.arguments args)) := by
  unfold main
  dsimp only
  cases help : args.help with
  | true =>
      apply Procedure.Meets.call notStopped_nil
      intro _
      apply Procedure.Meets.done
      · simp [NotStopped, MainCall.isStop]
      · exact Ends.help help
  | false =>
      apply Procedure.Meets.call notStopped_nil
      intro reply
      have running :
          ∀ later : MainTrace G,
            NotStopped later →
              NotStopped (⟨.startClient args.address, reply⟩ :: later) :=
        fun _ before => notStopped_cons.mpr ⟨rfl, before⟩
      cases reply with
      | error err =>
          apply Procedure.Meets.done
          · exact running [] notStopped_nil
          · exact Ends.noClient help
      | ok app =>
          cases built : newRollup P args.flags app args.configFile with
          | error failure =>
              simp only [Procedure.done_bind, built]
              refine (exitWith_meets failure 1).weaken ?_ ?_
              · intro later before
                exact running later before
              · rintro ending later ⟨rfl, rfl⟩
                exact Ends.noNode help built
          | ok rollup =>
              simp only [Procedure.done_bind, built]
              apply Procedure.Meets.call (running [] notStopped_nil)
              intro served
              have serving :
                  ∀ later : MainTrace G,
                    NotStopped later →
                      NotStopped
                        (⟨.startClient args.address, .ok app⟩ ::
                          ⟨.startServer rollup.server, served⟩ ::
                          later) := by
                intro later before
                exact running _ (notStopped_cons.mpr ⟨rfl, before⟩)
              cases served with
              | error failure =>
                  refine (exitWith_meets failure 2).weaken ?_ ?_
                  · intro later before
                    exact serving later before
                  · rintro ending later ⟨rfl, rfl⟩
                    exact Ends.noServer help built
              | ok _ =>
                  refine (serveUntilSignal_meets rollup.node).weaken ?_ ?_
                  · intro later before
                    exact serving later before
                  · intro ending later ended
                    exact Ends.node help built ended

theorem main_meets (P : GoPackages G) (parsed : Parsed) :
    (main P parsed).Meets NotStopped (Ends P parsed) := by
  cases parsed with
  | arguments args => exact main_arguments_meets P args
  | helpRequested =>
      apply Procedure.Meets.call notStopped_nil
      intro _
      apply Procedure.Meets.done
      · simp [NotStopped, MainCall.isStop]
      · exact Ends.helpRequested
  | refused err =>
      apply Procedure.Meets.call notStopped_nil
      intro _
      apply Procedure.Meets.call
      · simp [NotStopped, MainCall.isStop]
      · intro _
        apply Procedure.Meets.done
        · simp [NotStopped, MainCall.isStop]
        · exact Ends.refused

/-- Whatever the environment answers, the process never stops its node: at no
moment has it called what it defers, so wherever it is brought down from
outside, nothing was stopped either.  When it ends by itself, this is one of
its ends: after the usage, with 0 or 2 where `flag.Parse` leaves and with a
return where `main` does; with a panic when the client does not start; with 1
or 2 and the error printed when node or server cannot be had; by a panic or
an exit inside the packages it starts them with; by a panic of a goroutine
while it waits; and with 0 after a signal, be it that the node was started or
returned an error. -/
theorem node_is_never_stopped
    (P : GoPackages G) (parsed : Parsed) {trace : MainTrace G}
    {outcome : Option (Ending Unit)}
    (observed : (main P parsed).Observes trace outcome) :
    NotStopped trace ∧
      ∀ ending, outcome = some ending → Ends P parsed ending trace := by
  have meets := main_meets P parsed
  cases outcome with
  | none =>
      refine ⟨meets.during observed, ?_⟩
      intro ending impossible
      cases impossible
  | some ended =>
      have complete := meets.after observed
      refine ⟨complete.notStopped, ?_⟩
      rintro ending ⟨⟩
      exact complete

/-- An environment in which the node does not start. -/
def nodeFails (_past : MainTrace benchTypes) :
    (name : MainCall benchTypes) → name.Reply
  | .startClient _ => .ok ()
  | .startServer _ => .ok ()
  | .startNode _ => .error (.error "no peers")
  | .stopNode _ => none
  | .notify _ => .ok ()
  | .receiveSignal => .ok .terminate
  | .usage | .printError _ | .waitNode _ => ()

theorem node_is_never_stopped_nodeFails :
    ((main bench (.arguments {})).run nodeFails []).2 = .exited 0 ∧
      NotStopped ((main bench (.arguments {})).run nodeFails []).1 := by
  have complete :=
    Procedure.observes_run nodeFails (main bench (.arguments {})) []
  refine ⟨rfl, ?_⟩
  exact (node_is_never_stopped bench (.arguments {}) complete).1

end Fuelmint
