import Fuelmint.Foundation.Procedures
import Fuelmint.LocalTestnet

/-!
# How the Rust process starts and ends

`main` parses the arguments, `exec` opens the database, builds the node,
spawns the ABCI server and the services, and waits for the first of the two
to end.  What it serves is the node that the pure `exec` makes of the flags
and the database.
-/

namespace Fuelmint

open Foundation

variable {T : Types}

/-- An error of the argument parser; help and version go to stdout. -/
structure ClapError where
  message : String
  useStderr : Bool

/-- The flags of `fuelmint run`: those of the configuration, and where to
listen and to keep the database. -/
structure RunFlags where
  ip : String
  port : UInt16
  abciPort : UInt16
  databasePath : String
  command : Command

def RunFlags.abciAddress (flags : RunFlags) : String :=
  flags.ip ++ ":" ++ toString flags.abciPort

/-- `Opt::try_parse` with its subcommand, and `Command::try_parse` without.
The outer error of either is a panic: the default of `--db-path` unwraps the
home directory. -/
structure ArgumentParser (Arguments : Type) where
  parseOpt : Arguments → Except String (Except ClapError RunFlags)
  parseCommand : Arguments → Except String (Except ClapError RunFlags)

/-- The task that `select!` finds ended.  The outer error of either is a panic
of the task. -/
inductive FinishedTask where
  | abciServer (joined : Except String (Except String Unit))
  | fuelmintServices (joined : Except String Unit)

inductive ProcessCall (T : Types) where
  | warnDeprecated
  | printError (err : ClapError)
  | openDatabase (path : String)
  /-- What `maybe_initialize_state` leaves in the database. -/
  | storeGenesis (database : Database T)
  | bindGraphQL (ip : String) (port : UInt16)
  | spawnAbciServer (world : World T) (address : String)
  | spawnServices (services : SubServices T)
  | select

@[reducible]
def ProcessCall.Reply : ProcessCall T → Type
  | .openDatabase _ => Except String (Database T)
  | .bindGraphQL _ _ => Except String Unit
  | .select => FinishedTask
  | .warnDeprecated | .printError _ | .storeGenesis _
  | .spawnAbciServer _ _ | .spawnServices _ => Unit

abbrev ProcessAction (T : Types) (Result : Type) :=
  Procedure (ProcessCall T) ProcessCall.Reply Result

abbrev ProcessTrace (T : Types) :=
  Exchanges (ProcessCall T) ProcessCall.Reply

def ProcessCall.perform (name : ProcessCall T) :
    ProcessAction T name.Reply :=
  Procedure.perform name

/-- An error that is unwrapped is a panic. -/
def unwrapOk {Value : Type} (attempt : Except String Value)
    (next : Value → ProcessAction T (Ending Unit)) :
    ProcessAction T (Ending Unit) :=
  match attempt with
  | .ok value => next value
  | .error message => return .panicked message

def FinishedTask.ending : FinishedTask → Ending Unit
  | .abciServer (.ok (.ok ())) => .returned ()
  | .abciServer (.ok (.error message)) => .panicked message
  | .abciServer (.error message) => .panicked message
  | .fuelmintServices (.ok ()) => .returned ()
  | .fuelmintServices (.error message) => .panicked message

section Process

variable (F : FuelCore T) (environment : Option String)

/-- `exec` with its effects, in their order. -/
def RunFlags.exec (flags : RunFlags) : ProcessAction T (Ending Unit) :=
  unwrapOk (flags.command.getConfig F environment) fun config => do
    let opened ← (ProcessCall.openDatabase flags.databasePath).perform
    unwrapOk opened fun database =>
      unwrapOk (Task.new F database config) fun (services, database) => do
        (ProcessCall.storeGenesis database).perform
        let bound ← (ProcessCall.bindGraphQL flags.ip flags.port).perform
        unwrapOk bound fun _ => do
          let state : State := { blockHeight := 0, appHash := [] }
          let app :=
            App.new config state services.producer services.txpool
          let world : World T := {
            app := app
            pool := F.emptyPool
            database := database }
          (ProcessCall.spawnAbciServer world flags.abciAddress).perform
          (ProcessCall.spawnServices services).perform
          let finished ← ProcessCall.select.perform
          return finished.ending

variable {Arguments : Type} (parser : ArgumentParser Arguments)

/-- `main`: without the subcommand the arguments are tried as its flags. -/
def fuelmintMain (arguments : Arguments) :
    ProcessAction T (Ending Unit) :=
  unwrapOk (parser.parseOpt arguments) fun opt =>
    match opt with
    | .ok flags => flags.exec F environment
    | .error err =>
        unwrapOk (parser.parseCommand arguments) fun command =>
          match command with
          | .ok flags => do
              ProcessCall.warnDeprecated.perform
              flags.exec F environment
          | .error _ => do
              (ProcessCall.printError err).perform
              return .exited (if err.useStderr then 2 else 0)

end Process

/-! ## The ways to end -/

section Endings

variable {F : FuelCore T} {environment : Option String}

/-- The complete traces of `exec`, by the way it ends. -/
inductive ExecEnds (F : FuelCore T) (environment : Option String)
    (flags : RunFlags) : Ending Unit → ProcessTrace T → Prop
  | noConfig {message : String} :
      flags.command.getConfig F environment = .error message →
        ExecEnds F environment flags (.panicked message) []
  | noDatabase {config : Config T} {message : String} :
      flags.command.getConfig F environment = .ok config →
        ExecEnds F environment flags (.panicked message)
          [⟨.openDatabase flags.databasePath, .error message⟩]
  | noGenesis {database : Database T} {message : String} :
      exec F environment flags.command database = .error message →
        ExecEnds F environment flags (.panicked message)
          [⟨.openDatabase flags.databasePath, .ok database⟩]
  | noGraphQL {database : Database T} {node : Node T}
      {message : String} :
      exec F environment flags.command database = .ok node →
        ExecEnds F environment flags (.panicked message)
          [⟨.openDatabase flags.databasePath, .ok database⟩,
            ⟨.storeGenesis node.world.database, ()⟩,
            ⟨.bindGraphQL flags.ip flags.port, .error message⟩]
  | served {database : Database T} {node : Node T}
      (finished : FinishedTask) :
      exec F environment flags.command database = .ok node →
        ExecEnds F environment flags finished.ending
          [⟨.openDatabase flags.databasePath, .ok database⟩,
            ⟨.storeGenesis node.world.database, ()⟩,
            ⟨.bindGraphQL flags.ip flags.port, .ok ()⟩,
            ⟨.spawnAbciServer node.world flags.abciAddress, ()⟩,
            ⟨.spawnServices node.services, ()⟩,
            ⟨.select, finished⟩]

/-- The complete traces of the process. -/
inductive ProcessEnds {Arguments : Type} (F : FuelCore T)
    (environment : Option String) (parser : ArgumentParser Arguments)
    (arguments : Arguments) : Ending Unit → ProcessTrace T → Prop
  | noParser {message : String} :
      parser.parseOpt arguments = .error message →
        ProcessEnds F environment parser arguments (.panicked message) []
  | noOldParser {err : ClapError} {message : String} :
      parser.parseOpt arguments = .ok (.error err) →
      parser.parseCommand arguments = .error message →
        ProcessEnds F environment parser arguments (.panicked message) []
  | run {flags : RunFlags} {ending : Ending Unit}
      {trace : ProcessTrace T} :
      parser.parseOpt arguments = .ok (.ok flags) →
      ExecEnds F environment flags ending trace →
        ProcessEnds F environment parser arguments ending trace
  | deprecated {err : ClapError} {flags : RunFlags}
      {ending : Ending Unit} {trace : ProcessTrace T} :
      parser.parseOpt arguments = .ok (.error err) →
      parser.parseCommand arguments = .ok (.ok flags) →
      ExecEnds F environment flags ending trace →
        ProcessEnds F environment parser arguments ending
          (⟨.warnDeprecated, ()⟩ :: trace)
  | usage {err other : ClapError} :
      parser.parseOpt arguments = .ok (.error err) →
      parser.parseCommand arguments = .ok (.error other) →
        ProcessEnds F environment parser arguments
          (.exited (if err.useStderr then 2 else 0))
          [⟨.printError err, ()⟩]

theorem exec_of_not_built
    {command : Command} {config : Config T} {database : Database T}
    {message : String}
    (configured : command.getConfig F environment = .ok config)
    (failed : Task.new F database config = .error message) :
    exec F environment command database = .error message := by
  unfold exec
  rw [configured]
  change (Task.new F database config >>= _) = _
  rw [failed]
  rfl

theorem exec_of_built
    {command : Command} {config : Config T}
    {database initialized : Database T} {services : SubServices T}
    (configured : command.getConfig F environment = .ok config)
    (built :
      Task.new F database config = .ok (services, initialized)) :
    exec F environment command database =
      .ok {
        world := {
          app :=
            App.new config { blockHeight := 0, appHash := [] }
              services.producer services.txpool
          pool := F.emptyPool
          database := initialized }
        services := services } := by
  unfold exec
  rw [configured]
  change (Task.new F database config >>= _) = _
  rw [built]
  rfl

/-- Whatever the environment replies, `exec` ends in one of its five ways. -/
theorem exec_meets (flags : RunFlags) :
    (flags.exec F environment).Meets (fun _ => True)
      (ExecEnds F environment flags) := by
  unfold RunFlags.exec
  cases configured : flags.command.getConfig F environment with
  | error message =>
      exact Procedure.Meets.done trivial (.noConfig configured)
  | ok config =>
      apply Procedure.Meets.call trivial
      intro opened
      cases opened with
      | error message =>
          exact Procedure.Meets.done trivial (.noDatabase configured)
      | ok database =>
          cases built : Task.new F database config with
          | error message =>
              have refused := exec_of_not_built configured built
              simp only [Procedure.done_bind, unwrapOk, built]
              exact Procedure.Meets.done trivial (.noGenesis refused)
          | ok parts =>
              obtain ⟨services, initialized⟩ := parts
              have started := exec_of_built configured built
              simp only [Procedure.done_bind, unwrapOk, built]
              apply Procedure.Meets.call trivial
              intro _
              apply Procedure.Meets.call trivial
              intro bound
              cases bound with
              | error message =>
                  exact Procedure.Meets.done trivial (.noGraphQL started)
              | ok _ =>
                  apply Procedure.Meets.call trivial
                  intro _
                  apply Procedure.Meets.call trivial
                  intro _
                  apply Procedure.Meets.call trivial
                  intro finished
                  exact
                    Procedure.Meets.done trivial
                      (.served finished started)

theorem fuelmintMain_meets
    {Arguments : Type} (parser : ArgumentParser Arguments)
    (arguments : Arguments) :
    (fuelmintMain F environment parser arguments).Meets (fun _ => True)
      (ProcessEnds F environment parser arguments) := by
  unfold fuelmintMain
  cases parsed : parser.parseOpt arguments with
  | error message =>
      exact Procedure.Meets.done trivial (.noParser parsed)
  | ok opt =>
      cases opt with
      | ok flags =>
          refine (exec_meets flags).weaken (fun _ _ => trivial) ?_
          intro ending trace ends
          exact .run parsed ends
      | error err =>
          cases without : parser.parseCommand arguments with
          | error message =>
              exact Procedure.Meets.done trivial (.noOldParser parsed without)
          | ok command =>
              simp only [unwrapOk]
              cases command with
              | ok flags =>
                  apply Procedure.Meets.call trivial
                  intro _
                  refine (exec_meets flags).weaken (fun _ _ => trivial) ?_
                  intro ending trace ends
                  exact .deprecated parsed without ends
              | error other =>
                  apply Procedure.Meets.call trivial
                  intro _
                  exact Procedure.Meets.done trivial (.usage parsed without)

/-- Every call can be replied to. -/
instance (name : ProcessCall T) : Nonempty name.Reply := by
  cases name with
  | openDatabase path => exact ⟨.error ""⟩
  | bindGraphQL ip port => exact ⟨.ok ()⟩
  | select => exact ⟨.fuelmintServices (.ok ())⟩
  | warnDeprecated => exact ⟨()⟩
  | printError err => exact ⟨()⟩
  | storeGenesis database => exact ⟨()⟩
  | spawnAbciServer world address => exact ⟨()⟩
  | spawnServices services => exact ⟨()⟩

theorem ExecEnds.serves
    {flags : RunFlags} {ending : Ending Unit} {trace : ProcessTrace T}
    (ends : ExecEnds F environment flags ending trace)
    {world : World T} {address : String}
    (served : ⟨.spawnAbciServer world address, ()⟩ ∈ trace) :
    address = flags.abciAddress ∧
      ∃ database node,
        exec F environment flags.command database = .ok node ∧
          world = node.world := by
  cases ends with
  | noConfig failed => simp at served
  | noDatabase configured => simp at served
  | noGenesis failed => simp at served
  | noGraphQL started => simp at served
  | @served database node finished started =>
      have arguments :
          world = node.world ∧ address = flags.abciAddress := by
        simpa using served
      exact ⟨arguments.2, database, node, started, arguments.1⟩

theorem ProcessEnds.serves
    {Arguments : Type} {parser : ArgumentParser Arguments}
    {arguments : Arguments} {ending : Ending Unit}
    {trace : ProcessTrace T}
    (ends : ProcessEnds F environment parser arguments ending trace)
    {world : World T} {address : String}
    (served : ⟨.spawnAbciServer world address, ()⟩ ∈ trace) :
    ∃ flags : RunFlags,
      address = flags.abciAddress ∧
        ∃ database node,
          exec F environment flags.command database = .ok node ∧
            world = node.world := by
  cases ends with
  | noParser failed => simp at served
  | noOldParser failed without => simp at served
  | @run flags _ _ parsed ends =>
      exact ⟨flags, ends.serves served⟩
  | @deprecated _ flags _ _ failed parsed ends =>
      have later := List.mem_of_ne_of_mem (by simp) served
      exact ⟨flags, ends.serves later⟩
  | usage failed without => simp at served

/-- Whatever the environment replies, the process is at every moment on the
way to one of its ends, each with exactly its calls in their order: the
genesis is stored before the GraphQL address is bound, both before ABCI is
served, and ABCI before the services are started.  What it serves is a node
that the pure `exec` makes of the flags and the opened database; and it
returns or panics as the first of the two tasks to end does. -/
theorem process_starts_in_order
    {Arguments : Type} (parser : ArgumentParser Arguments)
    (arguments : Arguments) {trace : ProcessTrace T}
    {outcome : Option (Ending Unit)}
    (observed :
      (fuelmintMain F environment parser arguments).Observes trace
        outcome) :
    (∃ complete ending,
      trace <+: complete ∧
        ProcessEnds F environment parser arguments ending complete ∧
        ∀ found, outcome = some found →
          found = ending ∧ complete = trace) ∧
      ∀ world address,
        ⟨.spawnAbciServer world address, ()⟩ ∈ trace →
          ∃ flags : RunFlags,
            address = flags.abciAddress ∧
              ∃ database node,
                exec F environment flags.command database = .ok node ∧
                  world = node.world := by
  obtain ⟨complete, ending, begins, ended, same⟩ :=
    observed.exists_complete
  have ends := (fuelmintMain_meets parser arguments).after ended
  refine ⟨⟨complete, ending, begins, ends, same⟩, ?_⟩
  intro world address served
  exact ends.serves (begins.subset served)

end Endings

section PortTaken

open LocalTestnet

/-- Arguments that parse as flags without the subcommand. -/
def oldFormat : ArgumentParser RunFlags where
  parseOpt _ :=
    .ok (.error { message := "no subcommand", useStderr := true })
  parseCommand flags := .ok (.ok flags)

def defaultFlags : RunFlags where
  ip := "127.0.0.1"
  port := 4000
  abciPort := 26658
  databasePath := ".fuel/db"
  command := command

/-- An environment in which the GraphQL port is taken. -/
def portTaken (_past : ProcessTrace types) :
    (name : ProcessCall types) → name.Reply
  | .openDatabase _ => .ok freshDatabase
  | .bindGraphQL _ _ => .error "address in use"
  | .select => .fuelmintServices (.ok ())
  | .warnDeprecated | .printError _ | .storeGenesis _
  | .spawnAbciServer _ _ | .spawnServices _ => ()

theorem process_starts_in_order_portTaken :
    ((fuelmintMain core none oldFormat defaultFlags).run portTaken
        []).2 = .panicked "address in use" ∧
      ∃ ending,
        ProcessEnds core none oldFormat defaultFlags ending
          ((fuelmintMain core none oldFormat defaultFlags).run portTaken
            []).1 := by
  refine ⟨rfl, ?_⟩
  have complete :=
    Procedure.observes_run portTaken
      (fuelmintMain core none oldFormat defaultFlags) []
  obtain ⟨whole, ending, _, ends, same⟩ :=
    (process_starts_in_order oldFormat defaultFlags complete).1
  obtain ⟨_, rfl⟩ := same _ rfl
  exact ⟨ending, ends⟩

end PortTaken

end Fuelmint
