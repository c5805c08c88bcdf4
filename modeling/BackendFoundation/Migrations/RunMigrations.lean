/-
runMigrations, by any number of processes against one database.

A process and its database session are apart: a query may be carried out when its answer can
no longer arrive, a connection may break at any time, and the session of a broken connection
ends when the server notices.
-/

import BackendFoundation.Database.AdvisoryLock
import BackendFoundation.Transition.System

namespace BackendFoundation.Migrations

open Database

def migrationAdvisoryLockKeys : Int × Int :=
  (20260621, 1)

def defaultLockTimeoutMs : Nat :=
  60000

def defaultStatementTimeoutMs : Nat :=
  30 * 60 * 1000

/-- The migrate of drizzle on one migrations folder. It asks for the last applied migration,
and applies what the folder has beyond it in one transaction, which may fail. -/
structure Migrator (Content Mark : Type) where
  last : Content → Mark
  apply : Mark → Content → Option Content

def Migrator.migrate {Content Mark : Type} (migrator : Migrator Content Mark)
    (content : Content) : Option Content :=
  migrator.apply (migrator.last content) content

/-- Each process has its own environment. All reach the same database. -/
structure Setup (Process Content Mark : Type) where
  databaseUrl : Process → Option String
  migrator : Process → Migrator Content Mark

inductive Query (Mark : Type)
  | setStatementTimeout (milliseconds : Nat)
  | setLockTimeout (milliseconds : Nat)
  | advisoryLock (keys : Int × Int)
  | journal
  | transaction (mark : Mark)
  | advisoryUnlock (keys : Int × Int)

inductive Reply (Mark : Type)
  | done
  | last (mark : Mark)
  | failed

inductive RunError
  | error (message : String)
  | driver
deriving DecidableEq, Repr

inductive Outcome
  | resolved
  | rejected (error : RunError)
deriving DecidableEq, Repr

/-- The queries of the try block, the query of the finally clause, then pool.end. -/
inductive Stage (Mark : Type)
  | ready
  | connecting
  | trying (query : Query Mark)
  | releasing (outcome : Outcome)
  | closing (outcome : Outcome)
  | ended (outcome : Outcome)
  | killed

inductive Session (Mark : Type)
  | closed
  | idle
  | busy (query : Query Mark)
  | replied (reply : Reply Mark)

structure Runner (Mark : Type) where
  stage : Stage Mark
  link : Bool
  session : Session Mark

/-- The order of the commits is history. -/
structure Server (Process Content : Type) where
  content : Content
  locks : Int × Int → AdvisoryLock Process
  order : List Process

structure State (Process Content Mark : Type) where
  server : Server Process Content
  runners : Process → Runner Mark

inductive Action (Process : Type)
  | start (process : Process)
  | connects (process : Process)
  | connectFails (process : Process)
  | serves (process : Process)
  | fails (process : Process) (afterEffect : Bool)
  | receives (process : Process)
  | breaks (process : Process)
  | notices (process : Process)
  | sessionEnds (process : Process)
  | ends (process : Process)
  | killed (process : Process)

variable {Process Content Mark : Type}

/-- What follows a query of the try block. A query that fails leaves it. -/
def resume : Query Mark → Reply Mark → Stage Mark
  | .setStatementTimeout _, .done => .trying (.setLockTimeout defaultLockTimeoutMs)
  | .setLockTimeout _, .done => .trying (.advisoryLock migrationAdvisoryLockKeys)
  | .advisoryLock _, .done => .trying .journal
  | .advisoryLock _, _ =>
      .releasing (.rejected (.error ("Timed out waiting for migration advisory lock. " ++
        "Another migration process may be running.")))
  | .journal, .last mark => .trying (.transaction mark)
  | .transaction _, .done => .releasing .resolved
  | _, _ => .releasing (.rejected .driver)

namespace Stage

def query : Stage Mark → Option (Query Mark)
  | .trying query => some query
  | .releasing _ => some (.advisoryUnlock migrationAdvisoryLockKeys)
  | _ => none

/-- Whether the unlock succeeds makes no difference. -/
def answered (reply : Reply Mark) : Stage Mark → Stage Mark
  | .trying query => resume query reply
  | .releasing outcome => .closing outcome
  | stage => stage

end Stage

namespace Runner

def fresh : Runner Mark :=
  { stage := .ready
    link := false
    session := .closed }

/-- Over a broken connection no query is sent. -/
def enter (runner : Runner Mark) (stage : Stage Mark) : Runner Mark :=
  { runner with
    stage := stage
    session := if runner.link then stage.query.elim .idle .busy else runner.session }

end Runner

variable [DecidableEq Process]

def Server.setLock (server : Server Process Content) (keys : Int × Int)
    (lock : AdvisoryLock Process) : Server Process Content :=
  { server with locks := Function.update server.locks keys lock }

def Server.sessionEnds (server : Server Process Content) (process : Process) :
    Server Process Content :=
  { server with locks := fun keys => (server.locks keys).sessionEnds process }

namespace Setup

variable (setup : Setup Process Content Mark)

/-- A lock that another session holds is waited for. -/
def serve (process : Process) (server : Server Process Content) :
    Query Mark → Option (Server Process Content × Reply Mark)
  | .setStatementTimeout _ | .setLockTimeout _ => some (server, .done)
  | .advisoryLock keys =>
      ((server.locks keys).acquire process).map fun lock => (server.setLock keys lock, .done)
  | .journal => some (server, .last ((setup.migrator process).last server.content))
  | .transaction mark =>
      match (setup.migrator process).apply mark server.content with
      | some content =>
          some ({ server with
            content := content
            order := server.order ++ [process] }, .done)
      | none => some (server, .failed)
  | .advisoryUnlock keys =>
      some (server.setLock keys ((server.locks keys).release process).1, .done)

def start (process : Process) (runner : Runner Mark) : Option (Runner Mark) :=
  match runner.stage with
  | .ready =>
      if (setup.databaseUrl process).getD "" = "" then
        some { runner with
          stage := .ended (.rejected
            (.error "DATABASE_URL is required to run database migrations")) }
      else some { runner with stage := .connecting }
  | _ => none

end Setup

def connects (runner : Runner Mark) : Option (Runner Mark) :=
  match runner.stage with
  | .connecting =>
      some ({ runner with link := true }.enter
        (.trying (.setStatementTimeout defaultStatementTimeoutMs)))
  | _ => none

def connectFails (runner : Runner Mark) : Option (Runner Mark) :=
  match runner.stage with
  | .connecting => some { runner with stage := .ended (.rejected .driver) }
  | _ => none

def receives (runner : Runner Mark) : Option (Runner Mark) :=
  match runner.link, runner.session with
  | true, .replied reply => some (runner.enter (runner.stage.answered reply))
  | _, _ => none

def breaks (runner : Runner Mark) : Option (Runner Mark) :=
  if runner.link then some { runner with link := false } else none

/-- A query over a broken connection is rejected. -/
def notices (runner : Runner Mark) : Option (Runner Mark) :=
  match runner.link, runner.stage.query with
  | false, some _ => some (runner.enter (runner.stage.answered .failed))
  | _, _ => none

def State.update (state : State Process Content Mark) (process : Process)
    (runner : Runner Mark) : State Process Content Mark :=
  { state with runners := Function.update state.runners process runner }

/-- The server frees every lock of the session. -/
def State.sessionEnds (state : State Process Content Mark) (process : Process)
    (stage : Stage Mark) : State Process Content Mark :=
  { state.update process
      { stage := stage
        link := false
        session := .closed } with
    server := state.server.sessionEnds process }

def Setup.step (setup : Setup Process Content Mark) (state : State Process Content Mark) :
    Action Process → Option (State Process Content Mark)
  | .start process =>
      (setup.start process (state.runners process)).map (state.update process)
  | .connects process => (connects (state.runners process)).map (state.update process)
  | .connectFails process => (connectFails (state.runners process)).map (state.update process)
  | .serves process =>
      match (state.runners process).session with
      | .busy query =>
          (setup.serve process state.server query).map fun result =>
            { state.update process
                { state.runners process with session := .replied result.2 } with
              server := result.1 }
      | _ => none
  | .fails process afterEffect =>
      match (state.runners process).session with
      | .busy query =>
          let failed := { state.runners process with session := .replied .failed }
          if afterEffect then
            (setup.serve process state.server query).map fun result =>
              { state.update process failed with server := result.1 }
          else some (state.update process failed)
      | _ => none
  | .receives process => (receives (state.runners process)).map (state.update process)
  | .breaks process => (breaks (state.runners process)).map (state.update process)
  | .notices process => (notices (state.runners process)).map (state.update process)
  | .sessionEnds process =>
      match (state.runners process).session with
      | .closed => none
      | _ => some (state.sessionEnds process (state.runners process).stage)
  | .ends process =>
      match (state.runners process).stage with
      | .closing outcome =>
          if (state.runners process).link then some (state.sessionEnds process (.ended outcome))
          else some (state.update process { state.runners process with stage := .ended outcome })
      | _ => none
  | .killed process =>
      some (state.update process
        { state.runners process with
          stage := .killed
          link := false })

def State.start (content : Content) : State Process Content Mark :=
  { server :=
      { content := content
        locks := fun _ => .free
        order := [] }
    runners := fun _ => Runner.fresh }

def Setup.system (setup : Setup Process Content Mark) (content : Content) :
    Transition.System (State Process Content Mark) (Action Process) :=
  { initial := fun state => state = State.start content
    step := setup.step }

end BackendFoundation.Migrations
