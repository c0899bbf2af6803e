import Parley.Flow.Course
import Parley.Flow.Request

/-!
# Flows

A flow is a course of requests to the surroundings of a service. `Flow.run` takes all its steps at
once; a scheduler may take them one by one and let others act in between.

An action is a flow that may fail: with an error, or by being aborted where a value that it needs
does not exist.
-/

namespace Parley

abbrev Flow (α : Type) := Course Request.Answer α

namespace Flow

variable {α : Type}

/-- A single request. -/
def request (r : Request) : Flow r.Answer := Course.query r

/-- Takes all steps in a world that nobody else changes. -/
def run (flow : Flow α) (world : World) : α × World := Course.run Request.perform flow world

end Flow

/-- Why an action has no result. -/
inductive Failure where
  | refused (error : Error)
  | aborted
  deriving DecidableEq, Repr

abbrev Action (α : Type) := ExceptT Failure Flow α

namespace Action

variable {α : Type}

def fail (error : Error) : Action α := throw (.refused error)

def abort : Action α := throw .aborted

/-- The value of an answer that may be a refusal. -/
def ofAnswer : Except Error α → Action α
  | .ok a => pure a
  | .error e => fail e

/-- The value that is there, or an abort. -/
def ofOption : Option α → Action α
  | some a => pure a
  | none => abort

/-- A request that cannot be refused. -/
def ask (r : Request) : Action r.Answer := ExceptT.lift (Flow.request r)

/-- Goes on after an error as `handler` says. -/
def onError (action : Action α) (handler : Error → Action α) : Action α :=
  ExceptT.mk (Course.bind action.run fun
    | .error (.refused e) => (handler e).run
    | other => .done other)

def now : Action Calendar.Instant := ask .now

def freshId : Action Uuid := ask .freshId

def tally (metric : Metric) : Action Unit := ask (.tally metric)

def createBan (ban : Ban) : Action Ban := do ofAnswer (← ask (.createBan ban))

def findActiveBan (character : Uuid) (channel : Option Uuid) (time : Calendar.Instant) :
    Action (Option Ban) := do
  ofAnswer (← ask (.findActiveBan character channel time))

def deactivateBan (id : Uuid) : Action (Option Ban) := do ofAnswer (← ask (.deactivateBan id))

def listBans (character : Option Uuid) (limit offset : Int) : Action (List Ban × Nat) := do
  ofAnswer (← ask (.listBans character limit offset))

def createReport (report : Report) : Action Report := do ofAnswer (← ask (.createReport report))

def findReport (id : Uuid) : Action (Option Report) := do ofAnswer (← ask (.findReport id))

def listReports (status : Option ReportStatus) (limit offset : Int) :
    Action (List Report × Nat) := do
  ofAnswer (← ask (.listReports status limit offset))

def resolveReport (id : Uuid) (status : ReportStatus) (admin : Uuid) (time : Calendar.Instant) :
    Action (Option Report) := do
  ofAnswer (← ask (.resolveReport id status admin time))

def createNotice (notice : Notification) : Action Notification := do
  ofAnswer (← ask (.createNotice notice))

def findNotice (id : Uuid) : Action (Option Notification) := do ofAnswer (← ask (.findNotice id))

def listNotices (account : Uuid) (limit offset : Int) (time : Calendar.Instant) :
    Action (List Notification × Nat × Nat) := do
  ofAnswer (← ask (.listNotices account limit offset time))

def setNoticeStatus (id : Uuid) (status : NoticeStatus) : Action (Option Notification) := do
  ofAnswer (← ask (.setNoticeStatus id status))

def findPreferences (account : Uuid) : Action (Option Preferences) := do
  ofAnswer (← ask (.findPreferences account))

def savePreferences (prefs : Preferences) : Action Preferences := do
  ofAnswer (← ask (.savePreferences prefs))

def listActiveGuilds (limit offset : Int) : Action (List Guild) := do
  ofAnswer (← ask (.listActiveGuilds limit offset))

def findMember (guild character : Uuid) : Action (Option GuildMember) := do
  ofAnswer (← ask (.findMember guild character))

def setGuildLevel (guild : Uuid) (level experience : Int) : Action Unit := do
  ofAnswer (← ask (.setGuildLevel guild level experience))

def increment (key : String) : Action Int := do ofAnswer (← ask (.increment key))

/-- Sets the deadline of a counter, if it is one that the clock can reach. -/
def expire (key : String) (ttl : Nat) : Action Unit := do
  if !(← ofAnswer (← ask (.expire key ttl))) then abort

def readCounter (key : String) : Action (Option Int) := do ofAnswer (← ask (.readCounter key))

def deleteCounter (key : String) : Action Unit := do ofAnswer (← ask (.deleteCounter key))

def publish (message : Message) : Action Unit := do ofAnswer (← ask (.publish message))

/-- Counts up and gives the counter a deadline if it has none, all in one request. -/
def countAtOnce (key : String) (window : Nat) : Action Int := do
  ofAnswer (← ask (.countAtOnce key window))

/-- Looks up the guild of a character in one request. -/
def findGuildOf (character : Uuid) : Action (Option Guild) := do
  ofAnswer (← ask (.findGuildOf character))

/-- Counts up; the first count of a window sets its end. When the end cannot be set the counter
is deleted, so that none lives on without one, and the error stands. -/
def countInWindow (key : String) (window : Nat) : Action Int := do
  let count ← increment key
  if count = 1 then
    onError (expire key window) fun e => do
      onError (deleteCounter key) fun _ => pure ()
      fail e
  pure count

end Action

end Parley
