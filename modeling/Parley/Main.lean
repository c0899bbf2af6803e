import Parley.Program.Run

/-!
# The command line

The program on the machine that it is called on. There are no connections to servers here, so
what needs one reports that it cannot be made.
-/

namespace Parley.Main

open Host (Query)

/-- What stands at a path. -/
def inspect (path : String) : IO FileState := do
  match ← (IO.FS.readBinFile path).toBaseIO with
  | .ok bytes =>
    match String.fromUTF8? bytes with
    | some content => pure (.text content)
    | none => pure (.binary bytes.toList)
  | .error (.noFileOrDirectory ..) => pure .missing
  | .error _ => pure .unreadable

def succeeds (action : IO Unit) : IO Bool := do
  match ← action.toBaseIO with
  | .ok () => pure true
  | .error _ => pure false

def append (path text : String) : IO Unit := do
  let file ← IO.FS.Handle.mk path .append
  file.putStr text

def openLog (setup : Log.Setup) : IO Bool :=
  match setup.file with
  | none => pure true
  | some path => succeeds (append path "")

/-- Writes a record to the output and to the file of the log. -/
def write (setup : Log.Setup) (record : Log.Record) : IO Unit := do
  let line := record.line setup.format ++ "\n"
  IO.print line
  if let some path := setup.file then append path line

def unreachable : Error := .internal "no connection to servers can be made"

/-- Answers a query; the state is the log that is open. -/
def perform (log : Option Log.Setup) : (query : Query) → IO (query.Answer × Option Log.Setup)
  | .lookUp name => do pure (← IO.getEnv name, log)
  | .inspect path => do pure (← inspect path, log)
  | .write path content => do pure (← succeeds (IO.FS.writeFile path content), log)
  | .makeFolder path => do pure (← succeeds (IO.FS.createDirAll path), log)
  | .openLog setup => do
    let opened ← openLog setup
    pure (opened, if opened then some setup else log)
  | .log record => do
    if let some setup := log then
      if setup.filter.admits record then write setup record
    pure ((), log)
  | .print text => do
    IO.print text
    pure ((), log)
  | .connectCache _ | .connectDatabase _ => pure (.error unreachable, log)
  | .dial _ | .expose _ => pure (false, log)
  | .send _ => pure (.failed, log)
  | .start _ => pure (.error ⟨"", unreachable⟩, log)
  | .awaitInterrupt | .stop => pure ((), log)

end Parley.Main

/-- Carries out a command line. -/
def main (arguments : List String) : IO UInt32 := do
  let (result, _) ← Parley.Course.runM Parley.Main.perform
    (ExceptT.run (Parley.Program.run arguments)) none
  if let .error ending := result then
    if let some report := ending.report? then IO.eprintln report
  pure (Parley.Program.exitCode result).toUInt32
