import Parley.CommandLine.Help
import Parley.Program.Migrate
import Parley.Program.Serve

/-!
# The program

What a command line makes the program do: a command, help, or without either the service.
-/

namespace Parley.Program

open Host (Routine)
open Host.Routine (ask)

def perform (options : Options) (env : Config.Environment) : Routine Unit :=
  match options.command with
  | some .migrate => migrate options env
  | some (.generateConfig path) => generateConfig path
  | some (.validateConfig path) => validateConfig path
  | some .showConfig => showConfig options env
  | none => serve options env

/-- The routine of a program that is called with some arguments. -/
def run (arguments : List String) : Routine Unit := do
  let env ← environment
  match Options.ofArguments arguments with
  | .ok options => perform options env
  | .error (.help command) => ask (.print (Help.page command).text)
  | .error .version => ask (.print Help.versionLine)
  | .error refusal => throw (.misused refusal)

/-- The exit code of a routine that ended so. -/
def exitCode : Except Host.Ending Unit → Nat
  | .ok () => 0
  | .error ending => ending.code

end Parley.Program
