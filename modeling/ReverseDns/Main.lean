import ReverseDns.CommandLine.Execution
import ReverseDns.Service.Azure

/-!
# The program

Runs the command line of the process: reads the files that the command names, carries out the
command, then shows its lines and writes its state file, in the order in which things happened.

No transport to Azure is linked in, so every call of the management client fails.
-/

namespace ReverseDns.CommandLine

/-- The variables of the environment that are used. -/
def variableNames : List String :=
  ["AZURE_SUBSCRIPTION_ID", "AZURE_TENANT_ID", "AZURE_CLIENT_ID", "AZURE_CLIENT_SECRET"]

def readEnvironment : IO Environment :=
  variableNames.filterMapM fun name => do
    pure ((← IO.getEnv name).map fun value => (name, value))

/-- A path and the paths of the directories on the way to it, outermost first. -/
def wayTo (path : String) : List String :=
  let parts := Path.ofString path
  let start := if parts.absolute then "/" else ""
  (List.range parts.steps.length).map fun n =>
    start ++ Text.join (parts.steps.take (n + 1))

/-- Add what the process finds at a path: a text, or a directory. -/
def look (files : Files) (path : String) : IO Files := do
  match ← (IO.FS.readFile path).toBaseIO with
  | .ok content => pure (files.save path content).2
  | .error (.inappropriateType none _ _) => pure (files.makeDirectories path).2
  | .error _ => pure files

/-- The files that an invocation reads, as far as they exist, with the directories on the way. -/
def readSources : Invocation → IO Files
  | .run _ command => (command.sources.flatMap wayTo).foldlM look {}
  | _ => pure {}

def unreachable : Client Unit where
  call _ _ _ _ := ({ result := .error (Thrown.ofMessage "Azure cannot be reached") }, ())

def showLine (line : ConsoleLine) : IO Unit :=
  if line.stream = "warn" ∨ line.stream = "error" then IO.eprintln line.text
  else IO.println line.text

/-- Write a state file, in a directory that is made where it is missing. -/
def writeState (path : String) (tracked : Tracked) : IO Unit := do
  IO.FS.createDirAll (Path.directory path)
  IO.FS.writeFile path (StateFile.render tracked)

def replay (invocation : Invocation) : Event → IO Unit
  | .said level text => showLine (labelled consoleLabel level text)
  | .overheard heard => showLine (labelled consoleLabel .debug heard.text)
  | .printed line => IO.println line
  | .saved tracked (.ok _) =>
    match invocation with
    | .run _ command => writeState command.state tracked
    | _ => pure ()
  | .saved _ (.error _) | .connected _ | .called _ _ => pure ()

/-- Run the command line of the process, and give its exit code. -/
def runProcess (words : List String) : IO UInt32 := do
  let environment ← readEnvironment
  let invocation := Invocation.ofWords words
  let files ← readSources invocation
  let now ← IO.monoMsNow
  let azure : Azure RunListener Unit := {
    subscriptionId := ""
    keyring := { tenantId := none }
    environment := environment
    clock := now.toFloat
    client := () }
  let finished := execute (Azure.service unreachable) 0 environment words files azure
  finished.events.forM (replay invocation)
  pure (UInt32.ofNat finished.exitCode)

end ReverseDns.CommandLine

def main (words : List String) : IO UInt32 := ReverseDns.CommandLine.runProcess words
