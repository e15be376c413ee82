import Schemata.CommandLine.Disk
import Schemata.Outline
import Schemata.Target

set_option autoImplicit false

/-!
The command for outlines. It finds what a target names, and prints the outline of it or writes it to a file;
nothing is printed or written before the whole outline is known. Reading a command line is no part of it, and
what becomes of a text that is printed is up to the console.
-/

namespace Schemata.CommandLine

-- Where texts are printed, and what is received there of each.
structure Console where
  isTerminal : Bool
  received : String → String

-- Why the command ends without an outline.
inductive Failure where
  | load (cause : LoadError)
  | outline (cause : Fault)
  | write (cause : WriteError)

-- What the command can change.
structure World where
  disk : Disk
  stdout : String := ""
  stderr : String := ""
  events : List Event := []
  -- Whether events are shown on the standard error.
  verbose : Bool := false

def eventRow (e : Event) : String := e.level ++ ":" ++ e.logger ++ ":" ++ e.message ++ "\n"

namespace World

-- What is reported is known, and shown where that is asked for.
def told (world : World) (events : List Event) : World :=
  { world with
    events := world.events ++ events
    stderr := if world.verbose then world.stderr ++ String.join (events.map eventRow) else world.stderr }

def printed (world : World) (text : String) : World := { world with stdout := world.stdout ++ text }

def stored (world : World) (disk : Disk) : World := { world with disk := disk }

-- The options of the group are taken.
def started (world : World) (verbose : Bool) : World := { world with verbose := world.verbose || verbose }

end World

abbrev Command := ExceptT Failure (StateM World)

def report (events : List Event) : Command Unit := modify fun world => world.told events

-- Prints a text with nothing added.
def echo (console : Console) (text : String) : Command Unit :=
  modify fun world => world.printed (console.received text)

def save (path : Path) (text : String) : Command Unit := do
  match (← get).disk.write path text with
  | .ok disk => modify fun world => world.stored disk
  | .error cause => throw (.write cause)

def loadTarget (registry : Registry) (target : String) : Command Value := do
  let loading := registry.load target
  report loading.events
  match loading.value with
  | .ok document => return document
  | .error cause => throw (.load cause)

def render (words : KindWords) (document : Value) : Command String :=
  match document.outline words with
  | .ok text => return text
  | .error cause => throw (.outline cause)

-- Prints the outline of a document or schema, or writes it to a file.
def outline (console : Console) (registry : Registry) (output : Option Path) (target : String) : Command Unit := do
  let document ← loadTarget registry target
  let text ← render registry.words document
  match output with
  | none => echo console text
  | some path => save path text

-- How the command ended, and what it left behind.
structure Outcome where
  result : Except Failure Unit
  world : World

-- The command in its group, which takes its own options first.
def run (console : Console) (registry : Registry) (verbose : Bool) (output : Option Path) (target : String)
    (world : World) : Outcome :=
  let (result, later) := (outline console registry output target).run.run (world.started verbose)
  ⟨result, later⟩

end Schemata.CommandLine
