import StaticSite.Build.Site
import StaticSite.CommandLine.Options
import StaticSite.NewSite
import StaticSite.Server.Watch

/-!
# Running a command

A command works on a workspace and ends with a status: zero if it did what it was asked for,
and one if it failed in a way that its user can mend, which is then reported.  The server
builds the site once, asks for an address to listen at, and serves until it is stopped.
-/

namespace StaticSite

namespace CommandLine

def version : Text := "0.1.0"

/-- What a server finds when it listens for clients. -/
structure Listener where
  /-- The port at which a server listens that asks for a host and a port. -/
  bind : (host : Option Text) → (port : Option Int) → Except FileFault (Option Int)
  /-- Whether the user interrupts the server; else it ends by itself. -/
  interrupted : Bool := false

/-- What a command comes to. -/
structure Outcome where
  status : Nat := 0
  /-- The addresses that the command has asked to listen at. -/
  asked : List (Option Text × Option Int) := []
  deriving DecidableEq, Repr

/-- The status of a command that failed. -/
def failure : Nat := 1

/-- A value that must not have got lost. -/
def kept {Value : Type} : Option Value → Except Fault Value
  | some value => .ok value
  | none => .error (.kind "expected str, bytes or os.PathLike object, not list")

def Options.request (options : Options) : Except Fault Build.Request := do
  return {
    root := Path.parse (← kept options.root)
    buildDrafts := options.buildDrafts
    reload := options.reload
    configName := ← kept options.config
    workers := options.workers }

/-- Build the site and tell how it went. -/
def runBuild (options : Options) : Action Outcome := do
  let result ← Build.site (← Action.ofExcept options.request)
  Action.printPieces [.text "Build completed in ", .elapsed, .text "s.\n"]
  Action.print ("Converted " ++ Text.ofNat result.converted ++ " markdown files, " ++
    Text.ofNat result.sitemapURLs.length ++ " sitemap URLs.")
  return {}

/-- A thing that may be there, as a line. -/
def healthLine (label : Text) (present : Bool) (detail : Text) : Text :=
  label ++ " (" ++ detail ++ ")" ++ (if present then "" else " [missing]")

def programLine (label program : Text) (programs : List Text) : Text :=
  let present := decide (program ∈ programs)
  healthLine label present (program ++ (if present then " found" else " not found"))

/-- Tell what the program can do here. -/
def runHealth (options : Options) : Action Outcome := do
  let programs := (← get).programs
  let name ← Action.ofExcept (kept options.config)
  let config := (Path.parse (← Action.ofExcept (kept options.root))).append (Path.parse name)
  let present ← Action.inspect (·.exists? config)
  Action.print (healthLine "Can convert html/components to html" true "yes")
  Action.print (healthLine "Can convert markdown to html" true "embedded renderer")
  Action.print (programLine "Can convert markdown with pandoc" Build.converter programs)
  Action.print (programLine "Can upload to server" "rsync" programs)
  Action.print
    (healthLine (name ++ " found") present (if present then "true" else "false"))
  return {}

def runNewSite (options : Options) : Action Outcome := do
  let root ← Action.ofExcept (kept options.root)
  let site ← NewSite.create (Path.parse root) options.name
  Action.print ("Created new site in: " ++ site.text)
  return {}

/-- A value as a message shows it; one that got lost is an empty list. -/
def shown {Value : Type} (write : Value → Text) : Option Value → Text
  | some value => write value
  | none => "[]"

/-- Serve the site until the server ends or is interrupted. -/
def serve (options : Options) (listener : Listener) : Action Outcome := do
  let asked := [(options.host, options.port)]
  match listener.bind options.host options.port with
  | .error fault =>
    Action.report ("error: " ++ fault.message)
    return ⟨failure, asked⟩
  | .ok port =>
    Action.print ("Server running at http://" ++ shown id options.host ++ ":" ++
      shown Text.ofInt port ++ "/")
    if options.watch then Action.print "Watching for file changes..."
    Action.print "Press Ctrl+C to stop"
    if listener.interrupted then
      Action.print []
      return ⟨failure, asked⟩
    else return ⟨0, asked⟩

/-- Build the site and serve it. -/
def runServer (options : Options) (listener : Listener) : Action Outcome := do
  let _ ← Build.site (← Action.ofExcept options.request)
  serve options listener

/-- Do what a command asks for. -/
def perform (options : Options) (listener : Listener) : Action Outcome :=
  match options.command with
  | .version => do
    Action.print version
    return {}
  | .health => runHealth options
  | .newSite => runNewSite options
  | .server => runServer options listener
  | .build => runBuild options

/-- Do what a command asks for, and report the faults that its user can mend. -/
def run (options : Options) (listener : Listener) : Action Outcome := do
  try perform options listener
  catch fault =>
    match fault with
    | .site reason =>
      Action.report reason.message
      return ⟨failure, []⟩
    | .file reason =>
      Action.report ("error: " ++ reason.message)
      return ⟨failure, []⟩
    | _ => throw fault

/-- The line about a command line that cannot be read. -/
def usageLine (fault : UsageFault) : Text := "hunim: error: " ++ fault.message

end CommandLine

end StaticSite
