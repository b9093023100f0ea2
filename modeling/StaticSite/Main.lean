import StaticSite.CommandLine.Run

/-!
# The program

The program reads the files that a command can need, runs the command on them, and then makes
the changes that the command has written down, in their order.  It starts no other programs
and listens at no address.
-/

namespace StaticSite

namespace Main

def locationOf (written : String) : Location := (Path.parse written.toList).parts

def written (location : Location) : String := String.ofList ((⟨.root, location⟩ : Path).text)

/-- How deep the directories are that are looked into, so that a directory that leads back to
one above it does no harm. -/
def deepest : Nat := 64

/-- What a location holds and everything below it; nothing if there is nothing. -/
def entriesFrom : (fuel : Nat) → Location → IO (List (Location × Node))
  | 0, _ => return []
  | fuel + 1, location => do
    match ← (IO.FS.realPath (written location)).toBaseIO with
    | .error _ => return []
    | .ok place =>
      let modified := (← place.metadata).modified.sec
      if ← place.isDir then
        let below ← (← place.readDir).toList.mapM fun entry =>
          entriesFrom fuel (location ++ [entry.fileName.toList])
        return (location, .directory) :: below.flatten
      else return [(location, .file (← IO.FS.readBinFile place).toList modified)]

def directoriesAbove (location : Location) : List (Location × Node) :=
  (List.range location.length).map fun length => (location.take length, .directory)

def absolute (here : Location) (path : Text) : Location := Path.resolve here (Path.parse path)

/-- The files that a command can need: those below its root, and its configuration. -/
def readFiles (options : CommandLine.Options) : IO FileTree := do
  let here := locationOf (← IO.currentDir).toString
  let root := absolute here (options.root.getD ".")
  let config := absolute root (options.config.getD ".")
  let found ← entriesFrom deepest root
  let configuration ← if root.isPrefixOf config then pure [] else entriesFrom 1 config
  let leading := (here, .directory) :: directoriesAbove here
  let above := if found.isEmpty then [] else directoriesAbove root
  let aboveConfig := if configuration.isEmpty then [] else directoriesAbove config
  let entries := leading ++ above ++ aboveConfig ++ found ++ configuration
  return entries.foldl (fun tree entry => tree.set entry.1 entry.2) ⟨here, []⟩

/-- Make one change of the files of the machine, which are those of a tree. -/
def make (tree : FileTree) : Edit → IO Unit
  | .write location content _ =>
    IO.FS.writeBinFile (written location) (ByteArray.mk content.toArray)
  | .makeDirectory location => IO.FS.createDir (written location)
  | .remove location =>
    if tree.node? location = some .directory then IO.FS.removeDir (written location)
    else IO.FS.removeFile (written location)

/-- Make changes one after the other. -/
def makeAll : FileTree → List Edit → IO Unit
  | _, [] => return
  | tree, edit :: edits => do
    make tree edit
    makeAll (tree.apply edit) edits

/-- Seconds with two decimals, of a number of milliseconds. -/
def seconds (milliseconds : Nat) : Text :=
  let hundredths := (milliseconds + 5) / 10
  Text.ofNat (hundredths / 100) ++ "." ++ Text.padLeft 2 '0' (Text.ofNat (hundredths % 100))

/-- Printed pieces as one text, for a command that took some time. -/
def printedText (milliseconds : Nat) (printed : List Printed) : Text :=
  printed.flatMap fun
    | .text text => text
    | .elapsed => seconds milliseconds

/-- A listener for machines on which nothing can be listened at. -/
def noListener : CommandLine.Listener where
  bind _ _ := .error (.other "cannot listen for clients")

/-- Run a command; the answer is its status. -/
def runCommand (options : CommandLine.Options) : IO UInt32 := do
  let start ← IO.monoMsNow
  let files ← readFiles options
  let (outcome, workspace) :=
    (CommandLine.run options noListener).perform { files := files }
  makeAll files workspace.journal.reverse
  let took := (← IO.monoMsNow) - start
  IO.print (String.ofList (printedText took workspace.printed))
  IO.eprint (String.ofList workspace.reported)
  match outcome with
  | .ok outcome => return outcome.status.toUInt32
  | .error fault =>
    IO.eprintln (String.ofList fault.message)
    return 1

def usage : Text :=
  "usage: hunim [options] [" ++
    Text.join "|" (CommandLine.Command.all.map CommandLine.Command.word) ++ "] [name]"

end Main

end StaticSite

/-- Do what the command line asks for. -/
def main (arguments : List String) : IO UInt32 := do
  match StaticSite.CommandLine.Options.parse (arguments.map String.toList) with
  | .ok options => StaticSite.Main.runCommand options
  | .error .help =>
    IO.println (String.ofList StaticSite.Main.usage)
    return 0
  | .error (.fault fault) =>
    IO.eprintln (String.ofList (StaticSite.CommandLine.usageLine fault))
    return 2
