import MeterTelegram.Run

namespace MeterTelegram.Main

/-! The program: it reads the files a run may look at, performs the run and
writes what came of it. -/

/-- Names a run may look at: its arguments, and what follows an equals sign in one. -/
def argumentNames (arguments : List Text) : List Text :=
  arguments.flatMap (fun argument => [argument, (argument.dropWhile (· != 61)).tail])

/-- Names in the config file of a run. -/
def configNames (files : Directory) (arguments : List Text) : List Text :=
  match CommandLine.configFile? arguments none with
  | .ok (some config) =>
      match files.read config with
      | .ok content => (ConfigFile.pairs content).map ConfigFile.Pair.value
      | .error _ => []
  | _ => []

/-- The name of a path on disk. -/
def diskName? (path : List Text) : Option String :=
  let name : Text :=
    if path.isEmpty then "." else if path = Directory.root then "/" else Text.joined "/" path
  String.fromUTF8? ⟨name.toArray⟩

def nodeOnDisk (path : List Text) : IO (Option Node) := do
  match diskName? path with
  | none => return none
  | some name =>
      try
        let place ← IO.FS.realPath name
        if ← place.isDir then return some .folder
        return some (.file (← IO.FS.readBinFile place).data.toList)
      catch _ => return none

/-- Adds what stands on disk along a way from a folder. -/
def addWay (path : List Text) (files : Directory) : List Text → IO Directory
  | [] => return files
  | component :: rest => do
      match Directory.step path component with
      | .error _ => return files
      | .ok next =>
          match ← nodeOnDisk next with
          | none => return files
          | some node => addWay next (files.put next node) rest

def addNames (files : Directory) (names : List Text) : IO Directory :=
  names.foldlM (fun files name =>
    let way := Directory.components name.shown.trim
    addWay way.1 files way.2) files

/-- Writes the files that a run has changed. -/
def store (before after : Directory) : IO Unit :=
  for (path, node) in after.nodes do
    match node, diskName? path with
    | .file content, some name =>
        if before.node? path ≠ some node then IO.FS.writeBinFile name ⟨content.toArray⟩
    | _, _ => pure ()

def run (arguments : List Text) : IO UInt32 := do
  let named ← addNames Directory.empty (argumentNames arguments)
  let files ← addNames named (configNames named arguments)
  let finish := Run.ofArguments files arguments
  store files finish.session.files
  (← IO.getStdout).write ⟨finish.session.stdout.toArray⟩
  (← IO.getStderr).write ⟨finish.session.stderr.toArray⟩
  return UInt32.ofNat finish.status

end MeterTelegram.Main

def main (arguments : List String) : IO UInt32 :=
  MeterTelegram.Main.run (arguments.map MeterTelegram.Text.ofString)
