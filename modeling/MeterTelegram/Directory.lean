import MeterTelegram.Text

namespace MeterTelegram

/-! Files by name. A directory is a finite set of files and folders; a name is
a path of components between slashes, walked from folder to folder. -/

inductive Node where
  | file (content : Text)
  | folder
deriving DecidableEq, Repr

structure Directory where
  nodes : List (List Text × Node)
deriving DecidableEq, Repr

namespace Directory

/-- Why a name leads nowhere. -/
inductive Fault where
  | missing
  | notFolder
  | isFolder
  | nameTooLong
deriving DecidableEq, Repr

/-- The number of the system error. -/
def Fault.number : Fault → Nat
  | .missing => 2
  | .notFolder => 20
  | .isFolder => 21
  | .nameTooLong => 36

def maxComponent : Nat := 255

def maxPath : Nat := 4095

def empty : Directory :=
  { nodes := [] }

/-- Paths that start at the root begin with an empty component. -/
def root : List Text := [[]]

def parent : Text := ".."

/-- Folders that are always there: the root, the starting folder and those above it. -/
def isStart (path : List Text) : Bool :=
  path = root || path.all (fun component => component = parent)

def node? (directory : Directory) (path : List Text) : Option Node :=
  if isStart path then some .folder else directory.nodes.lookup path

def step (path : List Text) (component : Text) : Except Fault (List Text) :=
  if component.isEmpty || component = "." then .ok path
  else if component = parent then
    .ok (if path = root then root else if isStart path then path ++ [parent] else path.dropLast)
  else if maxComponent < component.length then .error .nameTooLong
  else .ok (path ++ [component])

/-- Follows the components; all but the last must lead to folders. -/
def walk (directory : Directory) (path : List Text) :
    List Text → Except Fault (List Text × Node)
  | [] =>
      match directory.node? path with
      | none => .error .missing
      | some node => .ok (path, node)
  | component :: rest =>
      match directory.node? path with
      | none => .error .missing
      | some (.file _) => .error .notFolder
      | some .folder =>
          match step path component with
          | .error fault => .error fault
          | .ok next => walk directory next rest

/-- The starting folder and the components of a name. -/
def components (name : Text) : List Text × List Text :=
  match Text.fields 47 name with
  | [] :: rest => if rest.isEmpty then ([], []) else (root, rest)
  | parts => ([], parts)

/-- Where a name leads. Names end at the first NUL byte. -/
def resolve (directory : Directory) (name : Text) : Except Fault (List Text × Node) :=
  let name := name.shown
  if name.isEmpty then .error .missing
  else if maxPath < name.length then .error .nameTooLong
  else
    let (start, rest) := components name
    directory.walk start rest

def isFile (directory : Directory) (name : Text) : Bool :=
  match directory.resolve name with
  | .ok (_, .file _) => true
  | _ => false

/-- A file that could not be opened, or was opened and could not be read. -/
inductive ReadFault where
  | opening (name : Text) (cause : Fault)
  | reading (name : Text) (cause : Fault)
deriving DecidableEq, Repr

def ReadFault.message : ReadFault → Text
  | .opening name cause =>
      "Could not open file " ++ name.shown ++ " errno=" ++ Text.ofNat cause.number ++ "\n"
  | .reading name cause =>
      "Could not read file " ++ name.shown ++ " errno=" ++ Text.ofNat cause.number ++ "\n"

def read (directory : Directory) (name : Text) : Except ReadFault Text :=
  match directory.resolve name with
  | .error cause => .error (.opening name cause)
  | .ok (_, .folder) => .error (.reading name .isFolder)
  | .ok (_, .file content) => .ok content

/-- Puts a node at a path in place of what was there. -/
def put (directory : Directory) (path : List Text) (node : Node) : Directory :=
  if directory.nodes.any (fun (known, _) => known = path) then
    { nodes := directory.nodes.map (fun (known, old) =>
        if known = path then (known, node) else (known, old)) }
  else { nodes := directory.nodes ++ [(path, node)] }

/-- Where a new file of this name would stand. -/
def newPath? (directory : Directory) (name : Text) : Option (List Text) :=
  let (start, rest) := components name.shown
  match rest.getLast?, directory.walk start rest.dropLast with
  | some last, .ok (path, .folder) =>
      match step path last with
      | .ok next => if next = path ++ [last] then some next else none
      | .error _ => none
  | _, _ => none

/-- Adds to the end of a file, which is made if there is none. Fails for
folders and where the folder of a new file is missing. -/
def append? (directory : Directory) (name content : Text) : Option Directory :=
  match directory.resolve name with
  | .ok (path, .file old) => some (directory.put path (.file (old ++ content)))
  | .ok (_, .folder) => none
  | .error .missing =>
      (directory.newPath? name).map (fun path => directory.put path (.file content))
  | .error _ => none

/-- Removes a file, or a folder with all it holds. -/
def remove (directory : Directory) (name : Text) : Directory :=
  match directory.resolve name with
  | .ok (path, _) =>
      { nodes := directory.nodes.filter (fun (known, _) => !path.isPrefixOf known) }
  | .error _ => directory

/-- Adds a file, or a folder where no content is given, with the folders above it. -/
def place (directory : Directory) (name : Text) (content : Option Text) : Directory :=
  let (start, parts) := components name
  let path := parts.foldl (fun path part => (step path part).toOption.getD path) start
  let above := (List.range path.length).map (fun count => path.take count)
  let missing := above.filter (fun folder => (directory.node? folder).isNone)
  let folders := missing.foldl (fun known folder => known.put folder .folder) directory
  match content with
  | some text => folders.put path (.file text)
  | none => folders.put path .folder

def ofFiles (files : List (Text × Option Text)) : Directory :=
  files.foldl (fun directory (name, content) => directory.place name content) empty

end Directory

end MeterTelegram
