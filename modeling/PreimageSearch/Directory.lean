import PreimageSearch.Directory.Place

/-!
# Files and paths

A working directory that holds files and no other directories, and the walk along a path that finds
the place it leads to. Files are read, or opened to append to them; `Directory.read` and
`Directory.opens` say when that fails.
-/

namespace PreimageSearch

/-- Files by name, in any order. -/
structure Directory where
  files : List (String × ByteArray)

namespace Directory

def find? (directory : Directory) (name : String) : Option ByteArray :=
  directory.files.lookup name

/-- What a name stands for in a directory. -/
def entry (directory : Directory) (name : String) : Folder → Place
  | .working => if (directory.find? name).isSome then .file name else .free .working name
  | .absolute names =>
    let path := Folder.pathText (name :: names)
    match Place.standard.lookup path with
    | some place => place
    | none =>
      if Folder.standard.contains path then .folder (.absolute (name :: names))
      else .free (.absolute names) name

/-- One step of a walk. It goes on from directories only. -/
def step (directory : Directory) (place : Place) (part : String) : Except FileError Place :=
  match place with
  | .folder folder =>
    if part = "." then .ok place
    else if part = ".." then .ok (.folder folder.parent)
    else if folder.limitsNames && part.utf8ByteSize > Path.maxName then .error .nameTooLong
    else .ok (directory.entry part folder)
  | .free _ _ => .error .notFound
  | _ => .error .notDirectory

/-- The place to which parts of a path lead. -/
def walk (directory : Directory) (absolute : Bool) (parts : List String) :
    Except FileError Place :=
  parts.foldlM directory.step (.folder (if absolute then .root else .working))

/-! ## Reading and appending -/

/-- The place of a file to read. -/
def place (directory : Directory) (text : String) : Except FileError Place := do
  let path ← Path.parse text
  let place ← directory.walk path.absolute path.parts
  if path.slash then directory.step place "." else return place

/-- The contents of the file at a path, when `entered` is what the operator enters. -/
def read (directory : Directory) (entered : ByteArray) (text : String) :
    Except FileError ByteArray := do
  match ← directory.place text with
  | .folder _ => throw .isDirectory
  | .file name => return (directory.find? name).getD ByteArray.empty
  | .device device => device.read entered
  | .free _ _ => throw .notFound

/-- The place of a file to append to, which need not be there yet. A name with a slash behind it
would be that of a directory. -/
def opens (directory : Directory) (text : String) : Except FileError Place := do
  let path ← Path.parse text
  if path.slash && path.endsInName then
    let parent ← directory.walk path.absolute path.parts.dropLast
    let _ ← directory.step parent "."
    throw .isDirectory
  let place ← directory.walk path.absolute path.parts
  let refusal := match place with
    | .folder _ => some .isDirectory
    | .file _ => none
    | .device device => device.refusal
    | .free folder _ => folder.refusal
  match refusal with
  | some error => throw error
  | none => return place

/-- Why a file does not open for appending. -/
def refusal (directory : Directory) (text : String) : Option FileError :=
  match directory.opens text with
  | .ok _ => none
  | .error error => some error

/-- Adds to the end of a file of the directory, which is made if it is missing. -/
def append (directory : Directory) (name : String) (contents : ByteArray) : Directory :=
  match directory.find? name with
  | some before => ⟨directory.files.map fun file =>
      if file.1 == name then (name, before ++ contents) else file⟩
  | none => ⟨directory.files ++ [(name, contents)]⟩

/-- The directory after contents were added to the file at a path; what goes elsewhere is not
seen. -/
def appendAt (directory : Directory) (text : String) (contents : ByteArray) : Directory :=
  match directory.opens text with
  | .ok (.file name) => directory.append name contents
  | .ok (.free .working name) => directory.append name contents
  | _ => directory

end Directory

end PreimageSearch
