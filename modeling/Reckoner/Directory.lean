/-!
# A directory and its files

A directory holds files and folders, which may be empty. Reading, writing and creating folders fail
in the ways in which a file system lets them fail.

A path is followed step by step, and every step needs a folder to start from. Paths may lead out of
the directory: there are folders above it and a root, but nothing is known to be in them.
-/

namespace Reckoner

/-- Where the names on the way to a place start from. -/
inductive Anchor where
  /-- So many levels above the directory. -/
  | above (levels : Nat)
  | root
  deriving DecidableEq, Repr

/-- A place for a file or a folder, by the names on the way to it. -/
structure Place where
  anchor : Anchor
  names : List String
  deriving DecidableEq, Repr

namespace Place

/-- The directory itself. -/
def here : Place := ⟨.above 0, []⟩

/-- The place that contains a place. Nothing contains the root. -/
def parent (place : Place) : Place :=
  match place.names, place.anchor with
  | [], .above levels => ⟨.above (levels + 1), []⟩
  | [], .root => place
  | names, anchor => ⟨anchor, names.dropLast⟩

/-- Where a step leads from a place. -/
def step (place : Place) (name : String) : Place :=
  if name = "" ∨ name = "." then place
  else if name = ".." then place.parent
  else { place with names := place.names ++ [name] }

/-- Whether a place is on the way to another one or is this place. -/
def leadsTo (place other : Place) : Bool :=
  place.anchor == other.anchor && place.names.isPrefixOf other.names

end Place

/-- A way to a place, as it is written. -/
structure Path where
  start : Place
  steps : List String
  deriving DecidableEq, Repr

namespace Path

/-- The path of a text. -/
def ofString (text : String) : Path :=
  match text.splitOn "/" with
  | "" :: steps => if steps.isEmpty then ⟨.here, []⟩ else ⟨⟨.root, []⟩, steps⟩
  | steps => ⟨.here, steps⟩

/-- The place to which a path leads if every step is possible. -/
def target (path : Path) : Place := path.steps.foldl Place.step path.start

/-- The text of a name behind a folder. -/
def join (folder name : String) : String :=
  if folder.endsWith "/" then folder ++ name else folder ++ "/" ++ name

end Path

/-- Why a file cannot be used. -/
inductive FileFault where
  | missing
  | isFolder
  | notFolder
  | nameTooLong
  /-- A name contains the character that ends names. -/
  | namesNul
  /-- The bytes are no text. -/
  | notText
  /-- Any other reason, as the system words it. -/
  | other (message : String)
  deriving DecidableEq, Repr

namespace FileFault

/-- The reason as the system words it. -/
def message : FileFault → String
  | missing => "No such file or directory (os error 2)"
  | isFolder => "Is a directory (os error 21)"
  | notFolder => "Not a directory (os error 20)"
  | nameTooLong => "File name too long (os error 36)"
  | namesNul => "file name contained an unexpected NUL byte"
  | notText => "stream did not contain valid UTF-8"
  | other text => text

end FileFault

/-- Files with their bytes, and folders. -/
structure Directory where
  files : List (Place × List UInt8)
  folders : List Place

namespace Directory

/-- The greatest number of bytes of a name. -/
def greatestNameSize : Nat := 255

/-- The greatest number of bytes of a path. -/
def greatestPathSize : Nat := 4095

/-- Whether there is a file at a place. -/
def isFile (directory : Directory) (place : Place) : Bool :=
  directory.files.any fun file => file.1 == place

/-- Whether there is a folder at a place. -/
def isFolder (directory : Directory) (place : Place) : Bool :=
  place.names.isEmpty || (directory.folders.any fun folder => place.leadsTo folder) ||
    directory.files.any fun file => file.1 != place && place.leadsTo file.1

/-- The bytes of the file at a place, if there is one. -/
def content? (directory : Directory) (place : Place) : Option (List UInt8) :=
  (directory.files.find? fun file => file.1 == place).map Prod.snd

/-- The place to which steps lead. Every step starts from a folder. -/
def follow (directory : Directory) (place : Place) : List String → Except FileFault Place
  | [] => .ok place
  | step :: steps =>
      if directory.isFile place then .error .notFolder
      else if !directory.isFolder place then .error .missing
      else if greatestNameSize < step.utf8ByteSize then .error .nameTooLong
      else follow directory (place.step step) steps

/-- The path of a name that the file system takes. -/
def path (name : String) : Except FileFault Path :=
  if name.contains '\x00' then .error .namesNul
  else if greatestPathSize < name.utf8ByteSize then .error .nameTooLong
  else .ok (.ofString name)

/-- The place that a name stands for. -/
def locate (directory : Directory) (name : String) : Except FileFault Place :=
  (path name).bind fun path => directory.follow path.start path.steps

/-- The bytes of a file by its name. -/
def read (directory : Directory) (name : String) : Except FileFault (List UInt8) :=
  match directory.locate name with
  | .error fault => .error fault
  | .ok place =>
      if directory.isFolder place then .error .isFolder
      else
        match directory.content? place with
        | some content => .ok content
        | none => .error .missing

/-- The text of a file. -/
def readText (directory : Directory) (name : String) : Except FileFault String :=
  match directory.read name with
  | .ok bytes =>
      match String.fromUTF8? ⟨bytes.toArray⟩ with
      | some text => .ok text
      | none => .error .notText
  | .error fault => .error fault

/-- The directory where a file has a new content. -/
def write (directory : Directory) (name : String) (content : List UInt8) :
    Except FileFault Directory :=
  match directory.locate name with
  | .error fault => .error fault
  | .ok place =>
      if directory.isFolder place then .error .isFolder
      else
        .ok { directory with
          files := (place, content) :: directory.files.filter fun file => file.1 != place }

/-- The directory with one more folder; nothing changes if there is something at its place. -/
def createFolder (directory : Directory) (start : Place) (steps : List String) :
    Except FileFault Directory :=
  match directory.follow start steps with
  | .error fault => .error fault
  | .ok place =>
      if directory.isFolder place || directory.isFile place then .ok directory
      else .ok { directory with folders := place :: directory.folders }

/-- Steps without those at the end that lead nowhere. -/
def withoutIdle (isIdle : String → Bool) (steps : List String) : List String :=
  (steps.reverse.dropWhile isIdle).reverse

/-- The directory with a folder at the end of steps. If a folder on the way is missing, the folder
before the last step is created first. -/
def createAlong (directory : Directory) (start : Place) : (fuel : Nat) → List String →
    Except FileFault Directory
  | 0, _ => .error .missing
  | _, [] => .ok directory
  | fuel + 1, steps =>
      let named := withoutIdle (· == "") steps
      match directory.createFolder start named with
      | .error .missing => do
          let before := (withoutIdle (fun step => step == "" || step == ".") steps).dropLast
          (← createAlong directory start fuel before).createFolder start named
      | created => created

/-- The directory with a folder and the folders on the way to it. -/
def createFolders (directory : Directory) (name : String) : Except FileFault Directory := do
  let path ← path name
  let created ← createAlong directory path.start (path.steps.length + 1) path.steps
  if created.isFolder (← created.locate name) then .ok created else .error .notFolder

end Directory

end Reckoner
