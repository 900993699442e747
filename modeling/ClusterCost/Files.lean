import ClusterCost.Text.Utf8

/-!
# Files

A tree of folders and files below one root folder, and the operations on it that the program uses,
with the errors of the operating system. A path is absolute; anything outside the root does not
exist. Some entries may be protected: such a file cannot be written, and nothing can be made in such
a folder. A write first opens its file, which empties it, and then fills it; the device may fail
meanwhile, and then only a beginning of what was to be written is in the file.
-/

namespace ClusterCost

/-- What a path names. -/
inductive Entry where
  | folder
  | file (content : Bytes)

/-- Why a device takes no more of a file. -/
inductive DeviceError where
  | failing
  | tooLarge
  | noSpace
  | overQuota
  deriving DecidableEq, Repr

def DeviceError.message : DeviceError → String
  | failing => "Input/output error (os error 5)"
  | tooLarge => "File too large (os error 27)"
  | noSpace => "No space left on device (os error 28)"
  | overQuota => "Disk quota exceeded (os error 122)"

/-- The errors of file operations. -/
inductive FileError where
  | notFound
  | present
  | notFolder
  | isFolder
  | denied
  | notText
  /-- The file was opened, and could then not be filled. -/
  | device (cause : DeviceError)
  deriving DecidableEq, Repr

def FileError.message : FileError → String
  | notFound => "No such file or directory (os error 2)"
  | present => "File exists (os error 17)"
  | notFolder => "Not a directory (os error 20)"
  | isFolder => "Is a directory (os error 21)"
  | denied => "Permission denied (os error 13)"
  | notText => "stream did not contain valid UTF-8"
  | device cause => cause.message

/-- A write breaks off: how many bytes the device still takes, and why no more. -/
structure WriteFault where
  kept : Nat
  cause : DeviceError
  deriving DecidableEq, Repr

/-- What of a content gets into the file. The last byte never does. -/
def WriteFault.left (f : WriteFault) (content : Bytes) : Bytes := content.dropLast.take f.kept

/-- The names on the way from the root to an entry. -/
abbrev Trail := List String

/-- A tree of entries below a root folder, each under its trail. -/
structure Files where
  root : String
  entries : List (Trail × Entry)
  /-- The trails of protected entries. -/
  sealed : List Trail := []
  /-- What is to become of the next writes, once their files are open. One without a fault is done
  in full, and so are all after the last of these. -/
  faults : List (Option WriteFault) := []

namespace Files

def empty (root : String) : Files := { root, entries := [] }

/-! ### Paths -/

/-- The names of a path below the root as they are written; some may be empty. -/
def names? (files : Files) (path : String) : Option (List String) :=
  if path == files.root then some []
  else if path.startsWith (files.root ++ "/") then
    some (((path.toList.drop (files.root.length + 1)).splitOn '/').map String.ofList)
  else none

/-- A path without the slashes at its end. -/
def withoutEndSlashes (path : String) : String :=
  String.ofList (path.toList.reverse.dropWhile (· == '/')).reverse

/-- The path of the folder that holds a path's last name, if there is such a folder. -/
def parent? (path : String) : Option String :=
  let isSlash (c : Char) : Bool := c == '/'
  let trimmed := path.toList.reverse.dropWhile isSlash
  let above := trimmed.dropWhile fun c => !isSlash c
  let rest := above.dropWhile isSlash
  if trimmed.isEmpty then none
  else if rest.isEmpty && !above.isEmpty then some "/"
  else some (String.ofList rest.reverse)

/-! ### Looking up -/

/-- The entry of a trail, the root being a folder. -/
def entry? (files : Files) : Trail → Option Entry
  | [] => some .folder
  | trail => files.entries.lookup trail

/-- Follow names from an entry. What a name is looked up in must be a folder. An empty name and a
dot stand for that folder itself, two dots for the one that holds it. -/
def follow (files : Files) (done : Trail) : List String → Except FileError Trail
  | [] => .ok done
  | name :: rest =>
    match files.entry? done with
    | none => .error .notFound
    | some (.file _) => .error .notFolder
    | some .folder =>
      if name == "" || name == "." then follow files done rest
      else if name == ".." then follow files done.dropLast rest
      else follow files (done ++ [name]) rest

/-- The trail of a path. Its last name need not be there. -/
def locate (files : Files) (path : String) : Except FileError Trail :=
  (files.names? path).elim (.error .notFound) (files.follow [])

def find (files : Files) (path : String) : Except FileError Entry := do
  (files.entry? (← files.locate path)).elim (.error .notFound) .ok

def has (files : Files) (path : String) : Bool := (files.find path).toOption.isSome

def isFolder (files : Files) (path : String) : Bool :=
  match files.find path with
  | .ok .folder => true
  | _ => false

def isFile (files : Files) (path : String) : Bool :=
  match files.find path with
  | .ok (.file _) => true
  | _ => false

def read (files : Files) (path : String) : Except FileError Bytes :=
  match files.find path with
  | .ok (.file content) => .ok content
  | .ok .folder => .error .isFolder
  | .error e => .error e

def readText (files : Files) (path : String) : Except FileError String := do
  match Utf8.decode? (← files.read path) with
  | some s => pure s
  | none => throw .notText

/-! ### Changing the tree -/

/-- Put an entry under a trail. One that was not there before is not protected. -/
def put (files : Files) (trail : Trail) (entry : Entry) : Files :=
  { files with
    entries := (trail, entry) :: files.entries.filter (·.1 != trail)
    sealed :=
      if (files.entry? trail).isSome then files.sealed
      else files.sealed.filter (· != trail) }

/-- Whether an entry under this trail may be written or made: a file that is there may not be
protected, and neither may the folder of one that is not. -/
def allows (files : Files) (trail : Trail) : Bool :=
  match files.entry? trail with
  | some _ => !files.sealed.contains trail
  | none => !files.sealed.contains trail.dropLast

/-- Whether a path has a slash at its end, so that it can only name a folder. -/
def endsInSlash (path : String) : Bool := withoutEndSlashes path != path

/-- The trail of a file that is opened for writing. A path with a slash at its end names a folder,
even if there is none. -/
def opened (files : Files) (path : String) : Except FileError Trail := do
  let trail ← files.locate (withoutEndSlashes path)
  match files.entry? trail with
  | some .folder => throw .isFolder
  | _ =>
    if endsInSlash path then throw .isFolder
    else if files.allows trail then pure trail
    else throw .denied

/-- The fault of the next write, if it has one. -/
def nextFault (files : Files) : Option WriteFault := files.faults.head?.join

/-- The files when the fate of the next write is settled. -/
def settled (files : Files) : Files := { files with faults := files.faults.tail }

/-- Write a file. What was in it is lost once it is open, also if the write then breaks off. -/
def write (files : Files) (path : String) (content : Bytes) : Except FileError Unit × Files :=
  match files.opened path with
  | .error e => (.error e, files)
  | .ok trail =>
    match files.nextFault with
    | some fault =>
      (.error (.device fault.cause), files.settled.put trail (.file (fault.left content)))
    | none => (.ok (), files.settled.put trail (.file content))

def makeFolder (files : Files) (path : String) : Except FileError Files := do
  let trail ← files.locate (withoutEndSlashes path)
  match files.entry? trail with
  | some _ => throw .present
  | none => if files.allows trail then pure (files.put trail .folder) else throw .denied

/-- Make a folder and the folders above it that are missing; a folder that is there already is
fine. Folders that were made stay even if a later one cannot be made. `fuel` is at least the number
of slashes of the path. -/
def makeFoldersFrom (path : String) : (fuel : Nat) → Files → Except FileError Unit × Files
  | 0, files => (if files.isFolder path then .ok () else .error .notFound, files)
  | fuel + 1, files =>
    if path == "" then (.ok (), files)
    else
      let settle (files : Files) (e : FileError) : Except FileError Unit × Files :=
        (if files.isFolder path then .ok () else .error e, files)
      match files.makeFolder path with
      | .ok files => (.ok (), files)
      | .error .notFound =>
        match parent? path with
        | none => (.error .notFound, files)
        | some above =>
          match makeFoldersFrom above fuel files with
          | (.error e, files) => (.error e, files)
          | (.ok (), files) =>
            match files.makeFolder path with
            | .ok files => (.ok (), files)
            | .error e => settle files e
      | .error e => settle files e

/-- Make a folder and the folders above it that are missing. -/
def makeFolders (files : Files) (path : String) : Except FileError Unit × Files :=
  makeFoldersFrom path path.length files

/-- Remove what a path names, with everything below it. -/
def remove (files : Files) (path : String) : Files :=
  match files.locate path with
  | .error _ => files
  | .ok trail =>
    { files with entries := files.entries.filter fun entry => !trail.isPrefixOf entry.1 }

end Files

end ClusterCost
