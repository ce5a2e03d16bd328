import PluginHost.Path

/-!
# File systems

A file system as a value: a map from locations to directories, files and symbolic links.

* `Location` is the list of names from the root; `FileSystem.resolve` walks a path through the
  directories and follows links.
* Queries (`isFile`, `exists?`, `readDir`, `canonicalize`) read it, commands (`createDirAll`,
  `removeFile`, `copy`, `write`) return a new one or an `IoError`.
* `readWithin` reads a file whose links must not lead out of its directory.

There are no permissions, the disk is never full, and nobody else changes files meanwhile: an
operation fails for what is in the tree, for a name or a path that is too long, and for too many
links.
-/

namespace PluginHost

/-- What a regular file holds: a text, or a shared library known by name. -/
inductive Content where
  | text (s : String)
  | library (name : String)
deriving DecidableEq, Repr, Inhabited

/-- Why a file operation failed. -/
inductive IoError where
  | notFound
  | fileExists
  | notADirectory
  | isADirectory
  | invalidArgument
  | nameTooLong
  | tooManyLinks
  | notARegularFile
  /-- The path holds a character that ends paths. -/
  | nulByte
  /-- A link leads out of the directory that it has to stay in. -/
  | outside
deriving DecidableEq, Repr

namespace IoError

def message : IoError → String
  | notFound => "No such file or directory (os error 2)"
  | fileExists => "File exists (os error 17)"
  | notADirectory => "Not a directory (os error 20)"
  | isADirectory => "Is a directory (os error 21)"
  | invalidArgument => "Invalid argument (os error 22)"
  | nameTooLong => "File name too long (os error 36)"
  | tooManyLinks => "Too many levels of symbolic links (os error 40)"
  | notARegularFile =>
    "the source path is neither a regular file nor a symlink to a regular file"
  | nulByte => "file name contained an unexpected NUL byte"
  | outside => "a path led outside of the filesystem"

end IoError

/-- A place in the tree, as the names from the root down. -/
abbrev Location := List String

inductive Node where
  | dir
  | file (c : Content)
  | link (target : Path)
deriving DecidableEq, Repr

structure FileSystem where
  /-- The directory from which relative paths start. -/
  current : Location
  nodes : List (Location × Node)
deriving DecidableEq, Repr, Inhabited

namespace FileSystem

/-- The root and the current directory with the directories above it. -/
def empty (current : Location) : FileSystem :=
  ⟨current, (List.range current.length).map fun i => (current.take (i + 1), .dir)⟩

/-- The node at a location, without following links. The root is a directory. -/
def node? (fs : FileSystem) (l : Location) : Option Node :=
  if l = [] then some .dir else (fs.nodes.find? (·.1 == l)).map (·.2)

def erase (fs : FileSystem) (l : Location) : FileSystem :=
  { fs with nodes := fs.nodes.filter (·.1 != l) }

/-- Puts a node at a location, in place of what was there. -/
def put (fs : FileSystem) (l : Location) (n : Node) : FileSystem :=
  { fs with nodes := (fs.erase l).nodes ++ [(l, n)] }

/-! ## Walking a path -/

/-- One step of a walk. Unlike components of a path, dots are steps: what stands before one has to
be a directory. -/
inductive Step where
  | here
  | parent
  | name (s : String)
deriving DecidableEq, Repr

def Step.ofPiece? (piece : List Char) : Option Step :=
  if piece = [] then none
  else if piece = ['.'] then some .here
  else if piece = ['.', '.'] then some .parent
  else some (.name (String.ofList piece))

/-- A path as it is walked. -/
structure Route where
  fromRoot : Bool
  steps : List Step
  /-- A slash stands behind the last step. -/
  slash : Bool
deriving DecidableEq, Repr

def Route.ofPath (p : Path) : Route where
  fromRoot := p.isAbsolute
  steps := (Path.pieces p.text.toList).filterMap Step.ofPiece?
  slash := p.text.toList.getLast? == some '/'

/-- Where a walk ends. A missing last step has no node. -/
structure Arrival where
  location : Location
  node : Option Node
  /-- A slash stood behind the last step: what is there has to be a directory. -/
  slash : Bool
deriving DecidableEq, Repr

/-- The count of links that one walk follows at most. -/
def maxLinks : Nat := 40

/-- The longest name, in bytes. -/
def maxName : Nat := 255

/-- The longest path, in bytes. -/
def maxPath : Nat := 4095

/-- Walks steps from a directory. A link in the middle of the path is always followed, one at its
end if `follow`. A walk with a floor does not leave the directory `floor`. The fuel bounds steps and
links together. -/
def walk (fs : FileSystem) (floor : Option Location) (follow : Bool) :
    Nat → Nat → Location → List Step → Bool → Except IoError Arrival
  | 0, _, _, _, _ => .error .tooManyLinks
  | _ + 1, _, here, [], slash => .ok ⟨here, fs.node? here, slash⟩
  | fuel + 1, links, here, step :: rest, slash =>
    match step with
    | .here => walk fs floor follow fuel links here rest slash
    | .parent =>
      if floor = some here then .error .outside
      else walk fs floor follow fuel links here.dropLast rest slash
    | .name s =>
      let next := here ++ [s]
      if maxName < s.utf8ByteSize then .error .nameTooLong
      else match fs.node? next with
      | none => if rest = [] then .ok ⟨next, none, slash⟩ else .error .notFound
      | some .dir => walk fs floor follow fuel links next rest slash
      | some (.file c) =>
        if rest = [] then .ok ⟨next, some (.file c), slash⟩ else .error .notADirectory
      | some (.link target) =>
        let route := Route.ofPath target
        if rest = [] && !follow then .ok ⟨next, some (.link target), slash⟩
        else if links = 0 then .error .tooManyLinks
        else if target.text.isEmpty then .error .notFound
        else if route.fromRoot && floor.isSome then .error .outside
        else walk fs floor follow fuel (links - 1) (if route.fromRoot then [] else here)
          (route.steps ++ rest) (slash || (rest = [] && route.slash))

/-- More steps than a walk can take: its own and those of every link that it may follow. -/
def walkFuel (fs : FileSystem) (steps : List Step) : Nat :=
  let longest := fs.nodes.foldl (fun n (_, d) => match d with
    | .link t => max n (Route.ofPath t).steps.length
    | _ => n) 0
  steps.length + maxLinks * (longest + 1) + 2

/-- Resolves a path. The empty path names nothing. -/
def resolve (fs : FileSystem) (follow : Bool) (p : Path) : Except IoError Arrival :=
  if p.text.toList.contains '\x00' then .error .nulByte
  else if p.text.isEmpty then .error .notFound
  else if maxPath < p.text.utf8ByteSize then .error .nameTooLong
  else
    let route := Route.ofPath p
    fs.walk none follow (fs.walkFuel route.steps) maxLinks
      (if route.fromRoot then [] else fs.current) route.steps route.slash

/-- What is found at the end of a walk. -/
def Arrival.found : Arrival → Except IoError (Location × Node)
  | ⟨_, none, _⟩ => .error .notFound
  | ⟨l, some n, slash⟩ => if slash && n != .dir then .error .notADirectory else .ok (l, n)

/-- The location and node that a path names, following links. -/
def stat (fs : FileSystem) (p : Path) : Except IoError (Location × Node) :=
  (fs.resolve true p).bind Arrival.found

/-! ## Queries -/

def exists? (fs : FileSystem) (p : Path) : Bool := (fs.stat p).toOption.isSome

def isFile (fs : FileSystem) (p : Path) : Bool :=
  match fs.stat p with
  | .ok (_, .file _) => true
  | _ => false

def isDir (fs : FileSystem) (p : Path) : Bool :=
  match fs.stat p with
  | .ok (_, .dir) => true
  | _ => false

/-- The content of a file that was found. -/
def contentOf : Location × Node → Except IoError (Location × Content)
  | (l, .file c) => .ok (l, c)
  | _ => .error .isADirectory

/-- The content of a regular file and the location that identifies it. -/
def read (fs : FileSystem) (p : Path) : Except IoError (Location × Content) :=
  (fs.stat p).bind contentOf

/-- The names in a directory. -/
def readDir (fs : FileSystem) (p : Path) : Except IoError (List String) :=
  match fs.stat p with
  | .ok (l, .dir) => .ok (fs.nodes.filterMap fun (m, _) =>
      if m.length = l.length + 1 ∧ m.dropLast = l then m.getLast? else none)
  | .ok _ => .error .notADirectory
  | .error e => .error e

/-- The location that a path names once all links are followed. -/
def canonicalize (fs : FileSystem) (p : Path) : Except IoError Location :=
  (fs.stat p).map (·.1)

/-- The directory in which a path has its last name. -/
def directoryOf (p : Path) : Path :=
  match p.parent? with
  | some d => if d.text.isEmpty then ⟨"."⟩ else d
  | none => p

/-- Like `read`, but if the file is a link, what it leads to has to be below its directory. -/
def readWithin (fs : FileSystem) (p : Path) : Except IoError (Location × Content) := do
  let _ ← fs.stat p
  let (directory, _) ← fs.stat (directoryOf p)
  let steps := (p.fileName?.map Step.name).toList
  let arrival ← fs.walk (some directory) true (fs.walkFuel steps) maxLinks directory steps false
  contentOf (← arrival.found)

/-! ## Commands -/

/-- Creates one directory. -/
def makeDir (fs : FileSystem) (p : Path) : Except IoError FileSystem := do
  let arrival ← fs.resolve false p
  match arrival.node with
  | some _ => .error .fileExists
  | none => return fs.put arrival.location .dir

/-- Creates a directory and those above it that are missing. An existing directory is left alone. If
one cannot be created, those above it that were stay. -/
def createDirAllFrom : Nat → Path → FileSystem → Except IoError Unit × FileSystem
  | 0, _, fs => (.error .notFound, fs)
  | fuel + 1, p, fs =>
    if p.text.isEmpty || fs.isDir p then (.ok (), fs)
    else match fs.makeDir p with
      | .ok fs => (.ok (), fs)
      | .error .notFound =>
        match p.parent? with
        | none => (.error .notFound, fs)
        | some parent =>
          match createDirAllFrom fuel parent fs with
          | (.error e, fs) => (.error e, fs)
          | (.ok (), fs) =>
            if fs.isDir p then (.ok (), fs)
            else match fs.makeDir p with
              | .ok fs => (.ok (), fs)
              | .error e => (.error e, fs)
      | .error e => (.error e, fs)

def createDirAll (fs : FileSystem) (p : Path) : Except IoError Unit × FileSystem :=
  createDirAllFrom (p.components.length + 2) p fs

/-- Removes a file or a link, not what the link points at. -/
def removeFile (fs : FileSystem) (p : Path) : Except IoError FileSystem := do
  let arrival ← fs.resolve false p
  match arrival.node with
  | none => .error .notFound
  | some .dir => .error .isADirectory
  | some _ => if arrival.slash then .error .notADirectory else return fs.erase arrival.location

/-- Writes a regular file, following links; a link to nothing creates its target. -/
def write (fs : FileSystem) (p : Path) (c : Content) : Except IoError FileSystem := do
  let arrival ← fs.resolve true p
  if arrival.slash || arrival.node = some .dir then .error .isADirectory
  else return fs.put arrival.location (.file c)

/-- Copies the content of a regular file. -/
def copy (fs : FileSystem) (source destination : Path) : Except IoError FileSystem := do
  match ← fs.stat source with
  | (_, .file c) => fs.write destination c
  | _ => .error .notARegularFile

/-- Creates a symbolic link. -/
def makeLink (fs : FileSystem) (p target : Path) : Except IoError FileSystem := do
  let arrival ← fs.resolve false p
  match arrival.node with
  | some _ => .error .fileExists
  | none => return fs.put arrival.location (.link target)

/-- Removes whatever is at a path, with everything below it. -/
def removeAll (fs : FileSystem) (p : Path) : FileSystem :=
  match fs.resolve false p with
  | .ok ⟨l, some _, _⟩ => { fs with nodes := fs.nodes.filter fun (m, _) => m.take l.length != l }
  | _ => fs

/-! ## Laws -/

/-- Nothing is left where something was removed. -/
theorem node?_erase_self (fs : FileSystem) {l : Location} (h : l ≠ []) :
    (fs.erase l).node? l = none := by
  simp [node?, erase, h]

/-- What was put somewhere is there. -/
theorem node?_put_self (fs : FileSystem) {l : Location} (h : l ≠ []) (n : Node) :
    (fs.put l n).node? l = some n := by
  have e : (fs.nodes.filter (·.1 != l)).find? (·.1 == l) = none := by simp
  simp [node?, put, erase, h, List.find?_append, e]

/-- A removal concerns one place only. -/
theorem node?_erase_of_ne (fs : FileSystem) {l m : Location} (h : m ≠ l) :
    (fs.erase l).node? m = fs.node? m := by
  unfold node? erase
  split
  · rfl
  · congr 1
    induction fs.nodes with
    | nil => rfl
    | cons x xs ih =>
      by_cases hx : x.1 = l
      · have : ¬ l = m := fun e => h e.symm
        simp [hx, this, ih]
      · by_cases hm : x.1 = m
        · simp [hm, h]
        · simp [hx, hm, ih]

/-- So does putting something somewhere. -/
theorem node?_put_of_ne (fs : FileSystem) {l m : Location} (h : m ≠ l) (n : Node) :
    (fs.put l n).node? m = fs.node? m := by
  have hl : ¬ l = m := fun e => h e.symm
  have he := fs.node?_erase_of_ne h
  unfold node? at he ⊢
  split
  · rfl
  · rename_i hm
    simp only [hm, if_false] at he
    rw [← he]
    simp [put, List.find?_append, hl]

end FileSystem

end PluginHost
