import UsbDisplay.Files

/-!
Files in memory, as a tree of names. A path is walked name by name from the root or from the working
directory: `.` stays, `..` goes up (the root is above itself), and any other name has to be there.
All but the last place on the way must be directories; so must the last one if a slash follows it.
-/

namespace UsbDisplay

/-- What is at a place of a tree. -/
inductive FileNode where
  | directory
  | file (contents : ByteArray)
  /-- Always empty, whatever is written to it. -/
  | sink

/-- A place: the names that lead to it from the root, the last one first. -/
abbrev Place := List String

structure FileTree where
  /-- The working directory. -/
  work : Place
  /-- What is where; the root is a directory in any case. -/
  nodes : List (Place × FileNode)

namespace FileTree

/-- The tree in which there is only the working directory, with those above it. -/
def ofWork (work : Place) : FileTree :=
  ⟨work, (List.range work.length).map fun n => (work.drop n, .directory)⟩

def node? (t : FileTree) (p : Place) : Option FileNode :=
  if p.isEmpty then some .directory else t.nodes.lookup p

def put (t : FileTree) (p : Place) (n : FileNode) : FileTree :=
  { t with nodes := (p, n) :: t.nodes.filter (·.1 != p) }

theorem lookup_filter_ne {p q : Place} (h : q ≠ p) (nodes : List (Place × FileNode)) :
    (nodes.filter (·.1 != p)).lookup q = nodes.lookup q := by
  induction nodes with
  | nil => rfl
  | cons x rest ih =>
    obtain ⟨r, n⟩ := x
    by_cases hr : r = p
    · have : (q == p) = false := by simp [h]
      simp [hr, List.lookup_cons, ih, this]
    · simp [hr, List.lookup_cons, ih]

/-- Nothing changes but what is at the place itself, which is not the root. -/
theorem node?_put {t : FileTree} {p : Place} (n : FileNode) (hp : p ≠ []) (q : Place) :
    (t.put p n).node? q = if q = p then some n else t.node? q := by
  by_cases hq : q = []
  · simp [node?, hq, hp.symm]
  · by_cases h : q = p
    · simp [node?, put, h, hp]
    · have : (q == p) = false := by simp [h]
      simp [node?, put, hq, h, List.lookup_cons, this, lookup_filter_ne h]

/-- The contents of a file in the working directory. -/
def file? (t : FileTree) (name : String) : Option ByteArray :=
  match t.node? (name :: t.work) with
  | some (.file contents) => some contents
  | _ => none

/-! ### Paths -/

def maxName : Nat := 255

def maxPath : Nat := 4095

def pieces : List Char → List (List Char)
  | [] => [[]]
  | c :: rest =>
    if c = '/' then [] :: pieces rest
    else
      match pieces rest with
      | [] => [[c]]
      | piece :: others => (c :: piece) :: others

/-- The names in a path; slashes that follow each other count as one. -/
def names (path : String) : List String :=
  ((pieces path.toList).filter (· ≠ [])).map String.ofList

/-- Where a path begins. -/
def start (t : FileTree) (path : String) : Place :=
  if path.toList.head? = some '/' then [] else t.work

/-- Whether a path can only lead to a directory. -/
def endsInSlash (path : String) : Bool := path.toList.getLast? == some '/'

/-- Whether a name is no name but a way to go on. -/
def isStep (name : String) : Bool := name == "." || name == ".."

def expectDirectory (t : FileTree) (p : Place) : Except FileFault Unit :=
  match t.node? p with
  | some .directory => .ok ()
  | some _ => .error .notDirectory
  | none => .error .notFound

def enter (t : FileTree) (p : Place) (name : String) : Except FileFault Place := do
  t.expectDirectory p
  if name = "." then return p
  else if name = ".." then return p.tail
  else if maxName < name.utf8ByteSize then throw .tooLongName
  else if (t.node? (name :: p)).isSome then return name :: p
  else throw .notFound

def walk (t : FileTree) (p : Place) (names : List String) : Except FileFault Place :=
  names.foldlM t.enter p

/-- Refuses a path that is too long, wherever it leads. -/
def checkLength (path : String) : Except FileFault Unit :=
  if maxPath < path.utf8ByteSize then .error .tooLongName else .ok ()

/-- The place of a file that is to be written; it may be a new one, in a directory that is there. -/
def target (t : FileTree) (path : String) : Except FileFault Place := do
  checkLength path
  match (names path).getLast? with
  | none => throw .isDirectory
  | some name =>
    let p ← t.walk (t.start path) (names path).dropLast
    t.expectDirectory p
    if isStep name || endsInSlash path then throw .isDirectory
    if maxName < name.utf8ByteSize then throw .tooLongName
    return name :: p

/-! ### Files -/

/-- The contents of the file to which a path leads. -/
def read (t : FileTree) (path : String) : Except FileFault ByteArray := do
  checkLength path
  let p ← t.walk (t.start path) (names path)
  if endsInSlash path then t.expectDirectory p
  match t.node? p with
  | some (.file contents) => return contents
  | some .sink => return .empty
  | some .directory => throw .isDirectory
  | none => throw .notFound

/-- Replaces the contents of the file to which a path leads. -/
def write (t : FileTree) (path : String) (contents : ByteArray) :
    Except FileFault Unit × FileTree :=
  match t.target path with
  | .error fault => (.error fault, t)
  | .ok p =>
    match t.node? p with
    | some .directory => (.error .isDirectory, t)
    | some .sink => (.ok (), t)
    | _ => (.ok (), t.put p (.file contents))

/-- The way to the files of a tree that is kept as a state. -/
def access : Files (StateM FileTree) where
  read path := fun t => (t.read path, t)
  write path contents := fun t => t.write path contents

end FileTree

end UsbDisplay
