import KernelGen.Files.Path

/-! A tree of directories and files without links, with a directory that relative paths start
from. Paths are followed segment by segment, so that going up from a directory needs that
directory to be there. Nothing is said about permissions, times or space. -/
namespace KernelGen

/-- The names on the way from the root to a place, the innermost first. -/
abbrev Location := List String

/-- What stands at a location. -/
inductive Entry where
  | directory
  | file (content : ByteArray)
  /-- Neither a directory nor a file. It can be read, with nothing in it, and swallows what is
  written. -/
  | sink

/-- Why a path could not be used. -/
inductive FileFault where
  | notFound
  | alreadyExists
  | notDirectory
  | isDirectory
  | nameTooLong
  | badText
  | zeroByte
  /-- A fault that is only known by its text. -/
  | other (text : String)
  deriving DecidableEq, Repr

namespace FileFault

def text : FileFault → String
  | .notFound => "No such file or directory (os error 2)"
  | .alreadyExists => "File exists (os error 17)"
  | .notDirectory => "Not a directory (os error 20)"
  | .isDirectory => "Is a directory (os error 21)"
  | .nameTooLong => "File name too long (os error 36)"
  | .badText => "stream did not contain valid UTF-8"
  | .zeroByte => "file name contained an unexpected NUL byte"
  | .other text => text

end FileFault

/-- The root is always a directory and has no entry. -/
structure FileSystem where
  entries : List (Location × Entry)
  /-- Where relative paths start. -/
  workplace : Location

namespace FileSystem

def get? (fs : FileSystem) : Location → Option Entry
  | [] => some .directory
  | l => fs.entries.lookup l

/-- Changes what stands at a location, or adds it. -/
def put (fs : FileSystem) (l : Location) (e : Entry) : FileSystem :=
  if (fs.entries.lookup l).isSome then
    { fs with entries := fs.entries.map fun (m, old) => if m = l then (m, e) else (m, old) }
  else { fs with entries := fs.entries ++ [(l, e)] }

/-- The most bytes that a name may have. -/
def maxName : Nat := 255

/-- The most bytes that a path may have. -/
def maxPath : Nat := 4095

def isUp (segment : String) : Bool := segment = ".."

/-- Follows one segment. Above the root is the root itself. -/
def step (fs : FileSystem) (l : Location) (segment : String) : Except FileFault Location :=
  match fs.get? l with
  | some .directory =>
    if Path.isIdle segment then .ok l
    else if isUp segment then .ok l.tail
    else if maxName < segment.utf8ByteSize then .error .nameTooLong
    else if (fs.get? (segment :: l)).isSome then .ok (segment :: l)
    else .error .notFound
  | some _ => .error .notDirectory
  | none => .error .notFound

def walk (fs : FileSystem) (l : Location) (segments : List String) : Except FileFault Location :=
  segments.foldlM fs.step l

/-- Where a path starts. -/
def origin (fs : FileSystem) (p : Path) : Location := if p.isAbsolute then [] else fs.workplace

/-- Whether a path can be used at all. -/
def admits (p : Path) : Except FileFault Unit :=
  if p.text.toList.contains '\x00' then .error .zeroByte
  else if p.text.isEmpty then .error .notFound
  else if maxPath < p.text.utf8ByteSize then .error .nameTooLong
  else .ok ()

/-- The location of something that is there. A path that ends in a slash leads to a
directory. -/
def locate (fs : FileSystem) (p : Path) : Except FileFault Location := do
  admits p
  fs.walk (fs.origin p) p.segments

def stat (fs : FileSystem) (p : Path) : Except FileFault Entry := do
  match fs.get? (← fs.locate p) with
  | some e => .ok e
  | none => .error .notFound

def isDirectory (fs : FileSystem) (p : Path) : Bool :=
  match fs.stat p with
  | .ok .directory => true
  | _ => false

def isFile (fs : FileSystem) (p : Path) : Bool :=
  match fs.stat p with
  | .ok (.file _) => true
  | _ => false

def readBytes (fs : FileSystem) (p : Path) : Except FileFault ByteArray := do
  match ← fs.stat p with
  | .directory => .error .isDirectory
  | .file content => .ok content
  | .sink => .ok ByteArray.empty

def readText (fs : FileSystem) (p : Path) : Except FileFault String := do
  match String.fromUTF8? (← fs.readBytes p) with
  | some text => .ok text
  | none => .error .badText

/-- A place that a path names, whether something is there or not. -/
inductive Spot where
  /-- The path ends in a step that names nothing new. -/
  | known
  | name (parent : Location) (name : String) (slash : Bool)

/-- Follows a path up to its last name. Slashes at the end are only noted. -/
def spot (fs : FileSystem) (p : Path) : Except FileFault Spot := do
  admits p
  let trailing := p.segments.reverse.takeWhile String.isEmpty
  match p.segments.reverse.dropWhile String.isEmpty with
  | [] => .ok .known
  | last :: before =>
    let parent ← fs.walk (fs.origin p) before.reverse
    match fs.get? parent with
    | some .directory =>
      if last = "." || isUp last then .ok .known else .ok (.name parent last !trailing.isEmpty)
    | some _ => .error .notDirectory
    | none => .error .notFound

/-- Makes one directory, whose parent must be there. -/
def makeDirectory (fs : FileSystem) (p : Path) : Except FileFault FileSystem := do
  match ← fs.spot p with
  | .known => .error .alreadyExists
  | .name parent name _ =>
    if maxName < name.utf8ByteSize then .error .nameTooLong
    else if (fs.get? (name :: parent)).isSome then .error .alreadyExists
    else .ok (fs.put (name :: parent) .directory)

/-- Makes a file or replaces its content. -/
def writeBytes (fs : FileSystem) (p : Path) (content : ByteArray) :
    Except FileFault FileSystem := do
  match ← fs.spot p with
  | .known => .error .isDirectory
  | .name parent name slash =>
    if slash then .error .isDirectory
    else if maxName < name.utf8ByteSize then .error .nameTooLong
    else match fs.get? (name :: parent) with
      | some .directory => .error .isDirectory
      | some .sink => .ok fs
      | _ => .ok (fs.put (name :: parent) (.file content))

def writeText (fs : FileSystem) (p : Path) (text : String) : Except FileFault FileSystem :=
  fs.writeBytes p text.toUTF8

/-- Makes the first of the paths a directory; the others are its parents, which are only made
if it cannot be made without them. What has been made stays when a later step fails. -/
def makePath (fs : FileSystem) : List Path → Except FileFault Unit × FileSystem
  | [] => (.error (.other "failed to create whole tree"), fs)
  | p :: above =>
    if p.text.isEmpty then (.ok (), fs)
    else match fs.makeDirectory p with
      | .ok fs => (.ok (), fs)
      | .error .notFound =>
        match fs.makePath above with
        | (.error fault, fs) => (.error fault, fs)
        | (.ok _, fs) =>
          match fs.makeDirectory p with
          | .ok fs => (.ok (), fs)
          | .error fault => (accept fs p fault, fs)
      | .error fault => (accept fs p fault, fs)
where
  /-- A directory that is there already is as good as a new one. -/
  accept (fs : FileSystem) (p : Path) (fault : FileFault) : Except FileFault Unit :=
    if fs.isDirectory p then .ok () else .error fault

/-- Makes a directory with its parents. -/
def makeDirectories (fs : FileSystem) (p : Path) : Except FileFault Unit × FileSystem :=
  fs.makePath p.ancestors

/-- The names on the way from a directory to a location below it, the outermost first. -/
def wayFrom? (directory l : Location) : Option (List String) :=
  if directory.isSuffixOf l && directory.length < l.length then
    some (l.take (l.length - directory.length)).reverse
  else none

/-- Everything below the workplace, with the way to it. -/
def contents (fs : FileSystem) : List (List String × Entry) :=
  fs.entries.filterMap fun (l, e) => (wayFrom? fs.workplace l).map fun way => (way, e)

end FileSystem

end KernelGen
