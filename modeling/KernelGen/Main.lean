import KernelGen.CommandLine.Invocation

/-! The program on the files of a computer. What is asked about files is looked up before it
is decided on; what a script says is then carried out action by action. -/
namespace KernelGen.Main

/-- What has been seen of files: the directories, and what reading each file gave, which can fail
although the file is there. -/
structure Seen where
  directories : List Path
  files : List (Path × Except FileFault ByteArray)

instance : FileView Seen where
  isDirectory s p := s.directories.contains p
  isFile s p := (s.files.lookup p).isSome
  readText s p := do
    match String.fromUTF8? (← (s.files.lookup p).getD (.error .notFound)) with
    | some text => .ok text
    | none => .error .badText

def faultOf : IO.Error → FileFault
  | .noFileOrDirectory .. => .notFound
  | .alreadyExists .. => .alreadyExists
  | e => .other (toString e)

/-- Only a directory can be opened with a dot behind it. -/
def isDirectory (p : Path) : IO Bool := do
  try
    let _ ← IO.FS.Handle.mk (p.join ".").text .read
    return !p.text.isEmpty
  catch _ => return false

/-- Whether a path that cannot be read leads to no file: to nothing, to a directory, or through
something that is none. -/
def isAbsence : IO.Error → Bool
  | .noFileOrDirectory .. | .inappropriateType .. | .invalidArgument .. => true
  | _ => false

/-- The content of a file, if it is there. -/
def readBytes? (p : Path) : IO (Option (Except FileFault ByteArray)) := do
  try return some (.ok (← IO.FS.readBinFile p.text))
  catch e => return if isAbsence e then none else some (.error (faultOf e))

def look (directories files : List Path) : IO Seen := do
  let seen ← files.filterMapM fun p => do return (← readBytes? p).map fun content => (p, content)
  return ⟨← directories.filterM isDirectory, seen⟩

/-- The files that may hold the manifest. -/
def manifests (o : CommandLine.GenerateOptions) : List Path :=
  match o.config with
  | some p => [⟨p⟩, Path.join ⟨p⟩ Manifest.fileName]
  | none => [Path.join ⟨"."⟩ Manifest.fileName]

/-- The files that may replace templates. -/
def replacements (c : Config) : List Path :=
  c.templates.toList.flatMap fun d => Form.all.map fun f => d.join f.fileName

def tell (logging : Log.Logging) (records : List Log.Record) : IO Unit :=
  (logging.lines records).forM IO.eprintln

def prepare (w : Writer) (d : Directory) : IO (Except Error Unit) := do
  let path := d.under w.root
  if w.dryRun then return .ok ()
  try
    IO.FS.createDirAll path.text
    return .ok ()
  catch e => return .error (.createDirectory path (faultOf e))

def write (logging : Log.Logging) (w : Writer) (path : Path) (contents : String) :
    IO (Except Error Writer) := do
  try
    if !w.dryRun then IO.FS.writeFile path.text contents
    let (w, log) := w.recordWrite path contents
    tell logging log
    return .ok w
  catch e => return .error (.write path (faultOf e))

/-- Carries out actions until one fails. -/
def perform (logging : Log.Logging) (w : Writer) : List Action → IO (Except Error Writer)
  | [] => return .ok w
  | .tell record :: rest => do
    tell logging [record]
    perform logging w rest
  | .prepare d :: rest => do
    match ← prepare w d with
    | .error e => return .error e
    | .ok _ => perform logging w rest
  | .write d fileName contents :: rest => do
    match ← write logging w ((d.under w.root).join fileName) contents with
    | .error e => return .error e
    | .ok w => perform logging w rest

def runGenerate (logging : Log.Logging) (o : CommandLine.GenerateOptions) :
    IO (Except Error Report) := do
  match o.resolve (← look [] (manifests o)) with
  | .error e => return .error e
  | .ok config =>
    let (library, log) := Templates.load (← look config.templates.toList (replacements config))
      config.templates
    tell logging log
    match library with
    | .error e => return .error e
    | .ok library =>
      let script := library.script config.root
      match ← perform logging (.start config.root config.dryRun) script.actions with
      | .error e => return .error e
      | .ok w => return script.ending.map (Report.of · w)

def run (i : CommandLine.Invocation) : IO UInt32 := do
  let logging := Log.Logging.ofLevel (← IO.getEnv "RUST_LOG") i.level
  logging.complaints.forM IO.eprintln
  match i.command with
  | some (.list o) =>
    (Listing.lines o.kind (o.style.getD .text)).forM IO.println
    return 0
  | some (.generate o) => generated logging o
  | none => generated logging .empty
where
  generated (logging : Log.Logging) (o : CommandLine.GenerateOptions) : IO UInt32 := do
    match ← runGenerate logging o with
    | .ok report =>
      report.lines.forM IO.println
      return 0
    | .error e =>
      tell logging [CommandLine.complaint e]
      IO.eprintln (CommandLine.errorLine e)
      return 1

def start (arguments : List String) : IO UInt32 := do
  match CommandLine.read arguments with
  | .ok i => run i
  | .error .misuse =>
    CommandLine.usage.forM IO.eprintln
    return 2
  | .error .help =>
    CommandLine.usage.forM IO.println
    return 0
  | .error .version =>
    IO.println CommandLine.versionLine
    return 0

end KernelGen.Main

def main (arguments : List String) : IO UInt32 := KernelGen.Main.start arguments
