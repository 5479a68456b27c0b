import GatewayControl.FileTree
import GatewayControl.Text

/-!
The backup helper: it archives a volume as a gzip-compressed tar file, and puts an
archive back over a cleared volume.

The helper runs as root, so permission bits never stop it, and nothing else uses the two
directories meanwhile. Of tar and gzip the model keeps what they decode to: the headers
as `WriteHeader` rounds them, and the contents.
-/

namespace GatewayControl.BackupHelper

open FileTree Text

def maximumFiles : Nat := 1000000

def maximumExpandedBytes : Nat := 100 * 2 ^ 30

def maximumPathBytes : Nat := 4096

/-- `^[a-z0-9][a-z0-9_.-]{0,199}\.tar\.gz$`. -/
def archiveNamePattern (name : String) : Bool :=
  let s := name.toList
  let stem := s.take (s.length - 7)
  s.drop (s.length - 7) == ['.', 't', 'a', 'r', '.', 'g', 'z'] &&
    identifierPattern isLowerOrDigit
      (fun c => isLowerOrDigit c || ['_', '.', '-'].contains c) 199 (String.ofList stem)

/-- An error, with the name of the file its text ends in, if any. -/
structure HelperError where
  text : String
  name : Bytes := []
deriving DecidableEq

inductive TypeFlag where
  | dir
  | reg
  | regA
  | other
deriving DecidableEq

structure Header where
  name : Bytes
  typeflag : TypeFlag
  size : Int
  mode : BitVec 12
  uid : Int
  gid : Int
  modTime : Int
deriving DecidableEq

abbrev Archive := List (Header × Bytes)

/-- What a name in the backup directory stands for; a damaged tar file ends in an error
after the entries that can be read. -/
inductive Stored where
  | tar (entries : Archive) (complete : Bool)
  | notGzip
  | notRegular

/-- What the two mounted directories hold, and how far the clock has run. -/
structure Machine where
  files : Files
  archives : AList fun _ : String => Stored
  ticks : Nat := 0

/-- The process the helper runs in. -/
structure Host where
  umask : BitVec 12
  clock : Nat → Int
  isRealDirectory : Bytes → Bool

abbrev Helper := ExceptT HelperError (StateM Machine)

def fail {α : Type} (text : String) : Helper α := throw { text }

def requireDirectory (host : Host) (value : Bytes) : Helper Bytes := do
  if !isAbs value || clean value != value then
    fail "root must be an absolute, clean path"
  if !host.isRealDirectory value then
    fail "root must be a real directory"
  return value

/-! ### System calls -/

def now (host : Host) : Helper Int :=
  modifyGet fun m => (host.clock m.ticks, { m with ticks := m.ticks + 1 })

def Machine.put (m : Machine) (p : Path) (n : Node) : Machine :=
  { m with files := m.files.insert p n }

def setNode (p : Path) (n : Node) : Helper Unit := modify fun m => m.put p n

/-- The root is there, but has no node to change. -/
def updateNode (p : Path) (f : Node → Node) : Helper Unit :=
  if p = [] then pure ()
  else do
    match (← get).files.lookup p with
    | some n => setNode p (f n)
    | none => fail "no such file or directory"

/-- A directory's own time moves when an entry is added to it; the root has no node. -/
def addEntry (host : Host) (p : Path) (n : Node) : Helper Unit := do
  if !(← get).files.isDirectory p.dropLast then
    fail "no such file or directory"
  let time ← now host
  setNode p { n with modTime := time }
  if p.dropLast ≠ [] then
    updateNode p.dropLast fun parent => { parent with modTime := time }

def mkdir (host : Host) (p : Path) (perm : BitVec 12) : Helper Unit :=
  addEntry host p ⟨.directory, perm &&& ~~~host.umask, 0, 0, 0⟩

/-- `os.MkdirAll`, for the elements of a path below `base`. -/
def mkdirAll (host : Host) (perm : BitVec 12) (base : Path) : Path → Helper Unit
  | [] => pure ()
  | name :: rest => do
      let here := base ++ [name]
      match (← get).files.lookup here with
      | none => mkdir host here perm
      | some n => if n.kind ≠ .directory then fail "not a directory"
      mkdirAll host perm here rest

/-- `os.OpenFile` with `O_CREATE|O_EXCL`, and what is then written. -/
def createFile (host : Host) (p : Path) (perm : BitVec 12) (content : Bytes) :
    Helper Unit := do
  if p = [] ∨ ((← get).files.lookup p).isSome then
    fail "file exists"
  addEntry host p ⟨.regular content, perm &&& ~~~host.umask, 0, 0, 0⟩

def chmod (p : Path) (mode : BitVec 12) : Helper Unit :=
  updateNode p fun n => { n with mode }

def chown (p : Path) (uid gid : Int) : Helper Unit :=
  updateNode p fun n => { n with uid := uid.toNat, gid := gid.toNat }

/-- `time.Time{}`, the first instant of year one. -/
def zeroTime : Int := -62135596800 * 10 ^ 9

/-- `os.Chtimes` leaves the zero time out, and passes the kernel `UnixNano`, which is the
number of nanoseconds modulo `2 ^ 64`. -/
def chtimes (p : Path) (time : Int) : Helper Unit :=
  updateNode p fun n =>
    { n with modTime := if time = zeroTime then n.modTime else time.bmod (2 ^ 64) }

/-! ### Writing an archive -/

def safeArchivePath (name : Bytes) : Bool :=
  decide (0 < name.length) && decide (name.length ≤ maximumPathBytes) &&
    !name.any (fun b => b == 92 || b == 0) && !isAbs name && clean name == name &&
    name != [dot, dot] && !([dot, dot, slash] : Bytes).isPrefixOf name

def fileInfoHeader (info : Node) (archivePath : Bytes) : Header where
  name := archivePath
  typeflag := match info.kind with
    | .directory => .dir
    | .regular _ => .reg
    | .special => .other
  size := match info.kind with
    | .regular content => content.length
    | _ => 0
  mode := info.mode
  uid := info.uid
  gid := info.gid
  modTime := info.modTime

/-- `Time.Round(time.Second)`: a half second rounds up. -/
def roundSecond (time : Int) : Int := (time + 5 * 10 ^ 8) / 10 ^ 9 * 10 ^ 9

/-- A header as it is read back: without a format `WriteHeader` rounds the time, and it
writes the zero time as 1970. -/
def written (header : Header) : Header :=
  let time := roundSecond header.modTime
  { header with modTime := if time = zeroTime then 0 else time }

def Kind.content : Kind → Bytes
  | .regular content => content
  | _ => []

/-- The walk of `createArchive`, with the files and bytes it has counted. -/
def archiveEntries (count total : Nat) : List (Path × Node) → Except HelperError Archive
  | [] => return []
  | (path, info) :: rest => do
      if count + 1 > maximumFiles then
        throw { text := "archive file count limit exceeded" }
      if info.kind = .special then
        throw { text := "unsupported source file type: ", name := path.getLastD [] }
      let archivePath := joined path
      if !safeArchivePath archivePath then
        throw { text := "unsafe source path" }
      let size := (Kind.content info.kind).length
      if size + total > maximumExpandedBytes then
        throw { text := "archive expanded size limit exceeded" }
      let entries ← archiveEntries (count + 1) (total + size) rest
      return (written (fileInfoHeader info archivePath), Kind.content info.kind) :: entries

def createArchive (archive : String) : Helper Unit := do
  match archiveEntries 0 0 (← get).files.walkOrder with
  | .error e => throw { e with text := "create archive: " ++ e.text }
  | .ok entries =>
      modify fun m => { m with archives := m.archives.insert archive (.tar entries true) }

/-! ### Reading one back -/

/-- The loop of `walkArchive`, with the names seen and the files and bytes counted; `visit`
carries along what it collects. -/
def walkEntries {σ : Type} (visit : σ → Header → Bytes → Helper σ) (complete : Bool)
    (seen : List Bytes) (count : Nat) (total : Int) (s : σ) : Archive → Helper σ
  | [] => if complete then pure s else fail "invalid tar archive"
  | (header, content) :: rest => do
      if count + 1 > maximumFiles || !safeArchivePath header.name || header.size < 0 ||
          header.uid < 0 || header.gid < 0 then
        fail "archive safety limit exceeded"
      if header.typeflag = .other then
        fail "unsafe archive entry type"
      if seen.contains (clean header.name) then
        fail "duplicate archive entry"
      let isFile := header.typeflag = .reg ∨ header.typeflag = .regA
      if isFile ∧ header.size > maximumExpandedBytes - total then
        fail "archive expanded size limit exceeded"
      let s ← visit s header content
      walkEntries visit complete (clean header.name :: seen) (count + 1)
        (if isFile then total + header.size else total) s rest

def walkArchive {σ : Type} (archive : String) (s : σ)
    (visit : σ → Header → Bytes → Helper σ) : Helper σ := do
  match (← get).archives.lookup archive with
  | some (.tar entries complete) => walkEntries visit complete [] 0 0 s entries
  | some .notGzip => fail "invalid gzip archive"
  | some .notRegular | none => fail "open archive"

def validateArchive (archive : String) : Helper Unit := do
  match (← get).archives.lookup archive with
  | none | some .notRegular => fail "archive must be a regular file"
  | some _ => walkArchive archive () fun _ _ _ => pure ()

def restoreOwnership (p : Path) (header : Header) : Helper Unit :=
  chown p header.uid header.gid

/-- `filepath.Join(source, filepath.FromSlash(name))`, as a path below the source. -/
def destination (name : Bytes) : Path := elements name

/-- What `extractArchive` does with one entry, given where names lead and the directories met
so far. -/
def extractEntry (host : Host) (place : Bytes → Path) (directories : List Header)
    (header : Header) (content : Bytes) : Helper (List Header) := do
  let destination := place header.name
  match header.typeflag with
  | .dir =>
      mkdirAll host (header.mode &&& 0o777) [] destination
      return directories ++ [header]
  | .reg | .regA =>
      mkdirAll host 0o755 [] destination.dropLast
      createFile host destination (header.mode &&& 0o666) (content.take header.size.toNat)
      if content.length < header.size.toNat then
        fail "unexpected EOF"
      restoreOwnership destination header
      chtimes destination header.modTime
      return directories
  | .other => fail "unsafe archive entry type"

def finishDirectory (place : Bytes → Path) (header : Header) : Helper Unit := do
  let destination := place header.name
  chmod destination (header.mode &&& 0o777)
  restoreOwnership destination header
  chtimes destination header.modTime

def extractBelow (host : Host) (place : Bytes → Path) (archive : String) : Helper Unit := do
  let directories ← walkArchive archive [] (extractEntry host place)
  directories.reverse.forM (finishDirectory place)

def extractArchive (host : Host) (archive : String) : Helper Unit :=
  extractBelow host destination archive

def clearDirectory : Helper Unit := do
  (← get).files.rootNames.forM fun name =>
    modify fun m => { m with files := m.files.removeAll [name] }

def run (host : Host) (mode : String) (sourceRoot backupRoot : Bytes)
    (archiveName : String) : Helper Unit := do
  if !archiveNamePattern archiveName then
    fail "invalid archive name"
  let _ ← requireDirectory host sourceRoot
  let _ ← requireDirectory host backupRoot
  match mode with
  | "backup" => createArchive archiveName
  | "restore" => do
      validateArchive archiveName
      clearDirectory
      extractArchive host archiveName
  | _ => fail "mode must be backup or restore"

end GatewayControl.BackupHelper
