import Mathlib.Algebra.GroupWithZero.Nat
import Mathlib.Algebra.Ring.Int.Defs
import Mathlib.Logic.Function.Basic
import GatewayControl.AgentTypes
import GatewayControl.Programs

/-!
The agent's host as its executors see it: Docker commands, and the files the agent
manages. A command or system call may fail at any point; a file is replaced at once, by
renaming a complete temporary file over it.

Directories are not tracked: a path that holds no file may or may not be one.
-/

namespace GatewayControl.Host

open Text AgentTypes Programs

structure RunOutput where
  stdout : String := ""
  stderr : String := ""
  exitCode : Int := 0
  truncated : Bool := false
deriving DecidableEq

/-- What `Run` returns: the output, and an error unless the command succeeded. -/
structure RunResult where
  output : RunOutput := {}
  err : Option String := none
deriving DecidableEq

/-- What `executeStackRestore` writes into its journal. -/
structure RestoreJournal where
  restoreId : String
  backupId : String
  stackId : String
  phase : String
  createdAt : Time
deriving DecidableEq

/-- The contents of a managed file, kept decoded. -/
inductive Contents where
  | journal (j : RestoreJournal)
  | manifest (m : BackupManifest) (bytes : Nat)
  | token (text : String)
  | route (c : TraefikDynamicConfiguration)
  | text (s : String)
deriving DecidableEq

def Contents.bytes : Contents → Nat
  | .manifest _ n => n
  | .token t | .text t => t.utf8ByteSize
  | .journal _ | .route _ => 0

inductive FileKind where
  | regular
  | directory
  | other
deriving DecidableEq

inductive HostOp where
  | docker (args : List String)
  | mkdirAll (path : String)
  | mkdir (path : String)
  | chmod (path : String)
  | syncDirectory (path : String)
  | evalSymlinks (path : String)
  | composePath (path : String)
  | lstat (path : String)
  | readFile (path : String)
  | writeTemporary (directory : String) (contents : Contents)
  | rename (path : String)
  | removeTemporary
  | renameFile (source destination : String)
  | remove (path : String)
  | checksum (path : String)
  | validateArchive (path : String)
  | probe (url : String)
  | waitSecond
  | contextError
  | identity
  | now
deriving DecidableEq

abbrev HostOp.Res : HostOp → Type
  | .docker _ => RunResult
  | .mkdirAll _ | .mkdir _ | .chmod _ | .syncDirectory _ | .writeTemporary _ _
  | .rename _ | .renameFile _ _ | .validateArchive _ => Except String Unit
  | .evalSymlinks _ => Except String String
  /- the resolved compose path and the project directory on the host -/
  | .composePath _ => Except String (String × String)
  /- `none` is `os.ErrNotExist` -/
  | .lstat _ => Except String (Option FileKind)
  | .readFile _ => Except String Contents
  /- whether there was a file to remove -/
  | .remove _ => Except String Bool
  | .checksum _ => Except String (Int × String)
  | .probe _ => Bool
  /- an error is the context's, done before the second was over -/
  | .waitSecond => Except String Unit
  | .contextError => Option String
  | .identity => String
  | .now => Time
  | .removeTemporary => Unit

abbrev interface : Interface := ⟨HostOp, HostOp.Res⟩

abbrev HostProg := Prog interface

abbrev HostFallible := Fallible interface

def eff (o : HostOp) : HostProg o.Res := Prog.perform (F := interface) o

def lift {α : Type} (p : HostProg α) : HostFallible α := ExceptT.lift p

/-- Perform an effect that reports an error, and stop at the error. -/
def attempt {α : Type} (p : HostProg (Except String α)) : HostFallible α := ExceptT.mk p

/-- Replace whatever error a step reports. -/
def orElse {α : Type} (p : HostProg (Except String α)) (message : String) :
    HostFallible α := do
  match ← lift p with
  | .ok a => pure a
  | .error _ => throw message

variable {α β : Type} {φ : HostOp → Prop}

lemma only_eff {o : HostOp} (ho : φ o) : (eff o).Only φ := ⟨ho, fun _ => trivial⟩

lemma only_lift {p : HostProg α} (hp : p.Only φ) : (lift p).run.Only φ := .lift hp

lemma only_orElse {p : HostProg (Except String α)} (hp : p.Only φ) (message : String) :
    (orElse p message).run.Only φ :=
  only_bind (only_lift hp) fun r => by cases r <;> trivial

/-! ### Managed files -/

/-- `filepath.Join` of a clean directory and one element. -/
def join (directory element : String) : String :=
  if directory = "/" then "/" ++ element else directory ++ "/" ++ element

/-- An element `filepath.Base` leaves as it is, and not a dot directory. -/
def plainElement (element : String) : Bool :=
  element ≠ "" && element ≠ "." && element ≠ ".." && !element.toList.contains '/'

/-- Create the directory, or check that it is a real one. -/
def ensureDirectory (directory : String) : HostFallible Unit := do
  match ← lift (eff (.lstat directory)) with
  | .error _ => throw "inspect managed directory"
  | .ok none => attempt (eff (.mkdir directory))
  | .ok (some .directory) => pure ()
  | .ok (some _) => throw "managed directory must be a real directory"

def subdirectories (directory : String) : List String → HostFallible String
  | [] => pure directory
  | element :: elements =>
      if !plainElement element then
        throw "managed directory element is invalid"
      else do
        ensureDirectory (join directory element)
        attempt (eff (.chmod (join directory element)))
        subdirectories (join directory element) elements

def secureSubdirectory (root : String) (elements : List String) : HostFallible String := do
  attempt (eff (.mkdirAll root))
  let resolvedRoot ← attempt (eff (.evalSymlinks root))
  subdirectories resolvedRoot elements

/-- Write a temporary file, rename it over the path, sync the directory; the temporary
file never outlives the call. -/
def writeFileAtomically (directory name : String) (contents : Contents) :
    HostFallible Unit := ExceptT.mk do
  let written ← ExceptT.run (do
    attempt (eff (.writeTemporary directory contents))
    attempt (eff (.rename (join directory name)))
    attempt (eff (.chmod (join directory name)))
    attempt (eff (.syncDirectory directory)) : HostFallible Unit)
  eff .removeTemporary
  pure written

def readRegularFile (path : String) : HostFallible (Option Contents) := do
  match ← attempt (eff (.lstat path)) with
  | none => pure none
  | some .regular => return some (← attempt (eff (.readFile path)))
  | some _ => throw "managed file must be a regular file"

def removeFileAndSync (directory name : String) : HostFallible Unit := do
  let _ ← attempt (eff (.remove (join directory name)))
  attempt (eff (.syncDirectory directory))

/-! ### What the effects do -/

inductive Node where
  | regular (c : Contents)
  | other
deriving DecidableEq

/-- The managed files, the temporary file being written, and Docker's own state. -/
structure HostState (D : Type) where
  files : String → Option Node
  temporary : Option Contents := none
  docker : D

/-- What `Lstat` may say of a path. -/
def Describes (node : Option Node) (kind : Option FileKind) : Prop :=
  match node with
  | some (.regular _) => kind = some .regular
  | some .other => kind = some .other
  | none => kind = none ∨ kind = some .directory

variable {D : Type}

def HostState.renamed (h : HostState D) (path : String) : HostState D :=
  match h.temporary with
  | some c => { h with files := Function.update h.files path (some (.regular c)),
                       temporary := none }
  | none => h

def HostState.removed (h : HostState D) (path : String) : HostState D :=
  { h with files := Function.update h.files path none }

/-- A process that ends leaves its files; its temporary file is never looked at again. -/
def HostState.crashed (h : HostState D) : HostState D := { h with temporary := none }

/-- The effects' meaning over a Docker that answers and changes as `run` says, and links
that lead where `links` says. -/
def hostEffect (links : String → String) (run : D → List String → RunResult → D → Prop)
    (h : HostState D) :
    (o : HostOp) → o.Res → HostState D → Prop
  | .docker args, r, h' => ∃ d, run h.docker args r d ∧ h' = { h with docker := d }
  | .writeTemporary _ c, r, h' =>
      r = .ok () ∧ h' = { h with temporary := some c } ∨
        (∃ e, r = .error e) ∧ h' = { h with temporary := none }
  | .rename path, r, h' => r = .ok () ∧ h' = h.renamed path ∨ (∃ e, r = .error e) ∧ h' = h
  | .removeTemporary, _, h' => h' = { h with temporary := none }
  | .remove path, r, h' =>
      r = .ok true ∧ h' = h.removed path ∨ r = .ok false ∧ h.files path = none ∧ h' = h ∨
        (∃ e, r = .error e) ∧ h' = h
  | .evalSymlinks path, r, h' => h' = h ∧ ∀ target, r = .ok target → target = links path
  | .lstat path, r, h' => h' = h ∧ ∀ kind, r = .ok kind → Describes (h.files path) kind
  | .readFile path, r, h' => h' = h ∧ ∀ c, r = .ok c → h.files path = some (.regular c)
  | _, _, h' => h' = h

/-! ### Runs on given answers -/

/-- One answer to each effect that has several. -/
structure HostAnswers (D : Type) where
  docker : D → List String → RunResult × D
  isDirectory : String → Bool := fun _ => false
  composePath : String → String × String := fun p => (p, "/")
  checksum : String → Int × String := fun _ => (0, "")
  now : Time := 1

/-- Every system call succeeds. -/
def respond (A : HostAnswers D) (links : String → String) (h : HostState D) :
    (o : HostOp) → o.Res × HostState D
  | .docker args =>
      ((A.docker h.docker args).1, { h with docker := (A.docker h.docker args).2 })
  | .mkdirAll _ | .mkdir _ | .chmod _ | .syncDirectory _ | .renameFile _ _ | .validateArchive _ =>
      (.ok (), h)
  | .waitSecond => (.ok (), h)
  | .evalSymlinks path => (.ok (links path), h)
  | .composePath path => (.ok (A.composePath path), h)
  | .lstat path =>
      (.ok (match h.files path with
        | some (.regular _) => some .regular
        | some .other => some .other
        | none => if A.isDirectory path then some .directory else none), h)
  | .readFile path =>
      (match h.files path with
        | some (.regular c) => .ok c
        | _ => .error "not a regular file", h)
  | .writeTemporary _ c => (.ok (), { h with temporary := some c })
  | .rename path => (.ok (), h.renamed path)
  | .removeTemporary => ((), { h with temporary := none })
  | .remove path =>
      match h.files path with
      | some _ => (.ok true, h.removed path)
      | none => (.ok false, h)
  | .checksum path => (.ok (A.checksum path), h)
  | .probe _ => (true, h)
  | .contextError => (none, h)
  | .identity => ("1000:1000", h)
  | .now => (A.now, h)

lemma hostEffect_respond {A : HostAnswers D} {links : String → String}
    {run : D → List String → RunResult → D → Prop}
    (hA : ∀ d args, run d args (A.docker d args).1 (A.docker d args).2) (h : HostState D)
    (o : HostOp) :
    hostEffect links run h o (respond A links h o).1 (respond A links h o).2 := by
  cases o with
  | docker args => exact ⟨_, hA _ _, rfl⟩
  | writeTemporary _ _ => exact .inl ⟨rfl, rfl⟩
  | rename _ => exact .inl ⟨rfl, rfl⟩
  | evalSymlinks path =>
      refine ⟨rfl, ?_⟩
      rintro _ ⟨⟩
      rfl
  | lstat path =>
      refine ⟨rfl, ?_⟩
      rintro _ ⟨⟩
      rcases h.files path with _ | _ | _
      · dsimp only [Describes]
        split <;> simp
      · rfl
      · rfl
  | readFile path =>
      refine ⟨rfl, fun c hc => ?_⟩
      simp only [respond] at hc
      rcases hf : h.files path with _ | _ | _ <;> simp_all
  | remove path =>
      simp only [respond, hostEffect]
      rcases hf : h.files path with _ | _ <;> simp
  | _ => rfl

end GatewayControl.Host
