import Mathlib.Algebra.GroupWithZero.Nat
import Mathlib.Algebra.Ring.Int.Defs
import Mathlib.Data.List.AList
import Mathlib.Data.List.Lex
import Mathlib.Data.List.Sort
import Mathlib.Order.Fin.Basic

/-!
A tree of files below a root: slash-separated paths and their cleaning, what is stored at
a path, and the order in which a walk of the tree meets its files.

Paths are lists of names from the root down, names are byte strings. Times count
nanoseconds from 1970.
-/

namespace GatewayControl.FileTree

abbrev Bytes := List (Fin 256)

instance byteNeZero : NeZero 256 := ⟨by decide⟩

abbrev Path := List Bytes

/-! ### Slash-separated paths -/

def slash : Fin 256 := 47

def dot : Fin 256 := 46

def joined (p : Path) : Bytes := [slash].intercalate p

def isAbs (s : Bytes) : Bool := s.head? == some slash

/-- One element of a path, against the elements kept so far, the last one first. -/
def cleanStep (rooted : Bool) (kept : Path) (name : Bytes) : Path :=
  if name = [] ∨ name = [dot] then kept
  else if name = [dot, dot] then
    match kept with
    | [] => if rooted then [] else [name]
    | last :: rest => if last = [dot, dot] then name :: kept else rest
  else name :: kept

def elements (s : Bytes) : Path :=
  ((s.splitOn slash).foldl (cleanStep (isAbs s)) []).reverse

/-- `path.Clean`, which `filepath.Clean` is on the systems the helper runs on. -/
def clean (s : Bytes) : Bytes :=
  if isAbs s then slash :: joined (elements s)
  else if elements s = [] then [dot]
  else joined (elements s)

/-- A name a directory can hold. -/
def Plain (name : Bytes) : Prop :=
  name ≠ [] ∧ name ≠ [dot] ∧ name ≠ [dot, dot] ∧ slash ∉ name

instance (name : Bytes) : Decidable (Plain name) := inferInstanceAs (Decidable (_ ∧ _))

lemma splitOn_joined {p : Path} (hp : p ≠ []) (h : ∀ name ∈ p, Plain name) :
    (joined p).splitOn slash = p :=
  List.splitOn_intercalate slash (fun name hn => (h name hn).2.2.2) hp

lemma joined_injective {p q : Path} (hp : p ≠ []) (hq : q ≠ [])
    (hnp : ∀ name ∈ p, Plain name) (hnq : ∀ name ∈ q, Plain name)
    (h : joined p = joined q) : p = q := by
  rw [← splitOn_joined hp hnp, ← splitOn_joined hq hnq, h]

lemma cleanStep_plain {rooted : Bool} {kept : Path} {name : Bytes} (h : Plain name) :
    cleanStep rooted kept name = name :: kept := by
  obtain ⟨h₁, h₂, h₃, -⟩ := h
  simp [cleanStep, h₁, h₂, h₃]

lemma foldl_cleanStep {rooted : Bool} {p kept : Path} (h : ∀ name ∈ p, Plain name) :
    p.foldl (cleanStep rooted) kept = p.reverse ++ kept := by
  induction p generalizing kept with
  | nil => simp
  | cons name p ih =>
    rw [List.foldl_cons, cleanStep_plain (h name (by simp)),
      ih (fun n hn => h n (by simp [hn]))]
    simp

lemma elements_joined {p : Path} (hp : p ≠ []) (h : ∀ name ∈ p, Plain name) :
    elements (joined p) = p := by
  unfold elements
  rw [splitOn_joined hp h, foldl_cleanStep h]
  simp

/-! ### What the tree holds -/

inductive Kind where
  | directory
  | regular (content : Bytes)
  | special
deriving DecidableEq

/-- The mode holds the nine permission bits below set-user-ID, set-group-ID and sticky. -/
structure Node where
  kind : Kind
  mode : BitVec 12
  uid : Nat
  gid : Nat
  modTime : Int
deriving DecidableEq

abbrev Files := AList fun _ : Path => Node

def Files.isDirectory (files : Files) (p : Path) : Bool :=
  p == [] || (files.lookup p).any (·.kind == .directory)

@[simp] lemma isDirectory_nil (files : Files) : files.isDirectory [] = true := by
  simp [Files.isDirectory]

lemma isDirectory_iff {files : Files} {p : Path} (hp : p ≠ []) :
    files.isDirectory p ↔ ∃ n, files.lookup p = some n ∧ n.kind = .directory := by
  simp [Files.isDirectory, hp, Option.any_eq_true]

/-- `os.RemoveAll`. -/
def Files.removeAll (files : Files) (p : Path) : Files :=
  ⟨files.entries.filter fun e => !p.isPrefixOf e.1,
    files.nodupKeys.sublist List.filter_sublist⟩

/-- The names a listing of the root gives. -/
def Files.rootNames (files : Files) : List Bytes :=
  files.keys.filterMap fun p => match p with
    | [name] => some name
    | _ => none

/-- A tree: every file has a usable name and stands in a directory of the tree. -/
structure Volume where
  files : Files
  nonempty : ∀ p ∈ files, p ≠ []
  plain : ∀ p ∈ files, ∀ name ∈ p, Plain name
  closed : ∀ p name, p ++ [name] ∈ files → files.isDirectory p

/-- The files in the order `filepath.WalkDir` visits them: a directory before what it
holds, and the names of one directory in byte order. -/
def Files.walkOrder (files : Files) : List (Path × Node) :=
  (files.entries.insertionSort fun a b => a.1 ≤ b.1).map fun e => (e.1, e.2)

end GatewayControl.FileTree
