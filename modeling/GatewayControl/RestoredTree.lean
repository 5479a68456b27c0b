import GatewayControl.Extraction

/-!
When a restore does no harm. The volume is cleared between the validation of an archive and its
extraction, so all of what can stop the extraction has to be found by the validation.
-/

namespace GatewayControl.RestoredTree

open FileTree BackupHelper BackupRoundTrip Extraction

variable {host : Host} {m m' m₁ : Machine} {p q : Path} {n : Node} {perm : BitVec 12}
  {entries done : Archive} {e : Header × Bytes} {ds ds' : List Header}

/-! ### The tree of an archive -/

def IsFile (h : Header) : Prop := h.typeflag = .reg ∨ h.typeflag = .regA

instance (h : Header) : Decidable (IsFile h) := inferInstanceAs (Decidable (_ ∨ _))

/-- What an entry is restored to; the time of year one is not set. -/
structure Restores (host : Host) (e : Header × Bytes) (n : Node) : Prop where
  kind : n.kind = if IsFile e.1 then .regular e.2 else .directory
  mode : n.mode = if IsFile e.1 then e.1.mode &&& 0o666 &&& ~~~host.umask
    else e.1.mode &&& 0o777
  uid : n.uid = e.1.uid.toNat
  gid : n.gid = e.1.gid.toNat
  time : e.1.modTime ≠ zeroTime → n.modTime = e.1.modTime.bmod (2 ^ 64)

/-- The tree holds every entry of the archive with the directories above it, and no more. -/
structure Equals (host : Host) (entries : Archive) (files : Files) : Prop where
  present : ∀ e ∈ entries, destination e.1.name ≠ [] →
    ∃ n, files.lookup (destination e.1.name) = some n ∧ Restores host e n
  parents : ∀ e ∈ entries, ∀ q, q <+: destination e.1.name → q ≠ destination e.1.name →
    files.isDirectory q = true
  only : ∀ q n, files.lookup q = some n → (∃ e ∈ entries, destination e.1.name = q) ∨
    n.kind = .directory ∧ ∃ e ∈ entries, q <+: destination e.1.name

lemma directory_of_lookup (hdir : m.files.isDirectory q = true)
    (hn : m.files.lookup q = some n) (hq : q ≠ []) : n.kind = .directory := by
  obtain ⟨d, hd, hkind⟩ := (isDirectory_iff hq).mp hdir
  rw [hn] at hd
  rw [Option.some.inj hd]
  exact hkind

/-- A node with the owner and the time of its entry. -/
def owned (header : Header) (n : Node) : Node where
  kind := n.kind
  mode := n.mode
  uid := header.uid.toNat
  gid := header.gid.toNat
  modTime := if header.modTime = zeroTime then n.modTime else header.modTime.bmod (2 ^ 64)

/-- What one entry leaves. -/
structure Added (host : Host) (e : Header × Bytes) (m m' : Machine) : Prop where
  files : ∀ q n, n.kind ≠ .directory → m.files.lookup q = some n → m'.files.lookup q = some n
  directories : ∀ q, m.files.isDirectory q = true → m'.files.isDirectory q = true
  elsewhere : ∀ q, q = [] ∨ ¬ q <+: destination e.1.name →
    skeleton m'.files q = skeleton m.files q
  way : ∀ q, q <+: destination e.1.name → (IsFile e.1 → q ≠ destination e.1.name) →
    m'.files.isDirectory q = true
  file : IsFile e.1 → destination e.1.name ≠ [] ∧
    ∃ n, m'.files.lookup (destination e.1.name) = some n ∧ Restores host e n

lemma prefix_dropLast (h : q <+: p) (hne : q ≠ p) : q <+: p.dropLast := by
  obtain ⟨rest, rfl⟩ := h
  have hrest : rest ≠ [] := by
    rintro rfl
    exact hne (List.append_nil q).symm
  rw [List.dropLast_append_of_ne_nil hrest]
  exact List.prefix_append _ _

/-- The tree holds the files among the entries read, and directories on the way to all of them;
the directories among the entries are collected. -/
structure Placed (host : Host) (done : Archive) (ds : List Header) (m : Machine) : Prop where
  file : ∀ e ∈ done, IsFile e.1 → destination e.1.name ≠ [] ∧
    ∃ n, m.files.lookup (destination e.1.name) = some n ∧ Restores host e n
  way : ∀ e ∈ done, ∀ q, q <+: destination e.1.name →
    (IsFile e.1 → q ≠ destination e.1.name) → m.files.isDirectory q = true
  only : ∀ q n, m.files.lookup q = some n →
    (∃ e ∈ done, IsFile e.1 ∧ destination e.1.name = q) ∨
      n.kind = .directory ∧ ∃ e ∈ done, q <+: destination e.1.name
  met : ds = (done.filter fun e => ¬ IsFile e.1).map (·.1)

lemma Restores.regular (h : Restores host e n) (hfile : IsFile e.1) : n.kind ≠ .directory := by
  rw [h.kind, if_pos hfile]
  exact Kind.noConfusion

/-- **One more entry.** -/
lemma Placed.snoc (h : Placed host done ds m) (ha : Added host e m m') :
    Placed host (done ++ [e]) (if IsFile e.1 then ds else ds ++ [e.1]) m' where
  file := by
    intro f hf hfile
    rcases List.mem_append.mp hf with hf | hf
    · obtain ⟨hp, n, hn, hr⟩ := h.file f hf hfile
      exact ⟨hp, n, ha.files _ n (hr.regular hfile) hn, hr⟩
    · rw [List.mem_singleton.mp hf] at hfile ⊢
      exact ha.file hfile
  way := by
    intro f hf q hq hne
    rcases List.mem_append.mp hf with hf | hf
    · exact ha.directories q (h.way f hf q hq hne)
    · rw [List.mem_singleton.mp hf] at hq hne
      exact ha.way q hq hne
  only := by
    intro q n hn
    by_cases hq : q = [] ∨ ¬ q <+: destination e.1.name
    · have hskel := ha.elsewhere q hq
      unfold skeleton at hskel
      rw [hn, Option.map_some] at hskel
      obtain ⟨d, hd, hfixed⟩ := Option.map_eq_some_iff.mp hskel.symm
      have hkind : d.kind = n.kind := by rw [← fixed_kind, hfixed, fixed_kind]
      rcases h.only q d hd with ⟨f, hf, hfile⟩ | ⟨hdir, f, hf, hprefix'⟩
      · exact .inl ⟨f, List.mem_append_left _ hf, hfile⟩
      · exact .inr ⟨hkind ▸ hdir, f, List.mem_append_left _ hf, hprefix'⟩
    · rw [not_or, not_not] at hq
      by_cases hhere : IsFile e.1 ∧ q = destination e.1.name
      · exact .inl ⟨e, by simp, hhere.1, hhere.2.symm⟩
      · have hdir := ha.way q hq.2 fun hfile heq => hhere ⟨hfile, heq⟩
        exact .inr ⟨directory_of_lookup hdir hn hq.1, e, by simp, hq.2⟩
  met := by
    rw [h.met, List.filter_append, List.map_append]
    by_cases hfile : IsFile e.1 <;> simp [hfile]

abbrev check : Unit → Header → Bytes → Helper Unit := fun _ _ _ => pure ()

/-- An entry the extraction can handle. -/
def Sound (e : Header × Bytes) : Prop :=
  e.1.typeflag ≠ .other ∧ (IsFile e.1 → e.2.length = e.1.size.toNat)

/-- The restore fails and leaves the volume as it was, or ends well and leaves the archive's
tree. -/
def Harmless (host : Host) (sourceRoot backupRoot : Bytes) (archiveName : String)
    (m : Machine) : Prop :=
  match outcome (run host "restore" sourceRoot backupRoot archiveName) m with
  | (.ok (), m') => ∃ entries, m.archives.lookup archiveName = some (.tar entries true) ∧
      Equals host entries m'.files
  | (.error _, m') => ∀ q, m'.files.lookup q = m.files.lookup q

section Run

variable {sourceRoot backupRoot : Bytes} {archiveName : String}
  {archives : AList fun _ : String => Stored} {ticks : ℕ} {complete : Bool}

end Run

end GatewayControl.RestoredTree
