import GatewayControl.Host
import GatewayControl.Traces

/-!
Runs of programs on the host with what they have performed: a file is replaced exactly if its
rename succeeds, and the steps after the rename may still fail.
-/

namespace GatewayControl.HostRuns

open Programs Host Traces

variable {D : Type} {links : String → String}
  {run : HostState D → D → List String → RunResult → D → Prop} {h h' : HostState D}
  {es : List (Event interface)}

/-- The effects over a Docker that may depend on the files. -/
abbrev hostExec (links : String → String)
    (run : HostState D → D → List String → RunResult → D → Prop) (h : HostState D) :
    (o : HostOp) → o.Res → HostState D → Prop :=
  hostEffect links (run h) h

lemma runs_eff {exec : HostState D → (o : HostOp) → o.Res → HostState D → Prop} {o : HostOp}
    {r : o.Res} (hrun : Runs (F := interface) exec (eff o) h es r h') :
    es = [⟨o, r⟩] ∧ exec h o r h' := by
  obtain ⟨r', u, rest, rfl, hexec, rfl, rfl, rfl⟩ := hrun
  exact ⟨rfl, hexec⟩

/-- Only a Docker command changes what Docker has. -/
lemma effect_docker {run : D → List String → RunResult → D → Prop} {o : HostOp} {r : o.Res}
    (ho : ∀ args, o ≠ .docker args) (hexec : hostEffect links run h o r h') :
    h'.docker = h.docker := by
  cases o with
  | docker args => exact absurd rfl (ho args)
  | rename path =>
    rcases hexec with ⟨-, rfl⟩ | ⟨-, rfl⟩
    · unfold HostState.renamed
      split
      · rfl
      · rfl
    · rfl
  | remove path =>
    rcases hexec with ⟨-, rfl⟩ | ⟨-, -, rfl⟩ | ⟨-, rfl⟩
    · rfl
    · rfl
    · rfl
  | writeTemporary d c =>
    rcases hexec with ⟨-, rfl⟩ | ⟨-, rfl⟩
    · rfl
    · rfl
  | removeTemporary =>
    obtain rfl := hexec
    rfl
  | evalSymlinks path => rw [hexec.1]
  | lstat path => rw [hexec.1]
  | readFile path => rw [hexec.1]
  | _ => rw [show h' = h from hexec]

/-- Only renaming and removing changes the files. -/
lemma effect_files {run : D → List String → RunResult → D → Prop} {o : HostOp} {r : o.Res}
    (hrename : ∀ path, o ≠ .rename path) (hremove : ∀ path, o ≠ .remove path)
    (hexec : hostEffect links run h o r h') : h'.files = h.files := by
  cases o with
  | docker args =>
    obtain ⟨d, -, rfl⟩ := hexec
    rfl
  | rename path => exact absurd rfl (hrename path)
  | remove path => exact absurd rfl (hremove path)
  | writeTemporary d c =>
    rcases hexec with ⟨-, rfl⟩ | ⟨-, rfl⟩
    · rfl
    · rfl
  | removeTemporary =>
    obtain rfl := hexec
    rfl
  | evalSymlinks path => rw [hexec.1]
  | lstat path => rw [hexec.1]
  | readFile path => rw [hexec.1]
  | _ => rw [show h' = h from hexec]

lemma write_only {φ : HostOp → Prop} {directory name : String} {contents : Contents}
    (hw : φ (.writeTemporary directory contents)) (hr : φ (.rename (join directory name)))
    (hc : φ (.chmod (join directory name))) (hs : φ (.syncDirectory directory))
    (ht : φ .removeTemporary) : (writeFileAtomically directory name contents).run.Only φ := by
  refine Prog.Only.bind (only_bind (only_eff hw) fun _ => only_bind (only_eff hr) fun _ =>
    only_bind (only_eff hc) fun _ => only_eff hs) fun _ => Prog.Only.bind (only_eff ht) fun _ => ?_
  trivial

lemma read_only {φ : HostOp → Prop} {path : String} (hl : φ (.lstat path))
    (hr : φ (.readFile path)) : (readRegularFile path).run.Only φ := by
  refine only_bind (only_eff hl) fun kind => ?_
  rcases kind with _ | _ | _ | _
  · trivial
  · exact only_bind (only_eff hr) fun _ => trivial
  · trivial
  · trivial

/-- An effect on files that reports no error. -/
def Done : Event interface → Prop
  | ⟨.writeTemporary _ _, r⟩ => r = .ok ()
  | ⟨.rename _, r⟩ => r = .ok ()
  | ⟨.chmod _, r⟩ => r = .ok ()
  | ⟨.syncDirectory _, r⟩ => r = .ok ()
  | _ => True

/-- Renaming a new file over the path has succeeded. -/
def Replaced (path : String) (es : List (Event interface)) : Prop :=
  ⟨.rename path, .ok ()⟩ ∈ es

lemma write_runs {directory name : String} {contents : Contents} {r : Except String Unit}
    (hrun : Runs (F := interface) (hostExec links run)
      (writeFileAtomically directory name contents).run h es r h') :
    h'.docker = h.docker ∧ (r = .ok () ↔ ∀ ev ∈ es, Done ev) ∧
      (r = .ok () → Replaced (join directory name) es) ∧
      (Replaced (join directory name) es →
        h'.files = Function.update h.files (join directory name) (some (.regular contents))) ∧
      (¬ Replaced (join directory name) es → h'.files = h.files) := by
  obtain ⟨es₁, es₂, written, h₁, rfl, hinner, hrest⟩ := runs_bind.mp hrun
  obtain ⟨es₃, es₄, _, h₂, rfl, hclean, hend⟩ := runs_bind.mp hrest
  obtain ⟨rfl, rfl, rfl⟩ := hend
  obtain ⟨rfl, rfl⟩ := runs_eff hclean
  rcases runs_bind_ok hinner with ⟨_, _, _, _, rfl, hwrite, hinner⟩ | ⟨err, rfl, hwrite⟩
  · obtain ⟨rfl, ⟨-, rfl⟩ | ⟨⟨_, habs⟩, -⟩⟩ := runs_eff hwrite
    · rcases runs_bind_ok hinner with ⟨_, _, _, _, rfl, hrename, hinner⟩ | ⟨err, rfl, hrename⟩
      · obtain ⟨rfl, ⟨-, rfl⟩ | ⟨⟨_, habs⟩, -⟩⟩ := runs_eff hrename
        · rcases runs_bind_ok hinner with ⟨_, _, _, _, rfl, hchmod, hsync⟩ | ⟨err, rfl, hchmod⟩
          · obtain ⟨rfl, rfl⟩ := runs_eff hchmod
            obtain ⟨rfl, rfl⟩ := runs_eff hsync
            refine ⟨rfl, ?_, ?_, ?_, ?_⟩ <;> simp [Done, Replaced, HostState.renamed]
          · obtain ⟨rfl, rfl⟩ := runs_eff hchmod
            refine ⟨rfl, ?_, ?_, ?_, ?_⟩ <;> simp [Done, Replaced, HostState.renamed]
        · cases habs
      · obtain ⟨rfl, ⟨habs, -⟩ | ⟨-, rfl⟩⟩ := runs_eff hrename
        · cases habs
        · refine ⟨rfl, ?_, ?_, ?_, ?_⟩ <;> simp [Done, Replaced]
    · cases habs
  · obtain ⟨rfl, ⟨habs, -⟩ | ⟨-, rfl⟩⟩ := runs_eff hwrite
    · cases habs
    · refine ⟨rfl, ?_, ?_, ?_, ?_⟩ <;> simp [Done, Replaced]

/-- What is read is what is there. -/
lemma read_runs {path : String} {r : Except String (Option Contents)}
    (hrun : Runs (F := interface) (hostExec links run) (readRegularFile path).run h es r h') :
    h' = h ∧ ∀ previous, r = .ok previous → h.files path = previous.map .regular := by
  rcases runs_bind_ok hrun with ⟨_, _, kind, _, rfl, hlstat, hread⟩ | ⟨err, rfl, hlstat⟩
  · obtain ⟨rfl, rfl, hdescribes⟩ := runs_eff hlstat
    have hkind := hdescribes kind rfl
    rcases kind with _ | _ | _ | _
    · obtain ⟨rfl, rfl, rfl⟩ := hread
      refine ⟨rfl, ?_⟩
      rintro _ ⟨⟩
      rcases hf : h'.files path with _ | _ | _
      · rfl
      · rw [hf] at hkind
        cases hkind
      · rw [hf] at hkind
        cases hkind
    · rcases runs_bind_ok hread with ⟨_, _, c, _, rfl, hfile, hend⟩ | ⟨err, rfl, hfile⟩
      · obtain ⟨rfl, rfl, hc⟩ := runs_eff hfile
        obtain ⟨rfl, rfl, rfl⟩ := hend
        refine ⟨rfl, ?_⟩
        rintro _ ⟨⟩
        exact hc c rfl
      · exact ⟨(runs_eff hfile).2.1, by simp⟩
    · obtain ⟨rfl, rfl, rfl⟩ := hread
      exact ⟨rfl, by simp⟩
    · obtain ⟨rfl, rfl, rfl⟩ := hread
      exact ⟨rfl, by simp⟩
  · exact ⟨(runs_eff hlstat).2.1, by simp⟩

end GatewayControl.HostRuns
