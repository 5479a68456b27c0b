import Mathlib.Data.List.TakeWhile
import GatewayControl.DeploymentApply
import GatewayControl.HostRuns
import GatewayControl.RestoreJournal

/-!
What a failed deployment leaves behind.

The definition is replaced before Docker Compose applies it, and taken back afterwards. It stays
behind where its replacement fails after the rename, and what is put back is what the control
plane knows of the project, not what there was. `restored_iff` says exactly when a deployment that
does not report a failed compensation has left everything as it was.
-/

namespace GatewayControl.DeploymentCompensation

open Text AgentTypes Programs Host Traces HostRuns DeploymentApply

variable {e : Executor} {p : DeploymentPayload} {links : String → String} {up : Up}
  {h h' : HostState (Set String)} {es : List (Event interface)}

/-! ### Runs of the steps -/

abbrev Steps (e : Executor) (p : DeploymentPayload) (links : String → String) (up : Up)
    {α : Type} (program : HostProg α) :=
  Runs (F := interface) (deploymentEffect e p links up) program

/-- An effect that neither changes a file nor the running services. -/
def Still (e : Executor) (p : DeploymentPayload) : HostOp → Prop
  | .docker args => args = configArgs e p ∨ args = psArgs e p
  | .rename _ | .remove _ => False
  | _ => True

/-- What a deployment is to leave as it was. -/
def kept (h : HostState (Set String)) : (String → Option Node) × Set String := (h.files, h.docker)

lemma effect_still {o : HostOp} {r : o.Res} (ho : Still e p o)
    (hexec : deploymentEffect e p links up h o r h') : kept h' = kept h := by
  have hfiles : h'.files = h.files := by
    refine effect_files ?_ ?_ hexec
    · rintro path rfl
      exact ho
    · rintro path rfl
      exact ho
  have hdocker : h'.docker = h.docker := by
    by_cases hargs : ∃ args, o = .docker args
    · obtain ⟨args, rfl⟩ := hargs
      obtain ⟨running, hran, rfl⟩ := hexec
      rcases ho with ho | ho
      · exact hran.config ho
      · exact hran.ps ho
    · exact effect_docker (fun args heq => hargs ⟨args, heq⟩) hexec
  exact Prod.ext hfiles hdocker

lemma steps_still {α : Type} {program : HostProg α} {a : α} (hp : program.Only (Still e p))
    (hrun : Steps e p links up program h es a h') : kept h' = kept h :=
  runs_frame hp (fun _ _ _ _ ho hexec => effect_still ho hexec) hrun

/-! ### Answers without an error -/

/-- What does not fail, of the steps of a compensation; the candidate is removed in any case. -/
def Fine (e : Executor) (p : DeploymentPayload) (candidate : String) : Event interface → Prop
  | ⟨.docker args, r⟩ =>
      r.err = none ∧ (args = psArgs e p →
        r.output.truncated = false ∧ trimSpace r.output.stdout ≠ "")
  | ⟨.remove path, r⟩ => path = candidate ∨ r.isOk
  | ev => Done ev

variable {candidate : String}

lemma fine_iff_done {ev : Event interface} (hdocker : ∀ args, ev.1 ≠ .docker args)
    (hremove : ∀ path, ev.1 ≠ .remove path) : Fine e p candidate ev ↔ Done ev := by
  obtain ⟨o, r⟩ := ev
  cases o with
  | docker args => exact absurd rfl (hdocker args)
  | remove path => exact absurd rfl (hremove path)
  | _ => rfl

lemma write_spec (candidate : String) {directory name : String} {contents : Contents}
    {r : Except String Unit}
    (hrun : Steps e p links up (writeFileAtomically directory name contents).run h es r h') :
    h'.docker = h.docker ∧ (r = .ok () ↔ ∀ ev ∈ es, Fine e p candidate ev) ∧
      (r = .ok () → Replaced (join directory name) es) ∧
      (Replaced (join directory name) es →
        h'.files = Function.update h.files (join directory name) (some (.regular contents))) ∧
      (¬ Replaced (join directory name) es → h'.files = h.files) := by
  obtain ⟨hdocker, hdone, hfiles⟩ := write_runs hrun
  refine ⟨hdocker, hdone.trans (forall₂_congr fun ev hev => ?_), hfiles⟩
  have hother := runs_only (write_only (φ := fun o => (∀ args, o ≠ .docker args) ∧
    ∀ path, o ≠ .remove path) (by simp) (by simp) (by simp) (by simp) (by simp)) hrun ev hev
  exact (fine_iff_done hother.1 hother.2).symm

lemma remove_spec {directory name : String} {r : Except String Unit}
    (hne : join directory name ≠ candidate)
    (hrun : Steps e p links up (removeFileAndSync directory name).run h es r h') :
    h'.docker = h.docker ∧ (r = .ok () ↔ ∀ ev ∈ es, Fine e p candidate ev) ∧
      (r = .ok () → h'.files = Function.update h.files (join directory name) none) := by
  rcases runs_bind_ok hrun with ⟨_, _, _, _, rfl, hremove, hsync⟩ | ⟨err, rfl, hremove⟩
  · obtain ⟨rfl, rfl⟩ := runs_eff hsync
    obtain ⟨rfl, ⟨heq, rfl⟩ | ⟨heq, hnone, rfl⟩ | ⟨⟨_, habs⟩, -⟩⟩ := runs_eff hremove
    · obtain rfl := Except.ok.inj heq
      exact ⟨rfl, by simp [Fine, Done, Except.isOk, Except.toBool], fun _ => rfl⟩
    · obtain rfl := Except.ok.inj heq
      refine ⟨rfl, by simp [Fine, Done, Except.isOk, Except.toBool], fun _ => ?_⟩
      rw [← hnone, Function.update_eq_self]
    · cases habs
  · obtain ⟨rfl, ⟨habs, -⟩ | ⟨habs, -, -⟩ | ⟨-, rfl⟩⟩ := runs_eff hremove
    · cases habs
    · cases habs
    · exact ⟨rfl, by simp [Fine, hne, Except.isOk, Except.toBool], by simp⟩

/-- What is put back is what was read. -/
lemma restoreFile_spec {directory name : String} {previous : Option Contents}
    {r : Except String Unit} (hne : join directory name ≠ candidate)
    (hrun : Steps e p links up (restoreFile directory name previous).run h es r h') :
    h'.docker = h.docker ∧ (r = .ok () ↔ ∀ ev ∈ es, Fine e p candidate ev) ∧
      (r = .ok () →
        h'.files = Function.update h.files (join directory name) (previous.map .regular)) := by
  cases previous with
  | none => exact remove_spec hne hrun
  | some contents =>
    obtain ⟨hdocker, hfine, hrename, hfiles, -⟩ := write_spec candidate hrun
    exact ⟨hdocker, hfine, fun hok => hfiles (hrename hok)⟩

lemma restorePrior_spec {directory : String} {ok : Bool}
    (hrun : Steps e p links up (restorePrior e p directory) h es ok h') :
    (ok = true ↔ ∀ ev ∈ es, Fine e p candidate ev) ∧
      (ok = true →
        h'.files = Function.update h.files (join directory composeName)
          (some (.regular (.text p.priorCompose))) ∧
        h'.docker = up h'.files (upArgs e p)) := by
  obtain ⟨es₁, es₂, written, h₁, rfl, hwrite, hrest⟩ := runs_bind.mp hrun
  obtain ⟨-, hfine, hrename, hfiles, -⟩ := write_spec candidate hwrite
  cases written with
  | error err =>
    obtain ⟨rfl, rfl, rfl⟩ := hrest
    rw [List.append_nil]
    exact ⟨⟨fun h => by simp at h, fun h => absurd (hfine.mpr h) (by simp)⟩, fun h => by simp at h⟩
  | ok _ =>
    obtain ⟨es₃, es₄, r, h₂, rfl, hup, hrest⟩ := runs_bind.mp hrest
    obtain ⟨rfl, running, hran, rfl⟩ := runs_eff hup
    have hwritten := hfine.mp rfl
    have hnotps : upArgs e p ≠ psArgs e p := by
      unfold upArgs psArgs composeArgs
      simp
    split at hrest
    · next herr =>
      obtain ⟨rfl, rfl, rfl⟩ := hrest
      refine ⟨⟨fun h => by simp at h, fun h => ?_⟩, fun h => by simp at h⟩
      have hfail := (h ⟨.docker (upArgs e p), r⟩ (by simp)).1
      rw [hfail] at herr
      cases herr
    · next herr =>
      rw [Option.not_isSome_iff_eq_none] at herr
      obtain ⟨es₅, es₆, v, h₃, rfl, hps, hrest⟩ := runs_bind.mp hrest
      obtain ⟨rfl, running', hran', rfl⟩ := runs_eff hps
      obtain ⟨rfl, rfl, rfl⟩ := hrest
      have hfinal := hran'.ps rfl
      constructor
      · constructor
        · intro hok ev hev
          simp only [List.append_nil, List.mem_append, List.mem_singleton] at hev
          simp only [Bool.and_eq_true, Option.isNone_iff_eq_none, Bool.not_eq_true',
            decide_eq_true_eq] at hok
          rcases hev with hev | rfl | rfl
          · exact hwritten ev hev
          · exact ⟨herr, fun heq => absurd heq hnotps⟩
          · exact ⟨hok.1.1, fun _ => ⟨hok.1.2, hok.2⟩⟩
        · intro hall
          obtain ⟨hverified, hout⟩ := hall ⟨.docker (psArgs e p), v⟩ (by simp)
          obtain ⟨hwhole, htext⟩ := hout rfl
          simp [hverified, hwhole, htext]
      · intro _
        refine ⟨hfiles (hrename rfl), ?_⟩
        change running' = up h₁.files (upArgs e p)
        rw [hfinal]
        exact hran.up rfl herr

lemma removeInitial_spec {directory : String} {previous : Option Contents} {ok : Bool}
    (hne : join directory composeName ≠ candidate)
    (hrun : Steps e p links up (removeInitial e p directory previous) h es ok h') :
    (ok = true ↔ ∀ ev ∈ es, Fine e p candidate ev) ∧
      (ok = true →
        h'.files = Function.update h.files (join directory composeName)
          (previous.map .regular) ∧ h'.docker = ∅) := by
  obtain ⟨es₁, es₂, r, h₁, rfl, hdown, hrest⟩ := runs_bind.mp hrun
  obtain ⟨rfl, running, hran, rfl⟩ := runs_eff hdown
  obtain ⟨es₃, es₄, restored, h₂, rfl, hrestore, hend⟩ := runs_bind.mp hrest
  obtain ⟨rfl, rfl, rfl⟩ := hend
  obtain ⟨hdocker, hfine, hfiles⟩ := restoreFile_spec hne hrestore
  have hnotps : downArgs e p ≠ psArgs e p := by
    unfold downArgs psArgs composeArgs
    simp
  have hok : restored.isOk = true ↔ restored = .ok () := by
    cases restored with
    | error err => simp [Except.isOk, Except.toBool]
    | ok _ => simp [Except.isOk, Except.toBool]
  rw [Bool.and_eq_true, Option.isNone_iff_eq_none, hok]
  constructor
  · constructor
    · rintro ⟨herr, hrestored⟩ ev hev
      simp only [List.append_nil, List.mem_append, List.mem_singleton] at hev
      rcases hev with rfl | hev
      · exact ⟨herr, fun heq => absurd heq hnotps⟩
      · exact hfine.mp hrestored ev hev
    · intro hall
      exact ⟨(hall ⟨.docker (downArgs e p), r⟩ (by simp)).1,
        hfine.mpr fun ev hev => hall ev (by simp [hev])⟩
  · rintro ⟨herr, hrestored⟩
    refine ⟨hfiles hrestored, ?_⟩
    rw [hdocker]
    exact hran.down rfl herr

/-- What is there after a compensation that succeeds. -/
def Compensated (e : Executor) (p : DeploymentPayload) (up : Up) (path : String)
    (previous : Option Contents) (h h' : HostState (Set String)) : Prop :=
  if p.priorRevisionId ≠ "" then
    h'.files = Function.update h.files path (some (.regular (.text p.priorCompose))) ∧
      h'.docker = up h'.files (upArgs e p)
  else
    h'.files = Function.update h.files path (previous.map .regular) ∧ h'.docker = ∅

lemma compensate_spec {directory : String} {previous : Option Contents} {r : Bool × String}
    (hne : join directory composeName ≠ candidate)
    (hrun : Steps e p links up (compensate e p directory previous) h es r h') :
    (r.1 = true ↔ ∀ ev ∈ es, Fine e p candidate ev) ∧
      (r.1 = true → Compensated e p up (join directory composeName) previous h h') := by
  unfold compensate at hrun
  unfold Compensated
  split at hrun
  · next hprior =>
    obtain ⟨es₁, es₂, ok, h₁, rfl, hprogram, hend⟩ := runs_bind.mp hrun
    obtain ⟨rfl, rfl, rfl⟩ := hend
    rw [List.append_nil, if_pos hprior]
    exact restorePrior_spec hprogram
  · next hprior =>
    obtain ⟨es₁, es₂, ok, h₁, rfl, hprogram, hend⟩ := runs_bind.mp hrun
    obtain ⟨rfl, rfl, rfl⟩ := hend
    rw [List.append_nil, if_neg hprior]
    exact removeInitial_spec hne hprogram

/-! ### Which way a deployment goes -/

/-- What happens from the first `up` on. -/
def fromUp (e : Executor) (p : DeploymentPayload) (es : List (Event interface)) :
    List (Event interface) :=
  es.dropWhile fun ev => ev.1 ≠ .docker (upArgs e p)

def Started (e : Executor) (p : DeploymentPayload) (es : List (Event interface)) : Prop :=
  fromUp e p es ≠ []

/-- The first `up` fails, and nothing that undoes it does. -/
def Undone (e : Executor) (p : DeploymentPayload) (candidate : String)
    (es : List (Event interface)) : Prop :=
  ∃ r after, fromUp e p es = ⟨.docker (upArgs e p), r⟩ :: after ∧ r.err ≠ none ∧
    ∀ ev ∈ after, Fine e p candidate ev

/-- Effects before the deployment touches anything but its candidate. -/
def Early (e : Executor) (p : DeploymentPayload) (path : String) (o : HostOp) : Prop :=
  o ≠ .docker (upArgs e p) ∧ o ≠ .rename path

lemma fromUp_append (hes : ∀ ev ∈ es, ev.1 ≠ .docker (upArgs e p))
    (rest : List (Event interface)) : fromUp e p (es ++ rest) = fromUp e p rest :=
  List.dropWhile_append_of_pos fun ev hev => decide_eq_true (hes ev hev)

lemma fromUp_early {path : String} (hes : ∀ ev ∈ es, Early e p path ev.1)
    (rest : List (Event interface)) : fromUp e p (es ++ rest) = fromUp e p rest :=
  fromUp_append (fun ev hev => (hes ev hev).1) rest

lemma fromUp_up {r : RunResult} (rest : List (Event interface)) :
    fromUp e p (⟨.docker (upArgs e p), r⟩ :: rest) = ⟨.docker (upArgs e p), r⟩ :: rest := by
  simp [fromUp]

lemma fromUp_cons {ev : Event interface} {after rest : List (Event interface)}
    (hstart : fromUp e p es = ev :: after) : fromUp e p (es ++ rest) = ev :: (after ++ rest) := by
  unfold fromUp at hstart ⊢
  rw [List.dropWhile_append, hstart]
  simp

lemma fromUp_nil (hstart : fromUp e p es = []) : ∀ ev ∈ es, ev.1 ≠ .docker (upArgs e p) :=
  fun ev hev => of_decide_eq_true (List.dropWhile_eq_nil_iff.mp hstart ev hev)

lemma started_of {ev : Event interface} {after : List (Event interface)}
    (hstart : fromUp e p es = ev :: after) : Started e p es := by
  intro hnil
  rw [hnil] at hstart
  cases hstart

lemma up_inj {r r' : RunResult} {after after' : List (Event interface)}
    (heq : (⟨.docker (upArgs e p), r⟩ : Event interface) :: after =
      ⟨.docker (upArgs e p), r'⟩ :: after') : r = r' ∧ after = after' := by
  obtain ⟨hev, rfl⟩ := List.cons.inj heq
  exact ⟨eq_of_heq (Sigma.mk.inj hev).2, rfl⟩

lemma not_undone (hstart : fromUp e p es = []) : ¬ Undone e p candidate es := by
  rintro ⟨r, after, heq, -⟩
  rw [hstart] at heq
  cases heq

lemma not_replaced {path : String} (hes : ∀ ev ∈ es, Early e p path ev.1) :
    ¬ Replaced path es := fun hmem => (hes _ hmem).2 rfl

/-- What the steps of a deployment may leave of the definition at a path and of the services. -/
inductive Course (e : Executor) (p : DeploymentPayload) (up : Up) (path candidate : String)
    (h : HostState (Set String)) (es : List (Event interface)) (res : CommandResult)
    (h' : HostState (Set String)) : Prop where
  | untouched (hfailed : res.success = false) (hmessage : res.message = "")
      (hreplaced : ¬ Replaced path es) (hstart : fromUp e p es = [])
      (hfile : h'.files path = h.files path) (hservices : h'.docker = h.docker)
  | stored (hfailed : res.success = false) (hmessage : res.message = "")
      (hreplaced : Replaced path es) (hstart : fromUp e p es = [])
      (hfile : h'.files path = some (.regular (.text p.sourceCompose)))
      (hservices : h'.docker = h.docker)
  | applied (r : RunResult) (after : List (Event interface)) (hdone : res.success = true)
      (hstart : fromUp e p es = ⟨.docker (upArgs e p), r⟩ :: after) (hok : r.err = none)
  | undone (ok : Bool) (status : String) (r : RunResult) (after : List (Event interface))
      (hfailed : res.success = false) (hmessage : res.message = compensationMessage ok status)
      (hstart : fromUp e p es = ⟨.docker (upArgs e p), r⟩ :: after) (herr : r.err ≠ none)
      (hok : ok = true ↔ ∀ ev ∈ after, Fine e p candidate ev)
      (hleft : ok = true →
        if p.priorRevisionId ≠ "" then
          h'.files path = some (.regular (.text p.priorCompose)) ∧
            h'.docker = up (Function.update (Function.update h.files candidate
              (some (.regular (.text p.sourceCompose)))) path
              (some (.regular (.text p.priorCompose)))) (upArgs e p)
        else h'.files path = h.files path ∧ h'.docker = ∅)

variable {path : String} {res : CommandResult}

lemma Course.after_early {es₁ es₂ : List (Event interface)}
    (hes : ∀ ev ∈ es₁, Early e p path ev.1)
    (hcourse : Course e p up path candidate h es₂ res h') :
    Course e p up path candidate h (es₁ ++ es₂) res h' := by
  cases hcourse with
  | untouched hfailed hmessage hreplaced hstart hfile hservices =>
    refine .untouched hfailed hmessage (fun hmem => ?_) ?_ hfile hservices
    · rcases List.mem_append.mp hmem with hmem | hmem
      · exact not_replaced hes hmem
      · exact hreplaced hmem
    · rw [fromUp_early hes, hstart]
  | stored hfailed hmessage hreplaced hstart hfile hservices =>
    refine .stored hfailed hmessage (List.mem_append_right _ hreplaced) ?_ hfile hservices
    rw [fromUp_early hes, hstart]
  | applied r after hdone hstart hok =>
    refine .applied r after hdone ?_ hok
    rw [fromUp_early hes, hstart]
  | undone ok status r after hfailed hmessage hstart herr hok hleft =>
    refine .undone ok status r after hfailed hmessage ?_ herr hok hleft
    rw [fromUp_early hes, hstart]

/-- Removing the candidate changes neither the definition nor the services. -/
lemma Course.candidate_removed {h'' : HostState (Set String)} {r : Except String Bool}
    (hcourse : Course e p up path candidate h es res h') (hfiles : h''.files path = h'.files path)
    (hdocker : h''.docker = h'.docker) :
    Course e p up path candidate h (es ++ [⟨.remove candidate, r⟩]) res h'' := by
  cases hcourse with
  | untouched hfailed hmessage hreplaced hstart hfile hservices =>
    refine .untouched hfailed hmessage (fun hmem => ?_) ?_ (hfiles.trans hfile)
      (hdocker.trans hservices)
    · rcases List.mem_append.mp hmem with hmem | hmem
      · exact hreplaced hmem
      · simp at hmem
    · rw [fromUp_append (fromUp_nil hstart)]
      simp [fromUp]
  | stored hfailed hmessage hreplaced hstart hfile hservices =>
    refine .stored hfailed hmessage (List.mem_append_left _ hreplaced) ?_ (hfiles.trans hfile)
      (hdocker.trans hservices)
    rw [fromUp_append (fromUp_nil hstart)]
    simp [fromUp]
  | applied r' after hdone hstart hok =>
    exact .applied r' (after ++ [⟨.remove candidate, r⟩]) hdone (fromUp_cons hstart) hok
  | undone ok status r' after hfailed hmessage hstart herr hok hleft =>
    refine .undone ok status r' (after ++ [⟨.remove candidate, r⟩]) hfailed hmessage
      (fromUp_cons hstart) herr ?_ fun h => ?_
    · rw [hok]
      constructor
      · intro hall ev hev
        rcases List.mem_append.mp hev with hev | hev
        · exact hall ev hev
        · obtain rfl := List.mem_singleton.mp hev
          exact .inl rfl
      · exact fun hall ev hev => hall ev (List.mem_append_left _ hev)
    · have := hleft h
      rw [hfiles, hdocker]
      exact this

/-! ### The steps of a deployment -/

lemma join_ne {directory a b : String} (hab : a ≠ b) : join directory a ≠ join directory b := by
  unfold join
  split
  · simpa using hab
  · simpa using hab

lemma candidateName_ne (p : DeploymentPayload) : candidateName p ≠ composeName := by
  intro heq
  have := congrArg String.toList heq
  simp [candidateName, composeName, String.toList_append] at this

lemma early_of_looks {o : HostOp} (ho : RestoreJournal.Looks o) : Early e p path o := by
  refine ⟨?_, ?_⟩
  · rintro rfl
    exact ho
  · rintro rfl
    exact ho

lemma still_of_looks {o : HostOp} (ho : RestoreJournal.Looks o) : Still e p o := by
  cases o with
  | docker args => exact absurd ho id
  | rename path => exact absurd ho id
  | remove path => exact absurd ho id
  | _ => trivial

/-- Nothing is done to the host when a step before the replacement fails. -/
lemma failure_spec {result : CommandResult} {err : String}
    (hrun : Steps e p links up (failure e result err) h es res h') :
    es = [⟨.now, res.finishedAt⟩] ∧ h' = h ∧ res.success = result.success ∧
      res.message = result.message := by
  obtain ⟨es₁, es₂, now, h₁, rfl, hnow, rfl, rfl, rfl⟩ := runs_bind.mp hrun
  obtain ⟨rfl, rfl⟩ := runs_eff hnow
  exact ⟨rfl, rfl, rfl, rfl⟩

lemma failure_course {result : CommandResult} {err : String} (hfail : result.success = false)
    (hmessage : result.message = "") {h₀ : HostState (Set String)}
    (hfile : h.files path = h₀.files path) (hdocker : h.docker = h₀.docker)
    (hrun : Steps e p links up (failure e result err) h es res h') :
    Course e p up path candidate h₀ es res h' := by
  obtain ⟨rfl, rfl, hsuccess, htext⟩ := failure_spec hrun
  exact .untouched (hsuccess.trans hfail) (htext.trans hmessage) (by simp [Replaced])
    (by simp [fromUp]) hfile hdocker

lemma applyDefinition_spec {directory : String} {previous : Option Contents}
    {result : CommandResult} (hne : join directory composeName ≠ candidate)
    (hfail : result.success = false)
    (hrun : Steps e p links up (applyDefinition e p directory result previous) h es res h') :
    (∃ r after, res.success = true ∧ es = ⟨.docker (upArgs e p), r⟩ :: after ∧ r.err = none) ∨
      ∃ ok status r after, res.success = false ∧ res.message = compensationMessage ok status ∧
        es = ⟨.docker (upArgs e p), r⟩ :: after ∧ r.err ≠ none ∧
        (ok = true ↔ ∀ ev ∈ after, Fine e p candidate ev) ∧
        (ok = true → Compensated e p up (join directory composeName) previous h h') := by
  obtain ⟨es₁, es₂, r, h₁, rfl, hup, hrest⟩ := runs_bind.mp hrun
  obtain ⟨rfl, running, hran, rfl⟩ := runs_eff hup
  split at hrest
  · next hok =>
    obtain ⟨es₃, es₄, now, h₂, rfl, hnow, rfl, rfl, rfl⟩ := runs_bind.mp hrest
    exact .inl ⟨r, _, rfl, rfl, Option.isNone_iff_eq_none.mp hok⟩
  · next herr =>
    obtain ⟨es₃, es₄, ⟨ok, status⟩, h₂, rfl, hcompensate, hrest⟩ := runs_bind.mp hrest
    obtain ⟨es₅, es₆, now, h₃, rfl, hnow, rfl, rfl, rfl⟩ := runs_bind.mp hrest
    obtain ⟨rfl, rfl⟩ := runs_eff hnow
    obtain ⟨hok, hleft⟩ := compensate_spec hne hcompensate
    refine .inr ⟨ok, status, r, es₃ ++ ([⟨.now, now⟩] ++ []), hfail, rfl, rfl, ?_, ?_, hleft⟩
    · rwa [Option.isNone_iff_eq_none] at herr
    · rw [hok]
      constructor
      · intro hall ev hev
        rcases List.mem_append.mp hev with hev | hev
        · exact hall ev hev
        · obtain rfl := List.mem_singleton.mp hev
          trivial
      · exact fun hall ev hev => hall ev (List.mem_append_left _ hev)

lemma compensated_left {previous : Option Contents} {h₀ h₁ : HostState (Set String)}
    (hprevious : h₀.files path = previous.map .regular)
    (hfiles : h₁.files = Function.update (Function.update h₀.files candidate
      (some (.regular (.text p.sourceCompose)))) path (some (.regular (.text p.sourceCompose))))
    (hleft : Compensated e p up path previous h₁ h') :
    if p.priorRevisionId ≠ "" then
      h'.files path = some (.regular (.text p.priorCompose)) ∧
        h'.docker = up (Function.update (Function.update h₀.files candidate
          (some (.regular (.text p.sourceCompose)))) path
          (some (.regular (.text p.priorCompose)))) (upArgs e p)
    else h'.files path = h₀.files path ∧ h'.docker = ∅ := by
  unfold Compensated at hleft
  split
  · next hprior =>
    rw [if_pos hprior] at hleft
    obtain ⟨hafter, hdocker⟩ := hleft
    rw [hfiles, Function.update_idem] at hafter
    exact ⟨by rw [hafter, Function.update_self], by rw [hdocker, hafter]⟩
  · next hprior =>
    rw [if_neg hprior] at hleft
    obtain ⟨hafter, hdocker⟩ := hleft
    exact ⟨by rw [hafter, Function.update_self, hprevious], hdocker⟩

/-- The state before is the one that has the candidate already. -/
lemma replaceDefinition_course {directory : String} {result : CommandResult}
    {h₀ : HostState (Set String)} (hne : join directory composeName ≠ candidate)
    (hfail : result.success = false) (hmessage : result.message = "")
    (hfiles : h.files = Function.update h₀.files candidate
      (some (.regular (.text p.sourceCompose)))) (hdocker : h.docker = h₀.docker)
    (hrun : Steps e p links up (replaceDefinition e p directory result) h es res h') :
    Course e p up (join directory composeName) candidate h₀ es res h' := by
  have hbefore : h.files (join directory composeName) = h₀.files (join directory composeName) := by
    rw [hfiles, Function.update_of_ne hne]
  obtain ⟨es₁, es₂, read, h₁, rfl, hread, hrest⟩ := runs_bind.mp hrun
  have hearly : ∀ ev ∈ es₁, Early e p (join directory composeName) ev.1 :=
    runs_only (read_only ⟨by simp, by simp⟩ ⟨by simp, by simp⟩) hread
  obtain ⟨rfl, hprevious⟩ := read_runs hread
  refine .after_early hearly ?_
  cases read with
  | error err => exact failure_course hfail hmessage hbefore hdocker hrest
  | ok previous =>
    obtain ⟨es₃, es₄, written, h₂, rfl, hwrite, hrest⟩ := runs_bind.mp hrest
    have hnotup : ∀ ev ∈ es₃, ev.1 ≠ .docker (upArgs e p) :=
      runs_only (write_only (φ := fun o => o ≠ .docker (upArgs e p)) (by simp) (by simp) (by simp)
        (by simp) (by simp)) hwrite
    obtain ⟨hdocker₂, -, hrename, hnew, hold⟩ := write_spec candidate hwrite
    cases written with
    | error err =>
      obtain ⟨rfl, rfl, hsuccess, htext⟩ := failure_spec hrest
      have hstart : fromUp e p (es₃ ++ [⟨.now, res.finishedAt⟩]) = [] := by
        rw [fromUp_append hnotup]
        simp [fromUp]
      by_cases hreplaced : Replaced (join directory composeName) es₃
      · refine .stored (hsuccess.trans hfail) (htext.trans hmessage)
          (List.mem_append_left _ hreplaced) hstart ?_ (hdocker₂.trans hdocker)
        rw [hnew hreplaced, Function.update_self]
      · refine .untouched (hsuccess.trans hfail) (htext.trans hmessage) (fun hmem => ?_) hstart ?_
          (hdocker₂.trans hdocker)
        · rcases List.mem_append.mp hmem with hmem | hmem
          · exact hreplaced hmem
          · simp at hmem
        · rw [hold hreplaced, hbefore]
    | ok _ =>
      have hstored := hnew (hrename rfl)
      rcases applyDefinition_spec hne hfail hrest with
        ⟨r, after, hdone, rfl, hok⟩ | ⟨ok, status, r, after, hfailed, htext, rfl, herr, hok, hleft⟩
      · refine .applied r after hdone ?_ hok
        rw [fromUp_append hnotup, fromUp_up]
      · refine .undone ok status r after hfailed htext ?_ herr hok fun h => ?_
        · rw [fromUp_append hnotup, fromUp_up]
        · refine compensated_left ?_ ?_ (hleft h)
          · rw [← hbefore, hprevious previous rfl]
          · rw [hstored, hfiles]

lemma applyCandidate_course {directory : String} {result : CommandResult}
    {h₀ : HostState (Set String)} (hsame : h.files = h₀.files) (hservices : h.docker = h₀.docker)
    (haction : p.action ≠ "stop") (hfail : result.success = false) (hmessage : result.message = "")
    (hrun : Steps e p links up (applyCandidate e p directory result) h es res h') :
    Course e p up (join directory composeName) (join directory (candidateName p)) h₀ es res h' := by
  have hne : join directory composeName ≠ join directory (candidateName p) :=
    join_ne (candidateName_ne p).symm
  obtain ⟨es₁, es₂, written, h₁, rfl, hwrite, hrest⟩ := runs_bind.mp hrun
  have hearly : ∀ ev ∈ es₁, Early e p (join directory composeName) ev.1 :=
    runs_only (write_only ⟨by simp, by simp⟩ ⟨by simp, by simpa using hne.symm⟩
      ⟨by simp, by simp⟩ ⟨by simp, by simp⟩ ⟨by simp, by simp⟩) hwrite
  obtain ⟨hdocker, -, hrename, hnew, hold⟩ := write_spec (join directory composeName) hwrite
  rw [hservices] at hdocker
  rw [hsame] at hnew hold
  refine .after_early hearly ?_
  cases written with
  | error err =>
    refine failure_course hfail hmessage ?_ hdocker hrest
    by_cases hreplaced : Replaced (join directory (candidateName p)) es₁
    · rw [hnew hreplaced, Function.update_of_ne hne]
    · rw [hold hreplaced]
  | ok _ =>
    have hfiles := hnew (hrename rfl)
    have hbefore : h₁.files (join directory composeName) =
        h₀.files (join directory composeName) := by
      rw [hfiles, Function.update_of_ne hne]
    obtain ⟨es₃, es₄, configuration, h₂, rfl, hconfig, hrest⟩ := runs_bind.mp hrest
    obtain ⟨rfl, running, hran, rfl⟩ := runs_eff hconfig
    obtain rfl := hran.config rfl
    refine .after_early (fun ev hev => ?_) ?_
    · obtain rfl := List.mem_singleton.mp hev
      refine ⟨?_, by simp⟩
      simp [configArgs, upArgs, composeArgs]
    · split at hrest
      · exact failure_course hfail hmessage hbefore hdocker hrest
      · split at hrest
        · exact failure_course hfail hmessage hbefore hdocker hrest
        · exact replaceDefinition_course hne hfail hmessage hfiles hdocker hrest

lemma decode_eq {e : Executor} {p p' : DeploymentPayload}
    (hdecode : decodeDeploymentComposePayload e (some p) = .ok p') : p' = p := by
  simp only [decodeDeploymentComposePayload] at hdecode
  split_ifs at hdecode
  all_goals cases hdecode; rfl

lemma directory_eq {root directory project : String}
    (hrun : Steps e p links up (secureSubdirectory root [project]).run h es (.ok directory) h') :
    directory = join (links root) project := by
  rcases runs_bind_ok hrun with ⟨_, _, _, h₁, rfl, -, hresolve⟩ | ⟨err, habs, -⟩
  · rcases runs_bind_ok hresolve with ⟨_, _, resolved, h₂, rfl, hlinks, hwalk⟩ | ⟨err, habs, -⟩
    · obtain ⟨-, -, htarget⟩ := runs_eff hlinks
      rw [htarget resolved rfl] at hwalk
      unfold subdirectories at hwalk
      split at hwalk
      · cases hwalk.2.1
      · rcases runs_bind_ok hwalk with ⟨_, _, _, _, -, -, hmode⟩ | ⟨err, habs, -⟩
        · rcases runs_bind_ok hmode with ⟨_, _, _, _, -, -, hend⟩ | ⟨err, habs, -⟩
          · exact Except.ok.inj hend.2.1
          · cases habs
        · cases habs
    · cases habs
  · cases habs

/-- The directory of a project. -/
def projectDirectory (e : Executor) (links : String → String) (p : DeploymentPayload) : String :=
  join (links e.deploymentsRoot) p.projectName

def definitionPath (e : Executor) (links : String → String) (p : DeploymentPayload) : String :=
  join (projectDirectory e links p) composeName

def candidatePath (e : Executor) (links : String → String) (p : DeploymentPayload) : String :=
  join (projectDirectory e links p) (candidateName p)

lemma execute_course {result : CommandResult} (haction : p.action ≠ "stop")
    (hfail : result.success = false) (hmessage : result.message = "")
    (hrun : Steps e p links up (executeDeploymentComposeApply e result (some p)) h es res h') :
    Course e p up (definitionPath e links p) (candidatePath e links p) h es res h' := by
  unfold executeDeploymentComposeApply at hrun
  split at hrun
  · exact failure_course hfail hmessage rfl rfl hrun
  · next p' hdecode =>
    obtain rfl := decode_eq hdecode
    split at hrun
    · exact failure_course hfail hmessage rfl rfl hrun
    · obtain ⟨es₁, es₂, found, h₁, rfl, hfind, hrest⟩ := runs_bind.mp hrun
      have hlooks := RestoreJournal.secureSubdirectory_looks e.deploymentsRoot [p'.projectName]
      have hearly : ∀ ev ∈ es₁, Early e p' (definitionPath e links p') ev.1 :=
        fun ev hev => early_of_looks (runs_only hlooks hfind ev hev)
      have hkept := steps_still (hlooks.mono fun _ => still_of_looks) hfind
      obtain ⟨hfiles, hdocker⟩ := Prod.mk.inj hkept
      refine .after_early hearly ?_
      cases found with
      | error err =>
        exact failure_course hfail hmessage (congrFun hfiles _) hdocker hrest
      | ok directory =>
        obtain rfl := directory_eq hfind
        obtain ⟨es₃, es₄, r, h₂, rfl, hcandidate, hrest⟩ := runs_bind.mp hrest
        obtain ⟨es₅, es₆, removed, h₃, rfl, hremove, rfl, rfl, rfl⟩ := runs_bind.mp hrest
        obtain ⟨rfl, heffect⟩ := runs_eff hremove
        have hne : definitionPath e links p' ≠ candidatePath e links p' :=
          join_ne (candidateName_ne p').symm
        have hcourse := applyCandidate_course hfiles hdocker haction hfail hmessage hcandidate
        rcases heffect with ⟨rfl, rfl⟩ | ⟨rfl, -, rfl⟩ | ⟨-, rfl⟩
        · exact hcourse.candidate_removed (Function.update_of_ne hne _ _) rfl
        · exact hcourse.candidate_removed rfl rfl
        · exact hcourse.candidate_removed rfl rfl

/-! ### What a failed deployment leaves -/

def ReportsFailed (res : CommandResult) : Prop :=
  ∃ status, res.message = compensationMessage false status

lemma compensationMessage_ne (status status' : String) :
    compensationMessage true status ≠ compensationMessage false status' := by
  unfold compensationMessage
  intro heq
  iterate 4 rw [String.append_assoc] at heq
  have hchars := congrArg String.toList ((String.append_right_inj _).mp heq)
  rw [if_pos rfl, if_neg (by decide), String.toList_append, String.toList_append] at hchars
  simp at hchars

lemma compensationMessage_nonempty (ok : Bool) (status : String) :
    "" ≠ compensationMessage ok status := by
  unfold compensationMessage
  intro heq
  obtain ⟨h, -⟩ := String.append_eq_empty_iff.mp heq.symm
  obtain ⟨h, -⟩ := String.append_eq_empty_iff.mp h
  obtain ⟨h, -⟩ := String.append_eq_empty_iff.mp h
  exact absurd h (by decide)

/-- The definition and the services before a deployment are the ones its compensation leaves:
those of the prior revision that the payload names, or no services where it names none. -/
def Recoverable (e : Executor) (links : String → String) (p : DeploymentPayload) (up : Up)
    (h : HostState (Set String)) : Prop :=
  if p.priorRevisionId ≠ "" then
    h.files (definitionPath e links p) = some (.regular (.text p.priorCompose)) ∧
      h.docker = up (Function.update (Function.update h.files (candidatePath e links p)
        (some (.regular (.text p.sourceCompose)))) (definitionPath e links p)
        (some (.regular (.text p.priorCompose)))) (upArgs e p)
  else h.docker = ∅

/-- **When a failed deployment leaves what was there.** The definition and the services are those
from before if and only if the new definition was not left in place by a step that fails after the
rename, unless it was there already, and what a compensation restores is what there was. -/
theorem restored_iff (e : Executor) (links : String → String) (up : Up) (p : DeploymentPayload)
    (haction : p.action = "deploy" ∨ p.action = "rollback") (command : Command) (startedAt : Time)
    (h h' : HostState (Set String)) (es : List (Event interface)) (res : CommandResult)
    (hrun : Runs (F := interface) (deploymentEffect e p links up)
      (executeDeploymentComposeApply e (StackRestore.startedResult command startedAt) (some p))
      h es res h') :
    (res.success = false → ¬ ReportsFailed res →
      h'.files (definitionPath e links p) = h.files (definitionPath e links p) ∧
        h'.docker = h.docker) ↔
    (Replaced (definitionPath e links p) es → ¬ Started e p es →
        h.files (definitionPath e links p) = some (.regular (.text p.sourceCompose))) ∧
      (Undone e p (candidatePath e links p) es → Recoverable e links p up h) := by
  have hstop : p.action ≠ "stop" := by
    rcases haction with haction | haction
    · rw [haction]
      decide
    · rw [haction]
      decide
  cases execute_course hstop rfl rfl hrun with
  | untouched hfailed hmessage hreplaced hstart hfile hservices =>
    exact iff_of_true (fun _ _ => ⟨hfile, hservices⟩)
      ⟨fun h => absurd h hreplaced, fun h => absurd h (not_undone hstart)⟩
  | stored hfailed hmessage hreplaced hstart hfile hservices =>
    have hreports : ¬ ReportsFailed res := by
      rintro ⟨status, heq⟩
      exact compensationMessage_nonempty _ _ (hmessage.symm.trans heq)
    constructor
    · intro hleft
      refine ⟨fun _ _ => ?_, fun h => absurd h (not_undone hstart)⟩
      rw [← (hleft hfailed hreports).1, hfile]
    · rintro ⟨hsame, -⟩ - -
      have hnot : ¬ Started e p es := fun h => h hstart
      exact ⟨by rw [hfile, hsame hreplaced hnot], hservices⟩
  | applied r after hdone hstart hok =>
    refine iff_of_true (fun hfailed => ?_) ⟨fun _ hnot => absurd (started_of hstart) hnot, ?_⟩
    · rw [hdone] at hfailed
      cases hfailed
    · rintro ⟨r', after', heq, herr, -⟩
      obtain ⟨rfl, -⟩ := up_inj (hstart.symm.trans heq)
      exact absurd hok herr
  | undone ok status r after hfailed hmessage hstart herr hok hleft =>
    have hstarted := started_of hstart
    cases ok with
    | false =>
      refine iff_of_true (fun _ hreports => absurd ⟨status, hmessage⟩ hreports)
        ⟨fun _ hnot => absurd hstarted hnot, ?_⟩
      rintro ⟨r', after', heq, -, hfine⟩
      obtain ⟨-, rfl⟩ := up_inj (hstart.symm.trans heq)
      exact absurd (hok.mpr hfine) (by simp)
    | true =>
      have hreports : ¬ ReportsFailed res := by
        rintro ⟨status', heq⟩
        exact compensationMessage_ne _ _ (hmessage.symm.trans heq)
      have hundone : Undone e p (candidatePath e links p) es :=
        ⟨r, after, hstart, herr, hok.mp rfl⟩
      have hstate := hleft rfl
      constructor
      · intro hleft
        obtain ⟨hfile, hservices⟩ := hleft hfailed hreports
        refine ⟨fun _ hnot => absurd hstarted hnot, fun _ => ?_⟩
        unfold Recoverable
        split
        · next hprior =>
          rw [if_pos hprior] at hstate
          exact ⟨hfile ▸ hstate.1, hservices ▸ hstate.2⟩
        · next hprior =>
          rw [if_neg hprior] at hstate
          exact hservices ▸ hstate.2
      · rintro ⟨-, hrecover⟩ - -
        have hbefore := hrecover hundone
        unfold Recoverable at hbefore
        split at hbefore
        · next hprior =>
          rw [if_pos hprior] at hstate
          exact ⟨hstate.1.trans hbefore.1.symm, hstate.2.trans hbefore.2.symm⟩
        · next hprior =>
          rw [if_neg hprior] at hstate
          exact ⟨hstate.1, hstate.2.trans hbefore.symm⟩

/-! ### A first deployment through the control plane -/

def sampleService : Json :=
  .obj [("image", .str "web:2"), ("restart", .str "always"),
    ("deploy", .obj [("resources", .obj [("limits",
      .obj [("cpus", .str "1"), ("memory", .str "64m")])])])]

lemma sampleService_wellFormed :
    (Json.obj [("services", .obj [("web", sampleService)])]).WellFormed := by
  simp [sampleService, Json.WellFormed, Json.EntriesWellFormed, Json.EntryWellFormed]

def sampleExecutor : Executor where
  deploymentsRoot := "/data"
  hostDeploymentsRoot := "/data"
  protectedProjects := []
  redact := id
  sha256 _ := "aaaaaaaaaaaaaaaaaaaaaaaaaaaaaaaaaaaaaaaaaaaaaaaaaaaaaaaaaaaaaaaa"
  unmarshal _ := some ⟨_, sampleService_wellFormed⟩

/-- The control plane knows of no earlier revision. -/
def samplePayload : DeploymentPayload where
  runId := "11111111-1111-4111-8111-111111111111"
  revisionId := "22222222-2222-4222-8222-222222222222"
  projectName := "shop"
  sourceCompose := "new"
  checksum := "aaaaaaaaaaaaaaaaaaaaaaaaaaaaaaaaaaaaaaaaaaaaaaaaaaaaaaaaaaaaaaaa"
  action := "deploy"

/-- A definition whose service runs. -/
def sampleState : HostState (Set String) where
  files := Function.update (fun _ => none) "/data/shop/compose.yaml" (some (.regular (.text "old")))
  docker := {"web"}

/-- `up` fails, everything else succeeds. -/
def sampleAnswer : HostAnswers (Set String) where
  docker running args :=
    if args = upArgs sampleExecutor samplePayload then
      ({ output := { exitCode := 1 }, err := some "exit status 1" }, running)
    else if args = downArgs sampleExecutor samplePayload then ({}, ∅)
    else ({}, running)
  isDirectory path := path = "/data/shop"

def sampleCommand : Command :=
  ⟨"33333333-3333-4333-8333-333333333333", "deployment.compose.apply", .raw ""⟩

def sampleProgram : HostProg CommandResult :=
  executeDeploymentComposeApply sampleExecutor (StackRestore.startedResult sampleCommand 1)
    (some samplePayload)

def sampleEnd : CommandResult × HostState (Set String) :=
  sampleProgram.outcome (respond sampleAnswer id) sampleState

def sampleEvents : List (Event interface) :=
  events (respond sampleAnswer id) sampleProgram sampleState

lemma sample_ran (up : Up) (files : String → Option Node) (running : Set String)
    (args : List String) :
    Ran sampleExecutor samplePayload up files running args (sampleAnswer.docker running args).1
      (sampleAnswer.docker running args).2 where
  config := by
    rintro rfl
    rfl
  ps := by
    rintro rfl
    rfl
  up := by
    rintro rfl herr
    cases herr
  down := by
    rintro rfl -
    rfl

lemma sample_runs (up : Up) :
    Runs (F := interface) (deploymentEffect sampleExecutor samplePayload id up) sampleProgram
      sampleState sampleEvents sampleEnd.1 sampleEnd.2 :=
  runs_outcome (fun h o => hostEffect_respond (sample_ran up h.files) h o) _ _

lemma sample_end : sampleEnd.1.success = false ∧ sampleEnd.1.message =
    compensationMessage true "initial resources removed and definition restored" ∧
    sampleEnd.2.docker = ∅ := by
  refine ⟨?_, ?_, ?_⟩
  · decide
  · decide
  · rfl

lemma sample_reports : ¬ ReportsFailed sampleEnd.1 := by
  rintro ⟨status, heq⟩
  exact compensationMessage_ne _ _ (sample_end.2.1.symm.trans heq)

theorem restored_iff_sample :
    (sampleEnd.1.success = false → ¬ ReportsFailed sampleEnd.1 →
      sampleEnd.2.files (definitionPath sampleExecutor id samplePayload) =
          sampleState.files (definitionPath sampleExecutor id samplePayload) ∧
        sampleEnd.2.docker = sampleState.docker) ↔
    (Replaced (definitionPath sampleExecutor id samplePayload) sampleEvents →
        ¬ Started sampleExecutor samplePayload sampleEvents →
        sampleState.files (definitionPath sampleExecutor id samplePayload) =
          some (.regular (.text samplePayload.sourceCompose))) ∧
      (Undone sampleExecutor samplePayload (candidatePath sampleExecutor id samplePayload)
          sampleEvents →
        Recoverable sampleExecutor id samplePayload (fun _ _ => {"web"}) sampleState) :=
  restored_iff sampleExecutor id (fun _ _ => {"web"}) samplePayload (.inl rfl) sampleCommand 1
    sampleState sampleEnd.2 sampleEvents sampleEnd.1 (sample_runs _)

/-- The services that ran before are removed with the new ones when `up` fails, and the
compensation is reported as a success. -/
theorem earlier_services_removed :
    ∃ (h' : HostState (Set String)) (es : List (Event interface)) (res : CommandResult),
      Runs (F := interface) (deploymentEffect sampleExecutor samplePayload id fun _ _ => {"web"})
        (executeDeploymentComposeApply sampleExecutor (StackRestore.startedResult sampleCommand 1)
          (some samplePayload)) sampleState es res h' ∧
      samplePayload.action = "deploy" ∧ res.success = false ∧ ¬ ReportsFailed res ∧
      sampleState.docker = {"web"} ∧ h'.docker ≠ sampleState.docker := by
  refine ⟨sampleEnd.2, sampleEvents, sampleEnd.1, sample_runs _, rfl, sample_end.1,
    sample_reports, rfl, ?_⟩
  rw [sample_end.2.2]
  exact (Set.singleton_nonempty "web").ne_empty.symm

end GatewayControl.DeploymentCompensation
