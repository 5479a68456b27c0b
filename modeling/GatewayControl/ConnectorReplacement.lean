import GatewayControl.ConnectorSync
import GatewayControl.HostRuns
import GatewayControl.StackRestore

/-!
What a failed connector update leaves.

The new token is written over the old one before anything else is done, and the earlier container
is removed before the candidate gets its name. `kept_iff` says exactly when the connector that
ran before survives an update that fails.
-/

namespace GatewayControl.ConnectorReplacement

open Text AgentTypes Programs Host Traces HostRuns ConnectorSync

variable {e : Executor} {p : ConnectorSyncPayload} {links : String → String}
  {late : List String → Prop} {old : Container} {d d' : Containers}
  {h h' : HostState Containers} {es : List (Event interface)} {args : List String}

abbrev Steps (links : String → String) (late : List String → Prop) {α : Type}
    (program : HostProg α) :=
  Runs (F := interface) (syncEffect links late) program

/-! ### Containers -/

/-- The earlier container has its name, and not the candidate's. -/
def Here (p : ConnectorSyncPayload) (old : Container) (d : Containers) : Prop :=
  d (containerName p) = some old ∧ ∀ c, d (candidateContainerName p) = some c → c.id ≠ old.id

/-- Neither name is the earlier container's. -/
def Gone (p : ConnectorSyncPayload) (old : Container) (d : Containers) : Prop :=
  (∀ c, d (containerName p) = some c → c.id ≠ old.id) ∧
    ∀ c, d (candidateContainerName p) = some c → c.id ≠ old.id

/-- A command that changes no container. -/
def Quiet (args : List String) : Prop :=
  ∀ verb ∈ ["create", "start", "rm", "rename"], args.take 2 ≠ ["container", verb]

/-- Commands beside the earlier container. -/
def Beside (p : ConnectorSyncPayload) (args : List String) : Prop :=
  Quiet args ∨ args = removeArgs (candidateContainerName p) ∨ args = startArgs p ∨
    ∃ rest, args = "container" :: "create" :: "--name" :: candidateContainerName p :: rest

lemma candidate_ne (p : ConnectorSyncPayload) : candidateContainerName p ≠ containerName p := by
  intro heq
  have := congrArg String.length heq
  simp [candidateContainerName, String.length_append] at this

lemma does_quiet (hargs : Quiet args) (hdoes : Does args d d') : d' = d := by
  cases hdoes with
  | create => exact absurd rfl (hargs "create" (by simp))
  | start => exact absurd rfl (hargs "start" (by simp))
  | rm => exact absurd rfl (hargs "rm" (by simp))
  | rename => exact absurd rfl (hargs "rename" (by simp))
  | other => rfl

lemma does_rm {name : String} (hdoes : Does (removeArgs name) d d') :
    d' = Function.update d name none := by
  generalize hargs : removeArgs name = args at hdoes
  cases hdoes with
  | rm other =>
    obtain rfl : name = other := by simpa [removeArgs] using hargs
    rfl
  | other _ hother =>
    rw [← hargs] at hother
    exact absurd rfl (hother "rm" (by simp))
  | _ => simp [removeArgs] at hargs

lemma does_rename (hdoes : Does (renameArgs p) d d') :
    d (containerName p) = none ∧ ∃ c, d (candidateContainerName p) = some c ∧
      d' = Function.update (Function.update d (containerName p) (some c))
        (candidateContainerName p) none := by
  generalize hargs : renameArgs p = args at hdoes
  cases hdoes with
  | rename hfound hfree =>
    simp only [renameArgs, List.cons.injEq, and_true, true_and] at hargs
    obtain ⟨rfl, rfl⟩ := hargs
    exact ⟨hfree, _, hfound, rfl⟩
  | other _ hother =>
    rw [← hargs] at hother
    exact absurd rfl (hother "rename" (by simp))
  | _ => simp [renameArgs, removeArgs] at hargs

lemma does_start (hdoes : Does (startArgs p) d d') :
    ∃ c, d (candidateContainerName p) = some c ∧
      d' = Function.update d (candidateContainerName p) (some { c with running := true }) := by
  generalize hargs : startArgs p = args at hdoes
  cases hdoes with
  | start hfound =>
    simp only [startArgs, List.cons.injEq, and_true, true_and] at hargs
    obtain rfl := hargs
    exact ⟨_, hfound, rfl⟩
  | other _ hother =>
    rw [← hargs] at hother
    exact absurd rfl (hother "start" (by simp))
  | _ => simp [startArgs, removeArgs] at hargs

lemma does_create {name : String} {rest : List String}
    (hdoes : Does ("container" :: "create" :: "--name" :: name :: rest) d d') :
    ∃ id, (∀ other c, d other = some c → c.id ≠ id) ∧
      d' = Function.update d name (some ⟨id, false⟩) := by
  generalize hargs : "container" :: "create" :: "--name" :: name :: rest = args at hdoes
  cases hdoes with
  | create hfree hfresh =>
    simp only [List.cons.injEq, true_and] at hargs
    obtain ⟨rfl, -⟩ := hargs
    exact ⟨_, hfresh, rfl⟩
  | other _ hother =>
    rw [← hargs] at hother
    exact absurd rfl (hother "create" (by simp))
  | _ => simp [removeArgs] at hargs

/-- The earlier container stays where it is, whatever is done to the candidate. -/
lemma here_beside (hargs : Beside p args) (hdoes : Does args d d') (hhere : Here p old d) :
    Here p old d' := by
  have hne := candidate_ne p
  obtain ⟨hname, hcandidate⟩ := hhere
  rcases hargs with hargs | rfl | rfl | ⟨rest, rfl⟩
  · rw [does_quiet hargs hdoes]
    exact ⟨hname, hcandidate⟩
  · rw [does_rm hdoes]
    refine ⟨by rwa [Function.update_of_ne hne.symm], fun c hc => ?_⟩
    rw [Function.update_self] at hc
    cases hc
  · obtain ⟨c, hc, rfl⟩ := does_start hdoes
    refine ⟨by rwa [Function.update_of_ne hne.symm], ?_⟩
    rw [Function.update_self]
    rintro _ ⟨⟩
    exact hcandidate c hc
  · obtain ⟨id, hfresh, rfl⟩ := does_create hdoes
    refine ⟨by rwa [Function.update_of_ne hne.symm], ?_⟩
    rw [Function.update_self]
    rintro _ ⟨⟩
    exact (hfresh _ _ hname).symm

lemma here_not_rename (hhere : Here p old d) : ¬ Does (renameArgs p) d d' := by
  intro hdoes
  have hfree := (does_rename hdoes).1
  rw [hhere.1] at hfree
  cases hfree

lemma gone_rm (hhere : Here p old d) (hdoes : Does (removeArgs (containerName p)) d d') :
    Gone p old d' := by
  rw [does_rm hdoes]
  refine ⟨fun c hc => ?_, ?_⟩
  · rw [Function.update_self] at hc
    cases hc
  · rw [Function.update_of_ne (candidate_ne p)]
    exact hhere.2

/-- Once it is gone, the earlier container does not come back. -/
lemma gone_does (hargs : Quiet args ∨ args = removeArgs (candidateContainerName p) ∨
    args = renameArgs p) (hdoes : Does args d d') (hgone : Gone p old d) : Gone p old d' := by
  have hne := candidate_ne p
  obtain ⟨hname, hcandidate⟩ := hgone
  rcases hargs with hargs | rfl | rfl
  · rw [does_quiet hargs hdoes]
    exact ⟨hname, hcandidate⟩
  · rw [does_rm hdoes]
    refine ⟨by rwa [Function.update_of_ne hne.symm], fun c hc => ?_⟩
    rw [Function.update_self] at hc
    cases hc
  · obtain ⟨-, c, hc, rfl⟩ := does_rename hdoes
    refine ⟨?_, fun c hc => ?_⟩
    · rw [Function.update_of_ne hne.symm, Function.update_self]
      rintro _ ⟨⟩
      exact hcandidate c hc
    · rw [Function.update_self] at hc
      cases hc

lemma gone_ne (hgone : Gone p old d) : d (containerName p) ≠ some old := by
  intro heq
  exact hgone.1 old heq rfl

/-- A command that runs takes effect or changes nothing. -/
lemma ran_cases {r : RunResult} (hran : Ran late d args r d') : Does args d d' ∨ d' = d := by
  unfold Ran at hran
  split at hran
  · exact .inl hran
  · rcases hran with ⟨hdoes, -⟩ | ⟨rfl, -⟩
    · exact .inl hdoes
    · exact .inr rfl

/-! ### Runs -/

/-- Effects beside the earlier container and its token. -/
def Spared (p : ConnectorSyncPayload) : HostOp → Prop
  | .docker args => Beside p args
  | .rename _ | .remove _ => False
  | _ => True

/-- Effects that also leave the candidate, or remove it. -/
def Cleaning (p : ConnectorSyncPayload) : HostOp → Prop
  | .docker args => Quiet args ∨ args = removeArgs (candidateContainerName p)
  | .rename _ | .remove _ => False
  | _ => True

lemma spared_of_cleaning {o : HostOp} (ho : Cleaning p o) : Spared p o := by
  cases o with
  | docker args => exact ho.imp_right .inl
  | rename path => exact ho
  | remove path => exact ho
  | _ => trivial

variable {α : Type} {program : HostProg α} {a : α}

lemma spared_files (hp : program.Only (Spared p)) (hrun : Steps links late program h es a h') :
    h'.files = h.files :=
  runs_frame hp (fun _ _ _ _ ho hexec => by
    refine effect_files ?_ ?_ hexec
    · rintro path rfl
      exact ho
    · rintro path rfl
      exact ho) hrun

/-- What each effect keeps, a program keeps. -/
lemma runs_keep {φ : HostOp → Prop} {I : Containers → Prop} (hp : program.Only φ)
    (hkeep : ∀ args d d', φ (.docker args) → Does args d d' → I d → I d')
    (hrun : Steps links late program h es a h') (hbefore : I h.docker) : I h'.docker := by
  induction program generalizing h es with
  | pure b =>
    obtain ⟨-, -, rfl⟩ := hrun
    exact hbefore
  | op o k ih =>
    obtain ⟨r, u, rest, -, hexec, hrest⟩ := hrun
    refine ih r (hp.2 r) hrest ?_
    by_cases ho : ∃ args, o = .docker args
    · obtain ⟨args, rfl⟩ := ho
      obtain ⟨d', hran, rfl⟩ := hexec
      rcases ran_cases hran with hdoes | rfl
      · exact hkeep args _ _ hp.1 hdoes hbefore
      · exact hbefore
    · rwa [effect_docker (fun args heq => ho ⟨args, heq⟩) hexec]

lemma spared_here (hp : program.Only (Spared p)) (hrun : Steps links late program h es a h')
    (hhere : Here p old h.docker) : Here p old h'.docker :=
  runs_keep hp (fun _ _ _ hargs hdoes => here_beside hargs hdoes) hrun hhere

lemma cleaning_gone (hp : program.Only (Cleaning p)) (hrun : Steps links late program h es a h')
    (hgone : Gone p old h.docker) : Gone p old h'.docker :=
  runs_keep hp (fun _ _ _ hargs hdoes => gone_does (hargs.imp_right .inl) hdoes) hrun hgone

/-! ### The steps of an update -/

/-- Removing the earlier container has taken effect. -/
def Retired (late : List String → Prop) (p : ConnectorSyncPayload) (es : List (Event interface)) :
    Prop :=
  ∃ r, ⟨.docker (removeArgs (containerName p)), r⟩ ∈ es ∧
    (r.err = none ∨ late (removeArgs (containerName p)))

/-- The candidate has got the earlier container's name. -/
def Promoted (p : ConnectorSyncPayload) (es : List (Event interface)) : Prop :=
  ∃ r, ⟨.docker (renameArgs p), r⟩ ∈ es ∧ r.err = none

/-- Effects that neither remove nor rename. -/
def Neutral (p : ConnectorSyncPayload) (o : HostOp) : Prop :=
  o ≠ .docker (removeArgs (containerName p)) ∧ o ≠ .docker (renameArgs p)

lemma neutral_of_spared {o : HostOp} (ho : Spared p o) : Neutral p o := by
  have hne := candidate_ne p
  refine ⟨?_, ?_⟩
  · rintro rfl
    rcases ho with hquiet | heq | heq | ⟨rest, heq⟩
    · exact hquiet "rm" (by simp) rfl
    · simp only [removeArgs, List.cons.injEq, and_true, true_and] at heq
      exact hne heq.symm
    · simp [removeArgs, startArgs] at heq
    · simp [removeArgs] at heq
  · rintro rfl
    rcases ho with hquiet | heq | heq | ⟨rest, heq⟩
    · exact hquiet "rename" (by simp) rfl
    · simp [removeArgs, renameArgs] at heq
    · simp [renameArgs, startArgs] at heq
    · simp [renameArgs] at heq

lemma retired_append {es₁ es₂ : List (Event interface)} :
    Retired late p (es₁ ++ es₂) ↔ Retired late p es₁ ∨ Retired late p es₂ := by
  simp [Retired, or_and_right, exists_or]

lemma promoted_append {es₁ es₂ : List (Event interface)} :
    Promoted p (es₁ ++ es₂) ↔ Promoted p es₁ ∨ Promoted p es₂ := by
  simp [Promoted, or_and_right, exists_or]

lemma not_retired (hes : ∀ ev ∈ es, Neutral p ev.1) : ¬ Retired late p es := by
  rintro ⟨r, hmem, -⟩
  exact (hes _ hmem).1 rfl

lemma not_promoted (hes : ∀ ev ∈ es, Neutral p ev.1) : ¬ Promoted p es := by
  rintro ⟨r, hmem, -⟩
  exact (hes _ hmem).2 rfl

/-- How an update ends for the earlier container. -/
inductive Ended (late : List String → Prop) (p : ConnectorSyncPayload) (old : Container)
    (es : List (Event interface)) (res : CommandResult) (h' : HostState Containers) : Prop where
  | promoted (hdone : res.success = true) (hpromoted : Promoted p es)
  | failed (hfailed : res.success = false) (hpromoted : ¬ Promoted p es)
      (hretired : Retired late p es → h'.docker (containerName p) ≠ some old)
      (hrunning : ¬ Retired late p es → h'.docker (containerName p) = some old)

variable {res : CommandResult}

lemma Ended.after {es₁ es₂ : List (Event interface)} (hretired : ¬ Retired late p es₁)
    (hpromoted : ¬ Promoted p es₁) (hended : Ended late p old es₂ res h') :
    Ended late p old (es₁ ++ es₂) res h' := by
  cases hended with
  | promoted hdone hafter => exact .promoted hdone (promoted_append.mpr (.inr hafter))
  | failed hfailed hnot hgone hrunning =>
    refine .failed hfailed ?_ ?_ ?_
    · rw [promoted_append]
      exact not_or.mpr ⟨hpromoted, hnot⟩
    · rwa [retired_append, or_iff_right hretired]
    · rwa [retired_append, or_iff_right hretired]

lemma Ended.after_neutral {es₁ es₂ : List (Event interface)} (hes : ∀ ev ∈ es₁, Neutral p ev.1)
    (hended : Ended late p old es₂ res h') : Ended late p old (es₁ ++ es₂) res h' :=
  hended.after (not_retired hes) (not_promoted hes)

lemma ended_spared {program : HostProg CommandResult} (hp : program.Only (Spared p))
    (hfailed : res.success = false) (hrun : Steps links late program h es res h')
    (hhere : Here p old h.docker) : Ended late p old es res h' := by
  have hneutral : ∀ ev ∈ es, Neutral p ev.1 :=
    fun ev hev => neutral_of_spared (runs_only hp hrun ev hev)
  exact .failed hfailed (not_promoted hneutral) (fun h => absurd h (not_retired hneutral))
    fun _ => (spared_here hp hrun hhere).1

variable {result : CommandResult} {action err : String} {output : RunOutput} {name : String}

lemma quiet_inspect (name : String) : Quiet (inspectArgs name) := by
  intro verb hverb
  simp only [List.mem_cons, List.not_mem_nil, or_false] at hverb
  rcases hverb with rfl | rfl | rfl | rfl <;> simp [inspectArgs]

lemma quiet_running (p : ConnectorSyncPayload) : Quiet (runningArgs p) := by
  intro verb hverb
  simp only [List.mem_cons, List.not_mem_nil, or_false] at hverb
  rcases hverb with rfl | rfl | rfl | rfl <;> simp [runningArgs]

lemma quiet_network {verb network : String} : Quiet ["network", verb, network] := by
  intro other _
  simp

lemma removeContainer_only {φ : HostOp → Prop} (hinspect : φ (.docker (inspectArgs name)))
    (hrm : φ (.docker (removeArgs name))) : (removeContainer name).Only φ := by
  refine Prog.Only.bind (only_eff hinspect) fun inspected => ?_
  split
  · split <;> trivial
  · exact only_eff hrm

lemma ensureNetwork_only : (ensureNetwork e).Only (Spared p) := by
  have hquiet : ∀ verb, Spared p (.docker ["network", verb, e.edgeNetwork]) :=
    fun _ => .inl quiet_network
  refine Prog.Only.bind (only_eff (hquiet _)) fun inspected => ?_
  split
  · trivial
  · refine Prog.Only.bind (only_eff (hquiet _)) fun created => ?_
    split
    · trivial
    · exact Prog.Only.bind (only_eff (hquiet _)) fun _ => trivial

lemma cleanup_only : (removeContainer (candidateContainerName p)).Only (Cleaning p) :=
  removeContainer_only (.inl (quiet_inspect _)) (.inr rfl)

lemma connectorFailure_only : (connectorFailure e p result action output err).Only (Cleaning p) :=
  Prog.Only.bind (only_eff trivial) fun _ => Prog.Only.bind (only_eff trivial) fun _ => trivial

lemma withCleanup_only :
    (connectorFailureWithCandidateCleanup e p result action output err).Only (Cleaning p) :=
  Prog.Only.bind cleanup_only fun _ => connectorFailure_only

lemma connectorFailure_fails
    (hrun : Steps links late (connectorFailure e p result action output err) h es res h') :
    res.success = result.success := by
  obtain ⟨_, _, expired, _, -, -, hrest⟩ := runs_bind.mp hrun
  obtain ⟨_, _, now, _, -, -, -, rfl, -⟩ := runs_bind.mp hrest
  rfl

lemma withCleanup_fails
    (hrun : Steps links late (connectorFailureWithCandidateCleanup e p result action output err)
      h es res h') : res.success = result.success := by
  obtain ⟨_, _, _, _, -, -, hrest⟩ := runs_bind.mp hrun
  exact connectorFailure_fails hrest

lemma connectorSuccess_succeeds {message status : String}
    (hrun : Steps links late (connectorSuccess result message status) h es res h') :
    res.success = true := by
  obtain ⟨_, _, now, _, -, -, -, rfl, -⟩ := runs_bind.mp hrun
  rfl

lemma connectorFailure_ended (hfail : result.success = false) (hhere : Here p old h.docker)
    (hrun : Steps links late (connectorFailure e p result action output err) h es res h') :
    Ended late p old es res h' :=
  ended_spared (connectorFailure_only.mono fun _ => spared_of_cleaning)
    ((connectorFailure_fails hrun).trans hfail) hrun hhere

lemma withCleanup_ended (hfail : result.success = false) (hhere : Here p old h.docker)
    (hrun : Steps links late (connectorFailureWithCandidateCleanup e p result action output err)
      h es res h') : Ended late p old es res h' :=
  ended_spared (withCleanup_only.mono fun _ => spared_of_cleaning)
    ((withCleanup_fails hrun).trans hfail) hrun hhere

/-- While the earlier container is there, the candidate cannot get its name. -/
lemma renameCandidate_here (hfail : result.success = false) (hhere : Here p old h.docker)
    (hrun : Steps links late (renameCandidate e p result) h es res h') :
    Ended late p old es res h' := by
  obtain ⟨es₁, es₂, r, h₁, rfl, hrename, hrest⟩ := runs_bind.mp hrun
  obtain ⟨rfl, d', hran, rfl⟩ := runs_eff hrename
  rcases herr : r.err with _ | err
  · unfold Ran at hran
    rw [if_pos herr] at hran
    exact absurd hran (here_not_rename hhere)
  · rw [herr] at hrest
    have hsame : d' = h.docker := by
      rcases ran_cases hran with hdoes | hsame
      · exact absurd hdoes (here_not_rename hhere)
      · exact hsame
    subst hsame
    refine (withCleanup_ended hfail hhere hrest).after ?_ ?_
    · simp [Retired, renameArgs, removeArgs]
    · simp [Promoted, herr]

/-- Once the earlier container is gone, only a successful rename saves the update. -/
lemma renameCandidate_gone (hfail : result.success = false) (hgone : Gone p old h.docker)
    (hrun : Steps links late (renameCandidate e p result) h es res h') :
    (res.success = true ∧ Promoted p es) ∨
      res.success = false ∧ ¬ Promoted p es ∧ Gone p old h'.docker := by
  obtain ⟨es₁, es₂, r, h₁, rfl, hrename, hrest⟩ := runs_bind.mp hrun
  obtain ⟨rfl, d', hran, rfl⟩ := runs_eff hrename
  rcases herr : r.err with _ | err
  · rw [herr] at hrest
    obtain ⟨_, _, status, _, rfl, -, hrest⟩ := runs_bind.mp hrest
    exact .inl ⟨connectorSuccess_succeeds hrest, r, by simp, herr⟩
  · rw [herr] at hrest
    have hgone' : Gone p old d' := by
      rcases ran_cases hran with hdoes | rfl
      · exact gone_does (.inr (.inr rfl)) hdoes hgone
      · exact hgone
    refine .inr ⟨(withCleanup_fails hrest).trans hfail, ?_,
      cleaning_gone withCleanup_only hrest hgone'⟩
    rw [promoted_append]
    rintro (hpromoted | hpromoted)
    · simp [Promoted, herr] at hpromoted
    · refine absurd hpromoted (not_promoted fun ev hev => ?_)
      exact neutral_of_spared (spared_of_cleaning (runs_only withCleanup_only hrest ev hev))

/-- The container is gone as soon as its removal takes effect, whether it fails or not. -/
lemma ran_rm {r : RunResult} (hhere : Here p old d)
    (hran : Ran late d (removeArgs (containerName p)) r d')
    (heffect : r.err = none ∨ late (removeArgs (containerName p))) : Gone p old d' := by
  unfold Ran at hran
  split at hran
  · exact gone_rm hhere hran
  · next herr =>
    rcases hran with ⟨hdoes, -⟩ | ⟨-, hnot⟩
    · exact gone_rm hhere hdoes
    · exact absurd (.rm _) (hnot (heffect.resolve_left herr) _)

lemma promoteCandidate_ended (hfail : result.success = false) (hhere : Here p old h.docker)
    (hrun : Steps links late (promoteCandidate e p result) h es res h') :
    Ended late p old es res h' := by
  obtain ⟨es₁, es₂, retired, h₁, rfl, hremove, hrest⟩ := runs_bind.mp hrun
  obtain ⟨es₃, es₄, inspected, h₂, rfl, hinspect, hremove⟩ := runs_bind.mp hremove
  have honly : (eff (.docker (inspectArgs (containerName p)))).Only (Spared p) :=
    only_eff (.inl (quiet_inspect _))
  have hhere₂ := spared_here honly hinspect hhere
  rw [List.append_assoc]
  refine .after_neutral (fun ev hev => neutral_of_spared (runs_only honly hinspect ev hev)) ?_
  split at hremove
  · split at hremove
    · obtain ⟨rfl, rfl, rfl⟩ := hremove
      exact renameCandidate_here hfail hhere₂ hrest
    · next herr _ =>
      obtain ⟨rfl, rfl, rfl⟩ := hremove
      obtain ⟨err, herr⟩ := Option.isSome_iff_exists.mp herr
      rw [herr] at hrest
      exact withCleanup_ended hfail hhere₂ hrest
  · obtain ⟨rfl, d', hran, rfl⟩ := runs_eff hremove
    have hrename : ¬ Promoted p [⟨.docker (removeArgs (containerName p)), retired⟩] := by
      simp [Promoted, renameArgs, removeArgs]
    by_cases heffect : retired.err = none ∨ late (removeArgs (containerName p))
    · have hgone := ran_rm hhere₂ hran heffect
      have hretired : Retired late p (⟨.docker (removeArgs (containerName p)), retired⟩ :: es₂) :=
        ⟨retired, List.mem_cons_self, heffect⟩
      rcases herr : retired.err with _ | err
      · rw [herr] at hrest
        rcases renameCandidate_gone hfail hgone hrest with ⟨hdone, hpromoted⟩ |
          ⟨hfailed, hpromoted, hgone'⟩
        · exact .promoted hdone (promoted_append.mpr (.inr hpromoted))
        · refine .failed hfailed ?_ (fun _ => gone_ne hgone') fun h => absurd hretired h
          exact fun h => (promoted_append.mp h).elim hrename hpromoted
      · rw [herr] at hrest
        refine .failed ((withCleanup_fails hrest).trans hfail) ?_ (fun _ => ?_)
          fun h => absurd hretired h
        · refine fun h => (promoted_append.mp h).elim hrename (not_promoted fun ev hev => ?_)
          exact neutral_of_spared (spared_of_cleaning (runs_only withCleanup_only hrest ev hev))
        · exact gone_ne (cleaning_gone withCleanup_only hrest hgone)
    · obtain ⟨herr, hlate⟩ := not_or.mp heffect
      obtain ⟨err, herr⟩ := Option.ne_none_iff_exists'.mp herr
      rw [herr] at hrest
      have hsame : d' = h₂.docker := by
        unfold Ran at hran
        rw [if_neg (by simp [herr])] at hran
        rcases hran with ⟨-, h⟩ | ⟨hsame, -⟩
        · exact absurd h hlate
        · exact hsame
      subst hsame
      refine (withCleanup_ended hfail hhere₂ hrest).after ?_ hrename
      simp [Retired, herr, hlate]

lemma startCandidate_ended (hfail : result.success = false) (hhere : Here p old h.docker)
    (hrun : Steps links late (startCandidate e p result) h es res h') :
    Ended late p old es res h' := by
  obtain ⟨es₀, es₁, identity, h₀, rfl, hidentity, hcreate⟩ := runs_bind.mp hrun
  obtain ⟨rfl, rfl⟩ := runs_eff hidentity
  obtain ⟨es₂, es₃, created, h₁, rfl, hcreate, hrest⟩ := runs_bind.mp hcreate
  have hspared : (eff (.docker (createArgs e p identity))).Only (Spared p) :=
    only_eff (.inr (.inr (.inr ⟨_, rfl⟩)))
  have hhere₁ := spared_here hspared hcreate hhere
  refine .after_neutral ?_ (.after_neutral ?_ ?_)
  · simp [Neutral]
  · exact fun ev hev => neutral_of_spared (runs_only hspared hcreate ev hev)
  split at hrest
  · exact withCleanup_ended hfail hhere₁ hrest
  · obtain ⟨es₄, es₅, started, h₂, rfl, hstart, hrest⟩ := runs_bind.mp hrest
    have hspared : (eff (.docker (startArgs p))).Only (Spared p) :=
      only_eff (.inr (.inr (.inl rfl)))
    have hhere₂ := spared_here hspared hstart hhere₁
    refine .after_neutral ?_ ?_
    · exact fun ev hev => neutral_of_spared (runs_only hspared hstart ev hev)
    split at hrest
    · exact withCleanup_ended hfail hhere₂ hrest
    · obtain ⟨es₆, es₇, inspected, h₃, rfl, hinspect, hrest⟩ := runs_bind.mp hrest
      have hspared : (eff (.docker (runningArgs p))).Only (Spared p) :=
        only_eff (.inl (quiet_running p))
      have hhere₃ := spared_here hspared hinspect hhere₂
      refine .after_neutral ?_ ?_
      · exact fun ev hev => neutral_of_spared (runs_only hspared hinspect ev hev)
      split at hrest
      · exact withCleanup_ended hfail hhere₃ hrest
      · exact promoteCandidate_ended hfail hhere₃ hrest

/-! ### The token -/

/-- Effects that leave the files. -/
def Fileless : HostOp → Prop
  | .rename _ | .remove _ => False
  | _ => True

lemma fileless_of_spared {o : HostOp} (ho : Spared p o) : Fileless o := by
  cases o with
  | docker args => trivial
  | _ => exact ho

lemma fileless_of_cleaning {o : HostOp} (ho : Cleaning p o) : Fileless o :=
  fileless_of_spared (spared_of_cleaning ho)

lemma runtimeStatus_only : (runtimeStatus e p).Only Fileless := by
  refine Prog.Only.bind (only_eff trivial) fun inspected => ?_
  dsimp only
  split
  · exact Prog.Only.bind (only_eff trivial) fun _ => trivial
  · exact Prog.Only.bind (only_eff trivial) fun _ => Prog.Only.bind (only_eff trivial) fun _ =>
      trivial

lemma withCleanup_fileless :
    (connectorFailureWithCandidateCleanup e p result action output err).Only Fileless :=
  withCleanup_only.mono fun _ => fileless_of_cleaning

lemma promoteCandidate_only : (promoteCandidate e p result).Only Fileless := by
  refine Prog.Only.bind (removeContainer_only trivial trivial) fun retired => ?_
  split
  · exact withCleanup_fileless
  · refine Prog.Only.bind (only_eff trivial) fun renamed => ?_
    split
    · exact withCleanup_fileless
    · exact Prog.Only.bind runtimeStatus_only fun _ => Prog.Only.bind (only_eff trivial) fun _ =>
        trivial

lemma startCandidate_only : (startCandidate e p result).Only Fileless := by
  refine Prog.Only.bind (only_eff trivial) fun identity => ?_
  refine Prog.Only.bind (only_eff trivial) fun created => ?_
  split
  · exact withCleanup_fileless
  · refine Prog.Only.bind (only_eff trivial) fun started => ?_
    split
    · exact withCleanup_fileless
    · refine Prog.Only.bind (only_eff trivial) fun inspected => ?_
      split
      · exact withCleanup_fileless
      · exact promoteCandidate_only

/-- What is written decides what the token file holds. -/
structure Stored (e : Executor) (p : ConnectorSyncPayload) (es : List (Event interface))
    (h h' : HostState Containers) : Prop where
  replaced : Replaced (connectorTokenPath e p) es →
    h'.files (connectorTokenPath e p) = some (.regular (.token p.token))
  kept : ¬ Replaced (connectorTokenPath e p) es →
    h'.files (connectorTokenPath e p) = h.files (connectorTokenPath e p)

lemma fileless_runs {program : HostProg α} (hp : program.Only Fileless)
    (hrun : Steps links late program h es a h') :
    h'.files = h.files ∧ ∀ path, ¬ Replaced path es := by
  refine ⟨runs_frame hp (fun _ _ _ _ ho hexec => ?_) hrun, fun path hmem => ?_⟩
  · refine effect_files ?_ ?_ hexec
    · rintro path rfl
      exact ho
    · rintro path rfl
      exact ho
  · exact runs_only hp hrun _ hmem

lemma Stored.before {es₁ es₂ : List (Event interface)} {h₁ : HostState Containers}
    (hstored : Stored e p es₁ h h₁) (hfiles : h'.files = h₁.files)
    (hnot : ∀ path, ¬ Replaced path es₂) : Stored e p (es₁ ++ es₂) h h' where
  replaced hmem := by
    rw [hfiles]
    exact hstored.replaced ((List.mem_append.mp hmem).resolve_right (hnot _))
  kept hmem := by
    rw [hfiles]
    exact hstored.kept fun h => hmem (List.mem_append_left _ h)

lemma stored_fileless {program : HostProg α} (hp : program.Only Fileless)
    (hrun : Steps links late program h es a h') : Stored e p es h h' := by
  obtain ⟨hfiles, hnot⟩ := fileless_runs hp hrun
  exact ⟨fun hmem => absurd hmem (hnot _), fun _ => by rw [hfiles]⟩

lemma writeToken_spec {r : Except String Unit}
    (hrun : Steps links late (writeTokenAtomically e p).run h es r h') :
    h'.docker = h.docker ∧ (∀ ev ∈ es, Neutral p ev.1) ∧ Stored e p es h h' := by
  have honly : (writeTokenAtomically e p).run.Only fun o : HostOp => ∀ args, o ≠ .docker args :=
    only_bind (only_eff (by simp)) fun _ => only_bind (only_eff (by simp)) fun _ =>
      write_only (by simp) (by simp) (by simp) (by simp) (by simp)
  refine ⟨runs_frame honly (fun _ _ _ _ ho hexec => effect_docker ho hexec) hrun,
    fun ev hev => ⟨runs_only honly hrun ev hev _, runs_only honly hrun ev hev _⟩, ?_⟩
  rcases runs_bind_ok hrun with ⟨es₁, es₂, _, h₁, rfl, hmkdir, hrest⟩ | ⟨err, rfl, hmkdir⟩
  · obtain ⟨rfl, rfl⟩ := runs_eff hmkdir
    rcases runs_bind_ok hrest with ⟨es₃, es₄, _, h₂, rfl, hchmod, hwrite⟩ | ⟨err, rfl, hchmod⟩
    · obtain ⟨rfl, rfl⟩ := runs_eff hchmod
      obtain ⟨-, -, -, hreplaced, hkept⟩ := write_runs hwrite
      refine ⟨fun hmem => ?_, fun hmem => ?_⟩
      · have hin : Replaced (connectorTokenPath e p) es₄ := by simpa [Replaced] using hmem
        rw [hreplaced hin]
        exact Function.update_self _ _ _
      · rw [hkept fun h => hmem (List.mem_append_right _ (List.mem_append_right _ h))]
    · obtain ⟨rfl, rfl⟩ := runs_eff hchmod
      exact ⟨by simp [Replaced], fun _ => rfl⟩
  · obtain ⟨rfl, rfl⟩ := runs_eff hmkdir
    exact ⟨by simp [Replaced], fun _ => rfl⟩

/-! ### The update -/

lemma enableConnector_spec (hfail : result.success = false) (hhere : Here p old h.docker)
    (hrun : Steps links late (enableConnector e p result) h es res h') :
    Ended late p old es res h' ∧ Stored e p es h h' := by
  obtain ⟨es₁, es₂, written, h₁, rfl, hwrite, hrest⟩ := runs_bind.mp hrun
  obtain ⟨hdocker, hneutral, hstored⟩ := writeToken_spec hwrite
  rw [← hdocker] at hhere
  have hfileless : ∀ {action err output}, (connectorFailure e p result action output err).Only
      Fileless := connectorFailure_only.mono fun _ => fileless_of_cleaning
  cases written with
  | error err =>
    obtain ⟨hfiles, hnot⟩ := fileless_runs hfileless hrest
    exact ⟨(connectorFailure_ended hfail hhere hrest).after_neutral hneutral,
      hstored.before hfiles hnot⟩
  | ok _ =>
    have hstale : (removeContainer (candidateContainerName p)).Only (Spared p) :=
      cleanup_only.mono fun _ => spared_of_cleaning
    refine ⟨.after_neutral hneutral ?_, ?_⟩
    · obtain ⟨es₃, es₄, network, h₂, rfl, hnetwork, hrest⟩ := runs_bind.mp hrest
      have hhere₂ := spared_here ensureNetwork_only hnetwork hhere
      refine .after_neutral ?_ ?_
      · exact fun ev hev => neutral_of_spared (runs_only ensureNetwork_only hnetwork ev hev)
      split at hrest
      · exact connectorFailure_ended hfail hhere₂ hrest
      · obtain ⟨es₅, es₆, stale, h₃, rfl, hremove, hrest⟩ := runs_bind.mp hrest
        have hhere₃ := spared_here hstale hremove hhere₂
        refine .after_neutral ?_ ?_
        · exact fun ev hev => neutral_of_spared (runs_only hstale hremove ev hev)
        split at hrest
        · exact connectorFailure_ended hfail hhere₃ hrest
        · exact startCandidate_ended hfail hhere₃ hrest
    · obtain ⟨hfiles, hnot⟩ := fileless_runs (Prog.Only.bind
        ((ensureNetwork_only (p := p)).mono fun _ => fileless_of_spared) fun network => by
          split
          · exact hfileless
          · refine Prog.Only.bind (hstale.mono fun _ => fileless_of_spared) fun stale => ?_
            split
            · exact hfileless
            · exact startCandidate_only) hrest
      exact hstored.before hfiles hnot

lemma decode_eq {p' : ConnectorSyncPayload}
    (hdecode : decodeConnectorSyncPayload (some p) = .ok p') : p' = p := by
  simp only [decodeConnectorSyncPayload] at hdecode
  split_ifs at hdecode
  all_goals cases hdecode; rfl

lemma execute_spec (henabled : p.enabled = some true) (hfail : result.success = false)
    (hhere : Here p old h.docker)
    (hrun : Steps links late (executeConnectorSync e result (some p)) h es res h') :
    Ended late p old es res h' ∧ Stored e p es h h' := by
  unfold executeConnectorSync at hrun
  split at hrun
  · have honly : ∀ err, (failure e result err).Only (Spared p) :=
      fun _ => Prog.Only.bind (only_eff trivial) fun _ => trivial
    obtain ⟨_, _, now, _, -, -, -, rfl, -⟩ := runs_bind.mp hrun
    exact ⟨ended_spared (honly _) hfail hrun hhere,
      stored_fileless ((honly _).mono fun _ => fileless_of_spared) hrun⟩
  · next p' hdecode =>
    obtain rfl := decode_eq hdecode
    obtain ⟨es₁, es₂, expired, h₁, rfl, hcontext, hrest⟩ := runs_bind.mp hrun
    obtain ⟨rfl, rfl⟩ := runs_eff hcontext
    have hneutral : ∀ ev ∈ ([⟨.contextError, expired⟩] : List (Event interface)),
        Neutral p' ev.1 := by simp [Neutral]
    have hempty : Stored e p' [⟨.contextError, expired⟩] h₁ h₁ :=
      ⟨by simp [Replaced], fun _ => rfl⟩
    split at hrest
    · have honly : ∀ {action err output}, (connectorFailure e p' result action output err).Only
          Fileless := connectorFailure_only.mono fun _ => fileless_of_cleaning
      obtain ⟨hfiles, hnot⟩ := fileless_runs honly hrest
      exact ⟨(connectorFailure_ended hfail hhere hrest).after_neutral hneutral,
        hempty.before hfiles hnot⟩
    · rw [if_pos henabled] at hrest
      obtain ⟨hended, hstored⟩ := enableConnector_spec hfail hhere hrest
      refine ⟨hended.after_neutral hneutral, fun hmem => hstored.replaced ?_,
        fun hmem => hstored.kept ?_⟩
      · simpa [Replaced] using hmem
      · exact fun h => hmem (List.mem_append_right _ h)

/-- A connector whose container runs, started from the token that is stored. -/
structure Earlier (e : Executor) (p : ConnectorSyncPayload) (old : Container) (token : String)
    (h : HostState Containers) : Prop where
  named : h.docker (containerName p) = some old
  running : old.running = true
  alone : ∀ name c, h.docker name = some c → c.id = old.id → name = containerName p
  stored : h.files (connectorTokenPath e p) = some (.regular (.token token))

/-- **When a failed update keeps the connector.** The container from before runs under its name
and the token file holds its token if and only if the candidate got the name, and the update did
not fail, or the token file was not replaced by another token and the removal of the container
did not take effect. -/
theorem kept_iff (e : Executor) (links : String → String) (late : List String → Prop)
    (p : ConnectorSyncPayload) (henabled : p.enabled = some true) (command : Command)
    (startedAt : Time) (old : Container) (token : String) (h h' : HostState Containers)
    (hearlier : Earlier e p old token h) (es : List (Event interface)) (res : CommandResult)
    (hrun : Runs (F := interface) (syncEffect links late)
      (executeConnectorSync e (StackRestore.startedResult command startedAt) (some p))
      h es res h') :
    (res.success = false → h'.docker (containerName p) = some old ∧ old.running = true ∧
      h'.files (connectorTokenPath e p) = some (.regular (.token token))) ↔
    Promoted p es ∨ (Replaced (connectorTokenPath e p) es → p.token = token) ∧
      ¬ Retired late p es := by
  have hhere : Here p old h.docker :=
    ⟨hearlier.named, fun c hc heq => candidate_ne p (hearlier.alone _ _ hc heq)⟩
  obtain ⟨hended, hstored⟩ := execute_spec henabled rfl hhere hrun
  cases hended with
  | promoted hdone hpromoted =>
    refine iff_of_true (fun hfailed => ?_) (.inl hpromoted)
    rw [hdone] at hfailed
    cases hfailed
  | failed hfailed hpromoted hretired hrunning =>
    constructor
    · intro hkept
      obtain ⟨hdocker, -, hfile⟩ := hkept hfailed
      refine .inr ⟨fun hreplaced => ?_, fun h => hretired h hdocker⟩
      have hnew := hstored.replaced hreplaced
      rw [hfile] at hnew
      simpa using hnew.symm
    · intro hcond hfailed
      obtain ⟨htoken, hnot⟩ := hcond.resolve_left hpromoted
      refine ⟨hrunning hnot, hearlier.running, ?_⟩
      by_cases hreplaced : Replaced (connectorTokenPath e p) es
      · rw [hstored.replaced hreplaced, htoken hreplaced]
      · rw [hstored.kept hreplaced, hearlier.stored]

/-! ### An image that cannot be used -/

def sampleExecutor : Executor where
  stateDir := "/state"
  stateVolume := "state"
  edgeNetwork := "edge"
  cloudflaredImage := "cloudflared:1"
  redact := id
  logsSince _ _ := ""

def samplePayload : ConnectorSyncPayload where
  connectorId := "11111111-1111-4111-8111-111111111111"
  revision := 2
  name := "office"
  enabled := some true
  token := "bbbbbbbbbbbbbbbbbbbbbbbbbbbbbbbbbbbbbbbbbbbbbbbb"

def sampleContainer : Container := ⟨1, true⟩

def sampleState : HostState Containers where
  files := Function.update (fun _ => none) (connectorTokenPath sampleExecutor samplePayload)
    (some (.regular (.token "a")))
  docker := Function.update (fun _ => none) (containerName samplePayload) (some sampleContainer)

/-- There is no candidate, and none can be created. -/
def sampleAnswer : HostAnswers Containers where
  docker d args :=
    if args = inspectArgs (candidateContainerName samplePayload) then
      ({ output := { stderr := "no such container", exitCode := 1 },
         err := some "exit status 1" }, d)
    else if args.take 2 = ["container", "inspect"] ∨ args.take 1 = ["network"] then ({}, d)
    else ({ output := { exitCode := 1 }, err := some "exit status 1" }, d)

def sampleCommand : Command :=
  ⟨"33333333-3333-4333-8333-333333333333", "connector.sync", .connectorSync samplePayload⟩

def sampleProgram : HostProg CommandResult :=
  executeConnectorSync sampleExecutor (StackRestore.startedResult sampleCommand 1)
    (some samplePayload)

def sampleEnd : CommandResult × HostState Containers :=
  sampleProgram.outcome (respond sampleAnswer id) sampleState

def sampleEvents : List (Event interface) :=
  events (respond sampleAnswer id) sampleProgram sampleState

lemma ran_failed {r : RunResult} (herr : r.err ≠ none) : Ran (fun _ => False) d args r d := by
  unfold Ran
  rw [if_neg herr]
  exact .inr ⟨rfl, False.elim⟩

lemma ran_quiet {r : RunResult} (hargs : Quiet args) (herr : r.err = none) :
    Ran late d args r d := by
  unfold Ran
  rw [if_pos herr]
  exact .other d hargs

lemma sample_ran (d : Containers) (args : List String) :
    Ran (fun _ => False) d args (sampleAnswer.docker d args).1 (sampleAnswer.docker d args).2 := by
  unfold sampleAnswer
  dsimp only
  split
  · exact ran_failed (by simp)
  · split
    · next hother =>
      refine ran_quiet (fun verb hverb hargs => ?_) rfl
      have hfirst := congrArg (List.take 1) hargs
      rw [List.take_take] at hfirst
      rcases hother with hother | hother
      · rw [hother] at hargs
        simp only [List.mem_cons, List.not_mem_nil, or_false] at hverb
        rcases hverb with rfl | rfl | rfl | rfl <;> simp at hargs
      · simp [hother] at hfirst
    · exact ran_failed (by simp)

lemma sample_runs :
    Runs (F := interface) (syncEffect id fun _ => False) sampleProgram sampleState sampleEvents
      sampleEnd.1 sampleEnd.2 :=
  runs_outcome (fun h o => hostEffect_respond sample_ran h o) _ _

lemma sample_end : sampleEnd.1.success = false ∧
    sampleEnd.2.files (connectorTokenPath sampleExecutor samplePayload) =
      some (.regular (.token samplePayload.token)) := by
  decide

lemma sample_earlier : Earlier sampleExecutor samplePayload sampleContainer "a" sampleState where
  named := by simp [sampleState]
  running := rfl
  alone := by
    intro name c hc _
    by_contra hne
    simp [sampleState, hne] at hc
  stored := by simp [sampleState]

theorem kept_iff_sample :
    (sampleEnd.1.success = false →
      sampleEnd.2.docker (containerName samplePayload) = some sampleContainer ∧
        sampleContainer.running = true ∧
        sampleEnd.2.files (connectorTokenPath sampleExecutor samplePayload) =
          some (.regular (.token "a"))) ↔
    Promoted samplePayload sampleEvents ∨
      (Replaced (connectorTokenPath sampleExecutor samplePayload) sampleEvents →
        samplePayload.token = "a") ∧ ¬ Retired (fun _ => False) samplePayload sampleEvents :=
  kept_iff sampleExecutor id (fun _ => False) samplePayload rfl sampleCommand 1 sampleContainer "a"
    sampleState sampleEnd.2 sample_earlier sampleEvents sampleEnd.1 sample_runs

/-- An update whose candidate cannot be created leaves the new token to the earlier container. -/
theorem earlier_token_lost :
    ∃ (h' : HostState Containers) (es : List (Event interface)) (res : CommandResult),
      Earlier sampleExecutor samplePayload sampleContainer "a" sampleState ∧
      samplePayload.enabled = some true ∧
      Runs (F := interface) (syncEffect id fun _ => False) (executeConnectorSync sampleExecutor
        (StackRestore.startedResult sampleCommand 1) (some samplePayload)) sampleState es res h' ∧
      res.success = false ∧
      h'.files (connectorTokenPath sampleExecutor samplePayload) =
        some (.regular (.token samplePayload.token)) ∧
      samplePayload.token ≠ "a" :=
  ⟨sampleEnd.2, sampleEvents, sampleEnd.1, sample_earlier, rfl, sample_runs, sample_end.1,
    sample_end.2, by decide⟩

end GatewayControl.ConnectorReplacement
