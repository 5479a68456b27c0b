import GatewayControl.RestoredBackup
import GatewayControl.StagingApply

/-!
Which restore a confirmation applies.

A request names a restore, and the supervisor checks who signed it. It then runs the recovery
wrapper, which is not told the name: the apply program takes what it finds staged.
-/

namespace GatewayControl.ConfirmedRestore

open Programs Staging RecoveryRequests SystemBackups RecoveryHost RecoveryHost.Host ApplyRuns RestoredBackup

variable {R : Recovery} {contents : Bytes → Plane} {draws : Draws} {m : RestoreMarker}
  {name : MarkerName} {s t : Host} {restoreId : String}

/-- A restore is what the next apply run finds. -/
def StagedFor (s : Host) (p : MarkerName) (m : RestoreMarker) : Prop :=
  p ≠ .applied ∧ s.files (.marker p) = some (.marker m)

/-- Processing a request for `restoreId` from `s`: the apply program runs, fails or is killed
anywhere and runs again, and every dump it restores is the one staged for that restore. -/
def Confirmed (contents : Bytes → Plane) (s : Host) (restoreId : String) : Prop :=
  ∀ c, Reach (system contents) (fromHost s) c → ∀ f k, c.thread () = .op (.pgRestore f) k →
    ∃ p m, StagedFor s p m ∧ m.restoreId = restoreId ∧ f = m.dump

/-! ### What is staged is restored -/

/-- What the staging of a restore leaves for the apply program. -/
structure Ready (s : Host) (name : MarkerName) (m : RestoreMarker) : Prop where
  staged : StagedFor s name m
  alone : ∀ p, p ≠ name → s.files (.marker p) = none
  supported : m.supported
  lock : s.files .lock = some (.token m.token)
  dump : (s.files m.dump).isSome

def noDraws : Draws := ⟨"", [], ⟨0, ""⟩⟩

/-- The runs in which nothing fails. -/
abbrev works (contents : Bytes → Plane) := stageWorks contents noDraws

/-- A run that is at `p >>= f` goes on with `f`, when `p` returns. -/
lemma reach_on {α : Type} {p : ExceptT String (Prog interface) α}
    {f : α → ExceptT String (Prog interface) Bool} {a : α} {x : Prog interface (Except String Bool)}
    (hp : p.run.Only fun o => applies o)
    (hr : Reach (system contents) (fromHost s) ⟨t, fun _ => x⟩) (hx : x = (p >>= f).run)
    {u : Host} (ho : p.run.outcome (works contents) t = (.ok a, u)) :
    Reach (system contents) (fromHost s) ⟨u, fun _ => (f a).run⟩ := by
  have hrun := reach_through (i := ()) (fun s o => stageWorks_applies contents noDraws s o) hp hr
    hx ho
  have hthread : Function.update (fun _ : Unit => x) () (f a).run = fun _ => (f a).run := by
    funext i
    exact Function.update_self _ _ _
  rwa [hthread] at hrun

lemma only_call (o : StageOp) (ho : applies o) :
    (call o : ExceptT String (Prog interface) o.Res).run.Only fun o => applies o :=
  Prog.Only.lift ⟨ho, fun _ => trivial⟩

lemma outcome_lstat {f : StageFile} {r : Bool} (h : (t.files f).isSome = r) :
    (call (.lstat f) : ExceptT String (Prog interface) Bool).run.outcome (works contents) t =
      (.ok r, t) := by
  subst h
  rfl

lemma reach_must {p : ExceptT String (Prog interface) Bool} {e : String}
    {f : Unit → ExceptT String (Prog interface) Bool} {x : Prog interface (Except String Bool)}
    (hp : p.run.Only fun o => applies o)
    (hr : Reach (system contents) (fromHost s) ⟨t, fun _ => x⟩) (hx : x = (must p e >>= f).run)
    {u : Host} (ho : p.run.outcome (works contents) t = (.ok true, u)) :
    Reach (system contents) (fromHost s) ⟨u, fun _ => (f ()).run⟩ := by
  have hmust : (must p e).run.outcome (works contents) t = (.ok (), u) := by
    unfold must
    rw [outcome_bind_ok ho]
    rfl
  refine reach_on (only_bind hp fun r => ?_) hr hx hmust
  cases r <;> trivial

/-- The lock is found to go with the marker. -/
lemma checkLock_outcome (h : t.files .lock = some (.token m.token)) (hname : name ≠ .applied) :
    (checkLock name true m.token).run.outcome (works contents) t = (.ok (), t) := by
  unfold checkLock given
  rw [if_pos (.inl hname), outcome_bind_ok (a := t.files .lock) (t := t) rfl, h,
    if_neg (by simp)]
  rfl

lemma readMarker_outcome (h : t.files (.marker name) = some (.marker m)) (hm : m.supported) :
    (readMarker name).run.outcome (works contents) t = (.ok m, t) := by
  unfold readMarker
  rw [outcome_bind_ok (a := t.files (.marker name)) (t := t) rfl, h]
  dsimp only
  rw [if_pos hm]
  rfl

lemma readMarker_only : (readMarker name).run.Only fun o => applies o := by
  refine only_bind (only_call _ rfl) fun r => ?_
  split
  · split_ifs <;> trivial
  · trivial

lemma checkLock_only (lock : Bool) (token : String) :
    (checkLock name lock token).run.Only fun o => applies o := by
  unfold checkLock given
  split_ifs
  · refine only_bind (only_call _ rfl) fun r => ?_
    split_ifs <;> trivial
  · trivial

variable (contents) in
/-- From a marker that is to be applied, the apply program comes to restore its dump. -/
lemma ready_restores (h : Ready s name m) :
    ∃ c, Reach (system contents) (fromHost s) c ∧ ∃ k, c.thread () = .op (.pgRestore m.dump) k := by
  obtain ⟨⟨hname, hm⟩, halone, hsupported, hlock, hdump⟩ := h
  have hfound : ∀ p, (s.files (.marker p)).isSome = decide (p = name) := by
    intro p
    by_cases hp : p = name
    · subst hp
      simp [hm]
    · simp [halone p hp, hp]
  have hinit : Reach (system contents) (fromHost s)
      ⟨s, fun _ => .pure (.error "not started")⟩ := .init rfl
  have hstart := hinit.step (Step.start (S := system contents) () rfl ⟨rfl, rfl⟩)
  have hthread : Function.update (fun _ : Unit => (Prog.pure (.error "not started") :
      Prog interface (Except String Bool))) () applyStagedSystemRestore.run =
      fun _ => applyStagedSystemRestore.run := by
    funext i
    exact Function.update_self _ _ _
  rw [hthread] at hstart
  have hpending := reach_on (only_call _ rfl) hstart rfl (outcome_lstat (hfound .pending))
  have happlying := reach_on (only_call _ rfl) hpending rfl (outcome_lstat (hfound .applying))
  have happlied := reach_on (only_call _ rfl) happlying rfl (outcome_lstat (hfound .applied))
  have hmarker : Reach (system contents) (fromHost s) ⟨s, fun _ => (applyMarker name m).run⟩ := by
    refine reach_on readMarker_only happlied ?_ (readMarker_outcome hm hsupported)
    cases name <;> rfl
  have hchecked := reach_on (checkLock_only true m.token)
    (reach_on (only_call _ rfl) hmarker rfl (outcome_lstat (r := true) (by simp [hlock]))) rfl
    (checkLock_outcome hlock hname)
  have hready := reach_must (only_call _ rfl) hchecked rfl (outcome_lstat hdump)
  cases name with
  | applied => exact absurd rfl hname
  | applying => exact ⟨_, hready, _, rfl⟩
  | pending =>
      have hrenamed := hready.step (Step.perform (S := system contents) () (true : Bool) rfl
        (.inl ⟨_, hm, rfl⟩))
      exact ⟨_, hrenamed, _, rfl⟩

/-! ### Processing a request -/

variable {p : MarkerName}

lemma staged_ready {c : StageRuns.StageState} (hc : StageRuns.Inv R False c)
    (hs : s.files = c.files) (hm : StagedFor s p m) : Ready s p m := by
  have hthere : c.files (.marker p) = some (.marker m) := hs ▸ hm.2
  obtain ⟨A, -, m', heq, hstaged⟩ := hc.marker p _ hthere
  obtain rfl := Content.marker.inj heq
  refine ⟨hm, fun q hq => ?_, hstaged.supported, ?_, ?_⟩
  · by_contra hne
    rw [hs] at hne
    exact hq (hc.one q p hne (by simp [hthere]))
  · rw [hs]
    exact (hc.held p m hm.1 hthere).1
  · rw [hs, hstaged.dump, hstaged.complete]
    rfl

/-- One marker is what an apply run keeps to: it restores its dump, and only if it is not
applied yet. -/
lemma marked_kept {c : StageRuns.StageState} (hc : StageRuns.Inv R False c)
    (hs : s.files = c.files) (hm : s.files (.marker p) = some (.marker m)) :
    ∃ b, (∃ i x, m.dump = .dump i x) ∧
      Kept m b (StagedFor s p m) (fun _ => True) s.disk s := by
  rw [hs] at hm
  obtain ⟨A, -, m', heq, hstaged⟩ := hc.marker p _ hm
  obtain rfl := Content.marker.inj heq
  have hname : ∀ q, s.files (.marker q) ≠ none → q = p := by
    intro q hq
    rw [hs] at hq
    exact hc.one q p hq (by simp [hm])
  refine ⟨A.archive.dump.flatten, ⟨_, _, hstaged.dump⟩, rfl, ?_, ?_, ?_, fun _ => trivial⟩
  · intro q x hx
    obtain rfl := hname q (by simp [hx])
    rw [hs, hm] at hx
    exact (Option.some.inj hx).symm
  · intro q r hq hr
    rw [hname q hq, hname r hr]
  · intro q hq hne
    obtain rfl := hname q hne
    refine ⟨?_, hq, ?_⟩
    · rw [hs, hstaged.dump]
      exact hstaged.complete
    · rw [hs]
      exact hm

/-- Without a marker nothing is restored. -/
lemma unmarked_kept (h : ∀ p, s.files (.marker p) = none) (m : RestoreMarker) (b : Bytes) :
    Kept m b False (fun _ => True) s.disk s := by
  refine ⟨rfl, ?_, fun p _ hp => absurd (h p) hp, fun p _ hp => absurd (h p) hp,
    fun _ => trivial⟩
  intro p c hc
  rw [h p] at hc
  cases hc

lemma confirmed_of_staged {c : StageRuns.StageState} (hc : StageRuns.Inv R False c)
    (hs : s.files = c.files) (h : ∀ p m, StagedFor s p m → m.restoreId = restoreId) :
    Confirmed contents s restoreId := by
  intro d hd f k hk
  by_cases hnone : ∀ p, s.files (.marker p) = none
  · have hkept := unmarked_kept hnone ⟨0, "", "", .dump "" "", "", none, none⟩ []
    exact absurd ((reach_kept (fun _ _ => trivial) ⟨_, _, rfl⟩ hkept hd).2.1 f k hk).2 id
  · push Not at hnone
    obtain ⟨p, hp⟩ := hnone
    obtain ⟨x, hx⟩ := Option.ne_none_iff_exists'.mp hp
    obtain ⟨A, -, m, rfl, -⟩ := hc.marker p x (hs ▸ hx)
    obtain ⟨b, hdump, hkept⟩ := marked_kept hc hs hx
    obtain ⟨rfl, hstaged⟩ := (reach_kept (fun _ _ => trivial) hdump hkept hd).2.1 f k hk
    exact ⟨p, m, hstaged, h p m hstaged, rfl⟩

lemma staged_of_confirmed {c : StageRuns.StageState} (hc : StageRuns.Inv R False c)
    (hs : s.files = c.files) (h : Confirmed contents s restoreId) (hm : StagedFor s p m) :
    m.restoreId = restoreId := by
  have hready := staged_ready hc hs hm
  obtain ⟨d, hd, k, hk⟩ := ready_restores contents hready
  obtain ⟨q, m', hm', hid, -⟩ := h d hd _ k hk
  obtain rfl : q = p := by
    by_contra hne
    rw [StagedFor, hready.alone q hne] at hm'
    cases hm'.2
  rw [StagedFor, hm.2] at hm'
  obtain rfl := Content.marker.inj (Option.some.inj hm'.2)
  exact hid

/-- Processing a request restores what the request names, and nothing else, exactly if no
other restore is staged. The staging root is one that some run of attempts and apply programs
can leave behind; the database and the rest of the host are arbitrary. -/
theorem confirmed_iff (R : Recovery) (contents : Bytes → Plane)
    {c : Config interface StageRuns.StageState StageRuns.Runner Unit}
    (h : Reach (StageRuns.system R False) StageRuns.initial c) (s : Host)
    (hs : s.files = c.state.files) (restoreId : String) :
    Confirmed contents s restoreId ↔ ∀ p m, StagedFor s p m → m.restoreId = restoreId := by
  have hinv : StageRuns.Inv R False c.state :=
    (reach_sound StagingApply.keeps (fun _ => StagingApply.initial_sound) h).1
  constructor
  · intro hconfirmed p m hm
    exact staged_of_confirmed hinv hs hconfirmed hm
  · exact confirmed_of_staged hinv hs

/-- The staged sample is restored by its own request. -/
theorem confirmed_iff_sample :
    Confirmed sampleContents ⟨⟨∅, ∅, ∅⟩, fun _ => none, StagingApply.sampleStaged.state.files,
      fun _ => none, none, none⟩ StagingApply.sampleOffer.restoreId := by
  refine (confirmed_iff StagingApply.sampleRecovery sampleContents
    (StagingApply.sampleStaged_reach False) _ rfl _).2 fun p m hm => ?_
  have hpending : StagingApply.sampleStaged.state.files (.marker .pending) =
      some (.marker (markerOf StagingApply.sampleAttempt.backupId
        StagingApply.sampleAttempt.token StagingApply.sampleOffer.restoreId
        StagingApply.sampleOffer.artifact)) := by decide
  have happlying : StagingApply.sampleStaged.state.files (.marker .applying) = none := by
    decide
  cases p with
  | pending =>
      have heq := hpending.symm.trans hm.2
      rw [← Content.marker.inj (Option.some.inj heq)]
      rfl
  | applying => exact absurd (happlying.symm.trans hm.2) (by simp)
  | applied => exact absurd rfl hm.1

/-! ### A confirmation that comes too late -/

/-- The effects of requesting, when nothing fails. -/
def spoolWorks (requestId : String) (s : Host) : (o : SpoolOp) → o.Res × Host
  | .getSystemRestore id => (some (s.plane.restores.find? id), s)
  | .getSystemBackup id =>
      (some ((getSystemBackup s.plane.backups id).map fun r => ⟨r.sizeBytes, r.checksum⟩), s)
  | .artifact id =>
      ((s.plane.backups.find? id).bind fun r => (s.disk r.artifactPath).map (·.artifact), s)
  | .unpack id =>
      match (s.plane.backups.find? id).bind fun r => s.disk r.artifactPath with
      | some f => (.ok f.archive, s)
      | none => (.error (.error "The artifact could not be read."), s)
  | .requestRoot => (some true, s)
  | .listDump | .syncDirectory | .recordSystemBackupTransferEvent _ _ => (true, s)
  | .createSystemRecoveryRequest restoreId userId token =>
      match createSystemRecoveryRequest s.plane.requests requestId restoreId userId token with
      | none => (some none, s)
      | some requests => (some (some requestId), s.withRequests requests)
  | .writeTemporary token q =>
      if s.temporary token = none then
        (.ok, { s with temporary := Function.update s.temporary token (some q) })
      else (.exists, s)
  | .link token =>
      if s.pending = none then
        match s.temporary token with
        | some q => (.ok, { s with pending := some q })
        | none => (.failed, s)
      else (.exists, s)
  | .removeTemporary token =>
      (true, { s with temporary := Function.update s.temporary token none })
  | .finishSystemRecoveryRequest id token status error =>
      let (requests, updated) :=
        finishSystemRecoveryRequest s.plane.requests id token status error
      (some updated, s.withRequests requests)

/-- The supervisor claims what is pending. -/
def claim (s : Host) : Host :=
  if s.claimed = none then { s with pending := none, claimed := s.pending } else s

def sampleService : Service where
  recovery := sampleRecovery
  recoverySupervisorEnabled := true
  recoveryRequestSecret := "a secret of thirty-two characters"
  hmac := fun secret text => secret ++ " " ++ text

def sampleSecond : String := "3f2504e0-4f89-41d3-9a0c-0305e82c3303"

/-- A restore is staged, and applying it is confirmed. -/
def sampleConfirmed : Except Thrown Unit × Host :=
  let input : ApplyInput := ⟨sampleToken, "user", "APPLY " ++ sampleToken⟩
  (requestApply sampleService input sampleToken).run.outcome (spoolWorks "request")
    (sampleStage sampleCreated)

/-- Before the supervisor looks, the wrapper is run by hand, and another restore is staged. -/
def sampleLate : Host :=
  claim ((stageRestore sampleRecovery sampleId sampleSecond).run.outcome
    (stageWorks sampleContents { sampleDraws with id := sampleSecond })
    (applyStagedSystemRestore.run.outcome (stageWorks sampleContents sampleDraws)
      sampleConfirmed.2).2).2

/-- A confirmation that was accepted applies the restore staged after it. -/
theorem late_confirmation : sampleConfirmed.1 = .ok () ∧
    sampleLate.claimed = some (sampleService.sign sampleToken) ∧
    ¬ Confirmed sampleContents sampleLate sampleToken := by
  refine ⟨by decide, by decide, fun h => ?_⟩
  have hpending : sampleLate.files (.marker .pending) =
      some (.marker (markerOf sampleId sampleSecond sampleSecond sampleDraws.encrypted)) := by
    decide
  have hrun : (letApply sampleContents sampleDraws 8 sampleLate).thread () =
      .op (.pgRestore (.dump sampleId sampleSecond)) _ := rfl
  obtain ⟨p, m, ⟨-, hm⟩, hid, hdump⟩ := h _ (reach_letApply (by decide)) _ _ hrun
  cases p with
  | pending =>
      rw [hpending] at hm
      obtain rfl := Content.marker.inj (Option.some.inj hm)
      exact absurd hid (by decide)
  | applying =>
      have hnone : sampleLate.files (.marker .applying) = none := by decide
      rw [hnone] at hm
      cases hm
  | applied =>
      have hnone : sampleLate.files (.marker .applied) = none := by decide
      rw [hnone] at hm
      cases hm

end GatewayControl.ConfirmedRestore
