import GatewayControl.StagingSafety

/-!
The apply program under the same invariant, and the whole system: whatever runs, is killed
and runs again, the database is replaced only by what a staging attempt validated.
-/

namespace GatewayControl.StagingApply

open Text Programs Staging StageRuns StageState StagingSafety

variable {R : Recovery} {careful : Prop} {G : RestoreMarker → Prop} {s t : StageState}
  {i : Runner}

abbrev Files := StageFile → Option Content

/-! ### Effects of an apply run -/

/-- An assertion of an apply run, which works alone. -/
def Alone (i : Runner) (φ : Files → Prop) (s : StageState) : Prop :=
  s.task i = some .apply ∧ φ s.files

lemma stable_alone {φ : Files → Prop} : Stable (contract R careful G) i (Alone i φ) := by
  rintro s t - - ⟨htask, -, hfiles⟩ ⟨ha, hφ⟩
  exact ⟨htask.trans ha, (hfiles ha).symm ▸ hφ⟩

lemma Alone.mono {φ ψ : Files → Prop} (h : ∀ fs, φ fs → ψ fs) (hs : Alone i φ s) :
    Alone i ψ s :=
  ⟨hs.1, h _ hs.2⟩

/-- Nothing but that the run is still at work. -/
abbrev Alive (i : Runner) : StageState → Prop := Alone i fun _ => True

lemma Alone.alive {φ : Files → Prop} (h : Alone i φ s) : Alive i s := h.mono fun _ _ => trivial

lemma alone_perform {o : StageOp} {φ : Files → Prop} {ψ : o.Res → Files → Prop}
    (hok : ∀ s, Inv R careful s → φ s.files → (contract R careful G).allowed i s o)
    (h : ∀ s r t, Inv R careful s → s.task i = some .apply → φ s.files →
      stageEffect careful i s o r t → Inv R careful t ∧ t.task = s.task ∧ ψ r t.files) :
    Triple (contract R careful G) i (Alone i φ) (perform o) fun r => Alone i (ψ r) := by
  refine triple_perform stable_alone (fun _ => stable_alone) (fun s hi hs => hok s hi hs.2) ?_
  rintro s r t hi ⟨ha, hφ⟩ hexec
  obtain ⟨ht, htask, hψ⟩ := h s r t hi ha hφ hexec
  exact ⟨ht, apply_relies hi ha htask, (congrFun htask i).trans ha, hψ⟩

lemma alone_ask {o : StageOp} {φ : Files → Prop} {ψ : o.Res → Files → Prop}
    (ho : ∀ f, o ≠ .pgRestore f)
    (h : ∀ s r t, stageEffect careful i s o r t → t = s ∧ ψ r s.files) :
    Triple (contract R careful G) i (Alone i φ) (perform o)
      fun r => Alone i fun fs => φ fs ∧ ψ r fs := by
  refine alone_perform (fun s _ _ f hf => absurd hf (ho f)) fun s r t hi ha hφ hexec => ?_
  obtain ⟨rfl, hψ⟩ := h s r t hexec
  exact ⟨hi, rfl, hφ, hψ⟩

lemma alone_call {o : StageOp} {P : StageState → Prop} {ψ : o.Res → Files → Prop}
    (h : Triple (contract R careful G) i P (perform o) fun r => Alone i (ψ r)) :
    Triple (contract R careful G) i P (call o : ExceptT String (Prog interface) o.Res).run
      (Exits (fun r => Alone i (ψ r)) fun _ => Alive i) :=
  exits_lift contract_lawful (fun _ => stable_alone) h

/-- An effect that does what it says, or the run ends. -/
lemma alone_must {P : StageState → Prop} {φ : Files → Prop}
    {p : ExceptT String (Prog interface) Bool} {e : String}
    (h : Triple (contract R careful G) i P p.run
      (Exits (fun r => Alone i fun fs => r = true → φ fs) fun _ => Alive i)) :
    Triple (contract R careful G) i P (must p e).run
      (Exits (fun _ => Alone i φ) fun _ => Alive i) := by
  refine exits_conseq (must_triple (fun _ => stable_alone) (fun _ => stable_alone) h
    fun _ h => h.alive) (fun _ _ h => h) (fun _ s _ hs => ?_) fun _ _ _ h => h
  exact hs.mono fun fs hfs => hfs rfl

lemma lstat_alone {φ : Files → Prop} (f : StageFile) :
    Triple (contract R careful G) i (Alone i φ) (perform (.lstat f))
      fun r => Alone i fun fs => φ fs ∧ r = (fs f).isSome := by
  refine alone_ask (fun _ h => by cases h) fun s r t hexec => ?_
  obtain ⟨rfl, rfl⟩ := hexec
  exact ⟨rfl, rfl⟩

lemma readFile_alone {φ : Files → Prop} (f : StageFile) :
    Triple (contract R careful G) i (Alone i φ) (perform (.readFile f))
      fun r => Alone i fun fs => φ fs ∧ r = fs f := by
  refine alone_ask (fun _ h => by cases h) fun s r t hexec => ?_
  obtain ⟨rfl, rfl⟩ := hexec
  exact ⟨rfl, rfl⟩

/-- The one marker there is, whichever name it has. -/
def Marked (name : MarkerName) (m : RestoreMarker) (fs : Files) : Prop :=
  fs (.marker name) = some (.marker m)

/-- If the run saw no lock, there is none. -/
def LockSeen (lock : Bool) (fs : Files) : Prop := lock = false → fs .lock = none

/-- No other marker is there. -/
lemma marked_only (hi : Inv R careful s) {name p : MarkerName} {m : RestoreMarker}
    (hm : Marked name m s.files) (hp : p ≠ name) : s.files (.marker p) = none := by
  have hthere : s.files (.marker name) ≠ none := by
    rw [show s.files (.marker name) = _ from hm]
    simp
  by_contra hne
  exact hp (hi.one p name hne hthere)

/-- A marker passes on to the next name. -/
lemma rename_alone {p q : MarkerName} {m : RestoreMarker} {lock : Bool} (hpq : q ≠ p)
    (hp : p ≠ .applied) :
    Triple (contract R careful G) i (Alone i fun fs => Marked p m fs ∧ LockSeen lock fs)
      (perform (.rename (.marker p) (.marker q)))
      fun r => Alone i fun fs => r = true → Marked q m fs ∧ LockSeen lock fs := by
  refine alone_perform (fun _ _ _ f h => by cases h) ?_
  rintro s r t hi ha ⟨hm, hseen⟩ hexec
  obtain ⟨c, hc, rfl, rfl⟩ | ⟨rfl, rfl⟩ := hexec
  · obtain rfl : .marker m = c := Option.some.inj (hm.symm.trans hc)
    obtain ⟨A, hA, m', hm', hs⟩ := hi.marker p _ hc
    obtain rfl := Content.marker.inj hm'
    obtain ⟨hlock, hfresh⟩ := hi.held p m hp hc
    refine ⟨inv_move hi hA hs (by simpa using hpq.symm) (by simp) (fun _ _ => by simp) ?_
      (fun _ => ⟨hlock, hfresh⟩) ?_ ?_, rfl, fun _ => ⟨?_, fun hl => ?_⟩⟩
    · intro x hx
      by_contra hne
      exact hx (marked_only hi hm fun h => hne (h ▸ rfl))
    · intro _ j B hB
      by_cases hji : j = i
      · rw [hji, ha] at hB
        cases hB
      · rw [(hi.exclusive i ha).2 j hji] at hB
        cases hB
    · intro _ c hc'
      rw [hlock] at hc'
      exact (Option.some.inj hc').symm
    · exact move_destination _ (by simpa using hpq)
    · rw [hseen hl] at hlock
      cases hlock
  · exact ⟨hi, rfl, fun h => by cases h⟩

lemma pgRestore_alone {m : RestoreMarker} {lock : Bool} (hG : G m) :
    Triple (contract R careful G) i (Alone i fun fs => Marked .applying m fs ∧ LockSeen lock fs)
      (perform (.pgRestore m.dump))
      fun _ => Alone i fun fs => Marked .applying m fs ∧ LockSeen lock fs := by
  refine alone_perform ?_ ?_
  · rintro s hi ⟨hm, -⟩ f hf
    obtain rfl := StageOp.pgRestore.inj hf
    obtain ⟨A, hA, m', hm', hs⟩ := hi.marker .applying _ hm
    obtain rfl := Content.marker.inj hm'
    obtain ⟨hlock, hfresh⟩ := hi.held .applying m (by simp) hm
    exact ⟨m, hG, hm, rfl, hlock, marked_only hi hm (by simp), hfresh, A, hA, hs⟩
  · intro s r t hi ha hφ hexec
    obtain rfl : t = s := hexec
    exact ⟨hi, rfl, hφ⟩

lemma finalize_alone {φ : Files → Prop} (m : RestoreMarker) :
    Triple (contract R careful G) i (Alone i φ) (perform (.finalizeBackup m))
      fun r => Alone i fun fs => r = true → φ fs := by
  refine alone_perform (fun _ _ _ f h => by cases h) ?_
  intro s r t hi ha hφ hexec
  obtain rfl : t = s := hexec
  exact ⟨hi, rfl, fun _ => hφ⟩

lemma removeLock_alone {m : RestoreMarker} :
    Triple (contract R careful G) i (Alone i (Marked .applied m)) (perform (.remove .lock))
      fun _ => Alone i fun fs => Marked .applied m fs ∧ fs .lock = none := by
  refine alone_perform (fun _ _ _ f h => by cases h) ?_
  rintro s r t hi ha hm ⟨-, rfl⟩
  refine ⟨inv_put_lock hi (fun p hp => marked_only hi hm hp) ?_ ?_, rfl, hm, put_self _ _ _⟩
  · intro x hx
    cases hx
  · intro _ c hc
    cases hc

lemma removeMarker_alone {m : RestoreMarker} :
    Triple (contract R careful G) i
      (Alone i fun fs => Marked .applied m fs ∧ fs .lock = none)
      (perform (.remove (.marker .applied)))
      fun _ => Alone i fun fs => ∀ p, fs (.marker p) = none := by
  refine alone_perform (fun _ _ _ f h => by cases h) ?_
  rintro s r t hi ha ⟨hm, hlock⟩ ⟨-, rfl⟩
  refine ⟨inv_drop_marker hi _ fun _ c hc => ?_, rfl, fun p => ?_⟩
  · rw [hlock] at hc
    cases hc
  · by_cases hp : p = .applied
    · subst hp
      exact put_self _ _ _
    · rw [put_ne _ _ (by simpa using hp)]
      exact marked_only hi hm hp

lemma removeDump_alone {b x : String} :
    Triple (contract R careful G) i (Alone i fun fs => ∀ p, fs (.marker p) = none)
      (perform (.remove (.dump b x))) fun _ => Alive i := by
  refine alone_perform (fun _ _ _ f h => by cases h) ?_
  rintro s r t hi ha hnone ⟨-, rfl⟩
  refine ⟨inv_put hi rfl (fun h => absurd rfl h) ?_, rfl, trivial⟩
  intro p m hm
  rw [hnone p] at hm
  cases hm

/-! ### The apply program -/

lemma replaceDatabase_triple {name : MarkerName} {m : RestoreMarker} {lock : Bool} (hG : G m)
    (hname : name ≠ .applied) :
    Triple (contract R careful G) i (Alone i fun fs => Marked name m fs ∧ LockSeen lock fs)
      (replaceDatabase name m).run
      (Exits (fun _ => Alone i fun fs => Marked .applied m fs ∧ LockSeen lock fs)
        fun _ => Alive i) := by
  refine exits_bind (K := fun _ => Alone i fun fs => Marked .applying m fs ∧ LockSeen lock fs)
    contract_lawful (fun _ => stable_alone) ?_ fun _ => ?_
  · refine exits_given stable_alone (fun hp => ?_) fun hp s hi hs => ?_
    · subst hp
      exact alone_must (alone_call (rename_alone (by simp) (by simp)))
    · cases name with
      | pending => exact absurd rfl hp
      | applying => exact hs
      | applied => exact absurd rfl hname
  refine exits_bind contract_lawful (fun _ => stable_alone)
    (must_triple (fun _ => stable_alone) (fun _ => stable_alone) (alone_call (pgRestore_alone hG))
      fun _ h => h.alive) fun _ => ?_
  refine exits_bind (K := fun _ => Alone i fun fs => Marked .applying m fs ∧ LockSeen lock fs)
    contract_lawful (fun _ => stable_alone) ?_ fun _ => ?_
  · exact exits_given stable_alone (fun _ => alone_must (alone_call (finalize_alone m)))
      fun _ _ _ h => h
  · exact alone_must (alone_call (rename_alone (by simp) (by simp)))

lemma cleanUp_triple {m : RestoreMarker} {lock : Bool} {b x : String} :
    Triple (contract R careful G) i
      (Alone i fun fs => Marked .applied m fs ∧ LockSeen lock fs) (cleanUp lock (.dump b x)).run
      (Exits (fun _ => Alive i) fun _ => Alive i) := by
  refine exits_bind (K := fun _ => Alone i fun fs => Marked .applied m fs ∧ fs .lock = none)
    contract_lawful (fun _ => stable_alone) ?_ fun _ => ?_
  · refine exits_given stable_alone (fun _ => ?_) fun hl s _ hs => hs.mono fun fs hfs => ?_
    · refine must_triple (fun _ => stable_alone) (fun _ => stable_alone) ?_ fun _ h => h.alive
      exact alone_call (triple_conseq removeLock_alone (fun _ _ h => h.mono fun _ hf => hf.1)
        fun _ _ _ h => h)
    · exact ⟨hfs.1, hfs.2 (by simpa using hl)⟩
  refine exits_bind contract_lawful (fun _ => stable_alone)
    (must_triple (fun _ => stable_alone) (fun _ => stable_alone) (alone_call removeMarker_alone)
      fun _ h => h.alive) fun _ => ?_
  exact must_triple (fun _ => stable_alone) (fun _ => stable_alone) (alone_call removeDump_alone)
    fun _ h => h.alive

lemma checkLock_triple {φ : Files → Prop} (name : MarkerName) (lock : Bool) (token : String) :
    Triple (contract R careful G) i (Alone i φ) (checkLock name lock token).run
      (Exits (fun _ => Alone i φ) fun _ => Alive i) := by
  refine exits_given stable_alone (fun _ => ?_) fun _ _ _ h => h
  refine exits_bind contract_lawful (fun _ => stable_alone)
    (alone_call (readFile_alone .lock)) fun owner => ?_
  refine exits_given stable_alone (fun _ => exits_throw stable_alone fun _ _ h => h.alive) ?_
  exact fun _ s _ h => h.mono fun fs hfs => hfs.1

lemma supported_dump {m : RestoreMarker} (h : m.supported = true) :
    m.dump = .dump m.backupId m.token := by
  simp only [RestoreMarker.supported, Bool.and_eq_true, decide_eq_true_eq] at h
  exact h.2

lemma applyMarker_triple {name : MarkerName} {m : RestoreMarker} (hG : name ≠ .applied → G m)
    (hsupported : m.supported = true) :
    Triple (contract R careful G) i (Alone i (Marked name m)) (applyMarker name m).run
      (Exits (fun _ => Alive i) fun _ => Alive i) := by
  refine exits_bind contract_lawful (fun _ => stable_alone) (alone_call (lstat_alone .lock))
    fun lock => ?_
  refine exits_bind (K := fun _ => Alone i fun fs => Marked name m fs ∧ LockSeen lock fs)
    contract_lawful (fun _ => stable_alone) ?_ fun _ => ?_
  · refine exits_conseq (checkLock_triple name lock m.token) (fun _ _ h => h.mono ?_)
      (fun _ _ _ h => h) fun _ _ _ h => h
    exact fun fs hfs => ⟨hfs.1, fun hl => by simpa [hl] using hfs.2.symm⟩
  refine exits_bind (K := fun _ => Alone i fun fs => Marked name m fs ∧ LockSeen lock fs)
    contract_lawful (fun _ => stable_alone) ?_ fun _ => ?_
  · refine alone_must (exits_conseq (alone_call (lstat_alone m.dump)) (fun _ _ h => h)
      (fun _ _ _ h => h.mono fun fs hfs _ => hfs.1) fun _ _ _ h => h)
  refine exits_bind (K := fun _ => Alone i fun fs => Marked .applied m fs ∧ LockSeen lock fs)
    contract_lawful (fun _ => stable_alone) ?_ fun _ => ?_
  · refine exits_given stable_alone (fun hn => replaceDatabase_triple (hG hn) hn) ?_
    intro hn s _ hs
    obtain rfl := not_not.1 hn
    exact hs
  rw [supported_dump hsupported]
  exact exits_bind contract_lawful (fun _ => stable_alone) cleanUp_triple
    fun _ => exits_pure stable_alone fun _ _ h => h

lemma readMarker_triple {φ : Files → Prop} (name : MarkerName) :
    Triple (contract R careful G) i (Alone i φ) (readMarker name).run
      (Exits (fun m s => m.supported = true ∧ Alone i (fun fs => φ fs ∧ Marked name m fs) s)
        fun _ => Alive i) := by
  refine exits_bind contract_lawful (fun _ => stable_alone)
    (alone_call (readFile_alone (.marker name))) fun r => ?_
  match r with
  | some (.marker m) =>
      by_cases hm : m.supported = true
      · simp only [hm, if_true]
        exact exits_pure stable_alone fun s _ h => ⟨hm, h.mono fun fs hfs => ⟨hfs.1, hfs.2.symm⟩⟩
      · simp only [hm]
        exact exits_throw stable_alone fun _ _ h => h.alive
  | none => exact exits_throw stable_alone fun _ _ h => h.alive
  | some (.token _) => exact exits_throw stable_alone fun _ _ h => h.alive
  | some (.bytes _) => exact exits_throw stable_alone fun _ _ h => h.alive

/-- What is asked of the markers that may be applied. -/
def Approved (G : RestoreMarker → Prop) (fs : Files) : Prop :=
  ∀ p m, p ≠ .applied → Marked p m fs → G m

lemma apply_triple : Triple (contract R careful G) i (Alone i (Approved G))
    applyStagedSystemRestore.run (Exits (fun _ => Alive i) fun _ => Alive i) := by
  have hask (f : StageFile) : Triple (contract R careful G) i (Alone i (Approved G))
      (call (.lstat f) : ExceptT String (Prog interface) Bool).run
      (Exits (fun _ => Alone i (Approved G)) fun _ => Alive i) :=
    exits_conseq (alone_call (lstat_alone f)) (fun _ _ h => h)
      (fun _ _ _ h => h.mono fun _ hfs => hfs.1) fun _ _ _ h => h
  refine exits_bind contract_lawful (fun _ => stable_alone) (hask _) fun pending => ?_
  refine exits_bind contract_lawful (fun _ => stable_alone) (hask _) fun applying => ?_
  refine exits_bind contract_lawful (fun _ => stable_alone) (hask _) fun applied => ?_
  dsimp only
  split
  · exact exits_pure stable_alone fun _ _ h => h.mono fun _ _ => trivial
  · rename_i name _
    refine exits_bind contract_lawful (fun _ => stable_alone) (readMarker_triple name) fun m =>
      triple_pre fun hm => ?_
    intro s hi hs
    exact applyMarker_triple (fun hn => hs.2.1 name m hn hs.2.2) hm s hi
      (hs.mono fun _ hfs => hfs.2)
  · exact exits_throw stable_alone fun _ _ h => h.alive

/-! ### The system -/

lemma triple_run {ε α : Type} {p : ExceptT ε (Prog interface) α} {P : StageState → Prop}
    {K : α → StageState → Prop} {X : ε → StageState → Prop} {Q : StageState → Prop}
    (hQ : Stable (contract R careful G) i Q)
    (h : Triple (contract R careful G) i P p.run (Exits K X)) (hK : ∀ a s, K a s → Q s)
    (hX : ∀ e s, X e s → Q s) :
    Triple (contract R careful G) i P (runToEnd p) fun _ => Q := by
  refine triple_bind contract_lawful (Q := fun _ => Q) ?_ fun _ => triple_pure hQ fun _ _ h => h
  refine triple_conseq h (fun _ _ h => h) fun r s _ hr => ?_
  cases r with
  | ok a => exact hK a s hr
  | error e => exact hX e s hr

/-- What a runner has to say when it returns: its lock is settled. -/
def Ended (i : Runner) (_ : Unit) (s : StageState) : Prop :=
  ∀ A, s.task i = some (.stage A) → Settled (view A s)

lemma On.ended {A : Attempt} (h : On i A Settled s) : Ended i () s := by
  intro B hB
  rw [h.1] at hB
  obtain rfl := Task.stage.inj (Option.some.inj hB)
  exact h.2

lemma Alone.ended {φ : Files → Prop} (h : Alone i φ s) : Ended i () s := by
  intro B hB
  rw [h.1] at hB
  cases hB

lemma attempt_triple {A : Attempt} (htoken : commandIDPattern A.token = true) :
    Triple (contract R careful G) i (On i A Fresh)
      (runToEnd (stageRestore R A.backupId A.token)) (Ended i) := by
  refine triple_conseq (triple_run (Q := On i A Settled) stable_on (stageRestore_triple htoken)
    (fun _ _ h => h.mono fun _ hv => hv.settled) fun _ _ h => h.mono fun _ hv => Free.settled hv)
    (fun _ _ h => h) fun _ _ _ h => On.ended h

lemma applied_triple : Triple (contract R careful fun _ => True) i (Alone i fun _ => True)
    (runToEnd applyStagedSystemRestore) (Ended i) := by
  refine triple_conseq (triple_run (Q := Alive i) stable_alone apply_triple
    (fun _ _ h => h) fun _ _ h => h) (fun _ _ h => h.mono fun _ _ _ _ _ _ => trivial)
    fun _ _ _ h => Alone.ended h

/-- A runner's end shows nothing to the others. -/
lemma stop_relies : ∀ j, j ≠ i →
    (contract R careful G).rely j s (s.assign i none) := by
  intro j hj
  exact ⟨assign_ne _ _ hj, fun _ _ => rfl, fun _ => rfl⟩

lemma fresh_view {A : Attempt} (hi : Inv R careful s)
    (hfresh : ∀ B ∈ s.attempts, B.token ≠ A.token) : Fresh (view A s) := by
  have hnone {c : Option Content} (h : c ≠ none → ∃ B ∈ s.attempts, B.token = A.token) :
      c = none := by
    by_contra hne
    obtain ⟨B, hB, ht⟩ := h hne
    exact hfresh B hB ht
  have hlock : s.files .lock ≠ some (.token A.token) := by
    intro hl
    obtain ⟨B, hB, ht⟩ := hi.lock _ hl
    exact hfresh B hB ht
  unfold Fresh view
  rw [hnone (hi.dump A.backupId A.token), hnone (hi.temporary A.token), if_neg hlock]

lemma idle_safe {Q : Unit → StageState → Prop} (h : s.task i = none)
    (hQ : ∀ t, t.task i = none → Q () t) : Safe (contract R careful G) i Q (.pure ()) s :=
  fun t hr _ => hQ t (hr.1.trans h)

lemma ended_idle {s : StageState} (h : s.task i = none) : Ended i () s := by
  intro A hA
  rw [h] at hA
  cases hA

lemma keeps : Keeps (system R careful) (contract R careful fun _ => True) Ended where
  lawful := contract_lawful
  exec := fun _ _ _ _ _ h => h
  start := by
    rintro i ⟨⟩ s p t hstart hi hend
    cases hstart with
    | finish =>
        refine ⟨inv_stop hi fun _ => hend, stop_relies, ?_⟩
        exact idle_safe (assign_self _ _ _) fun t ht => ended_idle ht
    | stage n A hidle hstop hfresh htoken =>
        have ht := inv_begin hi hidle hstop hfresh
        have hfree : Fresh (view A s) := fresh_view hi hfresh
        refine ⟨ht, fun j hj => ?_, ?_⟩
        · exact ⟨assign_ne _ _ hj, fun _ _ => rfl, fun _ => rfl⟩
        · exact attempt_triple htoken _ ht ⟨assign_self _ _ _, hfree⟩
    | apply hidle =>
        have ht := inv_apply hi hidle
        refine ⟨ht, fun j hj => ?_, ?_⟩
        · exact ⟨assign_ne _ _ hj, fun _ _ => rfl, fun _ => rfl⟩
        · exact applied_triple _ ht ⟨assign_self _ _ _, trivial⟩
  environment := fun _ _ _ h => absurd h id
  crash := by
    rintro i s t p ⟨rfl, rfl, hsettled⟩ hi
    refine ⟨inv_stop hi hsettled, stop_relies, ?_⟩
    exact idle_safe (assign_self _ _ _) fun t ht => ended_idle ht

lemma initial_sound {c : Config interface StageState Runner Unit} (h : initial c) :
    Sound (contract R careful fun _ => True) Ended c := by
  obtain rfl := h
  exact ⟨inv_initial, fun i => idle_safe rfl fun t ht => ended_idle ht⟩

def sampleChecksum : String :=
  "b5a26a21290c39819235a235b8ed66b3bd98ed90c8316c8949bfbb7419cac878"

def sampleKeyChecksum : String :=
  "66687aadf862bd776c8fc18b8e9f8e20089714856ee233b3902a591d0d5f2925"

/-- The hash on the two files of the sample archive. -/
def sampleRecovery : Recovery where
  sha256 := fun b => if b = List.replicate 32 0 then sampleKeyChecksum else sampleChecksum
  masterKey := List.replicate 32 0

def sampleAttempt : Attempt where
  backupId := "3f2504e0-4f89-41d3-9a0c-0305e82c3301"
  token := "3f2504e0-4f89-41d3-9a0c-0305e82c3302"
  archive := ⟨⟨"3f2504e0-4f89-41d3-9a0c-0305e82c3301", sampleChecksum, sampleKeyChecksum⟩,
    List.replicate 32 0, [[80, 71], [68, 77, 80]]⟩

def sampleOffer : Offer where
  backup := ⟨some 4096, some sampleChecksum⟩
  artifact := ⟨4096, sampleChecksum⟩
  restoreId := "3f2504e0-4f89-41d3-9a0c-0305e82c3303"
  size := by decide

/-- A restore staged, and no one at work. -/
def sampleStaged : Config interface StageState Runner Unit :=
  letStop (.attempt 0) (letRun sampleOffer (.attempt 0) 60
    (letBegin sampleRecovery 0 sampleAttempt empty))

lemma sampleBegun_reach (careful : Prop) : Reach (system sampleRecovery careful) initial
    (letBegin sampleRecovery 0 sampleAttempt empty) :=
  reach_letBegin (.init rfl) rfl rfl rfl (fun B hB => by cases hB) (by decide)

lemma sampleStaged_reach (careful : Prop) :
    Reach (system sampleRecovery careful) initial sampleStaged :=
  reach_letEnd (reach_letRun sampleOffer (.attempt 0) 60 (sampleBegun_reach careful))
    (by decide)

end GatewayControl.StagingApply
