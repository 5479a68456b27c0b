import GatewayControl.StageRuns

/-!
No interleaving of staging attempts, apply runs and kills spoils the staging root: the
database is replaced only by the validated dump of the one marker there is.
-/

namespace GatewayControl.StagingSafety

open Text Programs Staging StageRuns StageState

variable {R : Recovery} {careful : Prop} {G : RestoreMarker → Prop} {s t : StageState}
  {i : Runner} {A B : Attempt}

/-! ### The contract -/

/-- Where `pg_restore` may read a dump: it is the validated dump of the marker being
applied, whose token the lock holds, and that marker was never applied. -/
structure Restorable (R : Recovery) (s : StageState) (f : StageFile) (m : RestoreMarker) :
    Prop where
  marker : s.files (.marker .applying) = some (.marker m)
  names : m.dump = f
  lock : s.files .lock = some (.token m.token)
  unapplied : s.files (.marker .applied) = none
  never : m.token ∉ s.applied
  staged : ∃ A ∈ s.attempts, Staged R s A m

/-- An attempt relies on what it sees, an apply run on all files; `G` is what is asked of
the markers that are applied. -/
def contract (R : Recovery) (careful : Prop) (G : RestoreMarker → Prop) :
    Contract interface StageState Runner where
  exec := stageEffect careful
  inv := Inv R careful
  rely := fun i s t => t.task i = s.task i ∧
    (∀ A, s.task i = some (.stage A) → view A t = view A s) ∧
    (s.task i = some .apply → t.files = s.files)
  allowed := fun _ s o => ∀ f, o = .pgRestore f → ∃ m, G m ∧ Restorable R s f m

lemma contract_lawful : (contract R careful G).Lawful where
  refl := fun _ _ => ⟨rfl, fun _ _ => rfl, fun _ => rfl⟩
  trans := by
    rintro i s t u ⟨htask, hview, hfiles⟩ ⟨htask', hview', hfiles'⟩
    refine ⟨htask'.trans htask, fun A hA => ?_, fun ha => ?_⟩
    · exact (hview' A (htask.trans hA)).trans (hview A hA)
    · exact (hfiles' (htask.trans ha)).trans (hfiles ha)

/-- An assertion of attempt `A`, at work as runner `i`. -/
def On (i : Runner) (A : Attempt) (φ : View → Prop) (s : StageState) : Prop :=
  s.task i = some (.stage A) ∧ φ (view A s)

lemma stable_on {φ : View → Prop} : Stable (contract R careful G) i (On i A φ) := by
  rintro s t - - ⟨htask, hview, -⟩ ⟨hA, hφ⟩
  exact ⟨htask.trans hA, (hview A hA).symm ▸ hφ⟩

lemma On.mono {φ ψ : View → Prop} (h : ∀ v, φ v → ψ v) (hs : On i A φ s) : On i A ψ s :=
  ⟨hs.1, h _ hs.2⟩

/-- What others see of a step that leaves their own files and locks alone. -/
lemma attempt_relies (hi : Inv R careful s) (hA : s.task i = some (.stage A))
    (htask : t.task = s.task) (hview : ∀ B, B.token ≠ A.token → view B t = view B s) :
    ∀ j, j ≠ i → (contract R careful G).rely j s t := by
  intro j hj
  refine ⟨by rw [htask], fun B hB => hview B fun ht => ?_, fun ha => ?_⟩
  · obtain rfl := hi.tokens B (hi.known j B hB).1 A (hi.known i A hA).1 ht
    exact hj (hi.alone j i B hB hA)
  · have hnone := (hi.exclusive j ha).2 i (Ne.symm hj)
    rw [hA] at hnone
    cases hnone

lemma apply_relies (hi : Inv R careful s) (ha : s.task i = some .apply)
    (htask : t.task = s.task) : ∀ j, j ≠ i → (contract R careful G).rely j s t := by
  intro j hj
  have hnone := (hi.exclusive i ha).2 j hj
  refine ⟨by rw [htask], fun B hB => ?_, fun hb => ?_⟩
  · rw [hnone] at hB
    cases hB
  · rw [hnone] at hb
    cases hb

/-! ### What changes to the files show -/

lemma held_iff {ms : MarkerName → Option Content} : (view A s).held = some ms ↔
    s.files .lock = some (.token A.token) ∧ ms = fun p => s.files (.marker p) := by
  by_cases hl : s.files .lock = some (.token A.token)
  · simp [view, hl, eq_comm]
  · simp [view, hl]

lemma held_none : (view A s).held = none ↔ s.files .lock ≠ some (.token A.token) := by
  by_cases hl : s.files .lock = some (.token A.token) <;> simp [view, hl]

lemma view_put_file {f : StageFile} {x : String} {c : Option Content}
    (hf : ownedBy f = some x) (hx : B.token ≠ x) : view B (s.put f c) = view B s := by
  cases f with
  | lock | marker p => cases hf
  | dump b y =>
      obtain rfl := Option.some.inj hf
      simp [view, put, hx]
  | temporary y =>
      obtain rfl := Option.some.inj hf
      simp [view, put, hx]

lemma view_put_dump (c : Option Content) :
    view A (s.put (.dump A.backupId A.token) c) = { view A s with dump := c } := by
  simp [view, put]

lemma view_put_temporary (c : Option Content) :
    view A (s.put (.temporary A.token) c) = { view A s with temporary := c } := by
  simp [view, put]

lemma view_put_lock {c : Option Content} (h : s.files .lock ≠ some (.token B.token))
    (hc : c ≠ some (.token B.token)) : view B (s.put .lock c) = view B s := by
  simp [view, put, h, hc]

lemma view_take : view A (s.put .lock (some (.token A.token))) =
    { view A s with held := some fun p => s.files (.marker p) } := by
  simp [view, put]

lemma view_release : view A (s.put .lock none) = { view A s with held := none } := by
  simp [view, put]

/-- The lock holds one token. -/
lemma lock_foreign (h : s.files .lock = some (.token A.token)) (hB : B.token ≠ A.token) :
    s.files .lock ≠ some (.token B.token) := by
  rw [h]
  intro he
  exact hB (Content.token.inj (Option.some.inj he)).symm

lemma view_put_marker {p : MarkerName} {c : Option Content}
    (h : s.files .lock ≠ some (.token B.token)) : view B (s.put (.marker p) c) = view B s := by
  simp [view, put, h]

lemma markers_update (files : StageFile → Option Content) (p : MarkerName)
    (c : Option Content) : (fun q => Function.update files (.marker p) c (.marker q)) =
      Function.update (fun q => files (.marker q)) p c := by
  funext q
  by_cases hq : q = p
  · subst hq
    simp
  · simp [hq]

lemma view_drop_marker {p : MarkerName} (h : s.files .lock = some (.token A.token)) :
    view A (s.put (.marker p) none) = { view A s with
      held := some (Function.update (fun q => s.files (.marker q)) p none) } := by
  simp [view, put, h, markers_update]

/-! ### Effects of an attempt -/

lemma on_perform {o : StageOp} {φ : View → Prop} {ψ : o.Res → View → Prop}
    (ho : ∀ f, o ≠ .pgRestore f)
    (h : ∀ s r t, Inv R careful s → s.task i = some (.stage A) → φ (view A s) →
      stageEffect careful i s o r t →
      Inv R careful t ∧ t.task = s.task ∧ (∀ B, B.token ≠ A.token → view B t = view B s) ∧
        ψ r (view A t)) :
    Triple (contract R careful G) i (On i A φ) (perform o) fun r => On i A (ψ r) := by
  refine triple_perform stable_on (fun _ => stable_on) (fun s _ _ f hf => absurd hf (ho f)) ?_
  rintro s r t hi ⟨hA, hφ⟩ hexec
  obtain ⟨ht, htask, hview, hψ⟩ := h s r t hi hA hφ hexec
  exact ⟨ht, attempt_relies hi hA htask hview, (congrFun htask i).trans hA, hψ⟩

/-- An effect that only answers. -/
lemma on_ask {o : StageOp} {φ : View → Prop} {ψ : o.Res → View → Prop}
    (ho : ∀ f, o ≠ .pgRestore f)
    (h : ∀ s r t, s.task i = some (.stage A) → stageEffect careful i s o r t →
      t = s ∧ ψ r (view A s)) :
    Triple (contract R careful G) i (On i A φ) (perform o)
      fun r => On i A fun v => φ v ∧ ψ r v := by
  refine on_perform ho fun s r t hi hA hφ hexec => ?_
  obtain ⟨rfl, hψ⟩ := h s r t hA hexec
  exact ⟨hi, rfl, fun _ _ => rfl, hφ, hψ⟩

/-- An effect on one of the attempt's own files. -/
lemma on_own {o : StageOp} {f : StageFile} {φ : View → Prop} {ψ : o.Res → View → Prop}
    (ho : ∀ f, o ≠ .pgRestore f) (hf : ownedBy f = some A.token)
    (hm : ∀ s, Inv R careful s → s.task i = some (.stage A) → φ (view A s) → ∀ p m,
      s.files (.marker p) = some (.marker m) → m.dump ≠ f)
    (h : ∀ s r t, φ (view A s) → stageEffect careful i s o r t →
      t = s ∧ ψ r (view A s) ∨ ∃ c, t = s.put f c ∧ ψ r (view A (s.put f c))) :
    Triple (contract R careful G) i (On i A φ) (perform o) fun r => On i A (ψ r) := by
  refine on_perform ho fun s r t hi hA hφ hexec => ?_
  obtain ⟨rfl, hψ⟩ | ⟨c, rfl, hψ⟩ := h s r t hφ hexec
  · exact ⟨hi, rfl, fun _ _ => rfl, hψ⟩
  · exact ⟨inv_put hi hf (fun _ => ⟨A, (hi.known i A hA).1, rfl⟩) (hm s hi hA hφ), rfl,
      fun B hB => view_put_file hf hB, hψ⟩

/-! ### Stages of an attempt -/

def Fresh (v : View) : Prop := v = ⟨none, none, none⟩

def Free (v : View) : Prop := v.held = none

/-- The attempt holds the lock, and no marker goes with it. -/
def Unpublished (v : View) : Prop := ∃ ms, v.held = some ms ∧ ∀ p, p ≠ .applied → ms p = none

def Locked (v : View) : Prop := v.dump = none ∧ v.temporary = none ∧ Unpublished v

/-- The attempt holds the lock, there is no marker, and `b` is copied. -/
def Copied (b : Bytes) (v : View) : Prop :=
  v.dump = some (.bytes b) ∧ v.temporary = none ∧ v.held = some fun _ => none

/-- The attempt's marker is there, and no other. -/
def Published (A : Attempt) (v : View) : Prop :=
  ∃ m, m.token = A.token ∧
    v.held = some (Function.update (fun _ => none) .pending (some (.marker m)))

lemma Locked.unpublished {v : View} (h : Locked v) : Unpublished v := h.2.2

lemma Copied.unpublished {b : Bytes} {v : View} (h : Copied b v) : Unpublished v :=
  ⟨_, h.2.2, fun _ _ => rfl⟩

lemma Free.settled {v : View} (h : Free v) : Settled v := by
  intro ms hms
  rw [h] at hms
  cases hms

lemma Published.settled {v : View} (h : Published A v) : Settled v := by
  obtain ⟨m, -, hm⟩ := h
  intro ms hms
  rw [hm] at hms
  obtain rfl := Option.some.inj hms
  simp

/-- Under a lock that is its own and without a pending or applying marker, an attempt has
no marker at all. -/
lemma unpublished_marker (hi : Inv R careful s) (hA : s.task i = some (.stage A))
    (h : Unpublished (view A s)) {p : MarkerName} {m : RestoreMarker}
    (hm : s.files (.marker p) = some (.marker m)) : m.token ≠ A.token := by
  obtain ⟨ms, hms, hnone⟩ := h
  obtain ⟨-, rfl⟩ := held_iff.1 hms
  exact hi.unpublished hA hnone hm

/-- A marker that names a dump with the attempt's token is the attempt's. -/
lemma dump_foreign (hi : Inv R careful s) {p : MarkerName} {m : RestoreMarker}
    (hm : s.files (.marker p) = some (.marker m)) (hne : m.token ≠ A.token) {b : String} :
    m.dump ≠ .dump b A.token := by
  obtain ⟨B, -, m', hm', hs⟩ := hi.marker p _ hm
  obtain rfl := Content.marker.inj hm'
  intro hd
  rw [hs.dump] at hd
  exact hne (hs.token.trans (StageFile.dump.inj hd).2)

lemma dump_temporary (hi : Inv R careful s) {p : MarkerName} {m : RestoreMarker}
    (hm : s.files (.marker p) = some (.marker m)) {x : String} : m.dump ≠ .temporary x := by
  obtain ⟨B, -, m', hm', hs⟩ := hi.marker p _ hm
  obtain rfl := Content.marker.inj hm'
  rw [hs.dump]
  simp

/-- Without the lock there is no marker but an applied one. -/
lemma no_active (hi : Inv R careful s) (hl : s.files .lock = none) :
    ∀ p, p ≠ .applied → s.files (.marker p) = none := by
  intro p hp
  by_contra hne
  obtain ⟨c, hc⟩ := Option.ne_none_iff_exists'.1 hne
  obtain ⟨B, -, m, rfl, -⟩ := hi.marker p c hc
  have hlock := (hi.held p m hp hc).1
  rw [hl] at hlock
  cases hlock

/-! ### The effects of an attempt -/

lemma call_triple {ε : Type} {o : StageOp} {P : StageState → Prop} {X : ε → StageState → Prop}
    {ψ : o.Res → View → Prop}
    (h : Triple (contract R careful G) i P (perform o) fun r => On i A (ψ r)) :
    Triple (contract R careful G) i P (call o).run (Exits (fun r => On i A (ψ r)) X) :=
  exits_lift contract_lawful (fun _ => stable_on) h

lemma must_triple {ε : Type} {P : StageState → Prop} {p : ExceptT ε (Prog interface) Bool}
    {K : Bool → StageState → Prop} {X : ε → StageState → Prop} {e : ε}
    (hK : ∀ r, Stable (contract R careful G) i (K r))
    (hX : ∀ e, Stable (contract R careful G) i (X e))
    (hp : Triple (contract R careful G) i P p.run (Exits K X))
    (hfail : ∀ s, K false s → X e s) :
    Triple (contract R careful G) i P (must p e).run (Exits (fun _ => K true) X) := by
  refine exits_bind contract_lawful hX hp fun r => ?_
  cases r with
  | true => exact exits_pure (hK true) fun _ _ h => h
  | false => exact exits_throw (hK false) fun s _ h => hfail s h

lemma given_triple {P K : StageState → Prop} {c : Prop} [Decidable c] {p : Prog interface Unit}
    (hP : Stable (contract R careful G) i P)
    (hp : c → Triple (contract R careful G) i P p fun _ => K)
    (hn : ¬c → ∀ s, Inv R careful s → P s → K s) :
    Triple (contract R careful G) i P (given c p) fun _ => K := by
  unfold given
  by_cases hc : c
  · rw [if_pos hc]
    exact hp hc
  · rw [if_neg hc]
    exact triple_pure hP (hn hc)

lemma exits_given {ε : Type} {P K : StageState → Prop} {X : ε → StageState → Prop} {c : Prop}
    [Decidable c] {p : ExceptT ε (Prog interface) Unit}
    (hP : Stable (contract R careful G) i P)
    (hp : c → Triple (contract R careful G) i P p.run (Exits (fun _ => K) X))
    (hn : ¬c → ∀ s, Inv R careful s → P s → K s) :
    Triple (contract R careful G) i P (given c p).run (Exits (fun _ => K) X) := by
  unfold given
  by_cases hc : c
  · rw [if_pos hc]
    exact hp hc
  · rw [if_neg hc]
    exact exits_pure hP (hn hc)

lemma exits_ofExcept {ε α : Type} {P : StageState → Prop} {X : ε → StageState → Prop}
    (hP : Stable (contract R careful G) i P) (hX : ∀ e s, P s → X e s) (x : Except ε α) :
    Triple (contract R careful G) i P (ofExcept x : ExceptT ε (Prog interface) α).run
      (Exits (fun a s => x = .ok a ∧ P s) X) := by
  cases x with
  | ok a => exact exits_pure hP fun _ _ h => ⟨rfl, h⟩
  | error e => exact exits_throw hP fun s _ h => hX e s h

lemma take_spec : Triple (contract R careful G) i (On i A Fresh)
    (perform (.writeNew .lock (.token A.token)))
    fun r => On i A fun v => if r = Created.ok then Locked v else Free v := by
  refine on_perform (fun _ h => by cases h) fun s r t hi hA hφ hexec => ?_
  have hfree : Free (view A s) := congrArg View.held hφ
  obtain ⟨-, rfl, rfl⟩ | ⟨hnone, ⟨rfl, rfl⟩ | ⟨rfl, rfl | ⟨hc, rfl⟩⟩⟩ := hexec
  · exact ⟨hi, rfl, fun _ _ => rfl, hfree⟩
  · refine ⟨inv_put_lock hi (no_active hi hnone) ?_ ?_, rfl, fun B hB => ?_, ?_⟩
    · intro x hx
      exact ⟨A, (hi.known i A hA).1, Content.token.inj (Option.some.inj hx)⟩
    · intro _ c hc
      exact ⟨i, A, hA, (Option.some.inj hc).symm⟩
    · refine view_put_lock (by simp [hnone]) fun he => ?_
      exact hB (Content.token.inj (Option.some.inj he)).symm
    · rw [if_pos rfl, view_take, hφ]
      exact ⟨rfl, rfl, _, rfl, no_active hi hnone⟩
  · exact ⟨hi, rfl, fun _ _ => rfl, hfree⟩
  · refine ⟨inv_put_lock hi (no_active hi hnone) ?_ ?_, rfl, fun B _ => ?_, ?_⟩
    · intro x hx
      cases hx
    · intro hcare
      exact absurd ⟨hcare, rfl⟩ hc
    · exact view_put_lock (by simp [hnone]) (by simp)
    · rw [if_neg (by simp), view_put_lock (by simp [hnone]) (by simp)]
      exact hfree

/-- Under the attempt's own lock the markers are read as they are. -/
lemma lstat_spec {φ : View → Prop} (p : MarkerName) :
    Triple (contract R careful G) i (On i A φ) (perform (.lstat (.marker p)))
      fun r => On i A fun v => φ v ∧ ∀ ms, v.held = some ms → r = (ms p).isSome := by
  refine on_ask (fun _ h => by cases h) fun s r t _ hexec => ?_
  obtain ⟨rfl, rfl⟩ := hexec
  refine ⟨rfl, fun ms hms => ?_⟩
  obtain ⟨-, rfl⟩ := held_iff.1 hms
  rfl

lemma openDump_spec : Triple (contract R careful G) i
    (On i A fun v => v.temporary = none ∧ v.held = some fun _ => none)
    (perform (.openNew (.dump A.backupId A.token)))
    fun r => On i A fun v => if r = Created.ok then Copied [] v else Unpublished v := by
  refine on_own (f := .dump A.backupId A.token) (fun _ h => by cases h) rfl ?_ ?_
  · intro s hi hA hφ p m hm
    exact dump_foreign hi hm (unpublished_marker hi hA ⟨_, hφ.2, fun _ _ => rfl⟩ hm)
  · rintro s r t ⟨htemp, hheld⟩ hexec
    obtain ⟨-, rfl, rfl⟩ | ⟨-, ⟨rfl, rfl⟩ | ⟨rfl, rfl⟩⟩ := hexec
    · exact .inl ⟨rfl, _, hheld, fun _ _ => rfl⟩
    · refine .inr ⟨_, rfl, ?_⟩
      rw [if_pos rfl, view_put_dump]
      exact ⟨rfl, htemp, hheld⟩
    · exact .inl ⟨rfl, _, hheld, fun _ _ => rfl⟩

lemma append_spec (b chunk : Bytes) : Triple (contract R careful G) i (On i A (Copied b))
    (perform (.append (.dump A.backupId A.token) chunk))
    fun r => On i A fun v => if r = true then Copied (b ++ chunk) v else Unpublished v := by
  refine on_own (f := .dump A.backupId A.token) (fun _ h => by cases h) rfl ?_ ?_
  · intro s hi hA hφ p m hm
    exact dump_foreign hi hm (unpublished_marker hi hA hφ.unpublished hm)
  · rintro s r t ⟨hdump, htemp, hheld⟩ (⟨rfl, rfl⟩ | ⟨b', hb, hexec⟩)
    · exact .inl ⟨rfl, _, hheld, fun _ _ => rfl⟩
    obtain rfl : b = b' := Content.bytes.inj (Option.some.inj (hdump.symm.trans hb))
    obtain ⟨rfl, rfl⟩ | ⟨rfl, part, -, rfl⟩ := hexec
    · refine .inr ⟨_, rfl, ?_⟩
      rw [if_pos rfl, view_put_dump]
      exact ⟨rfl, htemp, hheld⟩
    · refine .inr ⟨_, rfl, ?_⟩
      rw [if_neg (by simp), view_put_dump]
      exact ⟨_, hheld, fun _ _ => rfl⟩

lemma writeTemporary_spec (b : Bytes) (m : RestoreMarker) :
    Triple (contract R careful G) i (On i A (Copied b))
      (perform (.writeNew (.temporary A.token) (.marker m)))
      fun r => On i A fun v => if r = Created.ok then
        v.dump = some (.bytes b) ∧ v.temporary = some (.marker m) ∧ v.held = some fun _ => none
      else Unpublished v := by
  refine on_own (f := .temporary A.token) (fun _ h => by cases h) rfl ?_ ?_
  · exact fun s hi _ _ p m' hm => dump_temporary hi hm
  · rintro s r t hφ hexec
    have hun := hφ.unpublished
    obtain ⟨hdump, htemp, hheld⟩ := hφ
    obtain ⟨-, rfl, rfl⟩ | ⟨-, ⟨rfl, rfl⟩ | ⟨rfl, rfl | ⟨-, rfl⟩⟩⟩ := hexec
    · exact .inl ⟨rfl, hun⟩
    · refine .inr ⟨_, rfl, ?_⟩
      rw [if_pos rfl, view_put_temporary]
      exact ⟨hdump, rfl, hheld⟩
    · exact .inl ⟨rfl, hun⟩
    · refine .inr ⟨_, rfl, ?_⟩
      rw [if_neg (by simp), view_put_temporary]
      exact hun

lemma removeTemporary_spec : Triple (contract R careful G) i (On i A Unpublished)
    (perform (.remove (.temporary A.token))) fun _ => On i A Unpublished := by
  refine on_own (f := .temporary A.token) (fun _ h => by cases h) rfl ?_ ?_
  · exact fun s hi _ _ p m' hm => dump_temporary hi hm
  · rintro s r t hφ ⟨-, rfl⟩
    refine .inr ⟨_, rfl, ?_⟩
    rw [view_put_temporary]
    exact hφ

lemma removeDump_spec : Triple (contract R careful G) i (On i A Unpublished)
    (perform (.remove (.dump A.backupId A.token))) fun _ => On i A Unpublished := by
  refine on_own (f := .dump A.backupId A.token) (fun _ h => by cases h) rfl ?_ ?_
  · intro s hi hA hφ p m hm
    exact dump_foreign hi hm (unpublished_marker hi hA hφ hm)
  · rintro s r t hφ ⟨-, rfl⟩
    refine .inr ⟨_, rfl, ?_⟩
    rw [view_put_dump]
    exact hφ

lemma removeLock_spec : Triple (contract R careful G) i (On i A Unpublished)
    (perform (.remove .lock)) fun _ => On i A Free := by
  refine on_perform (fun _ h => by cases h) ?_
  rintro s r t hi hA ⟨ms, hms, hnone⟩ ⟨-, rfl⟩
  obtain ⟨hlock, rfl⟩ := held_iff.1 hms
  refine ⟨inv_put_lock hi hnone ?_ ?_, rfl, fun B hB => ?_, ?_⟩
  · intro x hx
    cases hx
  · intro _ c hc
    cases hc
  · exact view_put_lock (lock_foreign hlock hB) (by simp)
  · rw [view_release]
    rfl

lemma view_move_foreign {p : MarkerName} {c : Content} (hB : B.token ≠ A.token)
    (h : s.files .lock ≠ some (.token B.token)) :
    view B (s.move (.temporary A.token) (.marker p) c) = view B s := by
  simp [view, move, h, hB]

lemma view_publish {p : MarkerName} {c : Content}
    (h : s.files .lock = some (.token A.token)) :
    view A (s.move (.temporary A.token) (.marker p) c) =
      { dump := (view A s).dump
        temporary := none
        held := some (Function.update (fun q => s.files (.marker q)) p (some c)) } := by
  simp [view, move, h, markers_update]

lemma publish_spec {m : RestoreMarker} (htoken : m.token = A.token)
    (hdump : m.dump = .dump A.backupId A.token) (hsupported : m.supported = true)
    (hvalid : Validated R A) :
    Triple (contract R careful G) i
      (On i A fun v => v.dump = some (.bytes A.archive.dump.flatten) ∧
        v.temporary = some (.marker m) ∧ v.held = some fun _ => none)
      (perform (.rename (.temporary A.token) (.marker .pending)))
      fun r => On i A fun v => if r = true then Published A v else Unpublished v := by
  refine on_perform (fun _ h => by cases h) ?_
  rintro s r t hi hA ⟨hd, htemp, hheld⟩ hexec
  obtain ⟨hlock, hnone⟩ := held_iff.1 hheld
  have hmarker : ∀ p, s.files (.marker p) = none := fun p => (congrFun hnone p).symm
  obtain ⟨c, hc, rfl, rfl⟩ | ⟨rfl, rfl⟩ := hexec
  · obtain rfl : .marker m = c := Option.some.inj (htemp.symm.trans hc)
    have hknown := hi.known i A hA
    refine ⟨inv_move hi hknown.1 ⟨htoken, hdump, hsupported, hvalid, hd⟩ (by simp) (by simp)
      (fun _ _ => by simp) ?_ ?_ ?_ ?_, rfl, fun B hB => ?_, ?_⟩
    · intro p hp
      exact absurd (hmarker p) hp
    · intro _
      rw [htoken]
      exact ⟨hlock, hknown.2⟩
    · intro h
      cases h
    · intro _ c hc'
      rw [hlock] at hc'
      rw [htoken]
      exact (Option.some.inj hc').symm
    · exact view_move_foreign hB (lock_foreign hlock hB)
    · rw [if_pos rfl, view_publish hlock]
      refine ⟨m, htoken, ?_⟩
      simp only [hmarker]
  · refine ⟨hi, rfl, fun _ _ => rfl, ?_⟩
    rw [if_neg (by simp)]
    exact ⟨_, hheld, fun _ _ => rfl⟩

lemma removePending_spec : Triple (contract R careful G) i (On i A (Published A))
    (perform (.remove (.marker .pending))) fun _ => On i A Unpublished := by
  refine on_perform (fun _ h => by cases h) ?_
  rintro s r t hi hA ⟨m, -, hm⟩ ⟨-, rfl⟩
  obtain ⟨hlock, hms⟩ := held_iff.1 hm
  refine ⟨inv_drop_marker hi _ fun _ c hc => ?_, rfl, fun B hB => ?_, ?_⟩
  · rw [hlock] at hc
    exact ⟨i, A, hA, (Option.some.inj hc).symm⟩
  · exact view_put_marker (lock_foreign hlock hB)
  · rw [view_drop_marker hlock, ← hms]
    refine ⟨_, rfl, fun p _ => ?_⟩
    by_cases hp : p = .pending
    · subst hp
      simp
    · simp [hp]

/-! ### The parts of an attempt -/

lemma unpublish_triple : Triple (contract R careful G) i (On i A (Published A))
    (unpublish A.token) fun _ => On i A Unpublished := by
  have hread : Triple (contract R careful G) i (On i A (Published A))
      (perform (.readFile (.marker .pending)))
      fun r => On i A fun v => Published A v ∧ ∀ ms, v.held = some ms → r = ms .pending := by
    refine on_ask (fun _ h => by cases h) fun s r t _ hexec => ?_
    obtain ⟨rfl, rfl⟩ := hexec
    refine ⟨rfl, fun ms hms => ?_⟩
    obtain ⟨-, rfl⟩ := held_iff.1 hms
    rfl
  refine triple_bind contract_lawful hread fun r => ?_
  have hown : ∀ s, On i A (fun v => Published A v ∧ ∀ ms, v.held = some ms → r = ms .pending) s →
      ∃ m, r = some (.marker m) ∧ m.token = A.token := by
    rintro s ⟨-, ⟨m, hm, hheld⟩, hr⟩
    exact ⟨m, (hr _ hheld).trans (by simp), hm⟩
  match r with
  | some (.marker metadata) =>
      refine given_triple stable_on (fun _ => ?_) fun hne s _ hs => ?_
      · refine triple_bind contract_lawful ?_ fun _ => triple_pure stable_on fun _ _ h => h
        exact triple_conseq removePending_spec (fun _ _ h => h.mono fun _ hv => hv.1)
          fun _ _ _ h => h
      · obtain ⟨m, hm, ht⟩ := hown s hs
        cases hm
        exact absurd ht hne
  | none =>
      refine triple_pure stable_on fun s _ hs => ?_
      obtain ⟨m, hm, -⟩ := hown s hs
      cases hm
  | some (.token _) =>
      refine triple_pure stable_on fun s _ hs => ?_
      obtain ⟨m, hm, -⟩ := hown s hs
      cases hm
  | some (.bytes _) =>
      refine triple_pure stable_on fun s _ hs => ?_
      obtain ⟨m, hm, -⟩ := hown s hs
      cases hm

/-- What an attempt's rollback starts from. -/
def Ready (A : Attempt) (published : Bool) (v : View) : Prop :=
  if published then Published A v else Unpublished v

lemma rollback_triple (dumpCreated published : Bool) :
    Triple (contract R careful G) i (On i A (Ready A published))
      (rollback A.backupId A.token dumpCreated published) fun _ => On i A Unpublished := by
  refine triple_bind contract_lawful (Q := fun _ => On i A Unpublished) ?_ fun _ => ?_
  · refine given_triple stable_on (fun hp => ?_) fun hp s _ hs => ?_
    · subst hp
      exact unpublish_triple
    · exact hs.mono fun v hv => by simpa [Ready, hp] using hv
  · refine triple_bind contract_lawful removeTemporary_spec fun _ => ?_
    refine given_triple stable_on (fun _ => ?_) fun _ _ _ h => h
    exact triple_bind contract_lawful removeDump_spec fun _ => triple_pure stable_on fun _ _ h => h

lemma removeOwnedLock_triple : Triple (contract R careful G) i (On i A Unpublished)
    (removeOwnedLock A.token) fun _ => On i A Free := by
  have hread : Triple (contract R careful G) i (On i A Unpublished) (perform (.readFile .lock))
      fun r => On i A fun v => Unpublished v ∧
        ∀ ms, v.held = some ms → r = some (.token A.token) := by
    refine on_ask (fun _ h => by cases h) fun s r t _ hexec => ?_
    obtain ⟨rfl, rfl⟩ := hexec
    exact ⟨rfl, fun ms hms => (held_iff.1 hms).1⟩
  refine triple_bind contract_lawful hread fun r => ?_
  refine given_triple stable_on (fun _ => ?_) fun hr s _ hs => ?_
  · refine triple_bind contract_lawful ?_ fun _ => triple_pure stable_on fun _ _ h => h
    exact triple_conseq removeLock_spec (fun _ _ h => h.mono fun _ hv => hv.1) fun _ _ _ h => h
  · obtain ⟨-, ⟨ms, hms, -⟩, h⟩ := hs
    exact absurd (h ms hms) hr

lemma takeLock_triple : Triple (contract R careful G) i (On i A Fresh) (takeLock A.token).run
    (Exits (fun _ => On i A Locked) fun _ => On i A Free) := by
  refine exits_bind contract_lawful (fun _ => stable_on) (call_triple take_spec) fun r => ?_
  cases r with
  | ok => exact exits_pure stable_on fun _ _ h => h
  | «exists» => exact exits_throw stable_on fun _ _ h => h
  | failed => exact exits_throw stable_on fun _ _ h => h

lemma copyDump_triple (chunks : List Bytes) (b : Bytes) :
    Triple (contract R careful G) i (On i A (Copied b))
      (copyDump (.dump A.backupId A.token) chunks).run
      (Exits (fun _ => On i A (Copied (b ++ chunks.flatten))) fun _ => On i A Unpublished) := by
  induction chunks generalizing b with
  | nil => exact exits_pure stable_on fun s _ h => by simpa using h
  | cons chunk rest ih =>
      refine exits_bind contract_lawful (fun _ => stable_on)
        (must_triple (fun _ => stable_on) (fun _ => stable_on) (call_triple (append_spec b chunk))
          fun _ h => h) fun _ => ?_
      have hrest := ih (b ++ chunk)
      rw [List.append_assoc, ← List.flatten_cons] at hrest
      exact hrest

lemma fillStage_triple : Triple (contract R careful G) i (On i A Locked)
    (fillStage A.backupId A.token A.archive.dump).run
    (Exits (fun _ => On i A (Copied A.archive.dump.flatten)) fun _ => On i A Unpublished) := by
  refine exits_bind contract_lawful (fun _ => stable_on) (call_triple (lstat_spec .pending))
    fun pending => ?_
  refine exits_bind contract_lawful (fun _ => stable_on) (call_triple (lstat_spec .applying))
    fun applying => ?_
  refine exits_bind contract_lawful (fun _ => stable_on) (call_triple (lstat_spec .applied))
    fun applied => ?_
  refine exits_bind (K := fun _ => On i A fun v => v.temporary = none ∧ v.held = some fun _ => none)
    contract_lawful (fun _ => stable_on) ?_ fun _ => ?_
  · refine exits_given stable_on (fun _ => ?_) fun hno s _ hs => ?_
    · exact exits_throw stable_on fun _ _ h => h.mono fun _ hv => hv.1.1.1.unpublished
    · refine hs.mono fun v hv => ?_
      obtain ⟨⟨⟨⟨-, htemp, ms, hms, -⟩, hp⟩, hg⟩, ha⟩ := hv
      refine ⟨htemp, hms.trans (congrArg some (funext fun q => ?_))⟩
      have hq : (ms q).isSome = false := by
        cases q with
        | pending => exact (hp ms hms) ▸ (by simp at hno; exact hno.1)
        | applying => exact (hg ms hms) ▸ (by simp at hno; exact hno.2.1)
        | applied => exact (ha ms hms) ▸ (by simp at hno; exact hno.2.2)
      exact Option.not_isSome_iff_eq_none.1 (by simp [hq])
  · refine exits_bind contract_lawful (fun _ => stable_on) (call_triple openDump_spec) fun r => ?_
    cases r with
    | ok => exact copyDump_triple A.archive.dump []
    | «exists» => exact exits_throw stable_on fun _ _ h => h
    | failed => exact exits_throw stable_on fun _ _ h => h

lemma prepareStage_triple : Triple (contract R careful G) i (On i A Fresh)
    (prepareStage A.backupId A.token A.archive.dump).run
    (Exits (fun _ s => commandIDPattern A.backupId = true ∧
      On i A (Copied A.archive.dump.flatten) s) fun _ => On i A Free) := by
  have hfree : ∀ v, Fresh v → Free v := fun v hv => congrArg View.held hv
  refine exits_bind (K := fun _ s => commandIDPattern A.backupId = true ∧ On i A Fresh s)
    contract_lawful (fun _ => stable_on) ?_ fun _ => triple_pre fun hid => ?_
  · refine exits_given stable_on (fun _ => ?_) fun hid s _ hs => ⟨by simpa using hid, hs⟩
    exact exits_throw stable_on fun _ _ h => h.mono hfree
  refine exits_bind contract_lawful (fun _ => stable_on) takeLock_triple fun _ => ?_
  refine exits_bind contract_lawful (fun _ => stable_on)
    (exits_lift contract_lawful ?_ fillStage_triple) fun r => ?_
  · rintro (_ | _) <;> exact stable_on
  · cases r with
    | ok u => exact exits_pure stable_on fun _ _ h => ⟨hid, h⟩
    | error e =>
        refine exits_bind contract_lawful (fun _ => stable_on)
          (exits_lift contract_lawful (fun _ => stable_on) (rollback_triple e.2 false)) fun _ => ?_
        refine exits_bind contract_lawful (fun _ => stable_on)
          (exits_lift contract_lawful (fun _ => stable_on) removeOwnedLock_triple) fun _ => ?_
        exact exits_throw stable_on fun _ _ h => h

lemma markerOf_supported {restoreId : String} {artifact : Artifact}
    (htoken : commandIDPattern A.token = true) (hbackup : commandIDPattern A.backupId = true)
    (hrestore : commandIDPattern restoreId = true)
    (hsize : 1 ≤ artifact.size ∧ artifact.size ≤ maxSafeInteger)
    (hsum : checksumPattern artifact.checksum = true) :
    (markerOf A.backupId A.token restoreId artifact).supported = true := by
  simp [RestoreMarker.supported, markerOf, htoken, hbackup, hrestore, hsize, hsum]

lemma given_bind_ok {ε α : Type} {c : Prop} [Decidable c] {e : ε} {f : Unit → Except ε α}
    {a : α} (h : (given c (throw e) >>= f) = .ok a) : ¬c ∧ f () = .ok a := by
  unfold given at h
  by_cases hc : c
  · rw [if_pos hc] at h
    cases h
  · rw [if_neg hc] at h
    exact ⟨hc, h⟩

lemma given_ok {ε : Type} {c : Prop} [Decidable c] {e : ε} {u : Unit}
    (h : given c (throw e : Except ε Unit) = .ok u) : ¬c := by
  intro hc
  rw [given, if_pos hc] at h
  cases h

lemma checkArtifact_ok {backup : SystemBackup} {artifact : Artifact} {u : Unit}
    (h : checkArtifact backup artifact = .ok u) :
    checksumPattern artifact.checksum = true ∧ 1 ≤ artifact.size := by
  obtain ⟨hsum, h⟩ := given_bind_ok h
  have hsize := given_ok h
  simp only [not_or, Bool.not_eq_false] at hsum
  exact ⟨hsum.2.1, by omega⟩

lemma checkArchive_ok {backupId : String} {archive : Archive} {u : Unit}
    (h : checkArchive R backupId archive = .ok u) :
    archive.manifest.databaseDump = R.sha256 archive.dump.flatten := by
  obtain ⟨-, h⟩ := given_bind_ok h
  obtain ⟨-, h⟩ := given_bind_ok h
  have hsum := given_ok h
  simp only [not_or, not_not] at hsum
  exact hsum.2

/-- What is known of an artifact and its archive once they are read. -/
structure Readable (R : Recovery) (A : Attempt) (artifact : Artifact) (archive : Archive) :
    Prop where
  archive : archive = A.archive
  valid : Validated R A
  size : 1 ≤ artifact.size ∧ artifact.size ≤ maxSafeInteger
  checksum : checksumPattern artifact.checksum = true

lemma readBackup_triple (backup : SystemBackup) : Triple (contract R careful G) i (On i A Fresh)
    (readBackup R A.backupId backup).run
    (Exits (fun p s => Readable R A p.1 p.2 ∧ On i A Fresh s) fun _ => On i A Free) := by
  have hfree : ∀ v, Fresh v → Free v := fun v hv => congrArg View.held hv
  have hartifact : Triple (contract R careful G) i (On i A Fresh)
      (perform (.artifact A.backupId))
      fun r => On i A fun v => Fresh v ∧ ∀ a, r = some a → a.size ≤ maxSafeInteger :=
    on_ask (fun _ h => by cases h) fun s r t _ hexec => hexec
  have hunpack {φ : View → Prop} : Triple (contract R careful G) i (On i A φ)
      (perform (.unpack A.backupId)) fun r => On i A fun v => φ v ∧ ∀ a, r = .ok a → a = A.archive := by
    refine on_ask (fun _ h => by cases h) fun s r t hA hexec => ⟨hexec.1, fun a ha => ?_⟩
    obtain ⟨B, hB, hBa⟩ := hexec.2 a ha
    rw [hA] at hB
    obtain rfl := Task.stage.inj (Option.some.inj hB)
    exact hBa
  have hlist {φ : View → Prop} : Triple (contract R careful G) i (On i A φ)
      (perform .listDump) fun _ => On i A fun v => φ v ∧ True :=
    on_ask (fun _ h => by cases h) fun s r t _ hexec => ⟨hexec, trivial⟩
  refine exits_bind contract_lawful (fun _ => stable_on) (call_triple hartifact) fun found => ?_
  cases found with
  | none => exact exits_throw stable_on fun _ _ h => h.mono fun v hv => hfree v hv.1
  | some artifact =>
    refine exits_bind contract_lawful (fun _ => stable_on)
      (exits_ofExcept stable_on (fun _ _ h => h.mono fun v hv => hfree v hv.1) _) fun _ =>
      triple_pre fun hcheck => ?_
    obtain ⟨hsum, hsize⟩ := checkArtifact_ok hcheck
    refine exits_bind contract_lawful (fun _ => stable_on) (call_triple hunpack) fun unpacked => ?_
    refine exits_bind contract_lawful (fun _ => stable_on)
      (exits_ofExcept stable_on (fun _ _ h => h.mono fun v hv => hfree v hv.1.1) _) fun archive =>
      triple_pre fun harchive => ?_
    refine exits_bind contract_lawful (fun _ => stable_on)
      (exits_ofExcept stable_on (fun _ _ h => h.mono fun v hv => hfree v hv.1.1) _) fun _ =>
      triple_pre fun hvalid => ?_
    refine exits_bind contract_lawful (fun _ => stable_on)
      (must_triple (fun _ => stable_on) (fun _ => stable_on) (call_triple hlist)
        fun _ h => h.mono fun v hv => hfree v hv.1.1.1) fun _ => ?_
    refine exits_pure stable_on fun s _ h => ?_
    obtain ⟨hA, ⟨⟨hfresh, hmax⟩, hown⟩, -⟩ := h
    have heq := hown archive harchive
    refine ⟨⟨heq, ?_, ⟨hsize, hmax artifact rfl⟩, hsum⟩, hA, hfresh⟩
    unfold Validated
    rw [← heq]
    exact checkArchive_ok hvalid

lemma writeMarker_triple (b : Bytes) (m : RestoreMarker) :
    Triple (contract R careful G) i (On i A (Copied b)) (writeMarker A.token m).run
      (Exits (fun _ => On i A fun v => v.dump = some (.bytes b) ∧
        v.temporary = some (.marker m) ∧ v.held = some fun _ => none)
        fun _ => On i A Unpublished) := by
  refine exits_bind contract_lawful (fun _ => stable_on)
    (call_triple (writeTemporary_spec b m)) fun r => ?_
  cases r with
  | ok => exact exits_pure stable_on fun _ _ h => h
  | «exists» => exact exits_throw stable_on fun _ _ h => h
  | failed => exact exits_throw stable_on fun _ _ h => h

lemma publish_triple {restoreId : String} {artifact : Artifact} {archive : Archive}
    (htoken : commandIDPattern A.token = true) (hbackup : commandIDPattern A.backupId = true)
    (h : Readable R A artifact archive) :
    Triple (contract R careful G) i (On i A (Copied A.archive.dump.flatten))
      (publish A.backupId A.token restoreId artifact).run
      (Exits (fun _ => On i A (Published A)) fun _ => On i A Unpublished) := by
  refine exits_bind (K := fun _ s => commandIDPattern restoreId = true ∧
    On i A (Copied A.archive.dump.flatten) s) contract_lawful (fun _ => stable_on) ?_
    fun _ => triple_pre fun hrestore => ?_
  · refine exits_given stable_on (fun _ => ?_) fun hid s _ hs => ⟨by simpa using hid, hs⟩
    exact exits_throw stable_on fun _ _ h => h.mono fun _ hv => hv.unpublished
  refine exits_bind contract_lawful (fun _ => stable_on) (writeMarker_triple _ _) fun _ => ?_
  have hsupported := markerOf_supported htoken hbackup hrestore h.size h.checksum
  exact must_triple
    (K := fun r => On i A fun v => if r = true then Published A v else Unpublished v)
    (fun _ => stable_on) (fun _ => stable_on)
    (call_triple (publish_spec rfl rfl hsupported h.valid)) fun _ h => h

/-- What an error of `stage` leaves, for the handler. -/
def Left (A : Attempt) : Progress → View → Prop
  | .unpublished => Free
  | .prepared _ published => Ready A published

lemma database_spec {o : StageOp} {φ : View → Prop} (ho : ∀ f, o ≠ .pgRestore f)
    (h : ∀ s r t, stageEffect careful i s o r t → t = s) :
    Triple (contract R careful G) i (On i A φ) (perform o) fun _ => On i A φ := by
  refine on_perform ho fun s r t hi hA hφ hexec => ?_
  obtain rfl := h s r t hexec
  exact ⟨hi, rfl, fun _ _ => rfl, hφ⟩

lemma stage_triple (backup : SystemBackup) (htoken : commandIDPattern A.token = true) :
    Triple (contract R careful G) i (On i A Fresh) (stage R A.backupId A.token backup).run
      (Exits (fun _ => On i A (Published A)) fun e => On i A (Left A e.2)) := by
  have herr : ∀ e : Thrown × Progress, Stable (contract R careful G) i (On i A (Left A e.2)) :=
    fun _ => stable_on
  refine exits_bind contract_lawful herr
    (exits_adapt contract_lawful (fun _ => (stable_const _).and stable_on) (fun _ => stable_on)
      (readBackup_triple backup) fun _ _ _ h => h) ?_
  rintro ⟨artifact, archive⟩
  refine triple_pre fun hread => ?_
  obtain rfl := hread.archive
  refine exits_bind contract_lawful herr
    (exits_adapt contract_lawful (fun _ => (stable_const _).and stable_on) (fun _ => stable_on)
      prepareStage_triple fun _ _ _ h => h) fun _ => triple_pre fun hbackup => ?_
  refine exits_bind contract_lawful herr
    (call_triple (database_spec (fun _ h => by cases h) fun _ _ _ h => h)) fun created => ?_
  cases created with
  | none => exact exits_throw stable_on fun _ _ h => h.mono fun _ hv => hv.unpublished
  | some restore =>
    refine exits_bind contract_lawful herr
      (exits_adapt contract_lawful (fun _ => stable_on) (fun _ => stable_on)
        (publish_triple htoken hbackup hread) fun _ _ _ h => h) fun _ => ?_
    refine exits_bind contract_lawful herr
      (must_triple (fun _ => stable_on) herr
        (call_triple (database_spec (fun _ h => by cases h) fun _ _ _ h => h))
        fun _ h => h) fun _ => ?_
    exact exits_pure stable_on fun _ _ h => h

lemma abandon_triple (failure : SystemRecoveryFailure) (progress : Progress) :
    Triple (contract R careful G) i (On i A (Left A progress))
      (abandon A.backupId A.token failure progress) fun _ => On i A Free := by
  have hdone {P : StageState → Prop} (hP : Stable (contract R careful G) i P) :
      Triple (contract R careful G) i P (.pure ()) fun _ => P :=
    triple_pure hP fun _ _ h => h
  match progress with
  | .unpublished =>
      exact triple_bind contract_lawful
        (database_spec (fun _ h => by cases h) fun _ _ _ h => h) fun _ => hdone stable_on
  | .prepared none published =>
      exact triple_bind contract_lawful (rollback_triple true published)
        fun _ => removeOwnedLock_triple
  | .prepared (some restore) published =>
      refine triple_bind contract_lawful (rollback_triple true published) fun _ => ?_
      exact triple_bind contract_lawful
        (database_spec (fun _ h => by cases h) fun _ _ _ h => h) fun _ => removeOwnedLock_triple

/-- An attempt leaves its lock only with its marker beside it. -/
lemma stageRestore_triple (htoken : commandIDPattern A.token = true) :
    Triple (contract R careful G) i (On i A Fresh) (stageRestore R A.backupId A.token).run
      (Exits (fun _ => On i A (Published A)) fun _ => On i A Free) := by
  have hfree : ∀ v, Fresh v → Free v := fun v hv => congrArg View.held hv
  refine exits_bind contract_lawful (fun _ => stable_on)
    (call_triple (database_spec (fun _ h => by cases h) fun _ _ _ h => h)) fun found => ?_
  match found with
  | none => exact exits_throw stable_on fun _ _ h => h.mono hfree
  | some none => exact exits_throw stable_on fun _ _ h => h.mono hfree
  | some (some backup) =>
      refine exits_bind contract_lawful (fun _ => stable_on)
        (exits_lift contract_lawful ?_ (stage_triple backup htoken)) fun r => ?_
      · rintro (_ | _) <;> exact stable_on
      cases r with
      | ok restore => exact exits_pure stable_on fun _ _ h => h
      | error e =>
          refine exits_bind contract_lawful (fun _ => stable_on)
            (exits_lift contract_lawful (fun _ => stable_on) (abandon_triple _ e.2)) fun _ => ?_
          exact exits_throw stable_on fun _ _ h => h

end GatewayControl.StagingSafety
