import GatewayControl.RecoveryHost
import GatewayControl.StagingSafety

/-!
Runs of the apply program on a host where nothing else is at work: it is started, fails or is
killed anywhere, and is started again.

While a marker is there the runs keep to it. They are through with it only once its dump is in
the database and the row of its backup is finalized.
-/

namespace GatewayControl.ApplyRuns

open Programs Staging SystemBackups RecoveryHost RecoveryHost.Host

variable {contents : Bytes → Plane} {m : RestoreMarker} {b : Bytes} {live : Prop}
  {Φ : Plane → Prop} {disk : String → Option EncryptedFile} {s t : Host}

/-! ### The system -/

/-- The apply program, over and over. -/
def system (contents : Bytes → Plane) :
    System interface Host Unit (Except String Bool) Unit where
  exec := fun _ => applyEffect contents
  start := fun _ _ s p t => p = applyStagedSystemRestore.run ∧ t = s
  environment := fun _ _ _ => False
  crash := fun _ s t p => p = .pure (.error "killed") ∧ t = s

/-- Nothing has been run on that host. -/
def fromHost (s : Host) (c : Config interface Host Unit (Except String Bool)) : Prop :=
  c = ⟨s, fun _ => .pure (.error "not started")⟩

/-- What is in the database once the dump of a marker is restored. -/
def Restored (contents : Bytes → Plane) (m : RestoreMarker) (b : Bytes) (plane : Plane) : Prop :=
  plane = { contents b with backups :=
    if m.version = 2 then (finalizeRestoredBackup (contents b).backups m).1
    else (contents b).backups } ∧
  (m.version = 2 → (finalizeRestoredBackup (contents b).backups m).2 = 1)

/-- The one marker is `m`, with its dump beside it; without one the database is as `Φ` says.
Unless `live` holds, the restore is applied already. -/
structure Kept (m : RestoreMarker) (b : Bytes) (live : Prop) (Φ : Plane → Prop)
    (disk : String → Option EncryptedFile) (s : Host) : Prop where
  disk : s.disk = disk
  markers : ∀ p c, s.files (.marker p) = some c → c = .marker m
  one : ∀ p q, s.files (.marker p) ≠ none → s.files (.marker q) ≠ none → p = q
  staged : ∀ p, p ≠ .applied → s.files (.marker p) ≠ none →
    s.files m.dump = some (.bytes b) ∧ live
  done : (∀ p, p ≠ .applied → s.files (.marker p) = none) → Φ s.plane

def contract (contents : Bytes → Plane) (m : RestoreMarker) (b : Bytes) (live : Prop)
    (Φ : Plane → Prop) (disk : String → Option EncryptedFile) : Contract interface Host Unit where
  exec := fun _ => applyEffect contents
  inv := Kept m b live Φ disk
  rely := fun _ s t => t = s
  allowed := fun _ _ o => ∀ f, o = .pgRestore f → f = m.dump ∧ live

lemma contract_lawful : (contract contents m b live Φ disk).Lawful :=
  ⟨fun _ _ => rfl, fun _ _ _ _ h h' => h'.trans h⟩

lemma stable_any {P : Host → Prop} : Stable (contract contents m b live Φ disk) () P := by
  rintro s t - - rfl h
  exact h

/-! ### Effects -/

/-- A program of the apply runs that keeps to `Kept`; its errors say nothing more. -/
abbrev Tells {α : Type} (contents : Bytes → Plane) (m : RestoreMarker) (b : Bytes) (live : Prop)
    (Φ : Plane → Prop) (disk : String → Option EncryptedFile) (P : Host → Prop)
    (p : ExceptT String (Prog interface) α) (K : α → Host → Prop) : Prop :=
  Tri (contract contents m b live Φ disk) () P p K

lemma tells_call {P : Host → Prop} {o : StageOp} {K : o.Res → Host → Prop}
    (hok : ∀ s f, Kept m b live Φ disk s → P s → o = .pgRestore f → f = m.dump ∧ live)
    (h : ∀ s r t, Kept m b live Φ disk s → P s → applyEffect contents s o r t →
      Kept m b live Φ disk t ∧ K r t) :
    Tells contents m b live Φ disk P (call o) K := by
  refine tri_lift contract_lawful (fun _ => stable_any)
    (triple_perform stable_any (fun _ => stable_any) (fun s hi hs f => hok s f hi hs) ?_)
  intro s r t hi hs hexec
  obtain ⟨ht, hr⟩ := h s r t hi hs hexec
  exact ⟨ht, fun j hj => absurd rfl hj, hr⟩

lemma tells_bind {α β : Type} {P : Host → Prop} {p : ExceptT String (Prog interface) α}
    {f : α → ExceptT String (Prog interface) β} {K : α → Host → Prop} {K' : β → Host → Prop}
    (hp : Tells contents m b live Φ disk P p K)
    (hf : ∀ a, Tells contents m b live Φ disk (K a) (f a) K') :
    Tells contents m b live Φ disk P (p >>= f) K' :=
  tri_bind contract_lawful hp hf

lemma tells_must {P : Host → Prop} {K : Bool → Host → Prop}
    {p : ExceptT String (Prog interface) Bool} {e : String}
    (hp : Tells contents m b live Φ disk P p K) :
    Tells contents m b live Φ disk P (must p e) fun _ => K true := by
  refine tells_bind hp fun r => ?_
  cases r with
  | true => exact tri_pure stable_any fun _ _ h => h
  | false => exact tri_throw stable_any

lemma tells_given {P Q : Host → Prop} {c : Prop} [Decidable c]
    {p : ExceptT String (Prog interface) Unit}
    (hp : c → Tells contents m b live Φ disk P p fun _ => Q)
    (hn : ¬ c → ∀ s, Kept m b live Φ disk s → P s → Q s) :
    Tells contents m b live Φ disk P (given c p) fun _ => Q := by
  unfold given
  split_ifs with hc
  · exact hp hc
  · exact tri_pure stable_any (hn hc)

lemma lstat_tells {P : Host → Prop} (f : StageFile) : Tells contents m b live Φ disk P
    (call (.lstat f)) fun r s => P s ∧ r = (s.files f).isSome := by
  refine tells_call (fun _ _ _ _ h => by cases h) fun s r t hi hs hexec => ?_
  obtain ⟨rfl, rfl⟩ := hexec
  exact ⟨hi, hs, rfl⟩

lemma readFile_tells {P : Host → Prop} (f : StageFile) : Tells contents m b live Φ disk P
    (call (.readFile f)) fun r s => P s ∧ (r = s.files f ∨ r = none) := by
  refine tells_call (fun _ _ _ _ h => by cases h) fun s r t hi hs hexec => ?_
  obtain ⟨hr, rfl⟩ := hexec
  exact ⟨hi, hs, hr⟩

lemma kept_only (hi : Kept m b live Φ disk s) {name p : MarkerName}
    (hname : s.files (.marker name) = some (.marker m)) (hp : p ≠ name) :
    s.files (.marker p) = none := by
  by_contra hne
  exact hp (hi.one p name hne (by simp [hname]))

lemma moved_marker (hi : Kept m b live Φ disk s) {p q : MarkerName}
    (hp : s.files (.marker p) = some (.marker m)) (hpq : p ≠ q) (x : MarkerName) :
    (s.move (.marker p) (.marker q) (.marker m)).files (.marker x) =
      if x = q then some (.marker m) else none := by
  by_cases hxq : x = q
  · subst hxq
    rw [if_pos rfl]
    exact move_target s _ (by simpa using hpq)
  · rw [if_neg hxq]
    by_cases hxp : x = p
    · subst hxp
      exact move_source s _ _ _
    · rw [move_ne s _ (by simpa using hxp) (by simpa using hxq)]
      exact kept_only hi hp hxp

/-- The marker passes on to its next name; to the last one only when the database is done. -/
lemma rename_tells {p q : MarkerName} (hp : p ≠ .applied) (hpq : p ≠ q)
    (hdump : ∃ i x, m.dump = .dump i x) {P : Host → Prop}
    (hP : ∀ s, P s → s.files (.marker p) = some (.marker m))
    (hdone : q = .applied → ∀ s, P s → Φ s.plane) :
    Tells contents m b live Φ disk P (call (.rename (.marker p) (.marker q)))
      fun r s => r = true → s.files (.marker q) = some (.marker m) := by
  refine tells_call (fun _ _ _ _ h => by cases h) fun s r t hi hs hexec => ?_
  rcases hexec with ⟨c, hc, rfl⟩ | ⟨rfl, rfl⟩
  · have hname := hP s hs
    rw [hname] at hc
    obtain rfl := Option.some.inj hc
    have hmoved := moved_marker hi hname hpq
    obtain ⟨hold, hlive⟩ := hi.staged p hp (by simp [hname])
    refine ⟨⟨hi.disk, ?_, ?_, ?_, ?_⟩, fun _ => move_target s _ (by simpa using hpq)⟩
    · intro x c hc
      rw [hmoved] at hc
      split_ifs at hc
      exact (Option.some.inj hc).symm
    · intro x y hx hy
      rw [hmoved] at hx hy
      split_ifs at hx hy with h h'
      · rw [h, h']
      all_goals simp at hx hy
    · intro x hx hne
      refine ⟨?_, hlive⟩
      obtain ⟨i, y, hy⟩ := hdump
      rw [move_ne s _ (by simp [hy]) (by simp [hy])]
      exact hold
    · intro hnone
      by_cases hq : q = .applied
      · exact hdone hq s hs
      · have hthere := hnone q hq
        rw [hmoved, if_pos rfl] at hthere
        cases hthere
  · exact ⟨hi, nofun⟩

/-- The database changes only while the marker is not yet applied. -/
lemma plane_kept {plane : Plane} (hi : Kept m b live Φ disk s)
    (hname : s.files (.marker .applying) = some (.marker m)) :
    Kept m b live Φ disk { s with plane := plane } := by
  refine ⟨hi.disk, hi.markers, hi.one, hi.staged, fun hnone => ?_⟩
  have hthere := hnone .applying (by simp)
  change s.files (.marker .applying) = none at hthere
  rw [hname] at hthere
  cases hthere

lemma pgRestore_tells : Tells contents m b live Φ disk
    (fun s => s.files (.marker .applying) = some (.marker m)) (call (.pgRestore m.dump))
    fun r s => s.files (.marker .applying) = some (.marker m) ∧
      (r = true → s.plane = contents b) := by
  refine tells_call (fun s f hi hs hf => ?_) fun s r t hi hs hexec => ?_
  · obtain rfl := StageOp.pgRestore.inj hf
    exact ⟨rfl, (hi.staged .applying (by simp) (by simp [hs])).2⟩
  · rcases hexec with ⟨b', hb', rfl⟩ | ⟨rfl, rfl⟩
    · rw [(hi.staged .applying (by simp) (by simp [hs])).1] at hb'
      obtain rfl := Content.bytes.inj (Option.some.inj hb')
      exact ⟨plane_kept hi hs, hs, fun _ => rfl⟩
    · exact ⟨hi, hs, nofun⟩

lemma finalize_tells (hv : m.version = 2) : Tells contents m b live Φ disk
    (fun s => s.files (.marker .applying) = some (.marker m) ∧ s.plane = contents b)
    (call (.finalizeBackup m)) fun r s => s.files (.marker .applying) = some (.marker m) ∧
      (r = true → Restored contents m b s.plane) := by
  refine tells_call (fun _ _ _ _ h => by cases h) fun s r t hi hs hexec => ?_
  obtain ⟨hname, hplane⟩ := hs
  rcases hexec with ⟨rfl, hr⟩ | ⟨rfl, rfl⟩
  · refine ⟨plane_kept hi hname, hname, fun h => ⟨?_, fun _ => ?_⟩⟩
    · simp [finalized, withBackups, hplane, hv]
    · have hcount := hr h
      simpa [finalized, hplane] using hcount
  · exact ⟨hi, hname, nofun⟩

/-- A file that is no marker changes, and the dump only once no marker needs it. -/
lemma put_kept {f : StageFile} {c : Option Content} (hi : Kept m b live Φ disk s)
    (hf : ∀ p, f ≠ .marker p)
    (hdump : f = m.dump → ∀ p, p ≠ .applied → s.files (.marker p) = none) :
    Kept m b live Φ disk (s.put f c) := by
  have hmarker : ∀ p, (s.put f c).files (.marker p) = s.files (.marker p) :=
    fun p => put_ne s c (hf p).symm
  refine ⟨hi.disk, ?_, ?_, ?_, ?_⟩
  · intro p x hx
    rw [hmarker] at hx
    exact hi.markers p x hx
  · intro p q hp hq
    rw [hmarker] at hp hq
    exact hi.one p q hp hq
  · intro p hp hne
    rw [hmarker] at hne
    obtain ⟨hold, hlive⟩ := hi.staged p hp hne
    refine ⟨?_, hlive⟩
    rw [put_ne]
    · exact hold
    · intro heq
      exact hne (hdump heq.symm p hp)
  · intro hnone
    refine hi.done fun p hp => ?_
    rw [← hmarker p]
    exact hnone p hp

lemma removeLock_tells (hdump : ∃ i x, m.dump = .dump i x) : Tells contents m b live Φ disk
    (fun s => s.files (.marker .applied) = some (.marker m)) (call (.remove .lock))
    fun _ s => s.files (.marker .applied) = some (.marker m) := by
  obtain ⟨i, x, hx⟩ := hdump
  refine tells_call (fun _ _ _ _ h => by cases h) fun s r t hi hs hexec => ?_
  rcases hexec with rfl | ⟨-, rfl⟩
  · refine ⟨put_kept hi (fun p h => by cases h) (fun h => ?_), ?_⟩
    · rw [hx] at h
      cases h
    · rw [put_ne _ _ (by simp)]
      exact hs
  · exact ⟨hi, hs⟩

/-- Removing the applied marker leaves none. -/
lemma removeMarker_tells : Tells contents m b live Φ disk
    (fun s => s.files (.marker .applied) = some (.marker m)) (call (.remove (.marker .applied)))
    fun r s => r = true → ∀ p, s.files (.marker p) = none := by
  refine tells_call (fun _ _ _ _ h => by cases h) fun s r t hi hs hexec => ?_
  rcases hexec with rfl | ⟨rfl, rfl⟩
  · have hnone : ∀ p, (s.put (.marker .applied) none).files (.marker p) = none := by
      intro p
      by_cases hp : p = .applied
      · subst hp
        exact put_self _ _ _
      · rw [put_ne _ _ (by simpa using hp)]
        exact kept_only hi hs hp
    refine ⟨⟨hi.disk, ?_, ?_, ?_, fun _ => hi.done fun p hp => kept_only hi hs hp⟩, fun _ => hnone⟩
    · intro p c hc
      rw [hnone] at hc
      cases hc
    · intro p q hp
      exact absurd (hnone p) hp
    · intro p _ hp
      exact absurd (hnone p) hp
  · exact ⟨hi, nofun⟩

lemma removeDump_tells (hdump : ∃ i x, m.dump = .dump i x) : Tells contents m b live Φ disk
    (fun s => ∀ p, s.files (.marker p) = none) (call (.remove m.dump)) fun _ s => Φ s.plane := by
  obtain ⟨i, x, hx⟩ := hdump
  refine tells_call (fun _ _ _ _ h => by cases h) fun s r t hi hs hexec => ?_
  have hΦ : Φ s.plane := hi.done fun p _ => hs p
  rcases hexec with rfl | ⟨-, rfl⟩
  · exact ⟨put_kept hi (fun p h => by rw [hx] at h; cases h) fun _ p _ => hs p, hΦ⟩
  · exact ⟨hi, hΦ⟩

/-! ### The program -/

-- What the runs have to reach: the restored database is as `Φ` says.
variable (hΦ : ∀ plane, Restored contents m b plane → Φ plane)

include hΦ in
lemma replaceDatabase_tells (hdump : ∃ i x, m.dump = .dump i x) {name : MarkerName}
    (hname : name ≠ .applied) : Tells contents m b live Φ disk
      (fun s => s.files (.marker name) = some (.marker m)) (replaceDatabase name m)
      fun _ s => s.files (.marker .applied) = some (.marker m) := by
  refine tells_bind (K := fun _ s => s.files (.marker .applying) = some (.marker m)) ?_
    fun _ => ?_
  · refine tells_given (fun hp => ?_) fun hp s _ hs => ?_
    · subst hp
      exact tri_conseq (tells_must (rename_tells (by simp) (by simp) hdump (fun _ h => h)
        (fun h => by cases h))) (fun _ _ h => h) fun _ _ _ h => h rfl
    · cases name with
      | pending => exact absurd rfl hp
      | applying => exact hs
      | applied => exact absurd rfl hname
  refine tells_bind (K := fun _ s => s.files (.marker .applying) = some (.marker m) ∧
    s.plane = contents b) ?_ fun _ => ?_
  · exact tri_conseq (tells_must pgRestore_tells) (fun _ _ h => h) fun _ _ _ h => ⟨h.1, h.2 rfl⟩
  refine tells_bind (K := fun _ s => s.files (.marker .applying) = some (.marker m) ∧
    Restored contents m b s.plane) ?_ fun _ => ?_
  · refine tells_given (fun hv => ?_) fun hv s _ hs => ⟨hs.1, ?_, fun h => absurd h hv⟩
    · exact tri_conseq (tells_must (finalize_tells hv)) (fun _ _ h => h)
        fun _ _ _ h => ⟨h.1, h.2 rfl⟩
    · rw [hs.2, if_neg hv]
  · exact tri_conseq (tells_must (rename_tells (by simp) (by simp) hdump (fun _ h => h.1)
      fun _ s h => hΦ _ h.2)) (fun _ _ h => h) fun _ _ _ h => h rfl

lemma cleanUp_tells (hdump : ∃ i x, m.dump = .dump i x) (lock : Bool) :
    Tells contents m b live Φ disk (fun s => s.files (.marker .applied) = some (.marker m))
      (cleanUp lock m.dump) fun _ s => Φ s.plane := by
  refine tells_bind (K := fun _ s => s.files (.marker .applied) = some (.marker m)) ?_ fun _ => ?_
  · exact tells_given (fun _ => tells_must (removeLock_tells hdump)) fun _ _ _ h => h
  refine tells_bind (K := fun _ s => ∀ p, s.files (.marker p) = none) ?_ fun _ => ?_
  · exact tri_conseq (tells_must removeMarker_tells) (fun _ _ h => h) fun _ _ _ h => h rfl
  · exact tells_must (removeDump_tells hdump)

include hΦ in
lemma applyMarker_tells (hdump : ∃ i x, m.dump = .dump i x) (name : MarkerName) :
    Tells contents m b live Φ disk (fun s => s.files (.marker name) = some (.marker m))
      (applyMarker name m) fun _ s => Φ s.plane := by
  refine tells_bind (lstat_tells .lock) fun lock => ?_
  refine tells_bind (K := fun _ s => s.files (.marker name) = some (.marker m)) ?_ fun _ => ?_
  · refine tells_given (fun _ => ?_) fun _ _ _ h => h.1
    refine tells_bind (readFile_tells .lock) fun owner => ?_
    exact tells_given (fun _ => tri_throw stable_any) fun _ _ _ h => h.1.1
  refine tells_bind (K := fun _ s => s.files (.marker name) = some (.marker m)) ?_ fun _ => ?_
  · exact tri_conseq (tells_must (lstat_tells m.dump)) (fun _ _ h => h) fun _ _ _ h => h.1
  refine tells_bind (K := fun _ s => s.files (.marker .applied) = some (.marker m)) ?_ fun _ => ?_
  · refine tells_given (fun hn => replaceDatabase_tells hΦ hdump hn) fun hn s _ hs => ?_
    obtain rfl := not_not.1 hn
    exact hs
  exact tells_bind (cleanUp_tells hdump lock) fun _ => tri_pure stable_any fun _ _ h => h

include hΦ in
/-- A run that says it has applied something has reached `Φ`. -/
lemma apply_tells (hdump : ∃ i x, m.dump = .dump i x) :
    Tells contents m b live Φ disk (fun _ => True) applyStagedSystemRestore
      fun r s => r = true → Φ s.plane := by
  have hask (f : StageFile) : Tells contents m b live Φ disk (fun _ => True) (call (.lstat f))
      fun _ _ => True :=
    tri_conseq (lstat_tells f) (fun _ _ h => h) fun _ _ _ _ => trivial
  refine tells_bind (hask _) fun pending => tells_bind (hask _) fun applying => ?_
  refine tells_bind (hask _) fun applied => ?_
  dsimp only
  split
  · exact tri_pure stable_any fun _ _ _ h => by cases h
  · rename_i name _
    refine tells_bind (K := fun m' s => m' = m ∧ s.files (.marker name) = some (.marker m)) ?_
      fun m' => triple_pre ?_
    · refine tells_bind (readFile_tells (.marker name)) fun r => ?_
      match r with
      | some (.marker m') =>
          dsimp only
          split_ifs
          · refine tri_pure stable_any fun s hi hs => ?_
            rcases hs.2 with hr | hr
            · obtain rfl := Content.marker.inj (hi.markers name _ hr.symm)
              exact ⟨rfl, hr.symm⟩
            · cases hr
          · exact tri_throw stable_any
      | none => exact tri_throw stable_any
      | some (.token _) => exact tri_throw stable_any
      | some (.bytes _) => exact tri_throw stable_any
    · rintro rfl
      exact tri_conseq (applyMarker_tells hΦ hdump name) (fun _ _ h => h) fun _ _ _ h _ => h
  · exact tri_throw stable_any

/-! ### The runs -/

/-- What a run promises when it returns. -/
def Promise (Φ : Plane → Prop) (_ : Unit) (r : Except String Bool) (s : Host) : Prop :=
  r = .ok true → Φ s.plane

include hΦ in
lemma keeps (hdump : ∃ i x, m.dump = .dump i x) :
    Keeps (system contents) (contract contents m b live Φ disk) (Promise Φ) where
  lawful := contract_lawful
  exec := fun _ _ _ _ _ h => h
  start := by
    rintro _ _ s p t ⟨rfl, rfl⟩ hi -
    refine ⟨hi, fun j hj => absurd rfl hj, ?_⟩
    refine safe_mono (apply_tells hΦ hdump t hi trivial) fun r u _ hr heq => ?_
    subst heq
    exact hr rfl
  environment := fun _ _ _ h => absurd h id
  crash := by
    rintro _ s t p ⟨rfl, rfl⟩ hi
    exact ⟨hi, fun j hj => absurd rfl hj, fun _ _ _ h => by cases h⟩

include hΦ in
/-- In every run from a host with that one marker, restores are of its dump, and a run that
has applied something leaves the database as `Φ` says. -/
theorem reach_kept (hdump : ∃ i x, m.dump = .dump i x) (hs : Kept m b live Φ disk s)
    {c : Config interface Host Unit (Except String Bool)}
    (h : Reach (system contents) (fromHost s) c) :
    Kept m b live Φ disk c.state ∧
      (∀ f k, c.thread () = .op (.pgRestore f) k → f = m.dump ∧ live) ∧
      (c.thread () = .pure (.ok true) → Φ c.state.plane) := by
  have hsound : Sound (contract contents m b live Φ disk) (Promise Φ) c := by
    refine reach_sound (keeps hΦ hdump) (fun c hc => ?_) h
    obtain rfl := hc
    exact ⟨hs, fun _ _ _ _ heq => by cases heq⟩
  refine ⟨hsound.1, fun f k hk => hsound.allowed contract_lawful hk f rfl, fun hend => ?_⟩
  have hsafe := hsound.2 ()
  rw [hend] at hsafe
  exact hsafe c.state rfl hsound.1 rfl

end GatewayControl.ApplyRuns
