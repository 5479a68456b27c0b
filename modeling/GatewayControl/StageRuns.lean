import GatewayControl.Staging

/-!
Runs over one staging root: any number of staging attempts, and the apply program while
none is running. What holds of the files between any two effects is one invariant.
-/

namespace GatewayControl.StageRuns

open Text Programs Staging

/-! ### The system -/

/-- The control plane's staging requests, and the recovery container. -/
inductive Runner where
  | attempt (n : Nat)
  | recovery
  deriving DecidableEq

/-- A staging attempt: the backup, the token drawn for it, and what the backup's artifact
unpacks to. -/
structure Attempt where
  backupId : String
  token : String
  archive : Archive
  deriving DecidableEq

inductive Task where
  | stage (attempt : Attempt)
  | apply

/-- The staging root, with who is at work on it. The attempts so far and the tokens whose
marker has been `restore.applied` are kept for the statements only. -/
structure StageState where
  files : StageFile → Option Content
  task : Runner → Option Task
  attempts : List Attempt
  applied : List String

namespace StageState

def put (s : StageState) (f : StageFile) (c : Option Content) : StageState :=
  { s with files := Function.update s.files f c }

def appliedBy : StageFile → Content → List String
  | .marker .applied, .marker m => [m.token]
  | _, _ => []

def move (s : StageState) (f g : StageFile) (c : Content) : StageState where
  files := Function.update (Function.update s.files g (some c)) f none
  task := s.task
  attempts := s.attempts
  applied := appliedBy g c ++ s.applied

def assign (s : StageState) (i : Runner) (w : Option Task) : StageState :=
  { s with task := Function.update s.task i w }

@[simp] lemma put_task (s : StageState) (f : StageFile) (c : Option Content) :
    (s.put f c).task = s.task := rfl

@[simp] lemma put_attempts (s : StageState) (f : StageFile) (c : Option Content) :
    (s.put f c).attempts = s.attempts := rfl

@[simp] lemma put_applied (s : StageState) (f : StageFile) (c : Option Content) :
    (s.put f c).applied = s.applied := rfl

@[simp] lemma put_self (s : StageState) (f : StageFile) (c : Option Content) :
    (s.put f c).files f = c := by simp [put]

lemma put_ne (s : StageState) {f g : StageFile} (c : Option Content) (h : g ≠ f) :
    (s.put f c).files g = s.files g := by simp [put, h]

@[simp] lemma assign_files (s : StageState) (i : Runner) (w : Option Task) :
    (s.assign i w).files = s.files := rfl

@[simp] lemma assign_attempts (s : StageState) (i : Runner) (w : Option Task) :
    (s.assign i w).attempts = s.attempts := rfl

@[simp] lemma assign_applied (s : StageState) (i : Runner) (w : Option Task) :
    (s.assign i w).applied = s.applied := rfl

@[simp] lemma assign_self (s : StageState) (i : Runner) (w : Option Task) :
    (s.assign i w).task i = w := by simp [assign]

lemma assign_ne (s : StageState) {i j : Runner} (w : Option Task) (h : j ≠ i) :
    (s.assign i w).task j = s.task j := by simp [assign, h]

end StageState

open StageState

/-- What each effect does. Creating and writing may fail, and leave a part behind; the
database may fail. Under `careful` the write of the lock is never cut short. -/
def stageEffect (careful : Prop) (i : Runner) (s : StageState) :
    (o : StageOp) → o.Res → StageState → Prop
  | .artifact _, r, t => t = s ∧ ∀ a, r = some a → a.size ≤ maxSafeInteger
  | .unpack _, r, t =>
      t = s ∧ ∀ a, r = .ok a → ∃ A, s.task i = some (.stage A) ∧ a = A.archive
  | .writeNew f c, r, t =>
      s.files f ≠ none ∧ r = .exists ∧ t = s ∨
      s.files f = none ∧
        (r = .ok ∧ t = s.put f (some c) ∨ r = .failed ∧
          (t = s ∨ ¬ (careful ∧ f = .lock) ∧ t = s.put f (some (.bytes []))))
  | .openNew f, r, t =>
      s.files f ≠ none ∧ r = .exists ∧ t = s ∨
      s.files f = none ∧
        (r = .ok ∧ t = s.put f (some (.bytes [])) ∨ r = .failed ∧ t = s)
  | .append f chunk, r, t =>
      r = false ∧ t = s ∨ ∃ b, s.files f = some (.bytes b) ∧
        (r = true ∧ t = s.put f (some (.bytes (b ++ chunk))) ∨
          r = false ∧ ∃ part, part <+: chunk ∧ t = s.put f (some (.bytes (b ++ part))))
  | .lstat f, r, t => r = (s.files f).isSome ∧ t = s
  | .readFile f, r, t => r = s.files f ∧ t = s
  | .rename f g, r, t =>
      (∃ c, s.files f = some c ∧ r = true ∧ t = s.move f g c) ∨ r = false ∧ t = s
  | .remove f, r, t => r = (s.files f).isSome ∧ t = s.put f none
  | _, _, t => t = s

/-- A backup to be staged, and the id the database gives its restore. -/
structure Offer where
  backup : SystemBackup
  artifact : Artifact
  restoreId : String
  size : artifact.size ≤ maxSafeInteger

/-- Every effect answered as it is when nothing fails. -/
def works (offer : Offer) (i : Runner) (s : StageState) : (o : StageOp) → o.Res × StageState
  | .getSystemBackup _ => (some (some offer.backup), s)
  | .artifact _ => (some offer.artifact, s)
  | .unpack _ =>
      match s.task i with
      | some (.stage A) => (.ok A.archive, s)
      | _ => (.error invalidBackup, s)
  | .createSystemRestore _ _ _ => (some offer.restoreId, s)
  | .listDump | .updateSystemRestore _ _ _ | .pgRestore _ | .finalizeBackup _ => (true, s)
  | .writeNew f c => if s.files f = none then (.ok, s.put f (some c)) else (.exists, s)
  | .openNew f => if s.files f = none then (.ok, s.put f (some (.bytes []))) else (.exists, s)
  | .append f chunk =>
      match s.files f with
      | some (.bytes b) => (true, s.put f (some (.bytes (b ++ chunk))))
      | _ => (false, s)
  | .lstat f => ((s.files f).isSome, s)
  | .readFile f => (s.files f, s)
  | .rename f g =>
      match s.files f with
      | some c => (true, s.move f g c)
      | none => (false, s)
  | .remove f => ((s.files f).isSome, s.put f none)

lemma works_effect {careful : Prop} (offer : Offer) (i : Runner) (s : StageState)
    (o : StageOp) :
    stageEffect careful i s o (works offer i s o).1 (works offer i s o).2 := by
  cases o with
  | getSystemBackup _ | createSystemRestore _ _ _ | listDump | updateSystemRestore _ _ _
  | pgRestore _ | finalizeBackup _ => exact rfl
  | artifact _ =>
      refine ⟨rfl, fun a ha => ?_⟩
      obtain rfl := Option.some.inj ha
      exact offer.size
  | unpack _ =>
      simp only [works]
      split
      · rename_i A hA
        exact ⟨rfl, fun a ha => ⟨A, hA, (Except.ok.inj ha).symm⟩⟩
      · exact ⟨rfl, fun a ha => by cases ha⟩
  | writeNew f c =>
      simp only [works]
      split_ifs with hf
      · exact .inr ⟨hf, .inl ⟨rfl, rfl⟩⟩
      · exact .inl ⟨hf, rfl, rfl⟩
  | openNew f =>
      simp only [works]
      split_ifs with hf
      · exact .inr ⟨hf, .inl ⟨rfl, rfl⟩⟩
      · exact .inl ⟨hf, rfl, rfl⟩
  | append f chunk =>
      simp only [works]
      split
      · rename_i b hb
        exact .inr ⟨b, hb, .inl ⟨rfl, rfl⟩⟩
      · exact .inl ⟨rfl, rfl⟩
  | lstat _ | readFile _ | remove _ => exact ⟨rfl, rfl⟩
  | rename f g =>
      simp only [works]
      split
      · rename_i c hc
        exact .inl ⟨c, hc, rfl, rfl⟩
      · exact .inr ⟨rfl, rfl⟩

/-- A program run for its effects. -/
def runToEnd {ε α : Type} (p : ExceptT ε (Prog interface) α) : Prog interface Unit :=
  p.run >>= fun _ => .pure ()

/-- What follows a program that has returned: its task ends; an attempt with a fresh token
begins while nothing is applied, or an apply run while nothing else is at work. -/
inductive Starts (R : Recovery) (s : StageState) :
    Runner → Prog interface Unit → StageState → Prop where
  | finish (i : Runner) : Starts R s i (.pure ()) (s.assign i none)
  | stage (n : Nat) (A : Attempt) (idle : s.task (.attempt n) = none)
      (stopped : s.task .recovery = none) (fresh : ∀ B ∈ s.attempts, B.token ≠ A.token)
      (random : commandIDPattern A.token = true) :
      Starts R s (.attempt n) (runToEnd (stageRestore R A.backupId A.token))
        ({ s with attempts := A :: s.attempts }.assign (.attempt n) (some (.stage A)))
  | apply (idle : ∀ i, s.task i = none) :
      Starts R s .recovery (runToEnd applyStagedSystemRestore)
        (s.assign .recovery (some .apply))

/-! ### What an attempt sees -/

/-- An attempt's own files, and the markers as long as the lock is its own. -/
structure View where
  dump : Option Content
  temporary : Option Content
  held : Option (MarkerName → Option Content)

def view (A : Attempt) (s : StageState) : View where
  dump := s.files (.dump A.backupId A.token)
  temporary := s.files (.temporary A.token)
  held := if s.files .lock = some (.token A.token) then some fun p => s.files (.marker p)
    else none

/-- The lock is another's, or there is a marker to go with it. -/
def Settled (v : View) : Prop := ∀ ms, v.held = some ms → ms .pending ≠ none

/-- Runs over the staging root. A runner can be killed before any effect; under `careful`
no attempt is killed while it holds the lock without a marker. -/
def system (R : Recovery) (careful : Prop) : System interface StageState Runner Unit Unit where
  exec := stageEffect careful
  start := fun i _ s p t => Starts R s i p t
  environment := fun _ _ _ => False
  crash := fun i s t p => p = .pure () ∧ t = s.assign i none ∧
    (careful → ∀ A, s.task i = some (.stage A) → Settled (view A s))

def initial (c : Config interface StageState Runner Unit) : Prop :=
  c = ⟨⟨fun _ => none, fun _ => none, [], []⟩, fun _ => .pure ()⟩

/-! ### Single runs -/

/-- Let a runner perform up to `n` effects, none of which fails. -/
def letRun (offer : Offer) (i : Runner) (n : Nat) (c : Config interface StageState Runner Unit) :
    Config interface StageState Runner Unit :=
  let (p, s) := (c.thread i).runFor (works offer i) n c.state
  ⟨s, Function.update c.thread i p⟩

lemma works_task (offer : Offer) (i : Runner) (s : StageState) (o : StageOp) :
    (works offer i s o).2.task = s.task := by
  cases o with
  | unpack _ | writeNew _ _ | openNew _ | append _ _ | rename _ _ =>
      simp only [works]
      split <;> rfl
  | _ => rfl

lemma letRun_task (offer : Offer) (i : Runner) (n : Nat)
    (c : Config interface StageState Runner Unit) :
    (letRun offer i n c).state.task = c.state.task :=
  Prog.runFor_frame StageState.task (works_task offer i) n (c.thread i) c.state

lemma reach_letRun {R : Recovery} {careful : Prop} (offer : Offer) (i : Runner) (n : Nat)
    {c : Config interface StageState Runner Unit} (h : Reach (system R careful) initial c) :
    Reach (system R careful) initial (letRun offer i n c) :=
  reach_runFor (fun s o => works_effect offer i s o) n h

def letBegin (R : Recovery) (n : Nat) (A : Attempt)
    (c : Config interface StageState Runner Unit) : Config interface StageState Runner Unit where
  state := { c.state with attempts := A :: c.state.attempts }.assign (.attempt n) (some (.stage A))
  thread := Function.update c.thread (.attempt n) (runToEnd (stageRestore R A.backupId A.token))

def letStop (i : Runner) (c : Config interface StageState Runner Unit) :
    Config interface StageState Runner Unit where
  state := c.state.assign i none
  thread := Function.update c.thread i (.pure ())

def letApply (c : Config interface StageState Runner Unit) :
    Config interface StageState Runner Unit where
  state := c.state.assign .recovery (some .apply)
  thread := Function.update c.thread .recovery (runToEnd applyStagedSystemRestore)

lemma reach_letBegin {R : Recovery} {careful : Prop} {n : Nat} {A : Attempt}
    {c : Config interface StageState Runner Unit} (h : Reach (system R careful) initial c)
    (hend : c.thread (.attempt n) = .pure ()) (hidle : c.state.task (.attempt n) = none)
    (hstop : c.state.task .recovery = none) (hfresh : ∀ B ∈ c.state.attempts, B.token ≠ A.token)
    (hrandom : commandIDPattern A.token = true) :
    Reach (system R careful) initial (letBegin R n A c) :=
  h.step (Step.start (S := system R careful) (.attempt n) hend
    (Starts.stage n A hidle hstop hfresh hrandom))

lemma reach_letApply {R : Recovery} {careful : Prop}
    {c : Config interface StageState Runner Unit} (h : Reach (system R careful) initial c)
    (hend : c.thread .recovery = .pure ()) (hidle : ∀ i, c.state.task i = none) :
    Reach (system R careful) initial (letApply c) :=
  h.step (Step.start (S := system R careful) .recovery hend (Starts.apply hidle))

/-- A runner that has returned is done. -/
lemma reach_letEnd {R : Recovery} {careful : Prop} {i : Runner}
    {c : Config interface StageState Runner Unit} (h : Reach (system R careful) initial c)
    (hend : (c.thread i).next = none) : Reach (system R careful) initial (letStop i c) := by
  have hpure : c.thread i = .pure () := by
    cases hp : c.thread i with
    | pure a => rfl
    | op o k =>
        rw [hp] at hend
        cases hend
  exact h.step (Step.start (S := system R careful) i hpure (Starts.finish i))

def empty : Config interface StageState Runner Unit :=
  ⟨⟨fun _ => none, fun _ => none, [], []⟩, fun _ => .pure ()⟩

/-! ### The invariant -/

/-- The dump matches the checksum of the manifest it was unpacked with. -/
def Validated (R : Recovery) (A : Attempt) : Prop :=
  A.archive.manifest.databaseDump = R.sha256 A.archive.dump.flatten

/-- A marker an attempt published, with the dump it names. -/
structure Staged (R : Recovery) (s : StageState) (A : Attempt) (m : RestoreMarker) : Prop where
  token : m.token = A.token
  dump : m.dump = .dump A.backupId A.token
  supported : m.supported = true
  validated : Validated R A
  complete : s.files (.dump A.backupId A.token) = some (.bytes A.archive.dump.flatten)

structure Inv (R : Recovery) (careful : Prop) (s : StageState) : Prop where
  tokens : ∀ A ∈ s.attempts, ∀ B ∈ s.attempts, A.token = B.token → A = B
  known : ∀ i A, s.task i = some (.stage A) → A ∈ s.attempts ∧ A.token ∉ s.applied
  alone : ∀ i j A, s.task i = some (.stage A) → s.task j = some (.stage A) → i = j
  exclusive : ∀ i, s.task i = some .apply → i = .recovery ∧ ∀ j, j ≠ i → s.task j = none
  past : ∀ t ∈ s.applied, ∃ A ∈ s.attempts, A.token = t
  one : ∀ p q, s.files (.marker p) ≠ none → s.files (.marker q) ≠ none → p = q
  marker : ∀ p c, s.files (.marker p) = some c →
    ∃ A ∈ s.attempts, ∃ m, c = .marker m ∧ Staged R s A m
  held : ∀ p m, p ≠ .applied → s.files (.marker p) = some (.marker m) →
    s.files .lock = some (.token m.token) ∧ m.token ∉ s.applied
  done : ∀ m, s.files (.marker .applied) = some (.marker m) → m.token ∈ s.applied
  lock : ∀ t, s.files .lock = some (.token t) → ∃ A ∈ s.attempts, A.token = t
  temporary : ∀ t, s.files (.temporary t) ≠ none → ∃ A ∈ s.attempts, A.token = t
  dump : ∀ b t, s.files (.dump b t) ≠ none → ∃ A ∈ s.attempts, A.token = t
  owner : careful → ∀ c, s.files .lock = some c →
    (∃ i A, s.task i = some (.stage A) ∧ c = .token A.token) ∨
      ∃ p m, s.files (.marker p) = some (.marker m) ∧ c = .token m.token

variable {R : Recovery} {careful : Prop} {s : StageState}

/-- While an attempt runs, a marker with its token is not the applied one. -/
lemma Inv.not_applied (h : Inv R careful s) {i : Runner} {A : Attempt} {m : RestoreMarker}
    (hA : s.task i = some (.stage A)) (hm : s.files (.marker .applied) = some (.marker m)) :
    m.token ≠ A.token := by
  intro ht
  exact (h.known i A hA).2 (ht ▸ h.done m hm)

/-- A marker of the attempt is not there while its lock has none beside it. -/
lemma Inv.unpublished (h : Inv R careful s) {i : Runner} {A : Attempt}
    (hA : s.task i = some (.stage A)) (hnone : ∀ p, p ≠ .applied → s.files (.marker p) = none)
    {p : MarkerName} {m : RestoreMarker} (hm : s.files (.marker p) = some (.marker m)) :
    m.token ≠ A.token := by
  by_cases hp : p = .applied
  · subst hp
    exact h.not_applied hA hm
  · rw [hnone p hp] at hm
    cases hm

/-! ### What keeps the invariant -/

/-- The token in the name of a dump or of a temporary marker. -/
def ownedBy : StageFile → Option String
  | .dump _ t | .temporary t => some t
  | _ => none

/-- A dump or temporary marker may change unless a marker names it. -/
lemma inv_put (h : Inv R careful s) {f : StageFile} {t : String} {c : Option Content}
    (hf : ownedBy f = some t) (hc : c ≠ none → ∃ A ∈ s.attempts, A.token = t)
    (hm : ∀ p m, s.files (.marker p) = some (.marker m) → m.dump ≠ f) :
    Inv R careful (s.put f c) := by
  have hlock : (s.put f c).files .lock = s.files .lock := by
    refine put_ne _ _ ?_
    rintro rfl
    cases hf
  have hmarker : ∀ p, (s.put f c).files (.marker p) = s.files (.marker p) := by
    intro p
    refine put_ne _ _ ?_
    rintro rfl
    cases hf
  have hother : ∀ g t', ownedBy g = some t' → (s.put f c).files g ≠ none →
      (s.files g ≠ none → ∃ A ∈ s.attempts, A.token = t') → ∃ A ∈ s.attempts, A.token = t' := by
    intro g t' hg hne hold
    by_cases hgf : g = f
    · subst hgf
      obtain rfl : t = t' := Option.some.inj (hf.symm.trans hg)
      exact hc (by simpa using hne)
    · rw [put_ne _ _ hgf] at hne
      exact hold hne
  constructor
  case tokens => exact h.tokens
  case known => exact h.known
  case alone => exact h.alone
  case exclusive => exact h.exclusive
  case past => exact h.past
  case one =>
    intro p q
    rw [hmarker, hmarker]
    exact h.one p q
  case marker =>
    intro p c' hp
    rw [hmarker] at hp
    obtain ⟨A, hA, m, rfl, hs⟩ := h.marker p c' hp
    have hne : StageFile.dump A.backupId A.token ≠ f := hs.dump ▸ hm p m hp
    exact ⟨A, hA, m, rfl, hs.token, hs.dump, hs.supported, hs.validated,
      (put_ne _ _ hne).trans hs.complete⟩
  case held =>
    intro p m hp
    rw [hmarker, hlock]
    exact h.held p m hp
  case done =>
    intro m
    rw [hmarker]
    exact h.done m
  case lock =>
    intro t'
    rw [hlock]
    exact h.lock t'
  case temporary => exact fun t' hne => hother _ t' rfl hne (h.temporary t')
  case dump => exact fun b t' hne => hother _ t' rfl hne (h.dump b t')
  case owner =>
    intro hcare c'
    simp only [hlock, hmarker]
    exact h.owner hcare c'

/-- The lock may change while no marker but an applied one is there. -/
lemma inv_put_lock (h : Inv R careful s) {c : Option Content}
    (hnone : ∀ p, p ≠ .applied → s.files (.marker p) = none)
    (hc : ∀ t, c = some (.token t) → ∃ A ∈ s.attempts, A.token = t)
    (howner : careful → ∀ c', c = some c' →
      ∃ i A, s.task i = some (.stage A) ∧ c' = .token A.token) :
    Inv R careful (s.put .lock c) := by
  have hother : ∀ g, g ≠ .lock → (s.put .lock c).files g = s.files g :=
    fun g hg => put_ne _ _ hg
  constructor
  case tokens => exact h.tokens
  case known => exact h.known
  case alone => exact h.alone
  case exclusive => exact h.exclusive
  case past => exact h.past
  case one => exact h.one
  case marker =>
    intro p c' hp
    obtain ⟨A, hA, m, rfl, hs⟩ := h.marker p c' hp
    exact ⟨A, hA, m, rfl, hs.token, hs.dump, hs.supported, hs.validated, hs.complete⟩
  case held =>
    intro p m hp hm
    rw [hother _ (by simp), hnone p hp] at hm
    cases hm
  case done => exact h.done
  case lock =>
    intro t ht
    rw [put_self] at ht
    exact hc t ht
  case temporary => exact h.temporary
  case dump => exact h.dump
  case owner =>
    intro hcare c' hc'
    rw [put_self] at hc'
    exact .inl (howner hcare c' hc')

/-- A marker may go once the lock does not need it. -/
lemma inv_drop_marker (h : Inv R careful s) (p : MarkerName)
    (howner : careful → ∀ c, s.files .lock = some c →
      ∃ i A, s.task i = some (.stage A) ∧ c = .token A.token) :
    Inv R careful (s.put (.marker p) none) := by
  have hmarker : ∀ q c, (s.put (.marker p) none).files (.marker q) = some c →
      s.files (.marker q) = some c := by
    intro q c hq
    by_cases hqp : q = p
    · subst hqp
      rw [put_self] at hq
      cases hq
    · rwa [put_ne _ _ (by simpa using hqp)] at hq
  constructor
  case tokens => exact h.tokens
  case known => exact h.known
  case alone => exact h.alone
  case exclusive => exact h.exclusive
  case past => exact h.past
  case one =>
    intro q q' hq hq'
    obtain ⟨c, hc⟩ := Option.ne_none_iff_exists'.1 hq
    obtain ⟨c', hc'⟩ := Option.ne_none_iff_exists'.1 hq'
    exact h.one q q' (by simp [hmarker q c hc]) (by simp [hmarker q' c' hc'])
  case marker =>
    intro q c hq
    obtain ⟨A, hA, m, rfl, hs⟩ := h.marker q c (hmarker q c hq)
    exact ⟨A, hA, m, rfl, hs.token, hs.dump, hs.supported, hs.validated, hs.complete⟩
  case held => exact fun q m hq hm => h.held q m hq (hmarker q _ hm)
  case done => exact fun m hm => h.done m (hmarker _ _ hm)
  case lock => exact h.lock
  case temporary => exact h.temporary
  case dump => exact h.dump
  case owner => exact fun hcare c hc => .inl (howner hcare c hc)

@[simp] lemma move_task (f g : StageFile) (c : Content) : (s.move f g c).task = s.task := rfl

@[simp] lemma move_attempts (f g : StageFile) (c : Content) :
    (s.move f g c).attempts = s.attempts := rfl

lemma move_source (f g : StageFile) (c : Content) : (s.move f g c).files f = none := by
  simp [move]

lemma move_destination {f g : StageFile} (c : Content) (h : g ≠ f) :
    (s.move f g c).files g = some c := by
  simp [move, h]

lemma move_ne {f g x : StageFile} (c : Content) (hf : x ≠ f) (hg : x ≠ g) :
    (s.move f g c).files x = s.files x := by
  simp [move, hf, hg]

/-- A marker's file may be renamed to a marker's name: published from a temporary file,
or passed on when it is the marker there is. -/
lemma inv_move (h : Inv R careful s) {f : StageFile} {q : MarkerName} {m : RestoreMarker}
    {A : Attempt} (hA : A ∈ s.attempts) (hs : Staged R s A m) (hne : f ≠ .marker q)
    (hlock : f ≠ .lock) (hdump : ∀ b t, f ≠ .dump b t)
    (honly : ∀ p, s.files (.marker p) ≠ none → f = .marker p)
    (hheld : q ≠ .applied → s.files .lock = some (.token m.token) ∧ m.token ∉ s.applied)
    (hdone : q = .applied → ∀ i B, s.task i ≠ some (.stage B))
    (howner : careful → ∀ c, s.files .lock = some c → c = .token m.token) :
    Inv R careful (s.move f (.marker q) (.marker m)) := by
  have hmarker : ∀ p c, (s.move f (.marker q) (.marker m)).files (.marker p) = some c →
      p = q ∧ c = .marker m := by
    intro p c hp
    by_cases hpf : StageFile.marker p = f
    · rw [hpf, move_source] at hp
      cases hp
    by_cases hpq : p = q
    · subst hpq
      rw [move_destination _ hne.symm] at hp
      exact ⟨rfl, (Option.some.inj hp).symm⟩
    · rw [move_ne _ hpf (by simpa using hpq)] at hp
      exact absurd (honly p (by simp [hp])).symm hpf
  have happlied : ∀ t, t ∈ (s.move f (.marker q) (.marker m)).applied →
      t ∈ s.applied ∨ q = .applied ∧ t = m.token := by
    intro t ht
    rcases List.mem_append.1 ht with ht | ht
    · cases q with
      | applied => exact .inr ⟨rfl, by simpa [appliedBy] using ht⟩
      | pending | applying => simp [appliedBy] at ht
    · exact .inl ht
  have hfile : ∀ g, g ≠ f → g ≠ .marker q →
      (s.move f (.marker q) (.marker m)).files g = s.files g :=
    fun g hgf hgq => move_ne _ hgf hgq
  constructor
  case tokens => exact h.tokens
  case known =>
    intro i B hB
    refine ⟨(h.known i B hB).1, fun ht => ?_⟩
    rcases happlied _ ht with ht | ⟨hq, -⟩
    · exact (h.known i B hB).2 ht
    · exact hdone hq i B hB
  case alone => exact h.alone
  case exclusive => exact h.exclusive
  case past =>
    intro t ht
    rcases happlied t ht with ht | ⟨-, rfl⟩
    · exact h.past t ht
    · exact ⟨A, hA, hs.token.symm⟩
  case one =>
    intro p p' hp hp'
    obtain ⟨c, hc⟩ := Option.ne_none_iff_exists'.1 hp
    obtain ⟨c', hc'⟩ := Option.ne_none_iff_exists'.1 hp'
    exact (hmarker p c hc).1.trans (hmarker p' c' hc').1.symm
  case marker =>
    intro p c hp
    obtain ⟨rfl, rfl⟩ := hmarker p c hp
    refine ⟨A, hA, m, rfl, hs.token, hs.dump, hs.supported, hs.validated, ?_⟩
    exact (hfile _ (hdump _ _).symm (by simp)).trans hs.complete
  case held =>
    intro p m' hp hm'
    obtain ⟨rfl, hm⟩ := hmarker p _ hm'
    obtain rfl := Content.marker.inj hm
    refine ⟨(hfile _ hlock.symm (by simp)).trans (hheld hp).1, fun ht => ?_⟩
    rcases happlied _ ht with ht | ⟨hq, -⟩
    · exact (hheld hp).2 ht
    · exact hp hq
  case done =>
    intro m' hm'
    obtain ⟨hq, hm⟩ := hmarker _ _ hm'
    obtain rfl := Content.marker.inj hm
    subst hq
    exact List.mem_append_left _ (by simp [appliedBy])
  case lock =>
    intro t ht
    rw [hfile _ hlock.symm (by simp)] at ht
    exact h.lock t ht
  case temporary =>
    intro t ht
    by_cases htf : StageFile.temporary t = f
    · rw [htf, move_source] at ht
      exact absurd rfl ht
    · rw [hfile _ htf (by simp)] at ht
      exact h.temporary t ht
  case dump =>
    intro b t ht
    rw [hfile _ (hdump b t).symm (by simp)] at ht
    exact h.dump b t ht
  case owner =>
    intro hcare c hc
    rw [hfile _ hlock.symm (by simp)] at hc
    exact .inr ⟨q, m, move_destination _ hne.symm, howner hcare c hc⟩

/-! ### Runners that come and go -/

/-- What is said of the files alone outlives a change of who is at work. -/
lemma inv_retask (h : Inv R careful s) {t : StageState} (hfiles : t.files = s.files)
    (happlied : t.applied = s.applied) (hin : ∀ A ∈ s.attempts, A ∈ t.attempts)
    (tokens : ∀ A ∈ t.attempts, ∀ B ∈ t.attempts, A.token = B.token → A = B)
    (known : ∀ i A, t.task i = some (.stage A) → A ∈ t.attempts ∧ A.token ∉ s.applied)
    (alone : ∀ i j A, t.task i = some (.stage A) → t.task j = some (.stage A) → i = j)
    (exclusive : ∀ i, t.task i = some .apply →
      i = .recovery ∧ ∀ j, j ≠ i → t.task j = none)
    (owner : careful → ∀ i A, s.task i = some (.stage A) →
      s.files .lock = some (.token A.token) → (∃ j, t.task j = some (.stage A)) ∨
        ∃ p m, s.files (.marker p) = some (.marker m) ∧ m.token = A.token) :
    Inv R careful t := by
  have hex : ∀ x, (∃ B ∈ s.attempts, B.token = x) → ∃ B ∈ t.attempts, B.token = x :=
    fun x ⟨B, hB, hx⟩ => ⟨B, hin B hB, hx⟩
  constructor
  case tokens => exact tokens
  case known => exact happlied ▸ known
  case alone => exact alone
  case exclusive => exact exclusive
  case past => exact fun x hx => hex x (h.past x (happlied ▸ hx))
  case one => exact hfiles ▸ h.one
  case marker =>
    intro p c hp
    rw [hfiles] at hp
    obtain ⟨B, hB, m, rfl, hs⟩ := h.marker p c hp
    exact ⟨B, hin B hB, m, rfl, hs.token, hs.dump, hs.supported, hs.validated,
      hfiles ▸ hs.complete⟩
  case held =>
    rw [hfiles, happlied]
    exact h.held
  case done =>
    rw [hfiles, happlied]
    exact h.done
  case lock =>
    rw [hfiles]
    exact fun x hx => hex x (h.lock x hx)
  case temporary =>
    rw [hfiles]
    exact fun x hx => hex x (h.temporary x hx)
  case dump =>
    rw [hfiles]
    exact fun b x hx => hex x (h.dump b x hx)
  case owner =>
    intro hcare c hc
    rw [hfiles] at hc ⊢
    rcases h.owner hcare c hc with ⟨i, A, hi, rfl⟩ | hm
    · rcases owner hcare i A hi hc with ⟨j, hj⟩ | ⟨p, m, hp, hm⟩
      · exact .inl ⟨j, A, hj, rfl⟩
      · exact .inr ⟨p, m, hp, by rw [hm]⟩
    · exact .inr hm

/-- A runner that leaves the lock settled may stop. -/
lemma inv_stop (h : Inv R careful s) {i : Runner}
    (hi : careful → ∀ A, s.task i = some (.stage A) → Settled (view A s)) :
    Inv R careful (s.assign i none) := by
  have htask : ∀ j w, (s.assign i none).task j = some w → s.task j = some w := by
    intro j w hj
    by_cases hji : j = i
    · rw [hji, assign_self] at hj
      cases hj
    · rwa [assign_ne _ _ hji] at hj
  refine inv_retask h rfl rfl (fun _ hA => hA) h.tokens
    (fun j A hj => h.known j A (htask j _ hj))
    (fun j k A hj hk => h.alone j k A (htask j _ hj) (htask k _ hk)) ?_ ?_
  · intro j hj
    obtain ⟨hrec, hnone⟩ := h.exclusive j (htask j _ hj)
    refine ⟨hrec, fun k hk => ?_⟩
    by_cases hki : k = i
    · rw [hki, assign_self]
    · rw [assign_ne _ _ hki, hnone k hk]
  · intro hcare j A hj hlock
    by_cases hji : j = i
    · -- The attempt that holds the lock has left a pending marker beside it.
      subst hji
      have hheld : (view A s).held = some fun p => s.files (.marker p) := if_pos hlock
      obtain ⟨c, hc⟩ := Option.ne_none_iff_exists'.1 (hi hcare A hj _ hheld)
      obtain ⟨B, -, m, rfl, -⟩ := h.marker _ _ hc
      have hm := (h.held _ m (by simp) hc).1
      rw [hlock] at hm
      exact .inr ⟨.pending, m, hc, (Content.token.inj (Option.some.inj hm)).symm⟩
    · exact .inl ⟨j, (assign_ne _ _ hji).trans hj⟩

lemma inv_begin (h : Inv R careful s) {n : Nat} {A : Attempt}
    (hidle : s.task (.attempt n) = none) (hstop : s.task .recovery = none)
    (hfresh : ∀ B ∈ s.attempts, B.token ≠ A.token) :
    Inv R careful ({ s with attempts := A :: s.attempts }.assign (.attempt n)
      (some (.stage A))) := by
  have hin : ∀ B, B ∈ s.attempts → B ∈ A :: s.attempts := fun B hB => List.mem_cons_of_mem _ hB
  have htask : ∀ j w, ({ s with attempts := A :: s.attempts }.assign (.attempt n)
      (some (.stage A))).task j = some w →
      j = .attempt n ∧ w = .stage A ∨ j ≠ .attempt n ∧ s.task j = some w := by
    intro j w hj
    by_cases hjn : j = .attempt n
    · rw [hjn, assign_self] at hj
      exact .inl ⟨hjn, (Option.some.inj hj).symm⟩
    · rw [assign_ne _ _ hjn] at hj
      exact .inr ⟨hjn, hj⟩
  refine inv_retask h rfl rfl hin ?_ ?_ ?_ ?_ ?_
  · intro B hB B' hB' ht
    rcases List.mem_cons.1 hB with hBA | hB
    · rcases List.mem_cons.1 hB' with hB'A | hB'
      · exact hBA.trans hB'A.symm
      · exact absurd (ht.symm.trans (congrArg Attempt.token hBA)) (hfresh B' hB')
    · rcases List.mem_cons.1 hB' with hB'A | hB'
      · exact absurd (ht.trans (congrArg Attempt.token hB'A)) (hfresh B hB)
      · exact h.tokens B hB B' hB' ht
  · intro j B hj
    rcases htask j _ hj with ⟨-, hB⟩ | ⟨-, hj⟩
    · obtain rfl := Task.stage.inj hB
      refine ⟨List.mem_cons_self, fun ht => ?_⟩
      obtain ⟨B', hB', hBA⟩ := h.past _ ht
      exact hfresh B' hB' hBA
    · exact ⟨hin B (h.known j B hj).1, (h.known j B hj).2⟩
  · intro j k B hj hk
    rcases htask j _ hj with ⟨hjn, hB⟩ | ⟨-, hj'⟩
    · obtain rfl := Task.stage.inj hB
      rcases htask k _ hk with ⟨hkn, -⟩ | ⟨-, hk'⟩
      · exact hjn.trans hkn.symm
      · exact absurd rfl (hfresh _ (h.known k _ hk').1)
    · rcases htask k _ hk with ⟨-, hB⟩ | ⟨-, hk'⟩
      · obtain rfl := Task.stage.inj hB
        exact absurd rfl (hfresh _ (h.known j _ hj').1)
      · exact h.alone j k B hj' hk'
  · intro j hj
    rcases htask j _ hj with ⟨-, hB⟩ | ⟨-, hj⟩
    · cases hB
    · obtain ⟨rfl, -⟩ := h.exclusive j hj
      rw [hstop] at hj
      cases hj
  · intro hcare j B hj hlock
    have hjn : j ≠ .attempt n := by
      rintro rfl
      rw [hidle] at hj
      cases hj
    exact .inl ⟨j, (assign_ne _ _ hjn).trans hj⟩

lemma inv_apply (h : Inv R careful s) (hidle : ∀ i, s.task i = none) :
    Inv R careful (s.assign .recovery (some .apply)) := by
  have htask : ∀ j w, (s.assign .recovery (some .apply)).task j = some w →
      j = .recovery ∧ w = .apply := by
    intro j w hj
    by_cases hji : j = .recovery
    · rw [hji, assign_self] at hj
      exact ⟨hji, (Option.some.inj hj).symm⟩
    · rw [assign_ne _ _ hji, hidle j] at hj
      cases hj
  refine inv_retask h rfl rfl (fun _ hA => hA) h.tokens ?_ ?_ ?_ ?_
  · intro j A hj
    cases (htask j _ hj).2
  · intro j k A hj
    cases (htask j _ hj).2
  · intro j hj
    obtain ⟨rfl, -⟩ := htask j _ hj
    exact ⟨rfl, fun k hk => by rw [assign_ne _ _ hk, hidle k]⟩
  · intro hcare j A hj
    rw [hidle j] at hj
    cases hj

lemma inv_initial : Inv R careful ⟨fun _ => none, fun _ => none, [], []⟩ := by
  constructor <;> simp

end GatewayControl.StageRuns
