import GatewayControl.SystemExports

/-!
How many exports run at once. The counter is the number of open streams in every state, but the
limit is tested before the artifact is verified: it holds just if no request passes the test
while as many as two streams are open or on their way.
-/

namespace GatewayControl.ExportLimit

open SystemExports Server

def Request.isOpen : Request → Bool
  | .streaming transfer => !transfer.errored && !transfer.closed
  | _ => false

/-- A stream may still come of the request. -/
def Request.isPending : Request → Bool
  | .exporting _ => true
  | _ => false

def openExports (s : Server) : ℕ := s.requests.countP Request.isOpen

def pendingExports (s : Server) : ℕ := s.requests.countP Request.isPending

/-- `released` stands for the first of the two events. -/
def Sound : Request → Prop
  | .streaming transfer => transfer.released = (transfer.errored || transfer.closed)
  | _ => True

structure Inv (s : Server) : Prop where
  sound : ∀ request ∈ s.requests, Sound request
  active : s.activeSystemBackupExports = openExports s

lemma inv_initial : Inv {} where
  sound := by simp
  active := rfl

/-! ### One request changes -/

lemma countP_set {α : Type} {l : List α} {i : ℕ} {a : α} (h : l[i]? = some a) (b : α)
    (p : α → Bool) : (l.set i b).countP p + (p a).toNat = l.countP p + (p b).toNat := by
  induction l generalizing i with
  | nil => simp at h
  | cons x l ih =>
    cases i with
    | zero =>
      obtain rfl : x = a := by simpa using h
      cases hx : p x <;> cases hb : p b <;> simp [hx, hb]
    | succ i =>
      have hrest := ih (i := i) (by simpa using h)
      simp only [List.set_cons_succ, List.countP_cons]
      omega

/-- The request `old` becomes `new`; a stream that opens was on its way. -/
structure Becomes (s s' : Server) (i : ℕ) (old new : Request) : Prop where
  found : s.requests[i]? = some old
  requests : s'.requests = s.requests.set i new
  sound : Sound old → Sound new
  active : Sound old → s'.activeSystemBackupExports + (Request.isOpen old).toNat =
    s.activeSystemBackupExports + (Request.isOpen new).toNat
  pending : (Request.isOpen new).toNat + (Request.isPending new).toNat ≤
    (Request.isOpen old).toNat + (Request.isPending old).toNat

variable {s s' : Server} {i : ℕ} {old new : Request}

lemma becomes_put (hfound : s.requests[i]? = some old) (hsound : Sound old → Sound new)
    (hopen : Request.isOpen new = Request.isOpen old)
    (hpending : Request.isPending old = false → Request.isPending new = false) :
    Becomes s (s.put i new) i old new where
  found := hfound
  requests := rfl
  sound := hsound
  active := fun _ => by rw [hopen]; rfl
  pending := by
    rw [hopen]
    cases hold : Request.isPending old
    · simp [hpending hold]
    · cases Request.isPending new <;> simp

lemma becomes_send {stage : Stage} (hfound : s.requests[i]? = some (.exporting stage)) :
    Becomes s (s.send i) i (.exporting stage) (.streaming {}) where
  found := hfound
  requests := rfl
  sound := fun _ => rfl
  active := fun _ => by simp [send, Request.isOpen]
  pending := by simp [Request.isOpen, Request.isPending]

/-- The first of the events counts the stream off, the second finds it released. -/
lemma becomes_released {t t' : Transfer} (hfound : s.requests[i]? = some (.streaming t))
    (hreleased : t'.released = t.released) (hevent : (t'.errored || t'.closed) = true) :
    ∃ new, Becomes s (s.releaseExport i t') i (.streaming t) new := by
  have hclosed : (!t'.errored && !t'.closed) = false := by
    rw [← Bool.not_or, hevent]
    rfl
  unfold releaseExport
  split
  · next hdone =>
    refine ⟨.streaming t', hfound, rfl, ?_, ?_, ?_⟩
    · intro _
      exact hdone.trans hevent.symm
    · intro hsound
      have hgone : (!t.errored && !t.closed) = false := by
        rw [← Bool.not_or, ← show t.released = _ from hsound, ← hreleased, hdone]
        rfl
      simp [put, Request.isOpen, hclosed, hgone]
    · simp [Request.isOpen, Request.isPending, hclosed]
  · next hopen =>
    refine ⟨.streaming { t' with released := true }, hfound, rfl, ?_, ?_, ?_⟩
    · intro _
      exact hevent.symm
    · intro hsound
      have hgone : (!t.errored && !t.closed) = true := by
        rw [← Bool.not_or, ← show t.released = _ from hsound, ← hreleased,
          Bool.eq_false_iff.mpr hopen]
        rfl
      simp [Request.isOpen, hclosed, hgone]
    · simp [Request.isOpen, Request.isPending, hclosed]

/-- A step adds a request, changes nothing, or changes one request. -/
lemma step_cases {a : Step} (h : s.step a = some s') :
    (a = .arrives ∧ s' = s.arrive) ∨ s' = s ∨ ∃ i old new, Becomes s s' i old new := by
  cases a with
  | arrives => exact .inl ⟨rfl, (Option.some.inj h).symm⟩
  | resolves i =>
    simp only [step, resolve] at h
    split at h
    · next stage hfound =>
      split at h
      · obtain rfl := Option.some.inj h
        exact .inr (.inr ⟨i, _, _, becomes_put hfound (fun _ => trivial) rfl id⟩)
      · obtain rfl := Option.some.inj h
        exact .inr (.inr ⟨i, _, _, becomes_send hfound⟩)
    · next hfound =>
      obtain rfl := Option.some.inj h
      exact .inr (.inr ⟨i, _, _, becomes_put hfound (fun _ => trivial) rfl (fun _ => rfl)⟩)
    · cases h
  | rejects i =>
    simp only [step, reject] at h
    split at h
    · next stage hfound =>
      obtain rfl := Option.some.inj h
      refine .inr (.inr ⟨i, _, _, becomes_put hfound (fun _ => ?_) ?_ (fun _ => ?_)⟩)
      all_goals cases stage.hasHandle <;> trivial
    · next hfound =>
      obtain rfl := Option.some.inj h
      exact .inr (.inr ⟨i, _, _, becomes_put hfound (fun _ => trivial) rfl (fun _ => rfl)⟩)
    · cases h
  | disconnects i =>
    simp only [step, disconnect] at h
    split at h
    · next transfer hfound =>
      split at h
      · exact .inr (.inl (Option.some.inj h).symm)
      · obtain rfl := Option.some.inj h
        exact .inr (.inr ⟨i, _, _, becomes_put hfound id rfl (fun _ => rfl)⟩)
    · exact .inr (.inl (Option.some.inj h).symm)
    · cases h
  | destroys i =>
    simp only [step, destroy] at h
    split at h
    · next transfer hfound =>
      obtain rfl := Option.some.inj h
      exact .inr (.inr ⟨i, _, _, becomes_put hfound id rfl (fun _ => rfl)⟩)
    · cases h
  | errors i =>
    simp only [step, error] at h
    split at h
    · next transfer hfound =>
      split at h
      · cases h
      · obtain rfl := Option.some.inj h
        exact .inr (.inr ⟨i, _, becomes_released hfound rfl rfl⟩)
    · cases h
  | closes i =>
    simp only [step, close] at h
    split at h
    · next transfer hfound =>
      split at h
      · obtain rfl := Option.some.inj h
        exact .inr (.inr ⟨i, _, becomes_released hfound rfl (Bool.or_true _)⟩)
      · cases h
    · cases h

/-! ### The counter -/

lemma Becomes.inv (h : Becomes s s' i old new) (hinv : Inv s) : Inv s' where
  sound := by
    rw [h.requests]
    intro request hrequest
    rcases List.mem_or_eq_of_mem_set hrequest with hrequest | rfl
    · exact hinv.sound request hrequest
    · exact h.sound (hinv.sound _ (List.mem_of_getElem? h.found))
  active := by
    have hactive := h.active (hinv.sound _ (List.mem_of_getElem? h.found))
    have hcount := countP_set h.found new Request.isOpen
    have hbefore := hinv.active
    unfold openExports at *
    rw [h.requests]
    omega

lemma Becomes.count_le (h : Becomes s s' i old new) :
    openExports s' + pendingExports s' ≤ openExports s + pendingExports s := by
  have hopen := countP_set h.found new Request.isOpen
  have hpending := countP_set h.found new Request.isPending
  have hle := h.pending
  unfold openExports pendingExports
  rw [h.requests]
  omega

lemma openExports_arrive (s : Server) : openExports s.arrive = openExports s := by
  unfold openExports arrive
  split <;> simp [Request.isOpen]

lemma inv_arrive (hinv : Inv s) : Inv s.arrive where
  sound := by
    intro request hrequest
    rcases List.mem_append.mp hrequest with hrequest | hrequest
    · exact hinv.sound request hrequest
    · obtain rfl := List.mem_singleton.mp hrequest
      split <;> trivial
  active := by
    rw [openExports_arrive]
    exact hinv.active

lemma pendingExports_arrive (s : Server) : pendingExports s.arrive =
    pendingExports s + if s.activeSystemBackupExports < 2 then 1 else 0 := by
  unfold pendingExports arrive
  by_cases hfull : s.activeSystemBackupExports ≥ 2
  · rw [if_pos hfull, if_neg (by omega)]
    simp [Request.isPending]
  · rw [if_neg hfull, if_pos (by omega)]
    simp [Request.isPending]

lemma inv_step {a : Step} (h : s.step a = some s') (hinv : Inv s) : Inv s' := by
  rcases step_cases h with ⟨-, rfl⟩ | rfl | ⟨i, old, new, hone⟩
  · exact inv_arrive hinv
  · exact hinv
  · exact hone.inv hinv

lemma inv_run {actions : List Step} (h : s.run actions = some s') (hinv : Inv s) : Inv s' := by
  induction actions generalizing s with
  | nil => exact Option.some.inj h ▸ hinv
  | cons a actions ih =>
    obtain ⟨t, ht, hrest⟩ := Option.bind_eq_some_iff.mp h
    exact ih hrest (inv_step ht hinv)

/-! ### Orderly runs -/

/-- A request that passes the test finds room for its stream. -/
def HasRoom (s : Server) (a : Step) : Prop :=
  a = .arrives → s.activeSystemBackupExports < 2 →
    s.activeSystemBackupExports + pendingExports s < 2

def Orderly (s : Server) : List Step → Prop
  | [] => True
  | a :: actions => HasRoom s a ∧ ∀ s', s.step a = some s' → Orderly s' actions

lemma count_step {a : Step} (h : s.step a = some s') (hinv : Inv s) (hroom : HasRoom s a)
    (hle : openExports s + pendingExports s ≤ 2) : openExports s' + pendingExports s' ≤ 2 := by
  rcases step_cases h with ⟨rfl, rfl⟩ | rfl | ⟨i, old, new, hone⟩
  · rw [openExports_arrive, pendingExports_arrive]
    have hactive := hinv.active
    split
    · next hpassed =>
      have := hroom rfl hpassed
      omega
    · exact hle
  · exact hle
  · exact Nat.le_trans hone.count_le hle

lemma count_run {actions : List Step} (hinv : Inv s) (horderly : Orderly s actions)
    (hle : openExports s + pendingExports s ≤ 2) {k : ℕ} {t : Server}
    (h : s.run (actions.take k) = some t) : openExports t + pendingExports t ≤ 2 := by
  induction actions generalizing s k with
  | nil =>
    rw [List.take_nil] at h
    exact Option.some.inj h ▸ hle
  | cons a actions ih =>
    cases k with
    | zero => exact Option.some.inj h ▸ hle
    | succ k =>
      obtain ⟨next, hnext, hrest⟩ := Option.bind_eq_some_iff.mp h
      exact ih (inv_step hnext hinv) (horderly.2 next hnext)
        (count_step hnext hinv horderly.1 hle) hrest

lemma orderly_of_count {actions : List Step} (hinv : Inv s)
    (h : ∀ k t, s.run (actions.take k) = some t → openExports t + pendingExports t ≤ 2) :
    Orderly s actions := by
  induction actions generalizing s with
  | nil => trivial
  | cons a actions ih =>
    refine ⟨?_, fun s' hs' => ih (inv_step hs' hinv) fun k t ht => ?_⟩
    · rintro rfl hpassed
      have hnext := h 1 s.arrive (by simp [run, step])
      rw [openExports_arrive, pendingExports_arrive, if_pos hpassed] at hnext
      have hactive := hinv.active
      omega
    · refine h (k + 1) t ?_
      rw [List.take_succ_cons, run, hs', Option.bind_some]
      exact ht

/-! ### Exports that are on their way -/

/-- Some of the awaited steps of exports are through. -/
def Finishes (s s' : Server) : Prop := ∃ awaited : List ℕ, s.run (awaited.map .resolves) = some s'

lemma run_append (s : Server) (actions more : List Step) :
    s.run (actions ++ more) = (s.run actions).bind fun t => t.run more := by
  induction actions generalizing s with
  | nil => rfl
  | cons a actions ih =>
    rw [List.cons_append, run, run, Option.bind_assoc]
    exact Option.bind_congr fun t _ => ih t

lemma Finishes.trans {s₁ s₂ s₃ : Server} (h : Finishes s₁ s₂) (h' : Finishes s₂ s₃) :
    Finishes s₁ s₃ := by
  obtain ⟨awaited, hrun⟩ := h
  obtain ⟨awaited', hrun'⟩ := h'
  refine ⟨awaited ++ awaited', ?_⟩
  rw [List.map_append, run_append, hrun, Option.bind_some, hrun']

lemma finishes_step (h : s.resolve i = some s') : Finishes s s' :=
  ⟨[i], by simp [run, step, h]⟩

lemma orderly_resolves (s : Server) (awaited : List ℕ) :
    Orderly s (awaited.map .resolves) := by
  induction awaited generalizing s with
  | nil => trivial
  | cons i awaited ih => exact ⟨nofun, fun s' _ => ih s'⟩

def Stage.left : Stage → ℕ
  | .lookup => 5
  | .opening => 4
  | .before => 3
  | .checksum => 2
  | .after => 1
  | .recording => 0

lemma finishes_send {stage : Stage} (h : s.requests[i]? = some (.exporting stage)) :
    Finishes s (s.send i) := by
  induction hleft : Stage.left stage generalizing s stage with
  | zero =>
    refine finishes_step (i := i) ?_
    obtain rfl : stage = .recording := by cases stage <;> simp_all [Stage.left]
    simp [resolve, h, Stage.next]
  | succ n ih =>
    obtain ⟨stage', hnext, hn⟩ : ∃ stage', stage.next = some stage' ∧ Stage.left stage' = n := by
      cases stage <;> simp_all [Stage.left, Stage.next]
    have hstep : s.resolve i = some (s.put i (.exporting stage')) := by
      simp [resolve, h, hnext]
    have hthere : (s.put i (.exporting stage')).requests[i]? = some (.exporting stage') :=
      List.getElem?_set_self (List.getElem?_eq_some_iff.mp h).1
    have hsend : (s.put i (.exporting stage')).send i = s.send i := by
      simp [send, put, List.set_set]
    exact (finishes_step hstep).trans (hsend ▸ ih hthere hn)

/-- Everything that is verified may come through. -/
lemma finishes_all (s : Server) :
    ∃ s', Finishes s s' ∧ openExports s' = openExports s + pendingExports s := by
  induction hpending : pendingExports s generalizing s with
  | zero => exact ⟨s, ⟨[], rfl⟩, rfl⟩
  | succ n ih =>
    obtain ⟨request, hmem, hrequest⟩ := List.countP_pos_iff.mp
      (show 0 < s.requests.countP Request.isPending from by unfold pendingExports at hpending; omega)
    obtain ⟨i, hi⟩ := List.mem_iff_getElem?.mp hmem
    cases request with
    | exporting stage =>
      have hopen := countP_set hi (.streaming {}) Request.isOpen
      have hleft := countP_set hi (.streaming {}) Request.isPending
      simp only [Request.isOpen, Request.isPending, Bool.toNat_false, Bool.toNat_true,
        Bool.not_false, Bool.and_self] at hopen hleft
      unfold pendingExports at hpending
      obtain ⟨s', hs', hcount⟩ := ih (s.send i) (by unfold pendingExports send; dsimp only; omega)
      refine ⟨s', (finishes_send hi).trans hs', ?_⟩
      rw [hcount]
      unfold openExports send
      dsimp only
      omega
    | refused => cases hrequest
    | closing => cases hrequest
    | failed => cases hrequest
    | streaming transfer => cases hrequest

/-- The limit holds in every state of a run, and whichever of the exports that are on their way
come through, just if no request passes the test without room. The counter is right anyway. -/
theorem at_most_two_iff (actions : List Step) :
    (∀ k t t', run {} (actions.take k) = some t → Finishes t t' →
      openExports t' ≤ 2 ∧ t'.activeSystemBackupExports = openExports t' ∧
      ((∀ request ∈ t'.requests, Request.isOpen request = false) →
        t'.activeSystemBackupExports = 0)) ↔
      Orderly {} actions := by
  constructor
  · intro h
    refine orderly_of_count inv_initial fun k t ht => ?_
    obtain ⟨t', hfinishes, hcount⟩ := finishes_all t
    rw [← hcount]
    exact (h k t t' ht hfinishes).1
  · rintro horderly k t t' ht ⟨awaited, hrun⟩
    have hinv : Inv t := inv_run ht inv_initial
    have hinv' : Inv t' := inv_run hrun hinv
    have hle := count_run inv_initial horderly (by decide) ht
    have hopen : openExports t' + pendingExports t' ≤ 2 := by
      refine count_run hinv (orderly_resolves t awaited) hle (k := awaited.length) ?_
      rwa [← List.map_take, List.take_length]
    refine ⟨by omega, hinv'.active, fun hclosed => ?_⟩
    rw [hinv'.active, openExports, List.countP_eq_zero.mpr]
    · rfl
    · intro request hrequest
      rw [hclosed request hrequest]
      exact Bool.false_ne_true

def sixth (i : ℕ) : List Step := List.replicate 6 (.resolves i)

/-- Three requests pass the test before the first of them is counted. -/
theorem three_at_once :
    (run {} ([.arrives, .arrives, .arrives] ++ sixth 0 ++ sixth 1 ++ sixth 2)).map openExports =
      some 3 := by
  decide

end GatewayControl.ExportLimit
