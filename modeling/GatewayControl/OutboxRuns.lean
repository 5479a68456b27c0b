import GatewayControl.OutboxRows

/-!
Runs of any number of dispatchers over the outbox: what is served, in which order, and what
stays as it is.
-/

namespace GatewayControl.Outbox

open Database (Time Event)
open Programs

/-! ### What a dispatcher may do -/

/-- A dispatcher that holds a delivery settles that one, as its attempts ask for. -/
def Concerns (d : NotificationDelivery) : Op → Prop
  | .skipNotificationDelivery id => id = d.id
  | .completeNotificationDelivery id => id = d.id
  | .retryNotificationDelivery id _ _ terminal => id = d.id ∧ terminal = decide (6 ≤ d.attempts)
  | .claimNotificationDelivery => False
  | _ => True

def Allowed : Option NotificationDelivery → Op → Prop
  | some d, o => Concerns d o
  | none, o => o.outcome = none

/-- Every effect is allowed by what the program then holds. -/
def Proper {α : Type} (Q : Option NotificationDelivery → α → Prop) :
    Option NotificationDelivery → Prog Dispatching α → Prop
  | held, .pure a => Q held a
  | held, .op o k => Allowed held o ∧ ∀ r, Proper Q (holds held o r) (k r)

lemma Proper.bind {α β : Type} {Q : Option NotificationDelivery → β → Prop}
    {held : Option NotificationDelivery} {p : Prog Dispatching α} {f : α → Prog Dispatching β}
    (h : Proper (fun held a => Proper Q held (f a)) held p) : Proper Q held (p >>= f) := by
  induction p generalizing held with
  | pure a => exact h
  | op o k ih => exact ⟨h.1, fun r => ih r (h.2 r)⟩

lemma proper_call {o : Op} {held : Option NotificationDelivery}
    {Q : Option NotificationDelivery → Except String o.Answer → Prop}
    (hallowed : Allowed held o) (hQ : ∀ r, Q (holds held o r) r) : Proper Q held (call o).run :=
  ⟨hallowed, hQ⟩

/-- A call of an iteration, and what comes after it. -/
lemma proper_then {o : Op} {β : Type} {held : Option NotificationDelivery}
    {Q : Option NotificationDelivery → Except String β → Prop}
    {f : o.Answer → Fallible Dispatching β} (hallowed : Allowed held o)
    (hok : ∀ a, Proper Q (holds held o (.ok a)) (f a).run)
    (herr : ∀ e, Q (holds held o (.error e)) (.error e)) :
    Proper Q held (call o >>= f).run := by
  refine Proper.bind (proper_call hallowed fun r => ?_)
  cases r with
  | ok a => exact hok a
  | error e => exact herr e

lemma dispatch_proper (d : NotificationDelivery) :
    Proper (fun _ _ => True) (some d) (dispatch d).run := by
  have hretry : ∀ error, Proper (α := Except String Unit) (fun _ _ => True) (some d)
      (call (.retryNotificationDelivery d.id (Json.sliceText 1000 error)
        (delaySeconds d.attempts) (6 ≤ d.attempts))).run :=
    fun error => proper_call ⟨rfl, rfl⟩ fun _ => trivial
  refine Proper.bind (proper_then (Q := fun held r => Proper (fun _ _ => True) held
    (ExceptT.tryCatch (m := Prog Dispatching) (ExceptT.mk (.pure r)) _).run) trivial ?_ hretry)
  intro enabled
  cases enabled with
  | false =>
    refine proper_call rfl fun r => ?_
    cases r with
    | ok a => trivial
    | error e => exact hretry e
  | true =>
    refine proper_then trivial (fun secrets => ?_) hretry
    cases secrets with
    | none => exact hretry _
    | some secrets =>
      refine proper_then trivial (fun status => ?_) hretry
      split
      · refine proper_call rfl fun r => ?_
        cases r with
        | ok a => trivial
        | error e => exact hretry e
      · exact hretry _

lemma tick_proper : Proper (fun _ _ => True) none tick := by
  refine Proper.bind (Q := fun _ _ => True) (proper_then rfl (fun _ => ?_) fun _ => trivial)
  refine proper_then rfl (fun _ => ?_) fun _ => trivial
  refine proper_then rfl (fun _ => ?_) fun _ => trivial
  refine proper_then rfl (fun d => ?_) fun _ => trivial
  cases d with
  | none => trivial
  | some d => exact dispatch_proper d

/-! ### Attempts that all failed -/

/-- `n` times claimed, and each time given back as failed. -/
def rounds : Nat → List Mark
  | 0 => []
  | n + 1 => rounds n ++ [.claimed, .retried]

lemma rounds_eq_snoc {n : Nat} {ms : List Mark} {m : Mark} (h : ms ++ [m] = rounds n) :
    m = .retried ∧ ∃ k, n = k + 1 ∧ ms = rounds k ++ [.claimed] := by
  cases n with
  | zero => simp [rounds] at h
  | succ k =>
    have hsplit : rounds (k + 1) = (rounds k ++ [.claimed]) ++ [.retried] := by simp [rounds]
    rw [hsplit] at h
    obtain ⟨hms, hm⟩ := List.append_inj' h rfl
    exact ⟨by simpa using hm, k, rfl, hms⟩

lemma snoc_eq_open {n : Nat} {ms : List Mark} {m : Mark}
    (h : ms ++ [m] = rounds n ++ [.claimed]) : m = .claimed ∧ ms = rounds n := by
  obtain ⟨hms, hm⟩ := List.append_inj' h rfl
  exact ⟨by simpa using hm, hms⟩

lemma rounds_ne_open {n k : Nat} : rounds n ≠ rounds k ++ [.claimed] := by
  intro h
  exact absurd (rounds_eq_snoc h.symm).1 (by decide)

lemma rounds_length (n : Nat) : (rounds n).length = 2 * n := by
  induction n with
  | zero => rfl
  | succ n ih =>
    simp only [rounds, List.length_append, ih, List.length_cons, List.length_nil]
    omega

lemma rounds_inj {n k : Nat} (h : rounds n = rounds k) : n = k := by
  have hlength := congrArg List.length h
  rw [rounds_length, rounds_length] at hlength
  omega

/-- A delivery none of whose attempts is open. -/
structure Rested (n : Nat) (d : DeliveryRow) : Prop where
  attempts : d.attempts = n
  pending : n < 6 → d.status = .pending
  failed : 6 ≤ n → d.status = .failed

/-- What is known of one delivery: its row, what was recorded of it, and who holds it. -/
structure Tracked (id : String) (row : Option DeliveryRow) (ms : List Mark)
    (held : Nat → Option NotificationDelivery) : Prop where
  bound : ∀ d, row = some d → d.attempts ≤ maxAttempts
  missing : row = none → ms = [] ∧ ∀ i d, held i = some d → d.id ≠ id
  rested : ∀ n, ms = rounds n →
    (∀ d, row = some d → Rested n d) ∧ ∀ i d, held i = some d → d.id ≠ id
  taken : ∀ n, ms = rounds n ++ [.claimed] →
    (∀ d, row = some d → d.status = .dispatching ∧ d.attempts = n + 1) ∧
    (∀ i d, held i = some d → d.id = id → d.attempts = n + 1) ∧
    ∀ i j d e, held i = some d → held j = some e → d.id = id → e.id = id → i = j

/-- Who holds the delivery afterwards: the dispatcher of the call may have come to hold it
with the claim, or have given it back. -/
structure Passes (id : String) (i : Nat) (o : Op) (ms' : List Mark) (row' : Option DeliveryRow)
    (held held' : Nat → Option NotificationDelivery) : Prop where
  others : ∀ j, j ≠ i → held' j = held j
  mine : ∀ d, held' i = some d → d.id = id →
    held i = some d ∨ ms' = [.claimed] ∧ ∀ r, row' = some r → d.attempts = r.attempts
  allowed : Allowed (held i) o
  back : ∀ k error delaySeconds terminal,
    o = .retryNotificationDelivery k error delaySeconds terminal → held' i = none

section Tracking

variable {id : String} {i : Nat} {o : Op} {now : Time} {row row' : Option DeliveryRow}
  {ms ms' : List Mark} {held held' : Nat → Option NotificationDelivery}

lemma Passes.old (h : Passes id i o ms' row' held held') (hms : ms' ≠ [.claimed]) {j : Nat}
    {d : NotificationDelivery} (hj : held' j = some d) (hid : d.id = id) : held j = some d := by
  by_cases heq : j = i
  · subst heq
    exact (h.mine d hj hid).resolve_right fun hnew => hms hnew.1
  · rw [← h.others j heq]
    exact hj

/-- Whoever asks for an outcome holds the delivery. -/
lemma Passes.holder (h : Passes id i o ms' row' held held') {m : Mark}
    (ho : o.outcome = some (id, m)) :
    ∃ d, held i = some d ∧ d.id = id ∧ ∀ k error delaySeconds terminal,
      o = .retryNotificationDelivery k error delaySeconds terminal →
        terminal = decide (6 ≤ d.attempts) := by
  have hallowed := h.allowed
  rcases hheld : held i with _ | d
  · rw [hheld, Allowed, ho] at hallowed
    cases hallowed
  · rw [hheld] at hallowed
    refine ⟨d, rfl, ?_⟩
    cases o with
    | skipNotificationDelivery k =>
      obtain ⟨rfl, rfl⟩ := Prod.mk.inj (Option.some.inj ho)
      exact ⟨hallowed.symm, by simp⟩
    | completeNotificationDelivery k =>
      obtain ⟨rfl, rfl⟩ := Prod.mk.inj (Option.some.inj ho)
      exact ⟨hallowed.symm, by simp⟩
    | retryNotificationDelivery k error delaySeconds terminal =>
      obtain ⟨rfl, rfl⟩ := Prod.mk.inj (Option.some.inj ho)
      refine ⟨hallowed.1.symm, ?_⟩
      rintro _ _ _ _ ⟨⟩
      exact hallowed.2
    | _ => cases ho

lemma Tracked.same (h : Tracked id row ms held) (hp : Passes id i o [] row held held') :
    Tracked id row ms held' := by
  have hold : ∀ {j d}, held' j = some d → d.id = id → held j = some d :=
    fun hj hid => hp.old (by simp) hj hid
  refine ⟨h.bound, fun hrow => ⟨(h.missing hrow).1, fun j d hj hid => ?_⟩, fun n hn =>
    ⟨(h.rested n hn).1, fun j d hj hid => ?_⟩, fun n hn => ⟨(h.taken n hn).1, ?_, ?_⟩⟩
  · exact (h.missing hrow).2 j d (hold hj hid) hid
  · exact (h.rested n hn).2 j d (hold hj hid) hid
  · exact fun j d hj hid => (h.taken n hn).2.1 j d (hold hj hid) hid
  · exact fun j k d e hj hk hd he => (h.taken n hn).2.2 j k d e (hold hj hd) (hold hk he) hd he

lemma Tracked.claimed {d : DeliveryRow} (h : Tracked id (some d) ms held)
    (hmax : d.attempts < maxAttempts)
    (hp : Passes id i o [.claimed] (some { d with
      status := .dispatching
      claimedAt := some now
      attempts := d.attempts + 1 }) held held') :
    Tracked id (some { d with
      status := .dispatching
      claimedAt := some now
      attempts := d.attempts + 1 }) (ms ++ [.claimed]) held' := by
  refine ⟨?_, by simp, fun n hn => absurd (rounds_eq_snoc hn).1 (by decide), fun n hn => ?_⟩
  · rintro _ ⟨⟩
    exact hmax
  · obtain ⟨-, hms⟩ := snoc_eq_open hn
    obtain ⟨hrow, hnobody⟩ := h.rested n hms
    have hattempts := (hrow d rfl).attempts
    -- Nobody held it, so only the claimer does.
    have honly : ∀ j e, held' j = some e → e.id = id → j = i ∧ e.attempts = n + 1 := by
      intro j e hj hid
      by_cases heq : j = i
      · subst heq
        refine ⟨rfl, ?_⟩
        rcases hp.mine e hj hid with hold | ⟨-, hnew⟩
        · exact absurd hid (hnobody j e hold)
        · rw [hnew _ rfl]
          exact congrArg (· + 1) hattempts
      · rw [hp.others j heq] at hj
        exact absurd hid (hnobody j e hj)
    refine ⟨?_, fun j e hj hid => (honly j e hj hid).2, fun j k e f hj hk he hf => ?_⟩
    · rintro _ ⟨⟩
      exact ⟨rfl, congrArg (· + 1) hattempts⟩
    · exact (honly j e hj he).1.trans (honly k f hk hf).1.symm

/-- An outcome other than a retry, or one that comes too late. -/
lemma Tracked.settled {d d' : DeliveryRow} {m : Mark} (h : Tracked id (some d) ms held)
    (hattempts : d'.attempts = d.attempts) (hm : m ≠ .claimed)
    (hlate : m = .retried → d.status ≠ .dispatching) :
    Tracked id (some d') (ms ++ [m]) held' := by
  refine ⟨?_, by simp, fun n hn => ?_, fun n hn => absurd (snoc_eq_open hn).1 hm⟩
  · rintro _ ⟨⟩
    rw [hattempts]
    exact h.bound d rfl
  · obtain ⟨hretried, k, -, hms⟩ := rounds_eq_snoc hn
    exact absurd ((h.taken k hms).1 d rfl).1 (hlate hretried)

lemma Tracked.retried {d d' : DeliveryRow} {error : String} {delaySeconds : Nat}
    {terminal : Bool} (h : Tracked id (some d) ms held)
    (ho : o = .retryNotificationDelivery id error delaySeconds terminal)
    (hattempts : d'.attempts = d.attempts)
    (hstatus : d'.status = if terminal then .failed else .pending)
    (hp : Passes id i o [.retried] (some d') held held') :
    Tracked id (some d') (ms ++ [.retried]) held' := by
  obtain ⟨e, he, hid, hterminal⟩ := hp.holder (m := .retried) (by rw [ho]; rfl)
  refine ⟨?_, by simp, fun n hn => ?_, fun n hn => absurd (snoc_eq_open hn).1 (by decide)⟩
  · rintro _ ⟨⟩
    rw [hattempts]
    exact h.bound d rfl
  · obtain ⟨-, k, rfl, hms⟩ := rounds_eq_snoc hn
    obtain ⟨hrow, hheld, hunique⟩ := h.taken k hms
    obtain rfl := hterminal _ _ _ _ ho
    rw [hheld i e he hid] at hstatus
    refine ⟨?_, fun j f hj hf => ?_⟩
    · rintro _ ⟨⟩
      refine ⟨hattempts.trans (hrow d rfl).2, fun hlt => ?_, fun hle => ?_⟩
      · rw [hstatus, decide_eq_false (by omega)]
        rfl
      · rw [hstatus, decide_eq_true hle]
        rfl
    · by_cases heq : j = i
      · subst heq
        rw [hp.back _ _ _ _ ho] at hj
        cases hj
      · rw [hp.others j heq] at hj
        exact heq (hunique j i f e hj he hf hid)

lemma Tracked.step (h : Tracked id row ms held) (hc : Change now o id row ms' row')
    (hp : Passes id i o ms' row' held held') : Tracked id row' (ms ++ ms') held' := by
  cases hc with
  | same =>
    rw [List.append_nil]
    exact h.same hp
  | created d hstatus hattempts =>
    obtain ⟨rfl, hnobody⟩ := h.missing rfl
    refine ⟨?_, by simp, fun n hn => ⟨?_, fun j e hj hid => ?_⟩, fun n hn => ?_⟩
    · rintro _ ⟨⟩
      rw [hattempts]
      exact Nat.zero_le _
    · obtain rfl : (0 : Nat) = n := rounds_inj hn
      rintro _ ⟨⟩
      exact ⟨hattempts, fun _ => hstatus, by simp⟩
    · exact hnobody j e (hp.old (by simp) hj hid) hid
    · exact absurd hn (rounds_ne_open (n := 0))
  | claimed d _ hmax => exact h.claimed hmax hp
  | skipped d => exact h.settled rfl (by decide) fun heq => by cases heq
  | completed d => exact h.settled rfl (by decide) fun heq => by cases heq
  | retried d ho hs => exact h.retried ho rfl rfl hp
  | late _ m ho hs =>
    rcases row with _ | d
    · obtain ⟨e, he, hid, -⟩ := hp.holder ho
      exact absurd hid ((h.missing rfl).2 i e he)
    · refine h.settled rfl ?_ fun _ => hs d rfl
      rintro rfl
      cases o <;> simp [Op.outcome] at ho

end Tracking

/-! ### Runs -/

structure Inv (c : Config Dispatching State Nat Unit) : Prop where
  proper : ∀ i, Proper (fun _ _ => True) (c.state.held i) (c.thread i)
  tracked : ∀ id, Tracked id (c.state.hub.deliveries.find? id) (marks id c.state.log) c.state.held

variable {ok : Hub → Choice → Op → Prop}

lemma exec_spec {i : Nat} {s t : State} {o : Op} {r : Except String o.Answer}
    (h : Exec ok i s o r t) (hallowed : Allowed (s.held i) o) (id : String) :
    t.held = Function.update s.held i (holds (s.held i) o r) ∧
    ∃ ms, marks id t.log = marks id s.log ++ ms ∧
      Change s.hub.now o id (s.hub.deliveries.find? id) ms (t.hub.deliveries.find? id) ∧
      Passes id i o ms (t.hub.deliveries.find? id) s.held t.held := by
  have hothers : ∀ x j, j ≠ i → Function.update s.held i x j = s.held j :=
    fun x j hj => Function.update_of_ne hj _ _
  have hback : ∀ r : Except String o.Answer, ∀ k error delaySeconds terminal,
      o = .retryNotificationDelivery k error delaySeconds terminal →
        Function.update s.held i (holds (s.held i) o r) i = none := by
    rintro r k error delaySeconds terminal rfl
    rw [Function.update_self]
    rfl
  have herror : ∀ (e : String) d, Function.update s.held i
      (holds (s.held i) o (.error e)) i = some d → s.held i = some d := by
    intro e d hd
    rw [Function.update_self] at hd
    cases o <;> first | exact hd | cases hd
  cases h with
  | answered ch hok =>
    refine ⟨rfl, _, marks_append _ _ _, run_change ch s.hub o id, hothers _, ?_, hallowed,
      hback _⟩
    intro d hd hid
    dsimp only at hd ⊢
    rw [Function.update_self] at hd
    cases o with
    | claimNotificationDelivery =>
      rcases hr : (Op.claimNotificationDelivery.run ch s.hub).1 with e | _ | e
      · rw [hr] at hd
        exact .inl hd
      · rw [hr] at hd
        exact .inl hd
      · rw [hr] at hd
        obtain rfl := Option.some.inj hd
        subst hid
        exact .inr (claim_answer hr)
    | retryNotificationDelivery => cases hd
    | _ => exact .inl hd
  | lost ch hok e =>
    exact ⟨rfl, _, marks_append _ _ _, run_change ch s.hub o id, hothers _,
      fun d hd _ => .inl (herror e d hd), hallowed, hback _⟩
  | thrown e =>
    exact ⟨rfl, [], (List.append_nil _).symm, .same _, hothers _,
      fun d hd _ => .inl (herror e d hd), hallowed, hback _⟩

lemma foreign_arrives {hub hub' : Hub} (h : Foreign hub hub') (id : String) :
    Change hub.now .purgeRuntimeLogResults id (hub.deliveries.find? id) []
      (hub'.deliveries.find? id) := by
  cases h with
  | event _ fresh e h => exact (enqueueEvent_arrives h).change _ id
  | _ => exact .same _

/-- A dispatcher that lets go of what it holds. -/
lemma passes_drop (id : String) (i : Nat) (row : Option DeliveryRow)
    (held : Nat → Option NotificationDelivery) :
    Passes id i .purgeRuntimeLogResults [] row held (Function.update held i none) := by
  refine ⟨fun j hj => Function.update_of_ne hj _ _, fun d hd => ?_, ?_, by simp⟩
  · rw [Function.update_self] at hd
    cases hd
  · cases held i with
    | none => rfl
    | some d => trivial

lemma passes_refl (id : String) (row : Option DeliveryRow)
    (held : Nat → Option NotificationDelivery) :
    Passes id 0 .purgeRuntimeLogResults [] row held held := by
  refine ⟨fun _ _ => rfl, fun _ hd _ => .inl hd, ?_, by simp⟩
  cases held 0 with
  | none => rfl
  | some d => trivial

lemma Inv.step {c d : Config Dispatching State Nat Unit} (h : Inv c)
    (hs : Step (system ok) c d) : Inv d := by
  cases hs with
  | @perform s t th i o k r at_op run =>
    have hproper := h.proper i
    simp only [at_op] at hproper
    obtain ⟨hallowed, hnext⟩ := hproper
    refine ⟨fun j => ?_, fun id => ?_⟩
    · dsimp only
      rw [(exec_spec run hallowed "").1]
      by_cases hji : j = i
      · subst hji
        rw [Function.update_self, Function.update_self]
        exact hnext r
      · rw [Function.update_of_ne hji, Function.update_of_ne hji]
        exact h.proper j
    · obtain ⟨-, ms, hms, hchange, hpasses⟩ := exec_spec run hallowed id
      have htracked := (h.tracked id).step hchange hpasses
      rw [← hms] at htracked
      exact htracked
  | @start s t th i a p at_end next =>
    obtain ⟨rfl, rfl⟩ := next
    refine ⟨fun j => ?_, fun id => (h.tracked id).same (passes_drop id i _ _)⟩
    by_cases hji : j = i
    · subst hji
      simpa using tick_proper
    · simpa [Function.update_of_ne hji] using h.proper j
  | @environment s t th a run =>
    obtain ⟨hforeign, hheld, hlog⟩ := run
    refine ⟨fun j => ?_, fun id => ?_⟩
    · dsimp only
      rw [hheld]
      exact h.proper j
    · have htracked := (h.tracked id).step (foreign_arrives hforeign id) (passes_refl id _ _)
      rw [List.append_nil] at htracked
      dsimp only at htracked ⊢
      rw [hheld, hlog]
      exact htracked
  | @crash s t th i p run =>
    obtain ⟨rfl, rfl⟩ := run
    refine ⟨fun j => ?_, fun id => (h.tracked id).same (passes_drop id i _ _)⟩
    by_cases hji : j = i
    · subst hji
      simp [Proper]
    · simpa [Function.update_of_ne hji] using h.proper j

lemma Inv.reach {c : Config Dispatching State Nat Unit} (h : Reach (system ok) Initial c) :
    Inv c := by
  induction h with
  | @init c h =>
    obtain ⟨hdeliveries, -, hheld, hlog, hthread⟩ := h
    refine ⟨fun i => ?_, fun id => ?_⟩
    · rw [hthread]
      trivial
    · rw [hdeliveries, hlog]
      refine ⟨by simp, fun _ => ⟨rfl, by simp [hheld]⟩,
        fun n _ => ⟨by simp, by simp [hheld]⟩, fun n hn => ?_⟩
      exact absurd hn (rounds_ne_open (n := 0))
  | step _ hs ih => exact ih.step hs

end GatewayControl.Outbox
