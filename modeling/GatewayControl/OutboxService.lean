import Mathlib.Algebra.Order.BigOperators.Group.List
import Mathlib.Algebra.Order.Group.Nat
import GatewayControl.OutboxRuns

/-!
Whom the outbox serves: the delivery that is due first, unless it has used up its attempts.
-/

namespace GatewayControl.Outbox

open Database (Time Event)
open Programs

/-! ### How much is ahead of a delivery -/

/-- How often a delivery may still be claimed before `d`. -/
def weight (d r : DeliveryRow) : Nat :=
  if !r.status.final && before r d && r.id != d.id then maxAttempts - r.attempts else 0

def ahead (d : DeliveryRow) (hub : Hub) : Nat := (hub.deliveries.rows.map (weight d)).sum

def claims (log : List (String × Mark)) : Nat := log.countP (·.2 = .claimed)

/-- The delivery is due, and was before now. -/
def Waiting (d : DeliveryRow) (c : Config Dispatching State Nat Unit) : Prop :=
  c.state.hub.deliveries.find? d.id = some d ∧ due c.state.hub.now d ∧
    d.nextAttemptAt < c.state.hub.now

/-- A part of a run in which the delivery waits, and no other transaction has it locked. -/
inductive Waits (d : DeliveryRow) :
    Config Dispatching State Nat Unit → Config Dispatching State Nat Unit → Prop
  | refl {c : Config Dispatching State Nat Unit} (h : Waiting d c) : Waits d c c
  | step {c c' c'' : Config Dispatching State Nat Unit} (h : Waits d c c')
      (hs : Step (system fun _ ch _ => d.id ∉ ch.locked) c' c'') (hw : Waiting d c'') :
      Waits d c c''

lemma ahead_update_le {d : DeliveryRow} {hub : Hub} {p : DeliveryRow → Bool}
    {f : DeliveryRow → DeliveryRow} (hf : ∀ r, (f r).id = r.id)
    (hw : ∀ r ∈ hub.deliveries.rows, p r → weight d (f r) ≤ weight d r) :
    ahead d { hub with deliveries := hub.deliveries.update p f hf } ≤ ahead d hub := by
  unfold ahead Table.update
  rw [List.map_map]
  refine List.sum_le_sum fun r hr => ?_
  rw [Function.comp_apply]
  by_cases hp : p r
  · rw [if_pos hp]
    exact hw r hr hp
  · rw [if_neg hp]

lemma weight_final {d r : DeliveryRow} (h : r.status.final) : weight d r = 0 := by
  simp [weight, h]

lemma weight_later {d r : DeliveryRow} (h : d.nextAttemptAt < r.nextAttemptAt) :
    weight d r = 0 := by
  have hnot : ¬ before r d := by
    rw [before_iff]
    rintro (hlt | ⟨heq, -⟩)
    · exact Nat.lt_asymm h hlt
    · exact Nat.lt_irrefl _ (heq ▸ h)
  simp [weight, hnot]

lemma ahead_settle_le {d : DeliveryRow} {hub : Hub} {k : String}
    {f : DeliveryRow → DeliveryRow} (hf : ∀ r, (f r).id = r.id)
    (hw : ∀ r, weight d (f r) = 0) : ahead d (settle hub k f hf) ≤ ahead d hub :=
  ahead_update_le hf fun r _ _ => (hw r).symm ▸ Nat.zero_le _

lemma enqueueEvent_ahead {d : DeliveryRow} {hub hub' : Hub} {fresh : Fresh} {e : Event}
    (h : enqueueEvent hub fresh e = some hub') (hd : d.nextAttemptAt < hub.now) :
    ahead d hub' = ahead d hub := by
  obtain ⟨events, -, h⟩ := Option.bind_eq_some_iff.mp h
  split at h
  · obtain ⟨deliveries, hins, h⟩ := Option.bind_eq_some_iff.mp h
    obtain rfl := Option.some.inj h
    rw [Table.insert?] at hins
    split at hins
    · cases hins
    · obtain rfl := Option.some.inj hins
      rw [ahead, ahead, List.map_append, List.sum_append, List.map_singleton, List.sum_singleton,
        weight_later hd, Nat.add_zero]
  · obtain rfl := Option.some.inj h
    rfl

lemma enqueueEvents_ahead {d : DeliveryRow} {announced : List (Fresh × Event)} {hub hub' : Hub}
    (h : enqueueEvents hub announced = some hub') (hd : d.nextAttemptAt < hub.now) :
    ahead d hub' = ahead d hub := by
  unfold enqueueEvents at h
  induction announced generalizing hub with
  | nil =>
    obtain rfl := Option.some.inj h
    rfl
  | cons e announced ih =>
    rw [List.foldlM_cons] at h
    obtain ⟨between, hfirst, hrest⟩ := Option.bind_eq_some_iff.mp h
    have hnow := (enqueueEvent_arrives hfirst).1
    rw [ih hrest (hnow.symm ▸ hd), enqueueEvent_ahead hfirst hd]

/-! ### Claims while a delivery waits -/

/-- A claim that passes a waiting delivery over takes one that is ahead of it. -/
lemma claim_ahead {d : DeliveryRow} {hub : Hub} {ch : Choice}
    (hfind : hub.deliveries.find? d.id = some d) (hdue : due hub.now d)
    (hlocked : d.id ∉ ch.locked)
    (hstays : (Op.claimNotificationDelivery.run ch hub).2.deliveries.find? d.id = some d) :
    claims (noted hub ch .claimNotificationDelivery) +
      ahead d (Op.claimNotificationDelivery.run ch hub).2 ≤ ahead d hub := by
  obtain ⟨e, hsel⟩ := Option.isSome_iff_exists.mp (selected_isSome hfind hdue hlocked)
  obtain ⟨hefind, hedue, -, hfirst⟩ := selected_eq_some hsel
  simp only [Op.run, noted] at hstays ⊢
  by_cases hmax : maxAttempts ≤ e.attempts
  · rw [claim_eq_none.mpr ⟨e, hsel, hmax⟩]
    exact (Nat.zero_add _).le
  have hlt := Nat.lt_of_not_le hmax
  have hbefore := hfirst d (Table.mem_of_find? hfind) hdue hlocked
  have hclaim : claimNotificationDelivery hub ch.locked = some ({ hub with
      deliveries := hub.deliveries.update (·.id = e.id)
        (fun d => { d with
          status := .dispatching
          claimedAt := some hub.now
          attempts := d.attempts + 1 })
        fun _ => rfl }, (hub.events.find? e.eventId).map fun r =>
          { id := e.id, eventId := e.eventId, event := r.event, occurredAt := r.occurredAt,
            attempts := e.attempts + 1 }) := by
    simp only [claimNotificationDelivery, hsel, if_neg hmax]
  rw [hclaim] at hstays ⊢
  have hne : e.id ≠ d.id := by
    intro heq
    rw [heq, hfind] at hefind
    obtain rfl := Option.some.inj hefind
    simp [stored, Table.find?_update, hfind] at hstays
    have hattempts := congrArg DeliveryRow.attempts hstays
    simp at hattempts
  have hactive : e.status.final = false := by
    simp only [due, Bool.or_eq_true, Bool.and_eq_true, beq_iff_eq] at hedue
    rcases hedue with ⟨hs, -⟩ | ⟨hs, -⟩ <;> rw [hs] <;> rfl
  have hweight : weight d e = maxAttempts - e.attempts := by
    simp [weight, hactive, hbefore, hne]
  have hcount : claims [(e.id, Mark.claimed)] = 1 := rfl
  simp only [Option.isSome_some, if_true, hsel, Option.toList_some, List.map_singleton, hcount,
    stored, ahead, Table.update, List.map_map]
  rw [Nat.add_comm, Nat.add_one_le_iff]
  have hrow : ∀ r ∈ hub.deliveries.rows, r.id = e.id → r = e := by
    intro r hr hid
    have hfound := Table.find?_of_mem hr
    rw [hid, hefind] at hfound
    exact (Option.some.inj hfound).symm
  have hnew : ∀ r ∈ hub.deliveries.rows, r.id = e.id → weight d { r with
      status := .dispatching
      claimedAt := some hub.now
      attempts := r.attempts + 1 } < weight d r := by
    intro r hr hid
    obtain rfl := hrow r hr hid
    rw [hweight]
    have hnow : weight d { r with
        status := .dispatching
        claimedAt := some hub.now
        attempts := r.attempts + 1 } ≤ maxAttempts - (r.attempts + 1) := by
      rw [weight]
      split
      · exact le_rfl
      · exact Nat.zero_le _
    omega
  refine List.sum_lt_sum _ _ (fun r hr => ?_) ⟨e, Table.mem_of_find? hefind, ?_⟩
  · rw [Function.comp_apply]
    by_cases hid : r.id = e.id
    · rw [if_pos (decide_eq_true hid)]
      exact (hnew r hr hid).le
    · rw [if_neg (by simpa using hid)]
  · rw [Function.comp_apply, if_pos (decide_eq_true rfl)]
    exact hnew e (Table.mem_of_find? hefind) rfl

lemma run_ahead {d : DeliveryRow} {hub : Hub} {ch : Choice} (o : Op)
    (hfind : hub.deliveries.find? d.id = some d) (hdue : due hub.now d)
    (hnext : d.nextAttemptAt < hub.now) (hlocked : d.id ∉ ch.locked)
    (hstays : (o.run ch hub).2.deliveries.find? d.id = some d) :
    claims (noted hub ch o) + ahead d (o.run ch hub).2 ≤ ahead d hub := by
  have hsweep : ahead d (stored hub ((enqueueEvents hub ch.announced).map (·, ()))).2 =
      ahead d hub := by
    rcases h : enqueueEvents hub ch.announced with _ | hub'
    · rfl
    · exact enqueueEvents_ahead h hnext
  cases o with
  | claimNotificationDelivery => exact claim_ahead hfind hdue hlocked hstays
  | sweepOfflineAgents => exact (Nat.zero_add _).trans_le hsweep.le
  | failStaleCommands => exact (Nat.zero_add _).trans_le hsweep.le
  | skipNotificationDelivery k =>
    exact (Nat.zero_add _).trans_le (ahead_settle_le _ fun r => weight_final rfl)
  | completeNotificationDelivery k =>
    exact (Nat.zero_add _).trans_le (ahead_settle_le _ fun r => weight_final rfl)
  | retryNotificationDelivery k error delaySeconds terminal =>
    exact (Nat.zero_add _).trans_le (ahead_settle_le _ fun r =>
      weight_later (Nat.lt_of_lt_of_le hnext (Nat.le_add_right _ _)))
  | _ => exact (Nat.zero_add _).le

lemma claims_append (log log' : List (String × Mark)) :
    claims (log ++ log') = claims log + claims log' := List.countP_append

lemma step_ahead {d : DeliveryRow} {c c' : Config Dispatching State Nat Unit}
    (hw : Waiting d c) (hw' : Waiting d c')
    (hs : Step (system fun _ ch _ => d.id ∉ ch.locked) c c') :
    claims c'.state.log + ahead d c'.state.hub ≤ claims c.state.log + ahead d c.state.hub := by
  obtain ⟨hfind, hdue, hnext⟩ := hw
  cases hs with
  | perform i r at_op run =>
    cases run with
    | answered ch hlocked =>
      have hrun := run_ahead _ hfind hdue hnext hlocked hw'.1
      dsimp only at hrun ⊢
      rw [claims_append]
      omega
    | lost ch hlocked e =>
      have hrun := run_ahead _ hfind hdue hnext hlocked hw'.1
      dsimp only at hrun ⊢
      rw [claims_append]
      omega
    | thrown e => exact le_rfl
  | start i at_end next =>
    obtain ⟨-, rfl⟩ := next
    exact le_rfl
  | @environment s t _ a run =>
    obtain ⟨hforeign, -, hlog⟩ := run
    obtain ⟨hub', held, log⟩ := t
    obtain rfl : log = s.log := hlog
    refine Nat.add_le_add_left ?_ _
    dsimp only at hforeign hnext ⊢
    generalize s.hub = hub at hforeign hnext
    cases hforeign with
    | event _ fresh e h => exact (enqueueEvent_ahead h hnext).le
    | _ => exact le_rfl
  | crash i run =>
    obtain ⟨-, rfl⟩ := run
    exact le_rfl

lemma Waits.waiting {d : DeliveryRow} {c c' : Config Dispatching State Nat Unit}
    (h : Waits d c c') : Waiting d c' := by
  cases h with
  | refl h => exact h
  | step _ _ hw => exact hw

lemma waits_ahead {d : DeliveryRow} {c c' : Config Dispatching State Nat Unit}
    (h : Waits d c c') :
    claims c'.state.log + ahead d c'.state.hub ≤ claims c.state.log + ahead d c.state.hub := by
  induction h with
  | refl => exact le_rfl
  | step h hs hw ih => exact (step_ahead h.waiting hw hs).trans ih

/-! ### The outbox -/

/-- A claim takes the delivery that is selected. -/
def Serves (hub : Hub) (locked : List String) : Prop :=
  ∃ hub' x, claimNotificationDelivery hub locked = some (hub', x) ∧
    ∀ d, selected hub locked = some d → ∃ d', hub'.deliveries.find? d.id = some d' ∧
      d'.status = .dispatching ∧ d'.attempts = d.attempts + 1

lemma serves_iff {hub : Hub} {locked : List String}
    (hbound : ∀ id d, hub.deliveries.find? id = some d → d.attempts ≤ maxAttempts) :
    Serves hub locked ↔ ∀ d, selected hub locked = some d → d.attempts ≠ maxAttempts := by
  constructor
  · rintro ⟨hub', x, hclaim, -⟩ d hsel hmax
    rw [claim_eq_none.mpr ⟨d, hsel, hmax.ge⟩] at hclaim
    cases hclaim
  · intro h
    rcases hsel : selected hub locked with _ | d
    · exact ⟨hub, none, by rw [claimNotificationDelivery, hsel], by simp [hsel]⟩
    · have hfind := (selected_eq_some hsel).1
      have hlt := Nat.lt_of_le_of_ne (hbound _ d hfind) (h d hsel)
      obtain ⟨deliveries, hclaim, hrow⟩ := claim_eq_some hsel hlt
      refine ⟨_, _, hclaim, fun e he => ?_⟩
      obtain rfl := Option.some.inj (hsel.symm.trans he)
      exact ⟨_, by rw [hrow, if_pos rfl], rfl, rfl⟩

lemma change_final {now : Time} {o : Op} {id : String} {d : DeliveryRow} {ms : List Mark}
    {row : Option DeliveryRow} (h : Change now o id (some d) ms row) (hd : d.status.final) :
    row = some d := by
  cases h with
  | same => rfl
  | late => rfl
  | claimed _ hdue =>
    simp only [due, Bool.or_eq_true, Bool.and_eq_true, beq_iff_eq] at hdue
    rcases hdue with ⟨hs, -⟩ | ⟨hs, -⟩ <;> rw [hs] at hd <;> cases hd
  | skipped _ _ hs => rw [hs] at hd; cases hd
  | completed _ _ hs => rw [hs] at hd; cases hd
  | retried _ _ hs => rw [hs] at hd; cases hd

lemma step_final {ok : Hub → Choice → Op → Prop} {c c' : Config Dispatching State Nat Unit}
    (hs : Step (system ok) c c') {id : String} {d : DeliveryRow}
    (hfind : c.state.hub.deliveries.find? id = some d) (hd : d.status.final) :
    c'.state.hub.deliveries.find? id = some d := by
  cases hs with
  | @perform s t th i o k r at_op run =>
    cases run with
    | answered ch hok => exact change_final (hfind ▸ run_change ch s.hub o id) hd
    | lost ch hok e => exact change_final (hfind ▸ run_change ch s.hub o id) hd
    | thrown e => exact hfind
  | start i at_end next =>
    obtain ⟨-, rfl⟩ := next
    exact hfind
  | environment a run => exact change_final (hfind ▸ foreign_arrives run.1 id) hd
  | crash i run =>
    obtain ⟨-, rfl⟩ := run
    exact hfind

/-- **The outbox.** In every run of any number of dispatchers, whatever is lost or cut
short: no delivery has more attempts than its `CHECK` allows; a claim takes the delivery that
is due first if and only if that one has not been claimed ten times; a final status stays;
a delivery that was claimed and given back six times, and nothing else, has failed; and a
delivery that waits is passed over at most as often as the deliveries ahead of it may still
be claimed. -/
theorem outbox_serves {c : Config Dispatching State Nat Unit}
    (h : Reach (system fun _ _ _ => True) Initial c) :
    (∀ d ∈ c.state.hub.deliveries.rows, d.attempts ≤ maxAttempts) ∧
    (∀ locked, Serves c.state.hub locked ↔
      ∀ d, selected c.state.hub locked = some d → d.attempts ≠ maxAttempts) ∧
    (∀ c', Step (system fun _ _ _ => True) c c' → ∀ id d,
      c.state.hub.deliveries.find? id = some d → d.status.final →
        c'.state.hub.deliveries.find? id = some d) ∧
    (∀ id d, c.state.hub.deliveries.find? id = some d →
      marks id c.state.log = rounds 6 → d.status = .failed) ∧
    ∀ d c', Waits d c c' →
      claims c'.state.log ≤ claims c.state.log + ahead d c.state.hub := by
  have hinv := Inv.reach h
  have hbound : ∀ id d, c.state.hub.deliveries.find? id = some d → d.attempts ≤ maxAttempts :=
    fun id d hd => (hinv.tracked id).bound d hd
  refine ⟨fun d hd => hbound _ d (Table.find?_of_mem hd), fun locked => serves_iff hbound,
    fun c' hs id d => step_final hs, fun id d hd hms => ?_, fun d c' hw => ?_⟩
  · exact (((hinv.tracked id).rested 6 hms).1 d hd).failed le_rfl
  · exact (Nat.le_add_right _ _).trans (waits_ahead hw)

/-! ### A delivery that crashes the dispatcher -/

def answer (s : State) (o : Op) : Except String o.Answer × State :=
  ((o.run {} s.hub).1,
    { hub := (o.run {} s.hub).2
      held := Function.update s.held 0 (holds (s.held 0) o (o.run {} s.hub).1)
      log := s.log ++ noted s.hub {} o })

def later (s : State) : State :=
  { s with
    hub := { s.hub with now := s.hub.now + 200000 }
    held := Function.update s.held 0 none }

/-- Two hundred seconds later a tick claims what is due first, and is cut short. -/
def crashing (s : State) : State :=
  let t := (tick.runFor answer 4 (later s)).2
  { t with held := Function.update t.held 0 none }

def Quiet (s : State) : Prop :=
  Reach (system fun _ _ _ => True) Initial ⟨s, fun _ => .pure ()⟩

lemma Quiet.crashing {s : State} (h : Quiet s) : Quiet (crashing s) := by
  have hclock : Reach (system fun _ _ _ => True) Initial
      ⟨{ s with hub := { s.hub with now := s.hub.now + 200000 } }, fun _ => .pure ()⟩ :=
    h.step (.environment (S := system fun _ _ _ => True) () ⟨.clock _ _, rfl, rfl⟩)
  have hstart : Reach (system fun _ _ _ => True) Initial
      ⟨later s, Function.update (fun _ => .pure ()) 0 tick⟩ :=
    hclock.step (.start (S := system fun _ _ _ => True) 0 rfl ⟨rfl, rfl⟩)
  have hrun := reach_runFor (h := answer) (i := 0) (fun s o => Exec.answered {} trivial) 4 hstart
  rw [Function.update_self] at hrun
  have hcrash : Reach (system fun _ _ _ => True) Initial
      ⟨Outbox.crashing s, Function.update (Function.update (Function.update
        (fun _ => .pure ()) 0 tick) 0 (tick.runFor answer 4 (later s)).1) 0 (.pure ())⟩ :=
    hrun.step (.crash (S := system fun _ _ _ => True) 0 ⟨rfl, rfl⟩)
  have hthreads : Function.update (Function.update (Function.update
      (fun _ : Nat => (Prog.pure () : Prog Dispatching Unit)) 0 tick) 0
      (tick.runFor answer 4 (later s)).1) 0 (.pure ()) = fun _ => .pure () := by
    funext j
    by_cases hj : j = 0 <;> simp [Function.update, hj]
  rw [hthreads] at hcrash
  exact hcrash

def recovered (name : String) : Event :=
  { type := "agent.recovered", agentId := some name }

/-- Two deliveries at once, to a group whose settings are there. -/
def twoDeliveries : State :=
  { hub := {
      settings := some
        { botToken := some "token", groupId := some "group",
          selectedEvents := ["agent.recovered"] }
      events := ⟨[{ id := "event-1", event := recovered "agent-1", occurredAt := "" },
        { id := "event-2", event := recovered "agent-2", occurredAt := "" }], by decide⟩
      deliveries := ⟨[{ id := "first", eventId := "event-1", nextAttemptAt := 0, createdAt := 0 },
        { id := "second", eventId := "event-2", nextAttemptAt := 0, createdAt := 0 }],
        by decide⟩ } }

lemma Quiet.event {s : State} (h : Quiet s) {hub' : Hub} (fresh : Fresh) {e : Event}
    (he : enqueueEvent s.hub fresh e = some hub') : Quiet { s with hub := hub' } :=
  h.step (.environment () ⟨.event _ _ fresh e he, rfl, rfl⟩)

lemma quiet_twoDeliveries : Quiet twoDeliveries := by
  let settings : NotificationSettings :=
    { botToken := some "token", groupId := some "group", selectedEvents := ["agent.recovered"] }
  have hstart : Quiet {} := .init ⟨rfl, rfl, fun _ => rfl, rfl, fun _ => rfl⟩
  have hsettings : Quiet { hub := { settings := some settings } } :=
    hstart.step (.environment () ⟨.settings {} (some settings), rfl, rfl⟩)
  have hfirst := hsettings.event ⟨"event-1", "first", ""⟩ (e := recovered "agent-1")
    rfl
  exact hfirst.event ⟨"event-2", "second", ""⟩ (e := recovered "agent-2") rfl

lemma quiet_crashes (n : Nat) : Quiet (crashing^[n] twoDeliveries) := by
  induction n with
  | zero => exact quiet_twoDeliveries
  | succ n ih =>
    rw [Function.iterate_succ_apply']
    exact ih.crashing

/-- **The outbox wedges.** After ten crashes with the first delivery in hand every claim is
refused, and the second delivery, due all the time, is never sent. -/
theorem outbox_wedged : ¬ ∀ c, Reach (system fun _ _ _ => True) Initial c →
    ∀ locked, Serves c.state.hub locked := by
  intro h
  obtain ⟨hub', x, hclaim, -⟩ := h _ (quiet_crashes 11) []
  have hnone : (claimNotificationDelivery (crashing^[11] twoDeliveries).hub []).isNone := by
    decide
  rw [Option.isNone_iff_eq_none.mp hnone] at hclaim
  cases hclaim

/-- After three crashes the first delivery can still be claimed. -/
theorem outbox_serves_sample : Serves (crashing^[3] twoDeliveries).hub ["first"] ∧
    ∀ d ∈ (crashing^[3] twoDeliveries).hub.deliveries.rows, d.attempts ≤ maxAttempts := by
  obtain ⟨hbound, hserves, -⟩ := outbox_serves (quiet_crashes 3)
  refine ⟨(hserves ["first"]).mpr fun d hd => ?_, hbound⟩
  have hfew : (crashing^[3] twoDeliveries).hub.deliveries.rows.all (·.attempts ≤ 3) := by
    decide
  have hle := List.all_eq_true.mp hfew d (Table.mem_of_find? (selected_eq_some hd).1)
  simp only [decide_eq_true_eq] at hle
  exact Nat.ne_of_lt (hle.trans_lt (by decide))

end GatewayControl.Outbox
