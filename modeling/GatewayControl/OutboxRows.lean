import GatewayControl.Outbox

/-!
What each call does to one delivery, and what a dispatcher may still do once it holds one.
-/

namespace GatewayControl.Outbox

open Database (Time Event)
open Programs

/-! ### One delivery -/

def marks (id : String) (log : List (String × Mark)) : List Mark :=
  (log.filter (·.1 = id)).map (·.2)

lemma marks_append (id : String) (log log' : List (String × Mark)) :
    marks id (log ++ log') = marks id log ++ marks id log' := by
  simp [marks]

lemma marks_single (id k : String) (m : Mark) :
    marks id [(k, m)] = if k = id then [m] else [] := by
  by_cases h : k = id <;> simp [marks, h]

/-- The outcomes a dispatcher can ask for. -/
def Op.outcome : Op → Option (String × Mark)
  | .skipNotificationDelivery id => some (id, .skipped)
  | .completeNotificationDelivery id => some (id, .completed)
  | .retryNotificationDelivery id _ _ _ => some (id, .retried)
  | _ => none

/-- A delivery before a call, what is recorded of it, and the delivery afterwards. -/
inductive Change (now : Time) (o : Op) (id : String) :
    Option DeliveryRow → List Mark → Option DeliveryRow → Prop
  | same (r : Option DeliveryRow) : Change now o id r [] r
  | created (d : DeliveryRow) (hstatus : d.status = .pending) (hattempts : d.attempts = 0)
      (hnext : d.nextAttemptAt = now) : Change now o id none [] (some d)
  | claimed (d : DeliveryRow) (hdue : due now d) (hmax : d.attempts < maxAttempts) :
      Change now o id (some d) [.claimed] (some { d with
        status := .dispatching
        claimedAt := some now
        attempts := d.attempts + 1 })
  | skipped (d : DeliveryRow) (ho : o = .skipNotificationDelivery id)
      (hstatus : d.status = .dispatching) :
      Change now o id (some d) [.skipped] (some { d with
        status := .skipped
        completedAt := some now })
  | completed (d : DeliveryRow) (ho : o = .completeNotificationDelivery id)
      (hstatus : d.status = .dispatching) :
      Change now o id (some d) [.completed] (some { d with
        status := .succeeded
        completedAt := some now })
  | retried (d : DeliveryRow) {error : String} {delaySeconds : Nat} {terminal : Bool}
      (ho : o = .retryNotificationDelivery id error delaySeconds terminal)
      (hstatus : d.status = .dispatching) :
      Change now o id (some d) [.retried] (some { d with
        status := if terminal then .failed else .pending
        lastError := some error
        nextAttemptAt := now + delaySeconds * 1000
        claimedAt := none
        completedAt := if terminal then some now else none })
  | late (r : Option DeliveryRow) (m : Mark) (ho : o.outcome = some (id, m))
      (hstatus : ∀ d, r = some d → d.status ≠ .dispatching) : Change now o id r [m] r

/-! ### New deliveries -/

/-- The delivery is as before, or is new. -/
def Arrives (hub hub' : Hub) : Prop :=
  hub'.now = hub.now ∧ ∀ id, hub'.deliveries.find? id = hub.deliveries.find? id ∨
    hub.deliveries.find? id = none ∧ ∃ d, hub'.deliveries.find? id = some d ∧
      d.status = .pending ∧ d.attempts = 0 ∧ d.nextAttemptAt = hub.now

lemma Arrives.refl (hub : Hub) : Arrives hub hub := ⟨rfl, fun _ => .inl rfl⟩

lemma Arrives.trans {a b c : Hub} (hab : Arrives a b) (hbc : Arrives b c) : Arrives a c := by
  refine ⟨hbc.1.trans hab.1, fun id => ?_⟩
  rcases hbc.2 id with hsame | ⟨hnone, d, hd, hrow⟩
  · rw [hsame]
    exact hab.2 id
  · rcases hab.2 id with hsame' | ⟨-, d', hd', -⟩
    · rw [← hsame', ← hab.1]
      exact .inr ⟨hnone, d, hd, hrow⟩
    · rw [hd'] at hnone
      cases hnone

lemma enqueueEvent_arrives {hub hub' : Hub} {fresh : Fresh} {e : Event}
    (h : enqueueEvent hub fresh e = some hub') : Arrives hub hub' := by
  obtain ⟨events, -, h⟩ := Option.bind_eq_some_iff.mp h
  split at h
  · obtain ⟨deliveries, hins, h⟩ := Option.bind_eq_some_iff.mp h
    obtain rfl := Option.some.inj h
    refine ⟨rfl, fun id => ?_⟩
    by_cases hid : id = fresh.deliveryId
    · subst hid
      exact .inr ⟨Table.find?_new hins, _, by rw [Table.find?_insert hins, if_pos rfl],
        rfl, rfl, rfl⟩
    · left
      rw [Table.find?_insert hins, if_neg hid]
  · obtain rfl := Option.some.inj h
    exact ⟨rfl, fun _ => .inl rfl⟩

lemma enqueueEvents_arrives {announced : List (Fresh × Event)} {hub hub' : Hub}
    (h : enqueueEvents hub announced = some hub') : Arrives hub hub' := by
  unfold enqueueEvents at h
  induction announced generalizing hub with
  | nil =>
    obtain rfl := Option.some.inj h
    exact .refl _
  | cons e announced ih =>
    rw [List.foldlM_cons] at h
    obtain ⟨between, hfirst, hrest⟩ := Option.bind_eq_some_iff.mp h
    exact (enqueueEvent_arrives hfirst).trans (ih hrest)

lemma Arrives.change {hub hub' : Hub} (h : Arrives hub hub') (o : Op) (id : String) :
    Change hub.now o id (hub.deliveries.find? id) [] (hub'.deliveries.find? id) := by
  rcases h.2 id with hsame | ⟨hnone, d, hd, hstatus, hattempts, hnext⟩
  · rw [hsame]
    exact .same _
  · rw [hnone, hd]
    exact .created d hstatus hattempts hnext

/-! ### The first due delivery -/

lemma before_iff (d e : DeliveryRow) : before d e ↔
    d.nextAttemptAt < e.nextAttemptAt ∨
      d.nextAttemptAt = e.nextAttemptAt ∧ d.createdAt ≤ e.createdAt := by
  simp [before]

lemma before_total {d e : DeliveryRow} (h : ¬ before d e) : before e d := by
  rw [before_iff] at h ⊢
  rcases Nat.lt_trichotomy d.nextAttemptAt e.nextAttemptAt with hlt | heq | hlt
  · exact absurd (.inl hlt) h
  · exact .inr ⟨heq.symm, (Nat.le_total d.createdAt e.createdAt).resolve_left fun hle =>
      h (.inr ⟨heq, hle⟩)⟩
  · exact .inl hlt

lemma before_trans {d e f : DeliveryRow} (hde : before d e) (hef : before e f) :
    before d f := by
  rw [before_iff] at hde hef ⊢
  rcases hde with hlt | ⟨heq, hle⟩
  · rcases hef with hlt' | ⟨heq', -⟩
    · exact .inl (Nat.lt_trans hlt hlt')
    · exact .inl (heq' ▸ hlt)
  · rcases hef with hlt' | ⟨heq', hle'⟩
    · exact .inl (heq ▸ hlt')
    · exact .inr ⟨heq.trans heq', Nat.le_trans hle hle'⟩

lemma before_refl (d : DeliveryRow) : before d d := by
  simp [before_iff]

lemma foldl_earlier {rows : List DeliveryRow} {first : Option DeliveryRow} {d : DeliveryRow}
    (h : rows.foldl earlier first = some d) :
    (d ∈ rows ∨ first = some d) ∧ (∀ e ∈ rows, before d e) ∧
      ∀ f, first = some f → before d f := by
  induction rows generalizing first with
  | nil =>
    obtain rfl := h
    exact ⟨.inr rfl, by simp, fun f hf => Option.some.inj hf ▸ before_refl d⟩
  | cons r rows ih =>
    obtain ⟨hmem, hrows, hfirst⟩ := ih h
    rcases hf : first with _ | f
    · simp only [hf, earlier, Option.some.injEq] at hmem hfirst
      refine ⟨.inl ?_, ?_, by simp⟩
      · rcases hmem with hmem | rfl
        · exact List.mem_cons_of_mem _ hmem
        · exact List.mem_cons_self
      · intro e he
        rcases List.mem_cons.mp he with rfl | he
        · exact hfirst e rfl
        · exact hrows e he
    · by_cases hb : before f r
      · simp only [hf, earlier, if_pos hb, Option.some.injEq] at hmem hfirst
        have hdf := hfirst f rfl
        refine ⟨hmem.imp (List.mem_cons_of_mem _) (by rintro rfl; rfl), ?_, ?_⟩
        · intro e he
          rcases List.mem_cons.mp he with rfl | he
          · exact before_trans hdf hb
          · exact hrows e he
        · rintro _ ⟨⟩
          exact hdf
      · simp only [hf, earlier, if_neg hb, Option.some.injEq] at hmem hfirst
        have hdr := hfirst r rfl
        refine ⟨.inl ?_, ?_, ?_⟩
        · rcases hmem with hmem | rfl
          · exact List.mem_cons_of_mem _ hmem
          · exact List.mem_cons_self
        · intro e he
          rcases List.mem_cons.mp he with rfl | he
          · exact hdr
          · exact hrows e he
        · rintro _ ⟨⟩
          exact before_trans hdr (before_total hb)

/-- **The selected delivery** is due and unlocked, and comes before all others that are. -/
theorem selected_eq_some {hub : Hub} {locked : List String} {d : DeliveryRow}
    (h : selected hub locked = some d) :
    hub.deliveries.find? d.id = some d ∧ due hub.now d ∧ d.id ∉ locked ∧
      ∀ e ∈ hub.deliveries.rows, due hub.now e → e.id ∉ locked → before d e := by
  obtain ⟨hmem, hfirst, -⟩ := foldl_earlier h
  have hd := List.mem_filter.mp (hmem.resolve_right (by simp))
  simp only [Bool.and_eq_true, Bool.not_eq_true', List.contains_eq_mem,
    decide_eq_false_iff_not] at hd
  refine ⟨Table.find?_of_mem hd.1, hd.2.1, hd.2.2, fun e he hdue hlocked => hfirst e ?_⟩
  exact List.mem_filter.mpr ⟨he, by simp [hdue, hlocked]⟩

lemma foldl_earlier_isSome {rows : List DeliveryRow} {first : Option DeliveryRow}
    (h : rows ≠ [] ∨ first.isSome) : (rows.foldl earlier first).isSome := by
  induction rows generalizing first with
  | nil => simpa using h
  | cons r rows ih =>
    refine ih (.inr ?_)
    cases first with
    | none => rfl
    | some f =>
      rw [earlier]
      split <;> rfl

lemma selected_isSome {hub : Hub} {locked : List String} {d : DeliveryRow}
    (hd : hub.deliveries.find? d.id = some d) (hdue : due hub.now d) (hlocked : d.id ∉ locked) :
    (selected hub locked).isSome := by
  refine foldl_earlier_isSome (.inl fun hnil => ?_)
  have hmem : d ∈ hub.deliveries.rows.filter fun d => due hub.now d && !locked.contains d.id :=
    List.mem_filter.mpr ⟨Table.mem_of_find? hd, by simp [hdue, hlocked]⟩
  rw [hnil] at hmem
  simp at hmem

/-! ### The calls -/

lemma settle_change {hub : Hub} {k : String} {f : DeliveryRow → DeliveryRow}
    (hf : ∀ d, (f d).id = d.id) {o : Op} {m : Mark} (ho : o.outcome = some (k, m))
    (hdone : ∀ d, d.status = .dispatching → Change hub.now o k (some d) [m] (some (f d)))
    (id : String) :
    Change hub.now o id (hub.deliveries.find? id) (marks id [(k, m)])
      ((settle hub k f hf).deliveries.find? id) := by
  rw [settle, Table.find?_update, marks_single]
  rcases hd : hub.deliveries.find? id with _ | d
  · by_cases hk : k = id
    · subst hk
      rw [if_pos rfl]
      exact .late _ _ ho (by simp)
    · rw [if_neg hk]
      exact .same _
  · have hid := Table.key_find? hd
    by_cases hk : k = id
    · subst hk
      rw [if_pos rfl]
      by_cases hs : d.status = .dispatching
      · simpa [hid, hs] using hdone d hs
      · simpa [hs] using Change.late (some d) m ho (by rintro _ ⟨⟩; exact hs)
    · rw [if_neg hk]
      simpa [hid, Ne.symm hk] using Change.same (some d)

lemma claim_eq_none {hub : Hub} {locked : List String} :
    claimNotificationDelivery hub locked = none ↔
      ∃ d, selected hub locked = some d ∧ maxAttempts ≤ d.attempts := by
  unfold claimNotificationDelivery
  rcases selected hub locked with _ | d
  · simp
  · dsimp only
    by_cases hmax : maxAttempts ≤ d.attempts <;> simp [hmax]

/-- A claim that takes the selected delivery. -/
lemma claim_eq_some {hub : Hub} {locked : List String} {d : DeliveryRow}
    (hsel : selected hub locked = some d) (hmax : d.attempts < maxAttempts) :
    ∃ deliveries, claimNotificationDelivery hub locked = some ({ hub with deliveries },
        (hub.events.find? d.eventId).map fun e =>
          { id := d.id, eventId := d.eventId, event := e.event, occurredAt := e.occurredAt,
            attempts := d.attempts + 1 }) ∧
      ∀ id, deliveries.find? id = if id = d.id then some { d with
          status := .dispatching
          claimedAt := some hub.now
          attempts := d.attempts + 1 }
        else hub.deliveries.find? id := by
  obtain ⟨hd, -⟩ := selected_eq_some hsel
  refine ⟨hub.deliveries.update (·.id = d.id)
    (fun d => { d with
      status := .dispatching
      claimedAt := some hub.now
      attempts := d.attempts + 1 })
    fun _ => rfl, ?_, fun id => ?_⟩
  · simp only [claimNotificationDelivery, hsel, if_neg (Nat.not_le.mpr hmax)]
  rw [Table.find?_update]
  by_cases hid : id = d.id
  · subst hid
    simp [hd]
  · rw [if_neg hid]
    rcases he : hub.deliveries.find? id with _ | e
    · rfl
    · simp [Table.key_find? he, hid]

lemma claim_change (hub : Hub) (ch : Choice) (id : String) :
    Change hub.now .claimNotificationDelivery id (hub.deliveries.find? id)
      (marks id (noted hub ch .claimNotificationDelivery))
      ((Op.claimNotificationDelivery.run ch hub).2.deliveries.find? id) := by
  simp only [noted, Op.run]
  rcases hsel : selected hub ch.locked with _ | d
  · simp only [claimNotificationDelivery, hsel]
    exact .same _
  by_cases hmax : maxAttempts ≤ d.attempts
  · rw [claim_eq_none.mpr ⟨d, hsel, hmax⟩]
    exact .same _
  · obtain ⟨hd, hdue, -, -⟩ := selected_eq_some hsel
    obtain ⟨deliveries, hclaim, hfind⟩ := claim_eq_some hsel (Nat.lt_of_not_le hmax)
    simp only [hclaim, Option.isSome_some, if_true, Option.toList_some, List.map_singleton,
      stored, marks_single]
    rw [hfind]
    by_cases hid : d.id = id
    · subst hid
      rw [if_pos rfl, if_pos rfl, hd]
      exact .claimed d hdue (Nat.lt_of_not_le hmax)
    · rw [if_neg hid, if_neg (Ne.symm hid)]
      exact .same _

/-- A dispatcher is told the attempts of the delivery it has claimed. -/
lemma claim_answer {hub : Hub} {ch : Choice} {d : NotificationDelivery}
    (h : (Op.claimNotificationDelivery.run ch hub).1 = .ok (some d)) :
    marks d.id (noted hub ch .claimNotificationDelivery) = [.claimed] ∧
      ∀ r, (Op.claimNotificationDelivery.run ch hub).2.deliveries.find? d.id = some r →
        d.attempts = r.attempts := by
  simp only [Op.run] at h ⊢
  rcases hsel : selected hub ch.locked with _ | e
  · rw [claimNotificationDelivery, hsel] at h
    cases h
  by_cases hmax : maxAttempts ≤ e.attempts
  · rw [claim_eq_none.mpr ⟨e, hsel, hmax⟩] at h
    cases h
  · obtain ⟨deliveries, hclaim, hfind⟩ := claim_eq_some hsel (Nat.lt_of_not_le hmax)
    rw [hclaim, stored] at h
    obtain ⟨event, -, rfl⟩ := Option.map_eq_some_iff.mp (Except.ok.inj h)
    refine ⟨?_, fun r hr => ?_⟩
    · simp [noted, hclaim, hsel, marks_single]
    · rw [hclaim, stored, hfind, if_pos rfl] at hr
      obtain rfl := Option.some.inj hr
      rfl

lemma sweep_change (hub : Hub) (ch : Choice) (o : Op) (id : String) :
    Change hub.now o id (hub.deliveries.find? id) []
      ((stored hub ((enqueueEvents hub ch.announced).map (·, ()))).2.deliveries.find? id) := by
  rcases h : enqueueEvents hub ch.announced with _ | hub'
  · exact .same _
  · exact (enqueueEvents_arrives h).change _ id

/-- **What a call does to one delivery.** -/
theorem run_change (ch : Choice) (hub : Hub) (o : Op) (id : String) :
    Change hub.now o id (hub.deliveries.find? id) (marks id (noted hub ch o))
      ((o.run ch hub).2.deliveries.find? id) := by
  cases o with
  | claimNotificationDelivery => exact claim_change hub ch id
  | skipNotificationDelivery k =>
    exact settle_change _ rfl (fun d hs => .skipped d rfl hs) id
  | completeNotificationDelivery k =>
    exact settle_change _ rfl (fun d hs => .completed d rfl hs) id
  | retryNotificationDelivery k error delaySeconds terminal =>
    exact settle_change _ rfl (fun d hs => .retried d rfl hs) id
  | sweepOfflineAgents => exact sweep_change hub ch _ id
  | failStaleCommands => exact sweep_change hub ch _ id
  | purgeRuntimeLogResults => exact .same _
  | isNotificationDeliveryEnabled d => exact .same _
  | getNotificationSecrets => exact .same _
  | send secrets text => exact .same _

end GatewayControl.Outbox
