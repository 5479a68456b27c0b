import GatewayControl.DnsSafety

/-!
What every run of the system does to DNS: the records it deletes are the access's own, and an
access that is published has its records, unless one that was left for clean-up is in the
way.
-/

namespace GatewayControl.PublishedRecords

open Database Publishing Cloudflare Calls Reconcile Verification Programs
open ControlPlane AccessHistory DnsOwnership DnsRuns DnsEnable DnsSafety

/-! ### Runs of the system -/

/-- Nothing is asked of the world but that others leave marked records alone. -/
def anyScope : Scope := ⟨False, False, id⟩

/-- Records are marked by runs only, no enabled run starts over a leftover, and nobody else
changes the records at a host name during a run. -/
def carefulScope : Scope := ⟨True, True, fun _ => trivial⟩

/-- At the start there is no record of any access. -/
def Clean (c : PlaneConfig) : Prop :=
  Initial c ∧ ∀ r ∈ c.state.world.cloud.records, Unmarked r

lemma sound_initial {S : Scope} {c : PlaneConfig} (h : Initial c)
    (hclean : S.honest → ∀ r ∈ c.state.world.cloud.records, Unmarked r) :
    Sound ((contract S).on State.world) (fun _ _ _ => True) c := by
  have hnone (id : String) : c.state.world.db.accesses.find? id = none := by
    rw [h.db]
    rfl
  refine ⟨⟨h.numbers, h.given, ?_, ?_, ?_, ?_, ?_, ?_⟩, fun i => ?_⟩
  · rw [h.db]
    exact fun row hrow => absurd hrow List.not_mem_nil
  · intro id a ha
    rw [hnone] at ha
    cases ha
  · intro id a ha
    rw [hnone] at ha
    cases ha
  · rw [h.db]
    exact fun r hr => absurd hr List.not_mem_nil
  · exact fun hs r hr id hid => absurd hid (hclean hs r hr id)
  · exact fun hs r hr r' _ id hid => absurd hid (hclean (S.fair hs) r hr id)
  · rw [h.thread i]
    exact fun _ _ _ => trivial

/-- No call changes a record: one that is there afterwards was there before, or is new. -/
lemma exec_records {i : Slot} {s t : State} {c : Call} {r : Except Failure c.Answer}
    (h : Exec i s c r t) : ∀ record ∈ t.world.cloud.records,
      record ∈ s.world.cloud.records ∨ s.world.cloud.nextRecord ≤ record.id := by
  obtain ⟨ch, hcases⟩ := h.world
  have hrun : ∀ record ∈ (c.run ch i s.world).2.cloud.records,
      record ∈ s.world.cloud.records ∨ s.world.cloud.nextRecord ≤ record.id := by
    intro record hrecord
    by_cases hquiet : isQuiet c
    · rw [(quiet_run hquiet ch i s.world).1.records] at hrecord
      exact Or.inl hrecord
    · cases c with
      | createRecord zone type hostname content proxied comment =>
        rcases List.mem_append.mp hrecord with hrecord | hrecord
        · exact Or.inl hrecord
        · rw [List.mem_singleton.mp hrecord]
          exact Or.inr (Nat.le_refl _)
      | deleteRecord zone recordId =>
        change record ∈ (deleteDnsRecord s.world.cloud zone recordId).2.records at hrecord
        rw [deleteDnsRecord_cloud] at hrecord
        exact Or.inl (List.mem_filter.mp hrecord).1
      | saveRecord id revision tracked =>
        change record ∈ (s.world.store (saveDomainAccessDnsRecord s.world.db id revision
          tracked)).2.cloud.records at hrecord
        cases hsave : saveDomainAccessDnsRecord s.world.db id revision tracked with
        | none =>
          rw [hsave] at hrecord
          exact Or.inl hrecord
        | some answer =>
          rw [hsave] at hrecord
          exact Or.inl hrecord
      | acquire key =>
        rw [run_acquire] at hrecord
        split at hrecord
        · exact Or.inl hrecord
        · exact Or.inl hrecord
      | release key =>
        rw [run_release] at hrecord
        split at hrecord
        · exact Or.inl hrecord
        · exact Or.inl hrecord
      | markRecord id revision recordId status lastError => exact Or.inl hrecord
      | createAccess values => exact Or.inl hrecord
      | _ => exact absurd rfl hquiet
  rcases hcases with ⟨-, heq⟩ | ⟨e, -, -, heq | heq⟩
  · rw [heq]
    exact hrun
  · rw [heq]
    exact fun record hrecord => Or.inl hrecord
  · rw [heq]
    exact hrun

/-! ### A small installation -/

def sampleBase : Db :=
  { accounts := .single { id := "account", accountIdentifier := "0123abcd", enabled := true }
    managedRoutes := .single
      { id := "route", gatewayAgentId := "agent", name := "app", hostname := "app.example.com",
        exposure := "public", backends := ["http://app:8080"], enabled := true,
        status := .active } }

def sampleZones : Table ZoneRow String ZoneRow.id := .single
  { id := "zone", accountId := "account", zoneIdentifier := "ef45", name := "example.com",
    status := "active" }

def sampleValues : AccessValues :=
  { accountId := "account", zoneId := "zone", routeId := "route", accessMethod := .publicIp,
    connectorId := none, publicIpv4 := ["203.0.113.7"], publicIpv6 := [], proxied := false }

def sampleChoice : Choice := { now := 0, newId := "", observation := { status := .valid } }

def sampleRender : Render := fun _ _ => .null

/-- Somebody else's record. -/
def sampleRecord : RemoteRecord :=
  { id := 7, zone := "ef45", type := .a, name := "www.example.com", content := "198.51.100.1",
    proxied := true, comment := none }

def sampleStart : PlaneConfig :=
  { state := ⟨⟨{}, { records := [sampleRecord], nextRecord := 8 }, fun _ => none⟩, {}⟩
    thread := fun _ => .pure (.ok ()) }

lemma sampleStart_clean : Clean sampleStart := by
  refine ⟨⟨rfl, ?_, ?_, fun _ => rfl, rfl, fun _ => rfl⟩, fun r hr id => ?_⟩
  · exact List.nodup_singleton _
  · intro r hr
    rw [List.mem_singleton.mp hr]
    exact Nat.lt_succ_self 7
  · rw [List.mem_singleton.mp hr]
    exact fun h => nomatch h

def sampleSlot : Slot := .reconcile "access" 0

/-- An access is created. -/
def sampleCreation : List Move :=
  [.act (.tables sampleBase sampleZones fun _ => some "token"),
    .act (.create "access" sampleValues)]

/-- It is published, and switched off again, up to the deletion of its record. -/
def sampleDeletion : List Move :=
  sampleCreation ++ [.start sampleSlot false, .answer sampleSlot 20,
    .act (.request "access" (some false)), .start sampleSlot false, .answer sampleSlot 3]

lemma sampleTables_possible :
    (Act.tables sampleBase sampleZones fun _ => some "token").Possible sampleStart.state.world := by
  refine ⟨fun a ha => absurd ha List.not_mem_nil, rfl, rfl, fun r hr => ?_⟩
  rw [List.mem_singleton.mp hr]
  decide

lemma sampleValues_distinct : Distinct sampleValues :=
  ⟨List.nodup_singleton _, List.nodup_nil⟩

/-- What a deletion names. -/
def deletion : Call → Option (String × Nat)
  | .deleteRecord zone recordId => some (zone, recordId)
  | _ => none

lemma next_deletion {p : Prog Plane (Except Failure Unit)} {zone : String} {recordId : Nat}
    (h : p.next.bind deletion = some (zone, recordId)) :
    ∃ k, p = .op (Call.deleteRecord zone recordId) k := by
  obtain ⟨c, hnext, hc⟩ := Option.bind_eq_some_iff.mp h
  cases c with
  | deleteRecord zone' recordId' =>
    obtain ⟨rfl, rfl⟩ := Prod.mk.inj (Option.some.inj hc)
    exact Prog.next_eq_some hnext
  | _ => cases hc

/-! ### Other people's records -/

/-- **Foreign records are safe.** Whatever is at Cloudflare at the start, whatever users ask
for, whichever calls fail and wherever programs are cut short: a record is only deleted by a
reconciliation, it is tracked for that access or has its marker, every record with its number
has that marker, and no call changes a record. -/
theorem foreign_records_untouched {render : Render} {c : PlaneConfig}
    (hc : Reach (system render) Initial c) {i : Slot} {o : Call}
    {k : Except Failure o.Answer → Prog Plane (Except Failure Unit)}
    (hop : c.thread i = .op o k) :
    (∀ zone recordId, o = .deleteRecord zone recordId → ∃ id n, i = .reconcile id n ∧
      Deletable c.state.world id recordId ∧
      ∀ r ∈ c.state.world.cloud.records, r.id = recordId →
        r.comment = some (ownershipMarker id)) ∧
      ∀ r t, Exec i c.state o r t → ∀ record ∈ t.world.cloud.records,
        record ∈ c.state.world.cloud.records ∨ c.state.world.cloud.nextRecord ≤ record.id := by
  refine ⟨fun zone recordId ho => ?_, fun r t => exec_records⟩
  have hreach : Reach (dnsSystem render anyScope) Initial c := by
    refine hc.within (fun i s o r => ?_) fun a s => ?_
    · cases o with
      | deployment id => exact False.elim
      | _ => trivial
    · cases a with
      | records edited next => exact False.elim
      | _ => trivial
  have hsound := reach_sound (keeps_dnsSystem render anyScope)
    (fun c hinit => sound_initial hinit False.elim) hreach
  have hallowed := hsound.allowed ((lawful anyScope).on State.world) hop
  subst ho
  cases i with
  | tick n => exact hallowed.elim
  | reconcile id n => exact ⟨id, n, rfl, hallowed, Deletable.own hallowed hsound.1⟩

theorem foreign_records_untouched_sample :
    ∃ c, Reach (system sampleRender) Initial c ∧ (∃ k, c.thread sampleSlot =
        .op (Call.deleteRecord "ef45" 8) k) ∧
      Deletable c.state.world "access" 8 ∧
      ∀ r ∈ c.state.world.cloud.records, r.id = 8 →
        r.comment = some (ownershipMarker "access") := by
  let c := play sampleRender sampleChoice sampleDeletion sampleStart
  have hreach : Reach (system sampleRender) Initial c := by
    refine reach_play_any (.init sampleStart_clean.1) ?_
      ⟨sampleTables_possible, ⟨sampleValues_distinct, rfl⟩, trivial, trivial, trivial, trivial, trivial,
        trivial⟩
    decide
  have hnext : (c.thread sampleSlot).next.bind deletion = some ("ef45", 8) := by
    decide
  obtain ⟨k, hk⟩ := next_deletion hnext
  obtain ⟨id, n, hslot, hdeletable, hmarked⟩ :=
    (foreign_records_untouched hreach hk).1 "ef45" 8 rfl
  obtain ⟨rfl, rfl⟩ := Slot.reconcile.inj hslot
  exact ⟨c, hreach, ⟨k, hk⟩, hdeletable, hmarked⟩

/-! ### Published accesses -/

/-- What an access should look like when it has been published: its records are the wanted
ones, they are the ones tracked, and the row shows the one of a tunnel. -/
structure Reconciled (w : PlaneWorld) (saved : AccessRow) : Prop where
  row : w.db.accesses.find? saved.id = some saved
  settled : Settled saved (ownedDnsRecords w.db saved.id) (placeOf saved w.cloud.records)
  cname : saved.accessMethod = .tunnel → ∃ r ∈ placeOf saved w.cloud.records,
    r.type = .cname ∧ saved.dnsRecordId = some r.id

lemma desired_tunnel {h : AccessRow} (hp : Plain h) (htunnel : h.accessMethod = .tunnel) :
    ∃ target, desired h = [(.cname, target)] := by
  obtain ⟨tunnelId, hid⟩ := Option.isSome_iff_exists.mp (hp.tunnel htunnel)
  exact ⟨tunnelId ++ ".cfargotunnel.com", by rw [desired, htunnel, hid]⟩

/-- The row of a tunnel access shows its one record. -/
lemma activeCname_settled {h : AccessRow} {db : PublishDb} {place : List RemoteRecord}
    (hp : Plain h) (htunnel : h.accessMethod = .tunnel)
    (hs : Settled h (ownedDnsRecords db h.id) place) :
    ∃ r ∈ place, r.type = .cname ∧ activeCname db h.id = some r.id := by
  obtain ⟨target, hdesired⟩ := desired_tunnel hp htunnel
  have htype (type : DnsType) : isWantedType h type ↔ type = .cname := by
    rw [isWantedType, hdesired, List.any_cons, List.any_nil, Bool.or_false, beq_iff_eq]
    exact eq_comm
  have htarget {r : RemoteRecord} (hr : r ∈ place) (hcname : r.type = .cname) :
      lower target = lower r.content := by
    obtain ⟨-, hexpected, -⟩ := hs.wanted r hr ((htype _).mpr hcname)
    rw [expected, hdesired, List.find?_isSome] at hexpected
    obtain ⟨item, hitem, hsame⟩ := hexpected
    rw [List.mem_singleton.mp hitem] at hsame
    exact (sameTarget_iff.mp hsame).2
  obtain ⟨r, hr, hwanted⟩ := hs.present (.cname, target) (by simp [hdesired])
  have hcname : r.type = .cname := (isWanted_iff.mp hwanted).1.1.symm
  obtain ⟨-, -, row, hrow, hid, hrowType, hactive⟩ := hs.wanted r hr ((htype _).mpr hcname)
  have hfound : ((ownedDnsRecords db h.id).find? fun row =>
      row.type = .cname && row.status = .active).isSome := by
    rw [List.find?_isSome]
    exact ⟨row, hrow, by simp [hrowType, hcname, hactive]⟩
  obtain ⟨row', hrow'⟩ := Option.isSome_iff_exists.mp hfound
  have hprop := List.find?_some hrow'
  simp only [Bool.and_eq_true, decide_eq_true_eq] at hprop
  obtain ⟨-, r', hr', hid', htype', -⟩ := hs.tracked row' (List.mem_of_find?_eq_some hrow')
    (by rw [hprop.2]; decide)
  have hcname' : r'.type = .cname := htype'.trans hprop.1
  have hsame : r' = r := by
    refine hs.single r' hr' r hr ((htype _).mpr hcname') (hcname'.trans hcname.symm) ?_
    rw [← htarget hr' hcname', htarget hr hcname]
  exact ⟨r', hr', hcname', by rw [activeCname, hrow', Option.map_some, hid']⟩

/-- **Published means reconciled.** In every run in which no reconciliation of an enabled
access starts while a row left for clean-up tracks a record that is as it should be, and in
which nobody else changes the records at a host name during a run: when a reconciliation
records that the access is published, its records at Cloudflare and the tracked ones are
those it should have. -/
theorem published_reconciled {render : Render} {c : PlaneConfig}
    (hc : Reach (dnsSystem render carefulScope) Clean c) {id id' : String} {n revision : Nat}
    {status : AccessStatus} {lastError : Option String} {k : _ → Prog Plane (Except Failure Unit)}
    (hop : c.thread (.reconcile id n) = .op (Call.outcome id' revision status lastError) k)
    (hstatus : publishes status) {saved : AccessRow} {t : State}
    (hexec : Exec (.reconcile id n) c.state (.outcome id' revision status lastError)
      (.ok (some saved)) t) :
    saved.id = id ∧ Reconciled t.world saved := by
  have hsound := reach_sound (keeps_dnsSystem render carefulScope)
    (fun c hclean => sound_initial hclean.1 fun _ => hclean.2) hc
  have hallowed := hsound.allowed ((lawful carefulScope).on State.world) hop
  obtain ⟨rfl, hsettled⟩ := hallowed
  obtain ⟨row, hrow, -, rfl, ⟨hf, hdb⟩, hcloud, -⟩ := outcome_saved hexec
  obtain ⟨hfound, -⟩ := atRevision_some.mp hrow
  have hid : row.id = id' := Table.key_find? hfound
  have hlater := later_endRow status lastError (activeCname c.state.world.db id') row
  have hbefore : Settled row (ownedDnsRecords c.state.world.db id')
      (placeOf row c.state.world.cloud.records) := by
    cases status with
    | active => exact hsettled row hrow trivial
    | pending => exact hsettled row hrow trivial
    | failed => cases hstatus
    | disabled => cases hstatus
  have hrows : ownedDnsRecords t.world.db id' = ownedDnsRecords c.state.world.db id' := by
    rw [hdb]
    rfl
  refine ⟨hid, ?_, ?_, fun htunnel => ?_⟩
  · rw [hdb, find?_updateAccess, hlater.id_eq, hid, hfound, Option.map_some, if_pos hid]
  · rw [hcloud, Later.placeOf_eq hlater, hlater.id_eq, hid, hrows]
    exact Settled.later hlater hbefore
  · obtain ⟨r, hr, htype, hcname⟩ := activeCname_settled (hsound.1.plain _ _ hfound) htunnel
      (hid.symm ▸ hbefore)
    rw [hcloud, Later.placeOf_eq hlater]
    exact ⟨r, hr, htype, hid ▸ hcname⟩

/-- A row of an access that is left for clean-up. -/
def leftover (db : PublishDb) (id : String) : Bool :=
  (ownedDnsRecords db id).any (·.status = .cleanupPending)

/-- A reconciliation does not start over a leftover. -/
def noLeftover (_ : Slot) (s : State) : Call → Bool
  | .deployment id => !leftover s.world.db id
  | _ => true

lemma step_of_noLeftover {i : Slot} {s : State} {c : Call} (h : noLeftover i s c) :
    carefulScope.step s.world c := by
  cases c with
  | deployment id =>
    intro _ h' _ _ row hrow hpending
    have hnone := (Bool.not_eq_true' _).mp h
    rw [leftover, List.any_eq_false] at hnone
    exact absurd (decide_eq_true hpending) (hnone row hrow)
  | _ => trivial

/-- What a run records in the end. -/
def ending : Call → Option (String × Nat × AccessStatus × Option String)
  | .outcome id revision status lastError => some (id, revision, status, lastError)
  | _ => none

lemma next_ending {p : Prog Plane (Except Failure Unit)} {id : String} {revision : Nat}
    {status : AccessStatus} {lastError : Option String}
    (h : p.next.bind ending = some (id, revision, status, lastError)) :
    ∃ k, p = .op (Call.outcome id revision status lastError) k := by
  obtain ⟨c, hnext, hc⟩ := Option.bind_eq_some_iff.mp h
  cases c with
  | outcome id' revision' status' lastError' =>
    obtain ⟨rfl, rfl, rfl, rfl⟩ := Option.some.inj hc
    exact Prog.next_eq_some hnext
  | _ => cases hc

def savedRow : Except Failure (Option AccessRow) → Option AccessRow
  | .ok row => row
  | .error _ => none

lemma exec_saved {i : Slot} {s : State} {id : String} {revision : Nat} {status : AccessStatus}
    {saved : AccessRow}
    (h : savedRow (answered sampleChoice i s (.outcome id revision status none)).1 =
      some saved) :
    Exec i s (.outcome id revision status none) (.ok (some saved))
      (answered sampleChoice i s (.outcome id revision status none)).2 := by
  have hexec := exec_answered sampleChoice i s (.outcome id revision status none)
  revert h hexec
  generalize (answered sampleChoice i s (.outcome id revision status none)).1 = r
  intro h hexec
  cases r with
  | error e => cases h
  | ok row =>
    obtain rfl : row = some saved := h
    exact hexec

theorem published_reconciled_sample :
    ∃ c t saved k, Reach (dnsSystem sampleRender carefulScope) Clean c ∧
      c.thread sampleSlot = .op (Call.outcome "access" 1 .active none) k ∧
      Exec sampleSlot c.state (.outcome "access" 1 .active none) (.ok (some saved)) t ∧
      saved.id = "access" ∧ Reconciled t.world saved := by
  let c := play sampleRender sampleChoice
    (sampleCreation ++ [.start sampleSlot false, .answer sampleSlot 7]) sampleStart
  have hreach : Reach (dnsSystem sampleRender carefulScope) Clean c := by
    refine reach_play (fun i _ _ _ => step_of_noLeftover (i := i)) ?_
      (.init sampleStart_clean) ?_
      ⟨sampleTables_possible, ⟨sampleValues_distinct, rfl⟩, trivial, trivial, trivial⟩
    · intro a s ha
      cases a with
      | records edited next => cases ha
      | _ => trivial
    · decide
  have hnext : (c.thread sampleSlot).next.bind ending = some ("access", 1, .active, none) := by
    decide
  obtain ⟨k, hk⟩ := next_ending hnext
  obtain ⟨saved, hsaved⟩ : ∃ saved, savedRow (answered sampleChoice sampleSlot c.state
      (.outcome "access" 1 .active none)).1 = some saved := by
    refine Option.isSome_iff_exists.mp ?_
    decide
  have hexec := exec_saved hsaved
  clear_value c
  exact ⟨c, _, saved, k, hreach, hk, hexec, published_reconciled hreach hk rfl hexec⟩

/-- The deletion fails, the record stays, and the access is switched on again. -/
def leftoverScript : List Move :=
  sampleDeletion ++ [.lose sampleSlot false, .answer sampleSlot 10,
    .act (.request "access" (some true)), .start sampleSlot false, .answer sampleSlot 4]

/-- **A leftover stays.** The record is as it should be, so it is kept, and its row stays
marked for clean-up: the access is active with a tracked row that is not. -/
theorem leftover_not_reconciled :
    ∃ c t saved k, Reach (system sampleRender) Clean c ∧
      c.thread sampleSlot = .op (Call.outcome "access" 3 .active none) k ∧
      Exec sampleSlot c.state (.outcome "access" 3 .active none) (.ok (some saved)) t ∧
      ¬Reconciled t.world saved := by
  let c := play sampleRender sampleChoice leftoverScript sampleStart
  have hreach : Reach (system sampleRender) Clean c := by
    refine reach_play_any (.init sampleStart_clean) ?_
      ⟨sampleTables_possible, ⟨sampleValues_distinct, rfl⟩, trivial, trivial, trivial, trivial, trivial,
        trivial, trivial, trivial, trivial, trivial, trivial⟩
    decide
  have hnext : (c.thread sampleSlot).next.bind ending = some ("access", 3, .active, none) := by
    decide
  obtain ⟨k, hk⟩ := next_ending hnext
  obtain ⟨saved, hsaved⟩ : ∃ saved, savedRow (answered sampleChoice sampleSlot c.state
      (.outcome "access" 3 .active none)).1 = some saved := by
    refine Option.isSome_iff_exists.mp ?_
    decide
  have hexec := exec_saved hsaved
  have hleft : leftover (answered sampleChoice sampleSlot c.state
      (.outcome "access" 3 .active none)).2.world.db "access" := by
    decide
  clear_value c
  generalize (answered sampleChoice sampleSlot c.state
    (.outcome "access" 3 .active none)).2 = t at hexec hleft
  refine ⟨c, t, saved, k, hreach, hk, hexec, fun hrec => ?_⟩
  obtain ⟨row, hrow, -, rfl, -⟩ := outcome_saved hexec
  have hid : row.id = "access" := Table.key_find? (atRevision_some.mp hrow).1
  obtain ⟨left, hmem, hpending⟩ := List.any_eq_true.mp hleft
  have hpending : left.status = .cleanupPending := of_decide_eq_true hpending
  rw [← hid] at hmem
  obtain ⟨hactive, -⟩ := hrec.settled.tracked left hmem (by rw [hpending]; decide)
  rw [hpending] at hactive
  cases hactive

end GatewayControl.PublishedRecords
