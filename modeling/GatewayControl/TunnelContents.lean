import GatewayControl.PublishedRecords
import GatewayControl.TunnelSafety

/-!
What the configuration of a tunnel holds when its accesses have been reconciled: a rule for
each that is published, and none for one that is switched off.
-/

namespace GatewayControl.TunnelContents

open Database Publishing Ingress Cloudflare Calls Reconcile Verification Programs
open ControlPlane AccessHistory DnsOwnership DnsSafety PublishedRecords
open TunnelRules TunnelUpdates TunnelSafety

/-! ### A tunnel with two host names -/

def tunnelRoute (id hostname : String) : RouteRow :=
  { id, gatewayAgentId := "agent", name := id, hostname, exposure := "tunnel",
    backends := ["http://app:8080"], enabled := true, status := .active }

def tunnelConnector : ConnectorRow :=
  { id := "connector", name := "connector", token := "token", enabled := true,
    agentId := "agent", accountId := some "account", tunnelId := some "77aa",
    tokenAccountIdentifier := some "0123abcd", tokenTunnelId := some "77aa",
    identityStatus := .verified }

def tunnelBase : Db :=
  { accounts := .single { id := "account", accountIdentifier := "0123abcd", enabled := true }
    connectors := .single tunnelConnector
    managedRoutes := ⟨[tunnelRoute "first" "a.example.com", tunnelRoute "second" "b.example.com"],
      by decide⟩ }

def tunnelValues (routeId : String) : AccessValues :=
  { accountId := "account", zoneId := "zone", routeId, accessMethod := .tunnel,
    connectorId := some "connector", publicIpv4 := [], publicIpv6 := [], proxied := true }

/-- The tunnel has one rule, for every request. -/
def emptyTunnel : Json.Entries := putTunnelConfig [[("service", .str tunnelCatchAllService)]]

def tunnelStart : PlaneConfig :=
  { state := ⟨⟨{}, { configs := fun _ => emptyTunnel }, fun _ => none⟩, {}⟩
    thread := fun _ => .pure (.ok ()) }

def tunnelTables : Act := .tables tunnelBase sampleZones fun _ => some "token"

def firstSlot : Slot := .reconcile "one" 0

def secondSlot : Slot := .reconcile "two" 0

def sharedTunnelAddress : String × String := ("0123abcd", "77aa")

def sharedTunnelKey : LockKey := .cloudflareTunnel "0123abcd" "77aa"

/-! ### No lost update -/

/-- **No lost tunnel update.** In every run in which all accesses that write to a tunnel take
one common lock, and nobody else writes to it: at any time, the tunnel has exactly its rule
for the host of each access whose last reconciliation published it, and none for the host of
one whose last reconciliation switched it off. -/
theorem no_lost_update {render : Render} {T : String × String} {key : LockKey}
    {c : PlaneConfig} (hc : Reach (tunnelSystem render T key) Initial c) {id : String}
    {h : AccessRow} (hfound : c.state.world.db.accesses.find? id = some h)
    (htunnel : tunnelOf h = some T) {status : AccessStatus}
    (hended : c.state.notes.ended id = some status) :
    Shows status h.hostname (rulesAt T c.state h.hostname) := by
  have hsound := reach_sound (keeps_tunnelSystem render)
    (fun c hinit => TunnelSafety.sound_initial hinit) hc
  exact hsound.1.told id h hfound htunnel status hended

/-- The writer takes the lock of the sample tunnel. -/
def takesShared (i : Slot) (s : State) : Call → Bool
  | .putTunnelConfig _ _ _ =>
      match i with
      | .reconcile id _ => (s.world.db.accesses.find? id).bind tunnelKey == some sharedTunnelKey
      | .tick _ => false
  | _ => true

lemma shared_of_takes {i : Slot} {s : State} {c : Call} (h : takesShared i s c) :
    Shared sharedTunnelAddress sharedTunnelKey i s c := by
  cases c with
  | putTunnelConfig accountIdentifier tunnelId ingress =>
    intro _
    cases i with
    | reconcile id n => exact Or.inr (beq_iff_eq.mp h)
    | tick n => cases h
  | _ => trivial

lemma untouched_own {T : String × String} {a : Act} (ha : a.isOwn) : Untouched T a := by
  cases a with
  | tunnel address config => cases ha
  | _ => trivial

lemma tunnelStart_initial : Initial tunnelStart where
  db := rfl
  numbers := List.nodup_nil
  given := fun _ hr => absurd hr List.not_mem_nil
  holder := fun _ => rfl
  notes := rfl
  thread := fun _ => rfl

lemma tunnelTables_possible : tunnelTables.Possible tunnelStart.state.world := by
  refine ⟨fun a ha => absurd ha List.not_mem_nil, rfl, rfl, fun r hr => ?_⟩
  have hmem : r ∈ [tunnelRoute "first" "a.example.com", tunnelRoute "second" "b.example.com"] :=
    hr
  rcases List.mem_cons.mp hmem with rfl | hr
  · decide
  · rw [List.mem_singleton.mp hr]
    decide

lemma tunnelValues_distinct (routeId : String) : Distinct (tunnelValues routeId) :=
  ⟨List.nodup_nil, List.nodup_nil⟩

def firstScript : List Move :=
  [.act tunnelTables, .act (.create "one" (tunnelValues "first")), .start firstSlot false,
    .answer firstSlot 20]

theorem no_lost_update_sample :
    ∃ c h, Reach (tunnelSystem sampleRender sharedTunnelAddress sharedTunnelKey) Initial c ∧
      c.state.world.db.accesses.find? "one" = some h ∧
      c.state.notes.ended "one" = some .active ∧
      Shows .active h.hostname (rulesAt sharedTunnelAddress c.state h.hostname) := by
  let c := play sampleRender sampleChoice firstScript tunnelStart
  have hreach : Reach (tunnelSystem sampleRender sharedTunnelAddress sharedTunnelKey)
      Initial c := by
    refine reach_play (fun _ _ _ _ => shared_of_takes)
      (fun _ _ => untouched_own) (.init tunnelStart_initial) ?_
      ⟨tunnelTables_possible, ⟨tunnelValues_distinct _, rfl⟩, trivial, trivial, trivial⟩
    decide
  have hend : (c.state.world.db.accesses.find? "one").bind tunnelOf =
      some sharedTunnelAddress ∧ c.state.notes.ended "one" = some .active := by
    decide
  clear_value c
  obtain ⟨h, hfound, htunnel⟩ := Option.bind_eq_some_iff.mp hend.1
  exact ⟨c, h, hreach, hfound, hend.2, no_lost_update hreach hfound htunnel hend.2⟩

/-- Between the two creations the account's identifier is spelled in another case. The runs
take different locks: each reads the list before the other writes its own. -/
def raceScript : List Move :=
  [.act tunnelTables, .act (.create "one" (tunnelValues "first")),
    .act (.request "one" (some false)),
    .act (.account "account" { accountIdentifier := some "0123ABCD" }),
    .act (.create "two" (tunnelValues "second")), .act (.request "one" (some true)),
    .start firstSlot false, .answer firstSlot 6, .start secondSlot false, .answer secondSlot 6,
    .answer firstSlot 20, .answer secondSlot 20]

/-- **A lost update.** Both runs have ended, the first with its access active, and the tunnel
has no rule for it. -/
theorem tunnel_update_lost :
    ∃ c h, Reach (system sampleRender) Initial c ∧ (∀ i, (c.thread i).next = none) ∧
      c.state.world.db.accesses.find? "one" = some h ∧
      tunnelOf h = some sharedTunnelAddress ∧ c.state.notes.ended "one" = some .active ∧
      ¬Shows .active h.hostname (rulesAt sharedTunnelAddress c.state h.hostname) := by
  let c := play sampleRender sampleChoice raceScript tunnelStart
  have hreach : Reach (system sampleRender) Initial c := by
    refine reach_play_any (.init tunnelStart_initial) ?_
      ⟨tunnelTables_possible, ⟨tunnelValues_distinct _, rfl⟩, trivial, trivial,
        ⟨tunnelValues_distinct _, rfl⟩, trivial, trivial, trivial, trivial, trivial, trivial,
        trivial, trivial⟩
    decide
  have hend : (c.state.world.db.accesses.find? "one").bind tunnelOf =
      some sharedTunnelAddress ∧ c.state.notes.ended "one" = some .active ∧
      (c.state.world.db.accesses.find? "one").map (fun h =>
        (rulesAt sharedTunnelAddress c.state h.hostname).isEmpty) = some true ∧
      (c.thread firstSlot).next.isNone ∧ (c.thread secondSlot).next.isNone := by
    decide
  have hidle (i : Slot) (hi : i ≠ firstSlot ∧ i ≠ secondSlot) : (c.thread i).next = none := by
    have hsame : c.thread i = tunnelStart.thread i := by
      refine play_thread _ _ (fun m hm => ?_) _
      have hslots : ∀ m ∈ raceScript,
          m.slot = none ∨ m.slot = some firstSlot ∨ m.slot = some secondSlot := by
        simp [raceScript, Move.slot]
      rcases hslots m hm with h | h | h <;> rw [h]
      · simp
      · exact fun heq => hi.1 (Option.some.inj heq).symm
      · exact fun heq => hi.2 (Option.some.inj heq).symm
    rw [hsame]
    rfl
  clear_value c
  obtain ⟨htunnel, hended, hrules, hfirst, hsecond⟩ := hend
  obtain ⟨h, hfound, htunnel⟩ := Option.bind_eq_some_iff.mp htunnel
  refine ⟨c, h, hreach, fun i => ?_, hfound, htunnel, hended, fun hshows => ?_⟩
  · by_cases hone : i = firstSlot
    · rw [hone]
      exact Option.isNone_iff_eq_none.mp hfirst
    · by_cases htwo : i = secondSlot
      · rw [htwo]
        exact Option.isNone_iff_eq_none.mp hsecond
      · exact hidle i ⟨hone, htwo⟩
  · rw [hfound, Option.map_some, Option.some.injEq, List.isEmpty_iff] at hrules
    rw [Shows, hrules] at hshows
    cases hshows

/-! ### Switched off -/

/-- Only runs mark records. -/
def honestScope : Scope := ⟨True, False, False.elim⟩

/-- **Nothing is left behind.** Whatever runs there were before, failed, superseded or cut
short at any call: when a reconciliation records that an access is switched off, no record
has its marker, every tracked row of it is deleted, and its tunnel has no rule for its host,
if all that write to the tunnel take one common lock: its own, say. -/
theorem disabled_leaves_nothing {render : Render} {c : PlaneConfig}
    (hc : Reach (system render) Clean c) {id id' : String} {n revision : Nat}
    {lastError : Option String} {k : _ → Prog Plane (Except Failure Unit)}
    (hop : c.thread (.reconcile id n) = .op (Call.outcome id' revision .disabled lastError) k)
    {saved : AccessRow} {t : State}
    (hexec : Exec (.reconcile id n) c.state (.outcome id' revision .disabled lastError)
      (.ok (some saved)) t) :
    saved.id = id ∧ saved.enabled = false ∧
      (∀ r ∈ t.world.cloud.records, r.comment ≠ some (ownershipMarker id)) ∧
      (∀ row ∈ ownedDnsRecords t.world.db id, row.status = .deleted) ∧
      ∀ T key, Reach (tunnelSystem render T key) Clean c → tunnelOf saved = some T →
        rulesAt T t saved.hostname = [] := by
  have hdns : Reach (dnsSystem render honestScope) Clean c := by
    refine hc.within (fun i s o r => ?_) fun a s => ?_
    · cases o with
      | deployment id => exact False.elim
      | _ => trivial
    · cases a with
      | records edited next => exact False.elim
      | _ => trivial
  have hsound := reach_sound (keeps_dnsSystem render honestScope)
    (fun c hclean => PublishedRecords.sound_initial hclean.1 fun _ => hclean.2) hdns
  obtain ⟨rfl, hwithdrawn⟩ := hsound.allowed ((DnsOwnership.lawful honestScope).on State.world) hop
  obtain ⟨row, hrow, hcoherent, rfl, ⟨hf, hdb⟩, hcloud, -⟩ := outcome_saved hexec
  obtain ⟨hfound, -⟩ := atRevision_some.mp hrow
  have hid : row.id = id' := Table.key_find? hfound
  have hgone : Withdrawn honestScope c.state.world id' := hwithdrawn row hrow
  refine ⟨hid, ?_, fun r hr hmark => ?_, fun dnsRow hdnsRow => ?_,
    fun T key hreach htunnel => ?_⟩
  · simpa [coherent, endRow] using hcoherent
  · rw [hcloud] at hr
    have hmem : r ∈ marked c.state.world.cloud.records id' :=
      List.mem_filter.mpr ⟨hr, decide_eq_true hmark⟩
    rw [hgone.records trivial] at hmem
    cases hmem
  · rw [hdb] at hdnsRow
    exact hgone.rows dnsRow hdnsRow
  · have hsound' := reach_sound (keeps_tunnelSystem render)
      (fun c hclean => TunnelSafety.sound_initial hclean.1) hreach
    have hshows := (hsound'.allowed (TunnelUpdates.lawful T key) hop).2 row hrow htunnel
    rw [rulesAt, hcloud]
    exact hshows

theorem disabled_leaves_nothing_sample :
    ∃ c t saved k, Reach (system sampleRender) Clean c ∧
      c.thread firstSlot = .op (Call.outcome "one" 2 .disabled none) k ∧
      Exec firstSlot c.state (.outcome "one" 2 .disabled none) (.ok (some saved)) t ∧
      tunnelOf saved = some sharedTunnelAddress ∧
      (∀ r ∈ t.world.cloud.records, r.comment ≠ some (ownershipMarker "one")) ∧
      (∀ row ∈ ownedDnsRecords t.world.db "one", row.status = .deleted) ∧
      rulesAt sharedTunnelAddress t saved.hostname = [] := by
  let c := play sampleRender sampleChoice (firstScript ++
    [.act (.request "one" (some false)), .start firstSlot false, .answer firstSlot 9]) tunnelStart
  have hreach : Reach (tunnelSystem sampleRender sharedTunnelAddress sharedTunnelKey)
      Clean c := by
    refine reach_play (fun _ _ _ _ => shared_of_takes)
      (fun _ _ => untouched_own)
      (.init ⟨tunnelStart_initial, fun _ hr => absurd hr List.not_mem_nil⟩) ?_
      ⟨tunnelTables_possible, ⟨tunnelValues_distinct _, rfl⟩, trivial, trivial, trivial, trivial,
        trivial, trivial⟩
    decide
  have hnext : (c.thread firstSlot).next.bind ending = some ("one", 2, .disabled, none) ∧
      ((savedRow (answered sampleChoice firstSlot c.state
        (.outcome "one" 2 .disabled none)).1).bind tunnelOf) = some sharedTunnelAddress := by
    decide
  clear_value c
  obtain ⟨k, hk⟩ := next_ending hnext.1
  obtain ⟨saved, hsaved, htunnel⟩ := Option.bind_eq_some_iff.mp hnext.2
  have hexec := exec_saved hsaved
  obtain ⟨-, -, hrecords, hrows, hrules⟩ := disabled_leaves_nothing hreach.of_within hk hexec
  exact ⟨c, _, saved, k, hreach.of_within, hk, hexec, htunnel, hrecords, hrows,
    hrules _ _ hreach htunnel⟩

end GatewayControl.TunnelContents
