import GatewayControl.TunnelUpdates

/-!
The reconciliation of one access, as far as the configuration of a tunnel goes: what a run
knows of the list of rules at each point.
-/

namespace GatewayControl.TunnelRuns

open Database Store Requests Publishing Ingress Cloudflare Calls Reconcile Verification Programs
open ControlPlane AccessHistory DnsOwnership DnsRuns TunnelRules TunnelUpdates

variable {T : String × String} {key : LockKey} {d : Deployment} {n : Nat}

/-! ### Parts that leave the tunnel alone -/

lemma still_triple {α : Type} {i : Slot} {p : Handler α} (hp : p.run.Only (isStill ·))
    {P : State → Prop} (hP : Stable (contract T key) i P) :
    Triple (contract T key) i P p.run (Exits (fun _ => P) fun _ => P) := by
  refine triple_conseq (triple_only hp hP ?_ ?_) (fun _ _ h => h) fun r _ _ h => ?_
  · intro s c hc _ _
    cases i <;> cases c <;> trivial
  · rintro s c r t hc hi hp ⟨hexec, -⟩
    obtain ⟨hstill, hholder⟩ := still_exec hc hexec
    have hkeep (j : Slot) : Rely T key j s t :=
      hstill.rely fun k hk => by rw [hholder]; exact hk
    exact ⟨hstill.inv hi, fun j _ => hkeep j, hP s t hi (hstill.inv hi) (hkeep i) hp⟩
  · cases r
    · exact h
    · exact h

lemma still_of_records {α : Type} {p : Handler α} (hp : p.run.Only (isRecordCall ·)) :
    p.run.Only (isStill ·) := by
  refine hp.mono fun c hc => ?_
  cases c <;> first | rfl | simp [isRecordCall] at hc

/-! ### What a run knows -/

variable (T key) in
/-- The tunnel is the access's own, and the key one of its locks. -/
def Ours (a : AccessRow) : Prop :=
  tunnelOf a = some T ∧ (key = .domainAccess a.id ∨ tunnelKey a = some key)

variable (T key n) in
structure Held (a : AccessRow) (s : State) : Prop where
  holder : s.world.holder (.domainAccess a.id) = some (.reconcile a.id n)
  later : ∃ h, s.world.db.accesses.find? a.id = some h ∧ Later a h
  silent : s.notes.ended a.id = none
  lock : Ours T key a → s.world.holder key = some (.reconcile a.id n)

variable (T key n) in
/-- When the run has read the list: the other hosts have the rules it has read. -/
structure Before (a : AccessRow) (original : Option (List Rule)) (s : State) : Prop where
  held : Held T key n a s
  valid : ∀ rules, original = some rules → ∀ rule ∈ rules, ingressRule (.obj rule) = some rule
  agrees : ∀ rules, original = some rules → Ours T key a → ∀ hostname, hostname ≠ a.hostname →
    rulesAt T s hostname = rulesFor .caseless hostname rules

variable (T key n) in
/-- When it has written one: its own host has what it should. -/
structure After (a : AccessRow) (original : Option (List Rule)) (status : AccessStatus)
    (s : State) : Prop where
  before : Before T key n a original s
  shows : tunnelOf a = some T →
    Ours T key a ∧ Shows status a.hostname (rulesAt T s a.hostname)

variable (T key n) in
lemma stable_held (a : AccessRow) :
    Stable (contract T key) (.reconcile a.id n) (Held T key n a) := by
  intro s t _ _ hr hp
  obtain ⟨h, hfound, hlater⟩ := hp.later
  obtain ⟨h', hfound', hlater'⟩ := hr.accesses h hfound
  exact ⟨hr.holder _ hp.holder, ⟨h', hfound', hlater.trans hlater'⟩,
    (hr.ended hp.holder).trans hp.silent, fun ho => hr.holder _ (hp.lock ho)⟩

lemma rulesAt_rely {a : AccessRow} {s t : State} (hp : Held T key n a s)
    (hr : RelyOn T key a.id (.reconcile a.id n) s t) (ho : Ours T key a) :
    rulesAt T t = rulesAt T s := by
  funext hostname
  rw [rulesAt, rulesAt, hr.config (hp.lock ho)]

variable (T key n) in
lemma stable_before (a : AccessRow) (original : Option (List Rule)) :
    Stable (contract T key) (.reconcile a.id n) (Before T key n a original) := by
  intro s t hi hi' hr hp
  refine ⟨stable_held T key n a s t hi hi' hr hp.held, hp.valid, fun rules h ho hostname hne => ?_⟩
  rw [rulesAt_rely hp.held hr ho]
  exact hp.agrees rules h ho hostname hne

variable (T key n) in
lemma stable_after (a : AccessRow) (original : Option (List Rule)) (status : AccessStatus) :
    Stable (contract T key) (.reconcile a.id n) (After T key n a original status) := by
  intro s t hi hi' hr hp
  refine ⟨stable_before T key n a original s t hi hi' hr hp.before, fun htunnel => ?_⟩
  obtain ⟨ho, hshows⟩ := hp.shows htunnel
  rw [rulesAt_rely hp.before.held hr ho]
  exact ⟨ho, hshows⟩

lemma Held.before {a : AccessRow} {s : State} (h : Held T key n a s) :
    Before T key n a none s where
  held := h
  valid := by
    rintro _ ⟨⟩
  agrees := by
    rintro _ ⟨⟩

/-! ### Writing to the tunnel -/

variable (T) in
/-- A list has been written to the tunnel of the access. -/
structure Put (a : AccessRow) (ingress : List Rule) (s t : State) : Prop where
  db : t.world.db = s.world.db
  holder : t.world.holder = s.world.holder
  notes : t.notes = s.notes
  config : tunnelOf a = some T → t.world.cloud.configs T = putTunnelConfig ingress
  other : tunnelOf a ≠ some T → t.world.cloud.configs T = s.world.cloud.configs T

lemma tunnelOf_some {a : AccessRow} {tunnelId : String} (hmethod : a.accessMethod = .tunnel)
    (htunnel : a.deployedTunnelId = some tunnelId) :
    tunnelOf a = some (tunnelAddress a.deployedAccountIdentifier tunnelId) := by
  rw [tunnelOf, hmethod, htunnel]

lemma ours_of_takes {a : AccessRow} {s : State} (hp : Held T key n a s)
    (htunnel : tunnelOf a = some T) (h : Takes key s.world.db (.reconcile a.id n)) :
    Ours T key a := by
  refine ⟨htunnel, ?_⟩
  rcases h with h | h
  · exact Or.inl h
  · obtain ⟨row, hfound, hlater⟩ := hp.later
    rw [hfound, Option.bind_some, Later.tunnelKey_eq hlater] at h
    exact Or.inr h

lemma Put.held {a : AccessRow} {ingress : List Rule} {s t : State} (h : Put T a ingress s t)
    (hp : Held T key n a s) : Held T key n a t := by
  refine ⟨?_, ?_, ?_, ?_⟩
  · rw [h.holder]
    exact hp.holder
  · rw [h.db]
    exact hp.later
  · rw [h.notes]
    exact hp.silent
  · rw [h.holder]
    exact hp.lock

lemma Put.rulesAt_eq {a : AccessRow} {ingress : List Rule} {s t : State}
    (h : Put T a ingress s t) (hvalid : ∀ rule ∈ ingress, ingressRule (.obj rule) = some rule)
    (htunnel : tunnelOf a = some T) (hostname : String) :
    rulesAt T t hostname = rulesFor .caseless hostname ingress := by
  rw [rulesAt, h.config htunnel, hostRules_put hvalid]

/-- **Step lemma.** A run writes a list in which the other hosts keep their rules. -/
lemma Put.step {a : AccessRow} {ingress : List Rule} {s t : State} (h : Put T a ingress s t)
    (hi : Inv T s) (hp : Held T key n a s)
    (hvalid : ∀ rule ∈ ingress, ingressRule (.obj rule) = some rule)
    (hours : tunnelOf a = some T → Ours T key a)
    (hothers : Ours T key a → ∀ hostname, hostname ≠ a.hostname →
      rulesFor .caseless hostname ingress = rulesAt T s hostname) :
    Inv T t ∧ ∀ j, j ≠ .reconcile a.id n → Rely T key j s t := by
  by_cases htunnel : tunnelOf a = some T
  · have hafter := h.rulesAt_eq hvalid htunnel
    refine ⟨inv_evolves hi (evolves_same (by rw [h.db])) (by rw [h.db]; exact hi.routes)
      (fun id hnone => by rw [h.notes]; exact hi.fresh id hnone) ?_, fun j hj => ?_⟩
    · intro id b hb hb' status hended
      rw [h.notes] at hended
      have hne : id ≠ a.id := by
        rintro rfl
        rw [hp.silent] at hended
        cases hended
      have hhost : b.hostname ≠ a.hostname := by
        intro heq
        obtain ⟨c, hc, hac⟩ := hp.later
        refine hne (hi.hosts id b hb a.id c hc ?_)
        rw [hac.hostname_eq, heq]
      rw [hafter, hothers (hours htunnel) _ hhost]
      exact hi.told id b hb hb' status hended
    · cases j with
      | tick m => trivial
      | reconcile id m =>
        refine ⟨fun b hb => ⟨b, by rw [h.db]; exact hb, .refl b⟩,
          fun _ hnone => by rw [h.db]; exact hnone, fun k hk => by rw [h.holder]; exact hk,
          fun hk => ?_, fun _ => by rw [h.notes]⟩
        have hmine := hp.lock (hours htunnel)
        exact absurd (Option.some.inj (hk.symm.trans hmine)) hj
  · have hstill : Still T s t :=
      ⟨evolves_same (by rw [h.db]), by rw [h.db]; exact fun h => h, h.other htunnel,
        by rw [h.notes]⟩
    exact ⟨hstill.inv hi, fun j _ => hstill.rely fun k hk => by rw [h.holder]; exact hk⟩

/-- **Inversion.** What writing a list does. -/
lemma put_exec {i : Slot} {s t : State} {a : AccessRow} {tunnelId : String}
    {ingress : List Rule} {r : Except Failure Unit} (hmethod : a.accessMethod = .tunnel)
    (htunnel : a.deployedTunnelId = some tunnelId)
    (h : Exec i s (.putTunnelConfig a.deployedAccountIdentifier tunnelId ingress) r t) :
    Put T a ingress s t ∨ t = s ∧ ∃ e, r = .error e := by
  have hnotes : t.notes = s.notes := by
    rw [h.notes]
    cases i <;> rfl
  obtain ⟨ch, hcases⟩ := h.world
  have hput : t.world = ((Call.putTunnelConfig a.deployedAccountIdentifier tunnelId
      ingress).run ch i s.world).2 → Put T a ingress s t := by
    intro heq
    have hconfigs : t.world.cloud.configs = Function.update s.world.cloud.configs
        (tunnelAddress a.deployedAccountIdentifier tunnelId) (putTunnelConfig ingress) := by
      rw [heq]
      rfl
    refine ⟨by rw [heq]; rfl, by rw [heq]; rfl, hnotes, fun hT => ?_, fun hT => ?_⟩
    · rw [tunnelOf_some hmethod htunnel] at hT
      rw [hconfigs, Option.some.inj hT, Function.update_self]
    · rw [tunnelOf_some hmethod htunnel] at hT
      rw [hconfigs, Function.update_of_ne]
      exact fun heq => hT (congrArg some heq.symm)
  rcases hcases with ⟨-, heq⟩ | ⟨e, hr, -, heq | heq⟩
  · exact Or.inl (hput heq)
  · refine Or.inr ⟨?_, e, hr⟩
    obtain ⟨world, notes⟩ := s
    obtain ⟨world', notes'⟩ := t
    simp only at heq hnotes
    rw [heq, hnotes]
  · exact Or.inl (hput heq)

/-- The rule for writing a list. -/
lemma put_call {a : AccessRow} {tunnelId : String} {ingress : List Rule}
    {P K : State → Prop} (hmethod : a.accessMethod = .tunnel)
    (htunnel : a.deployedTunnelId = some tunnelId)
    (hvalid : ∀ rule ∈ ingress, ingressRule (.obj rule) = some rule)
    (hP : Stable (contract T key) (.reconcile a.id n) P)
    (hK : Stable (contract T key) (.reconcile a.id n) K)
    (hheld : ∀ s, P s → Held T key n a s)
    (hothers : ∀ s, Inv T s → P s → Ours T key a → ∀ hostname, hostname ≠ a.hostname →
      rulesFor .caseless hostname ingress = rulesAt T s hostname)
    (hput : ∀ s t, Inv T s → P s → Put T a ingress s t →
      (tunnelOf a = some T → Ours T key a) → P t ∧ K t) :
    Triple (contract T key) (.reconcile a.id n) P
      (call (.putTunnelConfig a.deployedAccountIdentifier tunnelId ingress)).run
      (Exits (fun _ => K) fun _ => P) := by
  refine triple_perform hP (fun r => ?_) (fun _ _ _ => trivial) ?_
  · cases r
    · exact hP
    · exact hK
  · rintro s r t hi hp ⟨hexec, hshared⟩
    have hours (h : tunnelOf a = some T) : Ours T key a := by
      refine ours_of_takes (hheld s hp) h (hshared ?_)
      rw [tunnelOf_some hmethod htunnel] at h
      exact Option.some.inj h
    rcases put_exec hmethod htunnel hexec with hwritten | ⟨rfl, e, rfl⟩
    · obtain ⟨hinv, hrely⟩ := hwritten.step hi (hheld s hp) hvalid hours (hothers s hi hp)
      obtain ⟨hpt, hkt⟩ := hput s t hi hp hwritten hours
      refine ⟨hinv, hrely, ?_⟩
      cases r
      · exact hpt
      · exact hkt
    · exact ⟨hi, fun j _ => (lawful T key).refl j t, hp⟩

lemma Put.before {a : AccessRow} {rules ingress : List Rule} {s t : State}
    (h : Put T a ingress s t) (hp : Before T key n a (some rules) s)
    (hvalid : ∀ rule ∈ ingress, ingressRule (.obj rule) = some rule)
    (hothers : ∀ hostname, hostname ≠ a.hostname →
      rulesFor .caseless hostname ingress = rulesFor .caseless hostname rules) :
    Before T key n a (some rules) t := by
  refine ⟨h.held hp.held, hp.valid, fun rules' hrules ho hostname hne => ?_⟩
  obtain rfl := Option.some.inj hrules
  rw [h.rulesAt_eq hvalid ho.1, hothers hostname hne]

/-- The rules that were read are written again. -/
lemma restoreIngress_triple (original : Option (List Rule)) :
    Triple (contract T key) (.reconcile d.access.id n) (Before T key n d.access original)
      (restoreIngress d original).run
      (Exits (fun _ => Before T key n d.access original)
        fun _ => Before T key n d.access original) := by
  have hP := stable_before T key n d.access original
  unfold restoreIngress
  split
  · rename_i rules tunnelId htunnel
    split
    · rename_i hmethod
      rintro s hi hp
      have hvalid := hp.valid rules rfl
      refine exits_catch (lawful T key) (fun _ => hP) (put_call hmethod.1 htunnel hvalid hP hP
        (fun s hs => hs.held) ?_ ?_) (fun e => exits_pure hP fun _ _ h => h) s hi hp
      · intro s _ hs ho hostname hne
        exact (hs.agrees rules rfl ho hostname hne).symm
      · intro s t _ hs hput _
        have hbefore := hput.before hs hvalid fun _ _ => rfl
        exact ⟨hbefore, hbefore⟩
    · exact exits_pure hP fun _ _ h => h
  · exact exits_pure hP fun _ _ h => h

lemma lower_hostname {a : AccessRow} {s : State} (hi : Inv T s) (hp : Held T key n a s) :
    toLowerCase .caseless a.hostname = a.hostname := by
  obtain ⟨h, hfound, hlater⟩ := hp.later
  have hplain := hi.plain a.id h hfound
  rw [hlater.hostname_eq] at hplain
  exact hplain

/-- What a rewritten list shows for the host of the access. -/
def aim (enabled : Bool) : AccessStatus := if enabled then .active else .disabled

lemma rewriteIngress_triple {tunnelId : String} {rules : List Rule}
    (hmethod : d.access.accessMethod = .tunnel)
    (htunnel : d.access.deployedTunnelId = some tunnelId) :
    Triple (contract T key) (.reconcile d.access.id n) (Before T key n d.access (some rules))
      (rewriteIngress d tunnelId rules).run
      (Exits (fun _ => After T key n d.access (some rules) (aim d.access.enabled))
        fun _ => Before T key n d.access (some rules)) := by
  have hP := stable_before T key n d.access (some rules)
  unfold rewriteIngress
  split
  · rename_i ingress hwritten
    intro s hi hp
    have hlower := lower_hostname hi hp.held
    have hvalid := rewritten_rules (hp.valid rules rfl) hwritten
    have hrules := rulesFor_rewritten hlower hwritten
    have hothers (hostname : String) (hne : hostname ≠ d.access.hostname) :
        rulesFor .caseless hostname ingress = rulesFor .caseless hostname rules := by
      rw [hrules, if_neg hne]
    refine put_call hmethod htunnel hvalid hP (stable_after T key n _ _ _) (fun s hs => hs.held) ?_ ?_
      s hi hp
    · intro s _ hs ho hostname hne
      rw [hothers hostname hne, hs.agrees rules rfl ho hostname hne]
    · intro s t _ hs hput hours
      have hbefore := hput.before hs hvalid hothers
      refine ⟨hbefore, hbefore, fun hT => ⟨hours hT, ?_⟩⟩
      rw [hput.rulesAt_eq hvalid hT, hrules, if_pos rfl]
      cases d.access.enabled
      · rfl
      · rfl
  · exact exits_throw hP fun _ _ h => h

/-! ### Reading the list -/

lemma tunnelConfig_exec {i : Slot} {s t : State} {accountIdentifier tunnelId : String}
    {rules : List Rule}
    (h : Exec i s (.tunnelConfig accountIdentifier tunnelId) (.ok rules) t) :
    getTunnelConfig (s.world.cloud.configs (tunnelAddress accountIdentifier tunnelId)) =
      some rules := by
  obtain ⟨ch, ⟨hr, -⟩ | ⟨e, hr, -⟩⟩ := h.world
  · change .ok rules = readTunnelConfig s.world.cloud accountIdentifier tunnelId at hr
    unfold readTunnelConfig at hr
    split at hr
    · rename_i rules' hrules
      rw [hrules, Except.ok.inj hr]
    · cases hr
  · cases hr

lemma tunnelConfig_triple {tunnelId : String} (hmethod : d.access.accessMethod = .tunnel)
    (htunnel : d.access.deployedTunnelId = some tunnelId) :
    Triple (contract T key) (.reconcile d.access.id n) (Held T key n d.access)
      (call (.tunnelConfig d.access.deployedAccountIdentifier tunnelId)).run
      (Exits (fun rules => Before T key n d.access (some rules))
        fun _ => Held T key n d.access) := by
  have hheld := stable_held T key n d.access
  refine triple_perform hheld (fun r => ?_) (fun _ _ _ => trivial) ?_
  · cases r
    · exact hheld
    · exact stable_before T key n _ _
  · rintro s r t hi hp ⟨hexec, -⟩
    obtain ⟨hstill, hholder⟩ := still_exec rfl hexec
    have hrely (j : Slot) : Rely T key j s t :=
      hstill.rely fun k hk => by rw [hholder]; exact hk
    have hafter : Held T key n d.access t := hheld s t hi (hstill.inv hi) (hrely (.reconcile d.access.id n)) hp
    refine ⟨hstill.inv hi, fun j _ => hrely j, ?_⟩
    cases r with
    | error e => exact hafter
    | ok rules =>
      have hread := tunnelConfig_exec hexec
      refine ⟨hafter, fun rules' h => ?_, fun rules' h ho hostname _ => ?_⟩
      · obtain rfl := Option.some.inj h
        exact getTunnelConfig_rules hread
      · obtain rfl := Option.some.inj h
        have hT := ho.1
        rw [tunnelOf_some hmethod htunnel] at hT
        rw [Option.some.inj hT] at hread
        rw [hstill.rulesAt_eq, rulesAt, hostRules_read hread]

/-! ### Recording an outcome -/

lemma outcome_frame {i : Slot} {s t : State} {id : String} {revision : Nat}
    {status : AccessStatus} {lastError : Option String}
    {r : Except Failure (Option AccessRow)}
    (h : Exec i s (.outcome id revision status lastError) r t) :
    Evolves s.world.db t.world.db ∧ (PlainHosts s.world.db.base → PlainHosts t.world.db.base) ∧
      t.world.cloud = s.world.cloud ∧ t.world.holder = s.world.holder := by
  obtain ⟨ch, hcases⟩ := h.world
  have hrun : t.world = ((Call.outcome id revision status lastError).run ch i s.world).2 →
      Evolves s.world.db t.world.db ∧
        (PlainHosts s.world.db.base → PlainHosts t.world.db.base) ∧
        t.world.cloud = s.world.cloud ∧ t.world.holder = s.world.holder := by
    intro heq
    obtain ⟨hquiet, hholder⟩ :=
      quiet_run (c := .outcome id revision status lastError) rfl ch i s.world
    rw [← heq] at hquiet hholder
    refine ⟨hquiet.accesses, hquiet.routes, ?_, hholder⟩
    rw [heq]
    change (s.world.store (markDomainAccessOutcome s.world.db id revision status
      lastError)).2.cloud = s.world.cloud
    cases markDomainAccessOutcome s.world.db id revision status lastError
    · rfl
    · rfl
  rcases hcases with ⟨-, heq⟩ | ⟨e, -, -, heq | heq⟩
  · exact hrun heq
  · rw [heq]
    exact ⟨evolves_same rfl, fun h => h, rfl, rfl⟩
  · exact hrun heq

/-- **Step lemma.** A run records how it ended. -/
lemma outcome_step {id : String} {s t : State} {revision : Nat} {status : AccessStatus}
    {lastError : Option String} {r : Except Failure (Option AccessRow)}
    (hi : Inv T s) (hholder : s.world.holder (.domainAccess id) = some (.reconcile id n))
    (hallowed : ∀ h, atRevision s.world.db id revision = some h → tunnelOf h = some T →
      Shows status h.hostname (rulesAt T s h.hostname))
    (h : Exec (.reconcile id n) s (.outcome id revision status lastError) r t) :
    Inv T t ∧ (∀ j, j ≠ .reconcile id n → Rely T key j s t) ∧
      ((∀ saved, r ≠ .ok (some saved)) → Rely T key (.reconcile id n) s t) := by
  obtain ⟨haccesses, hroutes, hcloud, hkeep⟩ := outcome_frame h
  have hmono (j : Slot) (k : LockKey) (hk : s.world.holder k = some j) :
      t.world.holder k = some j := by
    rw [hkeep]
    exact hk
  by_cases hsaved : ∃ saved, r = .ok (some saved)
  · obtain ⟨saved, rfl⟩ := hsaved
    obtain ⟨row, hrow, -⟩ := outcome_saved h
    have hfound := (atRevision_some.mp hrow).1
    have hended : t.notes.ended = Function.update s.notes.ended id (some status) := by
      rw [h.notes]
      rfl
    refine ⟨inv_evolves hi haccesses (hroutes hi.routes) (fun id' hnone => ?_) ?_,
      fun j hj => ?_, fun hno => absurd rfl (hno saved)⟩
    · have hne : id' ≠ id := by
        rintro rfl
        rw [hfound] at hnone
        cases hnone
      rw [hended, Function.update_of_ne hne]
      exact hi.fresh id' hnone
    · intro id' b hb hb' status' htold
      rw [rulesAt, hcloud]
      rw [hended] at htold
      by_cases hid : id' = id
      · subst hid
        rw [Function.update_self] at htold
        obtain rfl := Option.some.inj htold
        obtain rfl := Option.some.inj (hb.symm.trans hfound)
        exact hallowed b hrow hb'
      · rw [Function.update_of_ne hid] at htold
        exact hi.told id' b hb hb' status' htold
    · cases j with
      | tick m => trivial
      | reconcile id' m =>
        refine ⟨haccesses.forth id', fun _ => evolves_absent haccesses, hmono _,
          fun _ => by rw [hcloud], fun hk => ?_⟩
        have hne : id' ≠ id := by
          rintro rfl
          exact hj (Option.some.inj (hk.symm.trans hholder))
        rw [hended, Function.update_of_ne hne]
  · have hended : t.notes.ended = s.notes.ended := by
      rw [h.notes]
      cases r with
      | error e => rfl
      | ok saved =>
        cases saved with
        | none => rfl
        | some saved => exact absurd ⟨saved, rfl⟩ hsaved
    have hstill : Still T s t := ⟨haccesses, hroutes, by rw [hcloud], hended⟩
    exact ⟨hstill.inv hi, fun j _ => hstill.rely (hmono j), fun _ => hstill.rely (hmono _)⟩

lemma outcome_triple {P : State → Prop} {status : AccessStatus} {lastError : Option String}
    (hP : Stable (contract T key) (.reconcile d.access.id n) P)
    (hheld : ∀ s, P s → Held T key n d.access s)
    (hok : ∀ s, P s → tunnelOf d.access = some T →
      Shows status d.access.hostname (rulesAt T s d.access.hostname)) :
    Triple (contract T key) (.reconcile d.access.id n) P (outcome d status lastError).run
      (Exits (fun _ _ => True) fun _ => P) := by
  have hallowed (s : State) (hp : P s) (h : AccessRow)
      (hrow : atRevision s.world.db d.access.id d.access.revision = some h)
      (htunnel : tunnelOf h = some T) : Shows status h.hostname (rulesAt T s h.hostname) := by
    obtain ⟨h', hfound, hlater⟩ := (hheld s hp).later
    obtain rfl := Option.some.inj (hfound.symm.trans (atRevision_some.mp hrow).1)
    rw [Later.tunnelOf_eq hlater] at htunnel
    rw [hlater.hostname_eq]
    exact hok s hp htunnel
  refine exits_bind (lawful T key) (K := fun saved s => saved = none → P s) (fun _ => hP) ?_
    fun saved => ?_
  · refine triple_perform hP (fun r => ?_) (fun s _ hp => ⟨rfl, hallowed s hp⟩) ?_
    · cases r
      · exact hP
      · exact hP.imp
    · rintro s r t hi hp ⟨hexec, -⟩
      obtain ⟨hinv, hrely, hsame⟩ := outcome_step hi (hheld s hp).holder (hallowed s hp) hexec
      refine ⟨hinv, hrely, ?_⟩
      cases r with
      | error e => exact hP s t hi hinv (hsame fun _ h => by cases h) hp
      | ok saved =>
        rintro rfl
        exact hP s t hi hinv (hsame fun _ h => by cases h) hp
  · cases saved with
    | none => exact exits_throw hP.imp fun _ _ h => h rfl
    | some saved => exact exits_pure hP.imp fun _ _ _ => trivial

/-! ### The parts of a run -/

lemma compensate_triple {α : Type} {K : α → State → Prop} (progress : Progress) (e : Failure) :
    Triple (contract T key) (.reconcile d.access.id n)
      (Before T key n d.access progress.originalIngress)
      (compensate d progress e : Handler α).run (Exits K fun _ _ => True) := by
  have hP := stable_before T key n d.access progress.originalIngress
  refine exits_throws (K := fun _ _ => True) (compensate_throws d progress e) ?_
  refine exits_bind (lawful T key) (fun _ => stable_true)
    (exits_conseq (still_triple (still_of_records (removeCreated_records _)) hP) (fun _ _ h => h) (fun _ _ _ h => h)
      fun _ _ _ _ => trivial) fun _ => ?_
  refine exits_bind (lawful T key) (fun _ => stable_true)
    (exits_conseq (restoreIngress_triple _) (fun _ _ h => h) (fun _ _ _ h => h)
      fun _ _ _ _ => trivial) fun _ => ?_
  split
  · exact exits_throw hP fun _ _ _ => trivial
  · refine exits_bind (lawful T key) (fun _ => stable_true) (K := fun _ _ => True) ?_
      fun _ => exits_throw stable_true fun _ _ _ => trivial
    refine triple_perform hP (fun r => ?_) (fun s _ hp => ⟨rfl, fun _ _ _ => trivial⟩) ?_
    · cases r
      · exact stable_true
      · exact stable_true
    · rintro s r t hi hp ⟨hexec, -⟩
      obtain ⟨hinv, hrely, -⟩ :=
        outcome_step hi hp.held.holder (by exact fun _ _ _ => trivial) hexec
      refine ⟨hinv, hrely, ?_⟩
      cases r
      · trivial
      · trivial

lemma guarded_triple {α : Type} {p : Handler α} {P : State → Prop} {K : α → State → Prop}
    (progress : Progress) (hK : ∀ a, Stable (contract T key) (.reconcile d.access.id n) (K a))
    (hp : Triple (contract T key) (.reconcile d.access.id n) P p.run
      (Exits K fun _ => Before T key n d.access progress.originalIngress)) :
    Triple (contract T key) (.reconcile d.access.id n) P (guarded d progress p).run
      (Exits K fun _ _ => True) :=
  exits_catch (lawful T key) hK hp fun e => compensate_triple progress e

lemma not_tunnel (h : ∀ tunnelId, d.access.accessMethod = .tunnel →
    d.access.deployedTunnelId = some tunnelId → False) : tunnelOf d.access ≠ some T := by
  intro heq
  unfold tunnelOf at heq
  split at heq
  · rename_i tunnelId hmethod htunnel
    exact h tunnelId hmethod htunnel
  · cases heq

lemma withdraw_triple :
    Triple (contract T key) (.reconcile d.access.id n) (Held T key n d.access)
      (withdraw d).run
      (Exits (fun _ s => ∃ original, After T key n d.access original (aim d.access.enabled) s)
        fun _ => Held T key n d.access) := by
  have hheld := stable_held T key n d.access
  unfold withdraw
  split
  · rename_i tunnelId hmethod htunnel
    refine exits_bind (lawful T key) (fun _ => hheld) (tunnelConfig_triple hmethod htunnel)
      fun rules => ?_
    exact exits_conseq (rewriteIngress_triple hmethod htunnel) (fun _ _ h => h)
      (fun _ _ _ h => ⟨_, h⟩) fun _ _ _ h => h.held
  · rename_i hno
    refine exits_pure hheld fun s _ hs => ⟨none, hs.before, fun heq => ?_⟩
    exact absurd heq (not_tunnel hno)

lemma disable_triple (hoff : d.access.enabled = false) :
    Triple (contract T key) (.reconcile d.access.id n) (Held T key n d.access) (disable d).run
      (Exits (fun _ _ => True) fun _ _ => True) := by
  have hheld := stable_held T key n d.access
  have hstill {α : Type} {p : Handler α} (hp : p.run.Only (isStill ·)) := still_triple hp hheld
  refine guarded_triple {} (fun _ => stable_true) ?_
  refine exits_conseq (X := fun _ => Held T key n d.access) ?_ (fun _ _ h => h)
    (fun _ _ _ h => h) fun _ _ _ h => h.before
  refine exits_bind (lawful T key) (fun _ => hheld) (hstill (still_of_records (deleteOwned_records _))) fun _ => ?_
  refine exits_bind (lawful T key) (fun _ => hheld) (hstill (only_call rfl)) fun remote => ?_
  refine exits_bind (lawful T key) (fun _ => hheld) (hstill (still_of_records (deleteRecoverable_records _)))
    fun _ => ?_
  refine exits_bind (lawful T key) (fun _ => hheld) withdraw_triple fun _ => ?_
  refine triple_exists fun original => ?_
  refine exits_conseq (outcome_triple (stable_after T key n _ _ _) (fun s hs => hs.before.held)
    fun s hs htunnel => ?_) (fun _ _ h => h) (fun _ _ _ h => h) fun _ _ _ h => h.before.held
  have hshows := (hs.shows htunnel).2
  rw [aim, hoff] at hshows
  exact hshows

lemma publish_triple (hon : d.access.enabled = true) :
    Triple (contract T key) (.reconcile d.access.id n) (Held T key n d.access) (publish d).run
      (Exits (fun original => After T key n d.access original .active) fun _ _ => True) := by
  have hheld := stable_held T key n d.access
  unfold publish
  split
  · rename_i tunnelId hmethod htunnel
    refine exits_bind (lawful T key) (fun _ => stable_true)
      (guarded_triple {} (fun _ => stable_before T key n _ _) (exits_conseq
        (tunnelConfig_triple hmethod htunnel) (fun _ _ h => h) (fun _ _ _ h => h)
        fun _ _ _ h => h.before)) fun rules => ?_
    refine exits_bind (lawful T key) (fun _ => stable_true)
      (guarded_triple ⟨[], some rules⟩ (fun _ => stable_after T key n _ _ _)
        (rewriteIngress_triple hmethod htunnel)) fun _ => ?_
    refine exits_pure (stable_after T key n _ _ _) fun s _ hs => ?_
    rw [aim, if_pos hon] at hs
    exact hs
  · rename_i hno
    refine exits_pure hheld fun s _ hs => ⟨hs.before, fun heq => ?_⟩
    exact absurd heq (not_tunnel hno)

lemma createMissing_triple (original : Option (List Rule)) (owned : List DnsRow)
    (items : List Wanted) : ∀ remote created,
    Triple (contract T key) (.reconcile d.access.id n) (After T key n d.access original .active)
      (createMissing d original owned items remote created).run
      (Exits (fun _ => After T key n d.access original .active) fun _ _ => True) := by
  have hafter := stable_after T key n d.access original .active
  have hstill {α : Type} {p : Handler α} (created : List Nat) (hp : p.run.Only (isStill ·)) :
      Triple (contract T key) (.reconcile d.access.id n)
        (After T key n d.access original .active) (guarded d ⟨created, original⟩ p).run
        (Exits (fun _ => After T key n d.access original .active) fun _ _ => True) :=
    guarded_triple ⟨created, original⟩ (fun _ => hafter) (exits_conseq (still_triple hp hafter)
      (fun _ _ h => h) (fun _ _ _ h => h) fun _ _ _ h => h.before)
  induction items with
  | nil => exact fun _ _ => exits_pure hafter fun _ _ h => h
  | cons item items ih =>
    intro remote created
    unfold createMissing
    split
    · exact ih _ _
    · refine exits_bind (lawful T key) (fun _ => stable_true)
        (hstill created (still_of_records (create_records ..))) ?_
      rintro ⟨record, remote'⟩
      exact exits_bind (lawful T key) (fun _ => stable_true)
        (hstill (created ++ [record.id]) (still_of_records (confirm_records ..))) fun _ => ih _ _

lemma enable_triple (hon : d.access.enabled = true) (requireHttpsObservation : Bool) :
    Triple (contract T key) (.reconcile d.access.id n) (Held T key n d.access)
      (enable d requireHttpsObservation).run (Exits (fun _ _ => True) fun _ _ => True) := by
  have hheld := stable_held T key n d.access
  refine exits_bind (lawful T key) (fun _ => stable_true)
    (guarded_triple {} (fun _ => hheld) (exits_conseq (still_triple (still_of_records settleOwned_records) hheld)
      (fun _ _ h => h) (fun _ _ _ h => h) fun _ _ _ h => h.before)) ?_
  rintro ⟨remote, kept⟩
  refine exits_bind (lawful T key) (fun _ => stable_true) (publish_triple hon) fun original => ?_
  refine exits_bind (lawful T key) (fun _ => stable_true) (createMissing_triple original _ _ _ _)
    fun created => ?_
  refine guarded_triple ⟨created, original⟩ (fun _ => stable_true)
    (exits_conseq (outcome_triple (stable_after T key n _ _ _) (fun s hs => hs.before.held)
      fun s hs htunnel => ?_) (fun _ _ h => h) (fun _ _ _ h => h) fun _ _ _ h => h.before)
  have hshows := (hs.shows htunnel).2
  cases requireHttpsObservation
  · exact hshows
  · exact hshows

end GatewayControl.TunnelRuns
