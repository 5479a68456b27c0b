import GatewayControl.DeliverySteps

/-!
What the agent's programs promise of the route syncs: a command in hand is the latest sync that
arrived or none at all, and a poll follows only when every result has been reported.
-/

namespace GatewayControl.RouteDelivery

open Text AgentTypes AgentStore AgentLoop AgentRoutes Database Programs
open RouteSync RouteDirectory RouteQueue RouteHandouts

variable {x : Installation} {s t : Agent × Site}

/-! ### The contract -/

/-- The commands that the agent knows the ends of have ended in the control plane too. -/
def Reported (d : Data) (w : Site) : Prop :=
  ∀ id b, Says d id b → Listed w.db id ∧ Closed w.db id

/-- What the others may do. -/
structure Rely (x : Installation) (s t : Agent × Site) : Prop where
  agent : t.1 = s.1
  host : Elsewhere x.executor x.links s.2.route t.2.route
  received : t.2.received = s.2.received
  listed : ∀ id, Listed s.2.db id → Listed t.2.db id
  opened : ∀ id routeId, Listed s.2.db id → Open t.2.db id routeId → Open s.2.db id routeId
  level : Reported s.1.data s.2 → ∀ p, Level x s.2 p → Level x t.2 p

lemma Rely.reported (h : Rely x s t) (hs : Reported s.1.data s.2) :
    Reported t.1.data t.2 := by
  intro id b htells
  rw [h.agent] at htells
  obtain ⟨hlisted, hclosed⟩ := hs id b htells
  exact ⟨h.listed id hlisted, fun routeId ho => hclosed routeId (h.opened id routeId hlisted ho)⟩

lemma Rely.closed (h : Rely x s t) {id : String} (hlisted : Listed s.2.db id)
    (hclosed : Closed s.2.db id) : Closed t.2.db id :=
  fun routeId ho => hclosed routeId (h.opened id routeId hlisted ho)

lemma Rely.effective (h : Rely x s t) {routeId : String} {revision : Int}
    (hs : Effective s.2 routeId revision) : Effective t.2 routeId revision := by
  unfold Effective
  rw [h.host.history]
  exact hs

def contract (x : Installation) :
    Contract (Agent.interface Host.interface) (Agent × Site) Unit where
  exec := fun _ s o r t => ∃ w, effect (surroundings x) s.1 s.2 o r t.1 w ∧ t.2 = noted x w o
  inv := Inv x
  rely := fun _ => Rely x
  allowed := fun _ _ _ => True

lemma lawful : (contract x).Lawful where
  refl := fun _ _ => ⟨rfl, ⟨fun _ => rfl, rfl, rfl, rfl, rfl⟩, rfl, fun _ h => h,
    fun _ _ _ h => h, fun _ _ h => h⟩
  trans := fun _ _ _ _ h h' =>
    { agent := h'.agent.trans h.agent
      host := RouteDirectory.lawful.trans () _ _ _ h.host h'.host
      received := h'.received.trans h.received
      listed := fun id hid => h'.listed id (h.listed id hid)
      opened := fun id routeId hid ho =>
        h.opened id routeId hid (h'.opened id routeId (h.listed id hid) ho)
      level := fun hs p hp => h'.level (h.reported hs) p (h.level hs p hp) }

/-- What is said of the agent's records and of the rest alone. -/
abbrev On (P : Data → Site → Prop) (s : Agent × Site) : Prop := P s.1.data s.2

/-! ### Steps of the others -/

section Others

variable {a : Agent} {w : Site} {db' : Db} {fresh : List (String × RouteSyncPayload)}

lemma elsewhere_refl {route : RouteState} : Elsewhere x.executor x.links route route :=
  ⟨fun _ => rfl, rfl, rfl, rfl, rfl⟩

lemma rely_foreign (hs : Inv x (a, w)) (hf : Foreign x.agentId w.db db')
    (hfresh : ∀ h ∈ fresh, Fresh x db' h) :
    Rely x (a, w) (a, { w with db := db', handed := fresh ++ w.handed }) where
  agent := rfl
  host := elsewhere_refl
  received := rfl
  listed := fun _ => listed_foreign hf
  opened := fun _ _ => open_foreign hf
  level := by
    intro _ p hp r hr hhere
    have hid : r.id = p.routeId := Table.key_find? hr
    rw [← hid] at hr
    rcases hf.here r.id r hr hhere with hsame | hwait
    · rcases hp r (hid ▸ hsame) hhere with heq | hcovered
      · exact Or.inl heq
      · exact Or.inr (covered_foreign hf hfresh hr hhere hcovered)
    · exact Or.inr (covered_waiting hs hf hfresh hwait)

lemma rely_report {result : CommandResult}
    (htells : Says a.data result.commandId result.success) {now : Database.Time} {answer : Answer}
    (h : resultRoute w.db now x.agentId result = (db', answer)) :
    Rely x (a, w) (a, { w with db := db' }) := by
  rcases (resultRoute_spec h).1 with rfl | ⟨current, hc⟩
  · exact lawful.refl () _
  refine ⟨rfl, elsewhere_refl, rfl, fun _ => listed_completed hc,
    fun _ _ _ ho => (open_completed hc ho).1, fun hreported p hp r' hr' hhere => ?_⟩
  obtain ⟨r, hr, hcases⟩ := hc.route hr'
  have hsame : r'.id = r.id ∧ r'.revision = r.revision ∧ r'.gatewayAgentId = r.gatewayAgentId := by
    rcases hcases with rfl | ⟨rfl, -⟩ <;> exact ⟨rfl, rfl, rfl⟩
  obtain ⟨hid, hrevision, hagent⟩ := hsame
  rcases hp r hr (hagent.symm.trans hhere) with heq | hcovered
  · exact Or.inl (by rw [heq, hrevision])
  rcases covered_completed hc hid hrevision hcovered with hcovered | ⟨hwork, -⟩
  · exact Or.inr hcovered
  -- the agent knows the end of this command, which was reported before
  · exact absurd ⟨current, hc.found, hwork, Or.inr hc.claimed⟩ ((hreported _ _ htells).2 r.id)

lemma rely_elsewhere {route : RouteState} (h : Elsewhere x.executor x.links w.route route) :
    Rely x (a, w) (a, { w with route }) :=
  ⟨rfl, h, rfl, fun _ hid => hid, fun _ _ _ ho => ho, fun _ _ hp => hp⟩

/-- What a poll hands out, whether it arrives or not. -/
lemma answered_spec {w' : Site} {commands : Option (List Command)} (hs : Inv x (a, w))
    (h : Answered x w w' commands) : Inv x (a, w') ∧ Rely x (a, w) (a, w') ∧
      Foreign x.agentId w.db w'.db ∧ w'.received = w.received ∧ ∀ cs, commands = some cs →
        cs = [] ∨ ∃ c, cs = [c] ∧ Handed w'.db x.agentId c ∧ ∀ h, syncOf c = some h →
          h ∈ w'.handed ∧ Fresh x w'.db h := by
  obtain ⟨now, locked, db', hpoll, rfl⟩ := h
  obtain ⟨hf, hcommands⟩ := poll_spec hpoll
  have hfresh : ∀ h ∈ (commands.getD []).filterMap syncOf, Fresh x db' h := by
    cases commands with
    | none => exact fun h hh => absurd hh List.not_mem_nil
    | some cs =>
      intro h hh
      obtain ⟨c, hc, hsync⟩ := List.mem_filterMap.mp hh
      rcases hcommands cs rfl with rfl | ⟨command, rfl, hhanded⟩
      · cases hc
      · obtain rfl := List.mem_singleton.mp hc
        exact fresh_of_handed hhanded hsync
  refine ⟨inv_foreign hs hf hfresh, rely_foreign hs hf hfresh, hf, rfl, fun cs hcs => ?_⟩
  subst hcs
  rcases hcommands cs rfl with rfl | ⟨c, rfl, hhanded⟩
  · exact Or.inl rfl
  · refine Or.inr ⟨c, rfl, hhanded, fun h hsync => ⟨?_, fresh_of_handed hhanded hsync⟩⟩
    refine List.mem_append_left _ (List.mem_filterMap.mpr ⟨c, List.mem_singleton_self c, hsync⟩)

end Others

/-! ### Assertions -/

/-- The command is the latest sync that arrived, or no sync that has not ended. -/
structure InHand (x : Installation) (c : Command) (d : Data) (w : Site) : Prop where
  listed : Listed w.db c.id
  reported : Reported d w
  sync : ∀ h, syncOf c = some h → w.received.head? = some h ∧ Level x w h.2
  other : syncOf c = none → Closed w.db c.id

/-- The agent does not know yet how the command ended. -/
def Unsaid (x : Installation) (c : Command) (d : Data) (w : Site) : Prop :=
  InHand x c d w ∧ ∀ b, ¬Says d c.id b

/-- The results have still to be reported, and no others. -/
def Due (results : List CommandResult) (d : Data) (w : Site) : Prop :=
  (∀ r ∈ results, Says d r.commandId r.success) ∧
    ∀ id b, Says d id b → Listed w.db id ∧ (Closed w.db id ∨ ∃ r ∈ results, r.commandId = id)

lemma Due.reported {d : Data} {w : Site} (h : Due [] d w) : Reported d w := by
  intro id b htells
  obtain ⟨hlisted, hclosed | ⟨r, hr, -⟩⟩ := h.2 id b htells
  · exact ⟨hlisted, hclosed⟩
  · cases hr

section Stability

variable {c : Command} {results : List CommandResult}

lemma stable_data (P : Data → Prop) : Stable (contract x) () fun s => P s.1.data := by
  rintro s t - - hr hs
  exact hr.agent ▸ hs

lemma stable_inHand : Stable (contract x) () (On (InHand x c)) := by
  rintro s t - - hr h
  refine ⟨hr.listed c.id h.listed, hr.reported h.reported, fun p hp => ?_,
    fun hnone => hr.closed h.listed (h.other hnone)⟩
  obtain ⟨hhead, hlevel⟩ := h.sync p hp
  exact ⟨hr.received ▸ hhead, hr.level h.reported p.2 hlevel⟩

lemma stable_unsaid : Stable (contract x) () (On (Unsaid x c)) :=
  stable_inHand.and (stable_data fun d => ∀ b, ¬Says d c.id b)

lemma stable_due : Stable (contract x) () (On (Due results)) := by
  rintro s t - - hr ⟨hsaid, hclosed⟩
  have hagent : t.1 = s.1 := hr.agent
  refine ⟨fun r hr => hagent ▸ hsaid r hr, fun id b htells => ?_⟩
  rw [hagent] at htells
  obtain ⟨hlisted, hcases⟩ := hclosed id b htells
  exact ⟨hr.listed id hlisted, hcases.imp_left (hr.closed hlisted)⟩

end Stability

/-! ### Effects -/

section Effects

variable {α : Type} {P Q : Data → Site → Prop}

def isStill : AgentOp Host.interface → Bool
  | .assign _ _ | .assignCredentials _ | .poll | .submit _ | .enter _ | .host _ => false
  | _ => true

lemma inv_still {o : AgentOp Host.interface} (ho : isStill o) {r : o.Res} (hs : Inv x s)
    (h : (contract x).exec () s o r t) : Inv x t ∧ t.1.data = s.1.data ∧ t.2 = s.2 := by
  obtain ⟨a, w⟩ := s
  obtain ⟨a', w'⟩ := t
  obtain ⟨u, heffect, hnoted⟩ := h
  cases o with
  | assign _ _ | assignCredentials _ | poll | submit _ | enter _ | host _ => cases ho
  | writeTemporary =>
    obtain ⟨rfl, ⟨-, rfl⟩ | ⟨-, rfl⟩⟩ := heffect
    · obtain rfl : w' = _ := hnoted
      exact ⟨inv_written hs, rfl, rfl⟩
    · obtain rfl : w' = _ := hnoted
      exact ⟨inv_dropped hs, rfl, rfl⟩
  | rename =>
    obtain ⟨rfl, ⟨-, rfl⟩ | ⟨-, rfl⟩⟩ := heffect
    · obtain rfl : w' = _ := hnoted
      refine ⟨inv_renamed hs, ?_, rfl⟩
      change a.renamed.data = a.data
      unfold Agent.renamed
      split <;> rfl
    · obtain rfl : w' = _ := hnoted
      exact ⟨hs, rfl, rfl⟩
  | logFailure id =>
    obtain ⟨rfl, rfl⟩ := heffect
    obtain rfl : w' = _ := hnoted
    exact ⟨inv_same hs rfl rfl rfl, rfl, rfl⟩
  | leave =>
    obtain ⟨rfl, rfl⟩ := heffect
    obtain rfl : w' = _ := hnoted
    exact ⟨inv_same hs rfl rfl rfl, rfl, rfl⟩
  | enroll =>
    obtain ⟨rfl, rfl⟩ := heffect
    obtain rfl : w' = _ := hnoted
    exact ⟨hs, rfl, rfl⟩
  | command _ | pendingResults | credentials =>
    obtain ⟨-, rfl, rfl⟩ := heffect
    obtain rfl : w' = _ := hnoted
    exact ⟨hs, rfl, rfl⟩
  | chmod | syncDirectory | now | cancelled =>
    obtain ⟨rfl, rfl⟩ := heffect
    obtain rfl : w' = _ := hnoted
    exact ⟨hs, rfl, rfl⟩

/-- The rule for a program that changes no record and tells nobody anything. -/
lemma triple_still {p : AgentProg Host.interface α} (hp : p.Only (isStill ·))
    (hP : Stable (contract x) () (On P)) :
    Triple (contract x) () (On P) p fun _ => On P := by
  refine triple_only hp hP (fun _ _ _ _ _ => trivial) fun s o r t ho hi hs hexec => ?_
  obtain ⟨hinv, hdata, hsite⟩ := inv_still ho hi hexec
  refine ⟨hinv, fun j hj => absurd rfl hj, ?_⟩
  change P t.1.data t.2
  rw [hdata, hsite]
  exact hs

lemma tri_still {p : AgentFallible Host.interface α} (hp : p.run.Only (isStill ·))
    (hP : Stable (contract x) () (On P)) : Tri (contract x) () (On P) p fun _ => On P := by
  refine triple_conseq (triple_still hp hP) (fun _ _ h => h) fun r s _ h => ?_
  cases r with
  | ok a => exact h
  | error e => trivial

lemma only_still {o : AgentOp Host.interface} (ho : isStill o) :
    (eff o).Only (isStill ·) := ⟨ho, fun _ => trivial⟩

lemma persistLocked_still : (persistLocked (H := Host.interface)).run.Only (isStill ·) := by
  refine only_bind (only_still rfl) fun _ => ?_
  refine only_bind (only_still rfl) fun _ => ?_
  refine only_bind (only_still rfl) fun _ => ?_
  exact only_still rfl

lemma command_triple (id : String) (hP : Stable (contract x) () (On P)) :
    Triple (contract x) () (On P) (eff (.command id))
      fun r => On fun d w => r = d.command id ∧ P d w := by
  refine triple_perform hP (fun r => (stable_data fun d => r = d.command id).and hP)
    (fun _ _ _ => trivial) fun s r t hi hs hexec => ?_
  obtain ⟨hinv, hdata, hsite⟩ := inv_still (o := .command id) rfl hi hexec
  refine ⟨hinv, fun j hj => absurd rfl hj, ?_⟩
  obtain ⟨w, ⟨hr, -, -⟩, -⟩ := hexec
  change r = t.1.data.command id ∧ P t.1.data t.2
  rw [hdata, hsite]
  exact ⟨hr, hs⟩

/-- A record is made, and the file written. -/
lemma record_triple {id : String} {f : AgentTypes.Time → CommandRecord}
    (hP : Stable (contract x) () (On P)) (hQ : Stable (contract x) () (On Q))
    (hok : ∀ now s, Inv x s → On P s → Assignable x s id (f now))
    (hstep : ∀ now s, Inv x s → On P s → Q (s.1.data.assign id (f now)) s.2) :
    Tri (contract x) () (On P)
      (do lift (eff (.assign id (f (← lift (eff .now))))); persistLocked) fun _ => On Q := by
  refine tri_bind lawful (K := fun _ => On P)
    (tri_lift lawful (fun _ => hP) (triple_still (only_still rfl) hP)) fun now => ?_
  refine tri_bind lawful (K := fun _ => On Q) (tri_lift lawful (fun _ => hQ) ?_)
    fun _ => tri_still persistLocked_still hQ
  refine triple_perform hP (fun _ => hQ) (fun _ _ _ => trivial) fun s r t hi hs hexec => ?_
  obtain ⟨a, w⟩ := s
  obtain ⟨a', w'⟩ := t
  obtain ⟨u, ⟨rfl, rfl⟩, hnoted⟩ := hexec
  obtain rfl : w' = _ := hnoted
  exact ⟨inv_assign hi (hok now _ hi hs), fun j hj => absurd rfl hj, hstep now _ hi hs⟩

end Effects

/-! ### Reporting -/

section Reporting

variable {result : CommandResult} {results : List CommandResult} {id : String}

/-- A report has been taken, and others have still to be made. -/
def Taken (id : String) (results : List CommandResult) (d : Data) (w : Site) : Prop :=
  Due results d w ∧ Listed w.db id ∧ Closed w.db id

lemma stable_taken : Stable (contract x) () (On (Taken id results)) := by
  refine stable_due.and ?_
  rintro s t - - hr ⟨hlisted, hclosed⟩
  exact ⟨hr.listed id hlisted, hr.closed hlisted hclosed⟩

lemma submit_triple : Triple (contract x) () (On (Due (result :: results)))
    (eff (.submit result))
    (Outcome (fun _ => On (Taken result.commandId results)) fun _ _ => True) := by
  refine triple_perform stable_due ?_ (fun _ _ _ => trivial) fun s r t hi hs hexec => ?_
  · rintro (_ | _)
    · exact stable_true
    · exact stable_taken
  obtain ⟨a, w⟩ := s
  obtain ⟨a', w'⟩ := t
  obtain ⟨u, ⟨rfl, hsubmit⟩, hnoted⟩ := hexec
  obtain rfl : w' = u := hnoted
  have htells : Says a.data result.commandId result.success := hs.1 result List.mem_cons_self
  have hrely : ∀ j : Unit, j ≠ () → (contract x).rely j (a, w) (a.submitted result r, w') :=
    fun j hj => absurd rfl hj
  have hsame (b : Agent) (hb : b = a.submitted result r) : b.data = a.data ∧
      b.temporary = a.temporary ∧ b.file = a.file := by
    subst hb
    cases r <;> exact ⟨rfl, rfl, rfl⟩
  obtain ⟨hdata, htemporary, hfile⟩ := hsame _ rfl
  have hinv (hi : Inv x (a, w')) : Inv x (a.submitted result r, w') :=
    inv_same hi (by rw [hdata]) htemporary hfile
  rcases hsubmit with ⟨⟨err, rfl⟩, rfl⟩ | ⟨now, db', answer, hroute, rfl, hok⟩
  · exact ⟨hinv hi, hrely, trivial⟩
  refine ⟨hinv (inv_report hi htells hroute), hrely, ?_⟩
  cases r with
  | error err => trivial
  | ok _ =>
    obtain ⟨idempotent, rfl⟩ := hok rfl
    have hreported := rely_report htells hroute
    have hclosed := (resultRoute_spec hroute).2 idempotent rfl
    have hlisted := (hi.truthful _ (Or.inl rfl)).says_listed htells
    refine ⟨⟨fun r hr => hs.1 r (List.mem_cons_of_mem _ hr), fun id b hb => ?_⟩,
      hreported.listed _ hlisted, hclosed⟩
    obtain ⟨hid, hcases⟩ := hs.2 id b hb
    refine ⟨hreported.listed id hid, ?_⟩
    rcases hcases with hbefore | ⟨r, hr, rfl⟩
    · exact Or.inl (hreported.closed hid hbefore)
    · rcases List.mem_cons.mp hr with rfl | hr
      · exact Or.inl hclosed
      · exact Or.inr ⟨r, hr, rfl⟩

lemma says_delivered {d : Data} {record : CommandRecord} {now : AgentTypes.Time} {k : String}
    {b : Bool} (hrecord : d.command id = some record) :
    Says (d.assign id (deliveredRecord record now)) k b ↔ Says d k b := by
  by_cases hk : k = id
  · subst hk
    rw [says_assign]
    constructor
    · rintro ⟨_, hresult, hsuccess⟩
      obtain ⟨result, hold, rfl⟩ := Option.map_eq_some_iff.mp hresult
      exact ⟨record, result, hrecord, hold, hsuccess⟩
    · rintro ⟨_, result, hfound, hold, hsuccess⟩
      obtain rfl := Option.some.inj (hrecord.symm.trans hfound)
      exact ⟨stripOutputs result, by rw [deliveredRecord, hold]; rfl, hsuccess⟩
  · exact says_assign_ne hk

lemma markDelivered_triple : Tri (contract x) () (On (Taken id results)) (markDelivered id)
    fun _ => On (Due results) := by
  unfold markDelivered
  have hread (r : Option CommandRecord) :
      Stable (contract x) () (On fun d w => r = d.command id ∧ Taken id results d w) :=
    (stable_data fun d => r = d.command id).and stable_taken
  refine tri_bind lawful (tri_lift lawful hread (command_triple id stable_taken)) fun r => ?_
  cases r with
  | none => exact tri_throw (hread none)
  | some record =>
    dsimp only
    split
    · exact tri_throw (hread (some record))
    refine record_triple (hread (some record)) stable_due ?_ ?_
    · rintro now s hi ⟨hrecord, -, hlisted, hclosed⟩
      have htruthful := hi.truthful _ (Or.inl rfl)
      refine ⟨hlisted, fun result hresult => ?_, fun routeId ho => absurd ho (hclosed routeId),
        fun _ => hclosed, fun htells => ?_, fun result hresult hsuccess => Or.inl ?_⟩
      · obtain ⟨kept, hkept, rfl⟩ := Option.map_eq_some_iff.mp hresult
        exact htruthful.keyed id record kept hrecord.symm hkept
      · exact says_assign.mp ((says_delivered hrecord.symm).mpr htells)
      · exact (says_delivered hrecord.symm).mp (says_assign.mpr ⟨result, hresult, hsuccess⟩)
    · rintro now s hi ⟨hrecord, hdue, -⟩
      exact ⟨fun r hr => (says_delivered hrecord.symm).mpr (hdue.1 r hr),
        fun k b htells => hdue.2 k b ((says_delivered hrecord.symm).mp htells)⟩

lemma deliverResult_triple : Tri (contract x) () (On (Due (result :: results)))
    (deliverResult result) fun _ => On (Due results) :=
  tri_bind lawful (K := fun _ => On (Taken result.commandId results)) submit_triple
    fun _ => markDelivered_triple

lemma deliverAll_triple : Tri (contract x) () (On (Due results)) (deliverAll results)
    fun _ => On (Due []) := by
  induction results with
  | nil => exact tri_pure stable_due fun _ _ h => h
  | cons result results ih => exact tri_bind lawful deliverResult_triple fun _ => ih

lemma due_pending {results : List CommandResult} (hs : Inv x s)
    (hresults : results.Perm s.1.data.pendingResults) : On (Due results) s := by
  have htruthful := hs.truthful _ (Or.inl rfl)
  refine ⟨fun r hr => ?_, fun id b htells => ⟨htruthful.says_listed htells, ?_⟩⟩
  · obtain ⟨id, record, hrecord, hpending⟩ :=
      Data.mem_pendingResults.mp (hresults.mem_iff.mp hr)
    unfold CommandRecord.pending at hpending
    split_ifs at hpending
    rw [htruthful.keyed id record r hrecord hpending]
    exact ⟨record, r, hrecord, hpending, rfl⟩
  · obtain ⟨record, result, hrecord, hresult, -⟩ := htells
    by_cases hdelivered : record.delivered
    · exact Or.inl (htruthful.delivered id record hrecord hdelivered)
    · refine Or.inr ⟨result, hresults.mem_iff.mpr (Data.mem_pendingResults.mpr ⟨id, record, hrecord,
        ?_⟩), htruthful.keyed id record result hrecord hresult⟩
      rw [CommandRecord.pending, if_neg hdelivered, hresult]

/-- Where nothing fails, everything the agent knows has been reported. -/
lemma deliverPending_triple : Tri (contract x) () (fun _ => True) deliverPending
    fun _ => On Reported := by
  have hread : Triple (contract x) () (fun _ => True) (eff .pendingResults)
      fun results => On (Due results) := by
    refine triple_perform stable_true (fun _ => stable_due) (fun _ _ _ => trivial)
      fun s r t hi _ hexec => ?_
    obtain ⟨hinv, hdata, hsite⟩ := inv_still (o := .pendingResults) rfl hi hexec
    refine ⟨hinv, fun j hj => absurd rfl hj, due_pending hinv ?_⟩
    obtain ⟨w, ⟨hperm, -⟩, -⟩ := hexec
    rw [hdata]
    exact hperm
  refine tri_bind lawful (tri_lift lawful (fun _ => stable_due) hread) fun results => ?_
  exact tri_conseq deliverAll_triple (fun _ _ h => h) fun _ _ _ h => h.reported

end Reporting

/-! ### Polling -/

/-- What a poll brings. -/
def Polled (x : Installation) (commands : List Command) (d : Data) (w : Site) : Prop :=
  commands = [] ∨ ∃ c, commands = [c] ∧ InHand x c d w

lemma stable_polled {commands : List Command} : Stable (contract x) () (On (Polled x commands)) :=
  (stable_const _).or (stable_exists fun _ => (stable_const _).and stable_inHand)

/-- **Step lemma.** The command that arrives is in hand, when every result has been reported. -/
lemma polled_answer {a : Agent} {w u : Site} {cs : List Command} (hs : Inv x (a, w))
    (hreported : Reported a.data w) (h : Answered x w u (some cs)) :
    Inv x (a, { u with received := cs.filterMap syncOf ++ u.received }) ∧
      Polled x cs a.data { u with received := cs.filterMap syncOf ++ u.received } := by
  obtain ⟨hi, hrely, hf, -, hcommands⟩ := answered_spec hs h
  have hreported : Reported a.data u := hrely.reported hreported
  rcases hcommands cs rfl with rfl | ⟨c, rfl, hhanded, hsync⟩
  · exact ⟨hi, Or.inl rfl⟩
  have hlisted : Listed u.db c.id := by
    cases hhanded with
    | route row r found => exact Option.isSome_iff_exists.mpr ⟨row, found⟩
    | other row found => exact Option.isSome_iff_exists.mpr ⟨row, found⟩
  cases hpayload : syncOf c with
  | none =>
    have hnone : [c].filterMap syncOf = [] := by
      rw [List.filterMap_cons_none hpayload, List.filterMap_nil]
    rw [hnone]
    refine ⟨hi, Or.inr ⟨c, rfl, hlisted, hreported, fun h hh => ?_, fun _ => ?_⟩⟩
    · rw [hpayload] at hh
      cases hh
    · cases hhanded with
      | route row r found agent claimed work hr here payload =>
        unfold syncOf at hpayload
        rw [payload] at hpayload
        cases hpayload
      | other row found work payload =>
        rintro routeId ⟨row', hfound, hwork, -⟩
        obtain rfl := Option.some.inj (found.symm.trans hfound)
        exact work routeId hwork
  | some h =>
    obtain ⟨hmem, hfresh⟩ := hsync h hpayload
    have hone : [c].filterMap syncOf = [h] := by
      rw [List.filterMap_cons_some hpayload, List.filterMap_nil]
    rw [hone]
    refine ⟨inv_received hi hmem hfresh fun id htells => (hreported id true htells).2,
      Or.inr ⟨c, rfl, hlisted, hreported, fun h' hh => ?_, fun hnone => ?_⟩⟩
    · obtain rfl := Option.some.inj (hpayload.symm.trans hh)
      refine ⟨rfl, fun r hr _ => Or.inl ?_⟩
      obtain ⟨-, r', -, -, -, -, hr', -, hpayload⟩ := hfresh
      rw [hpayload] at hr ⊢
      obtain rfl := Option.some.inj (hr'.symm.trans hr)
      exact (known_payloadOf hr).2
    · rw [hpayload] at hnone
      cases hnone

lemma poll_triple : Triple (contract x) () (On Reported) (eff .poll)
    (Outcome (fun commands => On (Polled x commands)) fun _ _ => True) := by
  have hstable : Stable (contract x) () (On Reported) := fun _ _ _ _ hr h => hr.reported h
  refine triple_perform hstable ?_ (fun _ _ _ => trivial) fun s r t hi hs hexec => ?_
  · rintro (_ | _)
    · exact stable_true
    · exact stable_polled
  obtain ⟨a, w⟩ := s
  obtain ⟨a', w'⟩ := t
  obtain ⟨v, ⟨rfl, u, commands, hanswered, hpoll⟩, hnoted⟩ := hexec
  obtain rfl : w' = v := hnoted
  have hinv (hi : Inv x (a, w')) : Inv x (a.polled r, w') := by
    cases r with
    | error _ => exact hi
    | ok _ => exact inv_same hi rfl rfl rfl
  have hrely : ∀ j : Unit, j ≠ () → (contract x).rely j (a, w) (a.polled r, w') :=
    fun j hj => absurd rfl hj
  rcases hpoll with ⟨⟨err, rfl⟩, rfl⟩ | ⟨cs, rfl, rfl, rfl⟩
  · refine ⟨hinv ?_, hrely, trivial⟩
    rcases hanswered with ⟨rfl, -⟩ | hanswered
    · exact hi
    · exact (answered_spec hi hanswered).1
  · rcases hanswered with ⟨-, hnone⟩ | hanswered
    · cases hnone
    obtain ⟨hi', hpolled⟩ := polled_answer hi hs hanswered
    exact ⟨hinv hi', hrely, hpolled⟩

end GatewayControl.RouteDelivery
