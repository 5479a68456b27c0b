import GatewayControl.RecoverySpool

/-!
Whether a restore can always be requested. As long as the supervisor finishes with no request
that is active, and no call is cut short between its insertion and its publication, a request
is refused only while another is on its way.
-/

namespace GatewayControl.RecoveryProgress

open Programs Staging RecoveryRequests RecoverySpool SpoolState

variable {S : Service} {s t : SpoolState} {i j : ℕ} {c d : Call}

/-! ### The invariant -/

structure Inv (s : SpoolState) : Prop where
  alone : ∀ i j c d, s.task i = some c → s.task j = some d → c.token = d.token → i = j
  known : ∀ i c, s.task i = some c → c.token ∈ s.tokens
  drawn : ∀ r ∈ s.requests.rows, r.ownershipToken ∈ s.tokens
  temporary : ∀ token, s.temporary token ≠ none → token ∈ s.tokens
  owned : ∀ r ∈ s.requests.rows, r.active →
    (∃ i c, s.task i = some c ∧ c.token = r.ownershipToken) ∨ InSpool r.ownershipToken s

/-- What a call relies on: its own rows, and its file as long as its request is active. -/
def relies (i : ℕ) (s t : SpoolState) : Prop :=
  t.task i = s.task i ∧ ∀ c, s.task i = some c →
    (∀ r, r.ownershipToken = c.token → (r ∈ t.requests.rows ↔ r ∈ s.requests.rows)) ∧
    ((∃ r ∈ s.requests.rows, r.ownershipToken = c.token ∧ r.active) →
      InSpool c.token s → InSpool c.token t)

def contract : Contract spool SpoolState ℕ where
  exec := fun _ => spoolEffect True
  inv := Inv
  rely := relies
  allowed := fun _ _ _ => True

lemma contract_lawful : contract.Lawful where
  refl := fun _ _ => ⟨rfl, fun _ _ => ⟨fun _ _ => Iff.rfl, fun _ h => h⟩⟩
  trans := by
    rintro i s t u ⟨htask, h⟩ ⟨htask', h'⟩
    refine ⟨htask'.trans htask, fun c hc => ?_⟩
    obtain ⟨hrows, hspool⟩ := h c hc
    obtain ⟨hrows', hspool'⟩ := h' c (htask.trans hc)
    refine ⟨fun r hr => (hrows' r hr).trans (hrows r hr), fun hactive hin => ?_⟩
    obtain ⟨r, hr, htoken, ha⟩ := hactive
    exact hspool' ⟨r, (hrows r htoken).2 hr, htoken, ha⟩ (hspool ⟨r, hr, htoken, ha⟩ hin)

/-- The rows of a call are as `φ` says. -/
def Rows (i : ℕ) (c : Call) (φ : RecoveryRequest → Prop) (s : SpoolState) : Prop :=
  s.task i = some c ∧ ∀ r ∈ s.requests.rows, r.ownershipToken = c.token → φ r

/-- The call's request, if it is active, has its file in the spool. -/
def Left (i : ℕ) (c : Call) (s : SpoolState) : Prop :=
  s.task i = some c ∧ Settled c.token s

lemma stable_rows {φ : RecoveryRequest → Prop} : Stable contract i (Rows i c φ) := by
  rintro s t - - ⟨htask, h⟩ ⟨hc, hφ⟩
  exact ⟨htask.trans hc, fun r hr htoken => hφ r (((h c hc).1 r htoken).1 hr) htoken⟩

lemma stable_left : Stable contract i (Left i c) := by
  rintro s t - - ⟨htask, h⟩ ⟨hc, hleft⟩
  obtain ⟨hrows, hspool⟩ := h c hc
  refine ⟨htask.trans hc, fun r hr htoken hactive => ?_⟩
  have hold : r ∈ s.requests.rows := (hrows r htoken).1 hr
  exact hspool ⟨r, hold, htoken, hactive⟩ (hleft r hold htoken hactive)

/-! ### What one call changes -/

/-- A step of a call: its own rows and temporary file, and files it adds to the spool. -/
structure Local (c : Call) (s t : SpoolState) : Prop where
  task : t.task = s.task
  tokens : t.tokens = s.tokens
  rows : ∀ r, r.ownershipToken ≠ c.token → (r ∈ t.requests.rows ↔ r ∈ s.requests.rows)
  temporary : ∀ token, token ≠ c.token → t.temporary token = s.temporary token
  spool : ∀ token, InSpool token s → InSpool token t

lemma Local.inv (h : Local c s t) (hi : Inv s) (hc : s.task i = some c) : Inv t where
  alone := by
    rw [h.task]
    exact hi.alone
  known := by
    rw [h.task, h.tokens]
    exact hi.known
  drawn := by
    intro r hr
    rw [h.tokens]
    by_cases htoken : r.ownershipToken = c.token
    · rw [htoken]
      exact hi.known i c hc
    · exact hi.drawn r ((h.rows r htoken).1 hr)
  temporary := by
    intro token hne
    rw [h.tokens]
    by_cases htoken : token = c.token
    · rw [htoken]
      exact hi.known i c hc
    · rw [h.temporary token htoken] at hne
      exact hi.temporary token hne
  owned := by
    intro r hr hactive
    rw [h.task]
    by_cases htoken : r.ownershipToken = c.token
    · exact .inl ⟨i, c, hc, htoken.symm⟩
    · exact (hi.owned r ((h.rows r htoken).1 hr) hactive).imp_right (h.spool _)

lemma Local.relies (h : Local c s t) (hi : Inv s) (hc : s.task i = some c) :
    ∀ j, j ≠ i → relies j s t := by
  intro j hj
  refine ⟨by rw [h.task], fun d hd => ⟨fun r hr => h.rows r ?_, fun _ => h.spool _⟩⟩
  rw [hr]
  intro htoken
  exact hj (hi.alone j i d c hd hc htoken)

lemma local_refl : Local c s s :=
  ⟨rfl, rfl, fun _ _ => Iff.rfl, fun _ _ => rfl, fun _ h => h⟩

lemma local_temporary (x : Option (Option Request)) :
    Local c s (s.putTemporary c.token x) where
  task := rfl
  tokens := rfl
  rows := fun _ _ => Iff.rfl
  temporary := fun _ h => by simp [putTemporary, h]
  spool := fun _ h => h

lemma local_link {q : Request} (hfree : s.pending = none) :
    Local c s { s with pending := some ⟨q, c.token⟩ } where
  task := rfl
  tokens := rfl
  rows := fun _ _ => Iff.rfl
  temporary := fun _ _ => rfl
  spool := by
    rintro token ⟨f, hf | hf, htoken⟩
    · rw [hfree] at hf
      cases hf
    · exact ⟨f, .inr hf, htoken⟩

lemma local_requests {requests : Requests}
    (h : ∀ r, r.ownershipToken ≠ c.token → (r ∈ requests.rows ↔ r ∈ s.requests.rows)) :
    Local c s { s with requests := requests } :=
  ⟨rfl, rfl, h, fun _ _ => rfl, fun _ h => h⟩

/-- An insertion adds one row, of the token it is given. -/
lemma created_rows {requests requests' : Requests} {id restoreId userId token : String}
    (h : createSystemRecoveryRequest requests id restoreId userId token = some requests') :
    requests'.rows = requests.rows ++ [⟨id, restoreId, userId, token, .publishing, none⟩] := by
  unfold createSystemRecoveryRequest Table.insert? at h
  split_ifs at h
  rw [← Option.some.inj h]

lemma created_mem {requests requests' : Requests} {id restoreId userId token : String}
    (h : createSystemRecoveryRequest requests id restoreId userId token = some requests')
    (r : RecoveryRequest) : r ∈ requests'.rows ↔
      r ∈ requests.rows ∨ r = ⟨id, restoreId, userId, token, .publishing, none⟩ := by
  rw [created_rows h]
  simp

/-- The rows after a request has been finished. -/
lemma finished_mem {requests : Requests} {id token : String} {status : RequestStatus}
    {error : Option SystemRecoveryCode} {r : RecoveryRequest} :
    r ∈ (finishSystemRecoveryRequest requests id token status error).1.rows ↔
      ∃ r₀ ∈ requests.rows,
        (if unfinished id token r₀ then r₀.finish status error else r₀) = r := by
  simp [finishSystemRecoveryRequest, Table.update, List.mem_map]

lemma finished_token {id token : String} {status : RequestStatus}
    {error : Option SystemRecoveryCode} (r : RecoveryRequest) :
    (if unfinished id token r then r.finish status error else r).ownershipToken =
      r.ownershipToken := by
  split_ifs <;> rfl

lemma finished_other {requests : Requests} {id token : String} {status : RequestStatus}
    {error : Option SystemRecoveryCode} {r : RecoveryRequest} (hr : r.ownershipToken ≠ token) :
    r ∈ (finishSystemRecoveryRequest requests id token status error).1.rows ↔
      r ∈ requests.rows := by
  rw [finished_mem]
  constructor
  · rintro ⟨r₀, hr₀, rfl⟩
    rw [finished_token] at hr
    rw [if_neg (by simp [unfinished, hr])]
    exact hr₀
  · intro h
    exact ⟨r, h, if_neg (by simp [unfinished, hr])⟩

/-! ### Effects -/

lemma act_triple {P : SpoolState → Prop} {o : SpoolOp} {K : o.Res → SpoolState → Prop}
    (hP : Stable contract i P) (hK : ∀ r, Stable contract i (K r))
    (hc : ∀ s, P s → s.task i = some c)
    (h : ∀ s r t, Inv s → P s → spoolEffect True s o r t → Local c s t ∧ K r t) :
    Triple contract i P (act o) K := by
  refine triple_perform hP hK (fun _ _ _ => trivial) fun s r t hi hs hexec => ?_
  obtain ⟨hlocal, hr⟩ := h s r t hi hs hexec
  exact ⟨hlocal.inv hi (hc s hs), hlocal.relies hi (hc s hs), hr⟩

/-- An effect that leaves the table and the spool alone. -/
def Quiet (token : String) : SpoolOp → Prop
  | .createSystemRecoveryRequest _ _ _ | .link _ | .finishSystemRecoveryRequest _ _ _ _ => False
  | .writeTemporary x _ | .removeTemporary x => x = token
  | _ => True

lemma quiet_effect {o : SpoolOp} {r : o.Res} (ho : Quiet c.token o)
    (h : spoolEffect True s o r t) : t = s ∨ ∃ x, t = s.putTemporary c.token x := by
  cases o with
  | createSystemRecoveryRequest _ _ _ | link _ | finishSystemRecoveryRequest _ _ _ _ =>
      exact absurd ho id
  | writeTemporary token q =>
      obtain rfl : token = c.token := ho
      rcases h with ⟨-, -, rfl⟩ | ⟨-, ⟨-, rfl⟩ | ⟨-, rfl | rfl⟩⟩
      · exact .inl rfl
      · exact .inr ⟨_, rfl⟩
      · exact .inl rfl
      · exact .inr ⟨_, rfl⟩
  | removeTemporary token =>
      obtain rfl : token = c.token := ho
      rcases h with ⟨-, rfl⟩ | ⟨-, rfl⟩
      · exact .inr ⟨_, rfl⟩
      · exact .inl rfl
  | _ => exact .inl h

lemma quiet_local {o : SpoolOp} {r : o.Res} (ho : Quiet c.token o)
    (h : spoolEffect True s o r t) :
    Local c s t ∧ t.requests = s.requests ∧ t.pending = s.pending ∧ t.claimed = s.claimed := by
  rcases quiet_effect ho h with rfl | ⟨x, rfl⟩
  · exact ⟨local_refl, rfl, rfl, rfl⟩
  · exact ⟨local_temporary x, rfl, rfl, rfl⟩

lemma quiet_rows {φ : RecoveryRequest → Prop} {o : SpoolOp} (ho : Quiet c.token o) :
    Triple contract i (Rows i c φ) (act o) fun _ => Rows i c φ := by
  refine act_triple stable_rows (fun _ => stable_rows) (fun _ h => h.1)
    fun s r t _ hs hexec => ?_
  obtain ⟨hlocal, hrows, -, -⟩ := quiet_local ho hexec
  refine ⟨hlocal, ?_, ?_⟩
  · rw [hlocal.task]
    exact hs.1
  · rw [hrows]
    exact hs.2

lemma quiet_left {o : SpoolOp} (ho : Quiet c.token o) :
    Triple contract i (Left i c) (act o) fun _ => Left i c := by
  refine act_triple stable_left (fun _ => stable_left) (fun _ h => h.1)
    fun s r t _ hs hexec => ?_
  obtain ⟨hlocal, hrows, -, -⟩ := quiet_local ho hexec
  refine ⟨hlocal, hlocal.task ▸ hs.1, fun r hr htoken hactive => hlocal.spool _ ?_⟩
  rw [hrows] at hr
  exact hs.2 r hr htoken hactive

/-- The request of the call is recorded under that id and not yet published. -/
def Recorded (id : String) (r : RecoveryRequest) : Prop :=
  r.id = id ∧ r.status = .publishing

lemma create_triple {restoreId userId : String} :
    Triple contract i (Rows i c fun _ => False)
      (act (.createSystemRecoveryRequest restoreId userId c.token)) fun r s =>
        match r with
        | some (some id) => Rows i c (Recorded id) s
        | _ => Left i c s := by
  have hnone : ∀ s, Rows i c (fun _ => False) s → Left i c s := fun s hs =>
    ⟨hs.1, fun r hr htoken => (hs.2 r hr htoken).elim⟩
  refine act_triple stable_rows ?_ (fun _ h => h.1) fun s r t _ hs hexec => ?_
  · intro r
    match r with
    | some (some id) => exact stable_rows
    | some none => exact stable_left
    | none => exact stable_left
  obtain ⟨id, h⟩ := hexec
  split at h
  · obtain ⟨hr, rfl⟩ := h
    refine ⟨local_refl, ?_⟩
    rcases hr with rfl | rfl <;> exact hnone _ hs
  · rename_i requests hrequests
    rcases h with ⟨rfl, rfl⟩ | ⟨-, hno, -⟩ | ⟨rfl, rfl⟩
    · exact ⟨local_refl, hnone _ hs⟩
    · exact absurd trivial hno
    · refine ⟨local_requests fun r hr => ?_, hs.1, fun r hr htoken => ?_⟩
      · rw [created_mem hrequests]
        refine or_iff_left ?_
        rintro rfl
        exact hr rfl
      · rcases (created_mem hrequests r).1 hr with hold | rfl
        · exact (hs.2 r hold htoken).elim
        · exact ⟨rfl, rfl⟩

lemma link_triple {id : String} : Triple contract i (Rows i c (Recorded id))
    (act (.link c.token)) fun r s =>
      Rows i c (Recorded id) s ∧ (r = .ok → Left i c s) := by
  refine act_triple stable_rows (fun r => stable_rows.and stable_left.imp) (fun _ h => h.1)
    fun s r t _ hs hexec => ?_
  rcases hexec with ⟨-, rfl, rfl⟩ | ⟨hfree, ⟨rfl, rfl⟩ | ⟨q, -, rfl, rfl⟩⟩
  · exact ⟨local_refl, hs, nofun⟩
  · exact ⟨local_refl, hs, nofun⟩
  · refine ⟨local_link hfree, hs, fun _ => ⟨hs.1, fun _ _ _ _ => ?_⟩⟩
    exact ⟨⟨q, c.token⟩, .inl rfl, rfl⟩

/-- A request is marked as published only once its file is in the spool. -/
lemma published_triple {id : String} : Triple contract i
    (fun s => Rows i c (Recorded id) s ∧ Left i c s)
    (act (.finishSystemRecoveryRequest id c.token .published none)) fun _ => Left i c := by
  refine act_triple (stable_rows.and stable_left) (fun _ => stable_left) (fun _ h => h.1.1)
    fun s r t _ hs hexec => ?_
  rcases hexec with ⟨-, rfl⟩ | ⟨-, rfl, -⟩
  · refine ⟨local_requests fun r => finished_other, hs.2.1, fun r hr htoken _ => ?_⟩
    obtain ⟨r₀, hr₀, rfl⟩ := finished_mem.1 hr
    rw [finished_token] at htoken
    have hactive : r₀.active := by simp [RecoveryRequest.active, (hs.1.2 r₀ hr₀ htoken).2]
    exact hs.2.2 r₀ hr₀ htoken hactive
  · exact ⟨local_refl, hs.2⟩

lemma failed_triple {id : String} {error : Option SystemRecoveryCode} :
    Triple contract i (Rows i c (Recorded id))
      (act (.finishSystemRecoveryRequest id c.token .failed error)) fun _ => Left i c := by
  refine act_triple stable_rows (fun _ => stable_left) (fun _ h => h.1)
    fun s r t _ hs hexec => ?_
  rcases hexec with ⟨-, rfl⟩ | ⟨-, rfl, hsettled⟩
  · refine ⟨local_requests fun r => finished_other, hs.1, fun r hr htoken hactive => ?_⟩
    obtain ⟨r₀, hr₀, rfl⟩ := finished_mem.1 hr
    rw [finished_token] at htoken
    obtain ⟨hid, hstatus⟩ := hs.2 r₀ hr₀ htoken
    rw [if_pos (by simp [unfinished, hid, htoken, hstatus])] at hactive
    simp [RecoveryRequest.finish, RecoveryRequest.active] at hactive
  · exact ⟨local_refl, hs.1, hsettled trivial⟩

/-! ### Programs -/

lemma ask_triple {ε : Type} {P : SpoolState → Prop} {o : SpoolOp}
    {K : o.Res → SpoolState → Prop} {X : ε → SpoolState → Prop}
    (hK : ∀ r, Stable contract i (K r)) (h : Triple contract i P (act o) K) :
    Triple contract i P (ask o : ExceptT ε (Prog spool) o.Res).run (Exits K X) :=
  exits_lift contract_lawful hK h

lemma keeping_given {P : SpoolState → Prop} {ε : Type} {p : Prop} [Decidable p] {e : ε}
    (hP : Stable contract i P) :
    Keeping contract i P (given p (throw e) : ExceptT ε (Prog spool) Unit) := by
  unfold given
  split_ifs
  · exact keeping_throw hP
  · exact keeping_pure hP

/-- A call that has nothing in the table yet. -/
abbrev Before (i : ℕ) (c : Call) : SpoolState → Prop := Rows i c fun _ => False

lemma before_ask {ε : Type} {o : SpoolOp} (ho : Quiet c.token o) :
    Keeping contract i (Before i c) (ask o : ExceptT ε (Prog spool) o.Res) :=
  ask_triple (fun _ => stable_rows) (quiet_rows ho)

lemma inspectArtifact_triple (backupId : String) :
    Keeping contract i (Before i c) (inspectArtifact S backupId) := by
  refine keeping_bind contract_lawful stable_rows (before_ask trivial) fun unpacked => ?_
  refine keeping_bind contract_lawful stable_rows (keeping_ofExcept stable_rows) fun archive => ?_
  refine keeping_bind contract_lawful stable_rows (keeping_ofExcept stable_rows) fun _ => ?_
  exact keeping_bind contract_lawful stable_rows (before_ask trivial) fun _ =>
    keeping_given stable_rows

/-- Before its insertion a call has nothing in the table. -/
lemma checkRequest_triple (input : ApplyInput) :
    Keeping contract i (Before i c) (checkRequest S input) := by
  refine keeping_bind contract_lawful stable_rows (keeping_given stable_rows) fun _ => ?_
  refine keeping_bind contract_lawful stable_rows (keeping_given stable_rows) fun _ => ?_
  refine keeping_bind contract_lawful stable_rows (before_ask trivial) fun found => ?_
  cases found with
  | none => exact keeping_throw stable_rows
  | some found =>
    dsimp only
    split
    · exact keeping_throw stable_rows
    · refine keeping_bind contract_lawful stable_rows (before_ask trivial) fun backup => ?_
      match backup with
      | none => exact keeping_throw stable_rows
      | some none => exact keeping_throw stable_rows
      | some (some backup) =>
        refine keeping_bind contract_lawful stable_rows (before_ask trivial) fun artifact => ?_
        cases artifact with
        | none => exact keeping_throw stable_rows
        | some artifact =>
          refine keeping_bind contract_lawful stable_rows (keeping_ofExcept stable_rows)
            fun _ => ?_
          refine keeping_bind contract_lawful stable_rows (inspectArtifact_triple _) fun _ => ?_
          refine keeping_bind contract_lawful stable_rows (before_ask trivial) fun root => ?_
          match root with
          | none => exact keeping_throw stable_rows
          | some false => exact keeping_throw stable_rows
          | some true => exact keeping_pure stable_rows

lemma created_triple {P : SpoolState → Prop} {r : Created} (hP : Stable contract i P) :
    Triple contract i P (created r).run
      (Exits (fun _ s => r = .ok ∧ P s) fun _ => P) := by
  cases r with
  | ok => exact exits_pure hP fun _ _ h => ⟨rfl, h⟩
  | «exists» => exact exits_throw hP fun _ _ h => h
  | failed => exact exits_throw hP fun _ _ h => h

lemma orElse_triple {P : SpoolState → Prop} {X : SpoolError → SpoolState → Prop}
    {p : ExceptT SpoolError (Prog spool) Bool} (hP : Stable contract i P)
    (hX : ∀ e, Stable contract i (X e)) (h : ∀ e s, P s → X e s)
    (hp : Triple contract i P p.run (Exits (fun _ => P) X)) :
    Triple contract i P (orElse p).run (Exits (fun _ => P) X) := by
  refine exits_bind contract_lawful hX hp fun r => ?_
  cases r with
  | true => exact exits_pure hP fun _ _ h => h
  | false => exact exits_throw hP fun s _ hs => h _ _ hs

/-- Both ways out leave the request recorded; a request that was published has its file. -/
lemma publishRecoveryRequest_triple {id : String} (request : Request) :
    Triple contract i (Rows i c (Recorded id)) (publishRecoveryRequest c.token request).run
      (Exits (fun _ s => Rows i c (Recorded id) s ∧ Left i c s)
        fun _ => Rows i c (Recorded id)) := by
  have hboth : Stable contract i fun s => Rows i c (Recorded id) s ∧ Left i c s :=
    stable_rows.and stable_left
  have hquiet {o : SpoolOp} (ho : Quiet c.token o) :
      Triple contract i (fun s => Rows i c (Recorded id) s ∧ Left i c s) (act o)
        fun _ s => Rows i c (Recorded id) s ∧ Left i c s := by
    refine act_triple hboth (fun _ => hboth) (fun _ h => h.2.1) fun s r t _ hs hexec => ?_
    obtain ⟨hlocal, hrows, -, -⟩ := quiet_local ho hexec
    refine ⟨hlocal, ⟨hlocal.task ▸ hs.1.1, hrows ▸ hs.1.2⟩, hlocal.task ▸ hs.1.1, ?_⟩
    intro r hr htoken hactive
    rw [hrows] at hr
    exact hlocal.spool _ (hs.2.2 r hr htoken hactive)
  have hstep : Triple contract i (Rows i c (Recorded id)) (linkRequest c.token request).run
      (Exits (fun _ s => Rows i c (Recorded id) s ∧ Left i c s)
        fun _ => Rows i c (Recorded id)) := by
    have herr : ∀ _ : SpoolError, Stable contract i (Rows i c (Recorded id)) :=
      fun _ => stable_rows
    refine exits_bind contract_lawful herr
      (ask_triple (fun _ => stable_rows) (quiet_rows rfl)) fun r => ?_
    refine exits_bind contract_lawful herr (created_triple stable_rows) fun _ =>
      triple_pre fun _ => ?_
    refine exits_bind contract_lawful herr
      (ask_triple (fun _ => stable_rows.and stable_left.imp) link_triple) fun r => ?_
    refine exits_bind (K := fun _ s => Rows i c (Recorded id) s ∧ Left i c s)
      contract_lawful herr ?_ fun _ => ?_
    · exact exits_conseq (created_triple (stable_rows.and stable_left.imp))
        (fun _ _ h => h) (fun _ _ _ h => ⟨h.2.1, h.2.2 h.1⟩) fun _ _ _ h => h.1
    refine exits_bind contract_lawful herr
      (orElse_triple hboth herr (fun _ _ h => h.1) (ask_triple (fun _ => hboth) (hquiet rfl)))
      fun _ => ?_
    exact orElse_triple hboth herr (fun _ _ h => h.1)
      (ask_triple (fun _ => hboth) (hquiet trivial))
  refine exits_bind contract_lawful (fun _ => stable_rows)
    (exits_lift contract_lawful ?_ hstep) fun r => ?_
  · rintro (_ | _)
    · exact stable_rows
    · exact hboth
  cases r with
  | ok u => exact exits_pure hboth fun _ _ h => h
  | error e =>
      refine exits_bind contract_lawful (fun _ => stable_rows)
        (ask_triple (fun _ => stable_rows) (quiet_rows rfl)) fun _ => ?_
      exact exits_throw stable_rows fun _ _ h => h

/-- A call leaves its request active only with its file in the spool. -/
lemma requestApply_triple :
    Triple contract i (Before i c) (requestApply S c.input c.token).run
      (Exits (fun _ => Left i c) fun _ => Left i c) := by
  have hnone : ∀ s, Before i c s → Left i c s := fun s hs =>
    ⟨hs.1, fun r hr htoken => (hs.2 r hr htoken).elim⟩
  have herr : ∀ _ : Thrown, Stable contract i (Left i c) := fun _ => stable_left
  refine exits_bind contract_lawful herr
    (exits_conseq (checkRequest_triple _) (fun _ _ h => h) (fun _ _ _ h => h)
      fun _ s _ h => hnone s h) fun restore => ?_
  refine exits_bind contract_lawful herr (ask_triple ?_ create_triple) fun audit => ?_
  · intro r
    match r with
    | some (some id) => exact stable_rows
    | some none => exact stable_left
    | none => exact stable_left
  match audit with
  | none => exact exits_throw stable_left fun _ _ h => h
  | some none => exact exits_throw stable_left fun _ _ h => h
  | some (some id) =>
    refine exits_bind contract_lawful herr
      (exits_lift contract_lawful ?_ (publishRecoveryRequest_triple _)) fun r => ?_
    · rintro (_ | _)
      · exact stable_rows
      · exact stable_rows.and stable_left
    cases r with
    | ok u =>
        refine exits_bind contract_lawful herr
          (ask_triple (fun _ => stable_left) published_triple) fun _ => ?_
        refine exits_bind contract_lawful herr
          (ask_triple (fun _ => stable_left) (quiet_left trivial)) fun _ => ?_
        exact exits_pure stable_left fun _ _ h => h
    | error e =>
        refine exits_bind contract_lawful herr
          (ask_triple (fun _ => stable_left) failed_triple) fun _ => ?_
        exact exits_throw stable_left fun _ _ h => h

/-! ### The system -/

def Ended (i : ℕ) (_ : Unit) (s : SpoolState) : Prop :=
  ∀ c, s.task i = some c → Settled c.token s

lemma runToEnd_triple {P : SpoolState → Prop} {Q : SpoolState → Prop} {α : Type}
    {p : ExceptT Thrown (Prog spool) α} (hQ : Stable contract i Q)
    (h : Triple contract i P p.run (Exits (fun _ => Q) fun _ => Q)) :
    Triple contract i P (runToEnd p) fun _ => Q := by
  refine triple_bind contract_lawful h fun r => ?_
  cases r with
  | ok a => exact triple_pure hQ fun _ _ h => h
  | error e => exact triple_pure hQ fun _ _ h => h

lemma request_triple : Triple contract i (Before i c)
    (runToEnd (requestApply S c.input c.token)) (Ended i) := by
  refine triple_conseq (runToEnd_triple stable_left requestApply_triple) (fun _ _ h => h)
    fun _ s _ hs d hd => ?_
  rw [hs.1] at hd
  obtain rfl := Option.some.inj hd
  exact hs.2

lemma idle_safe (h : s.task i = none) : Safe contract i (Ended i) (.pure ()) s := by
  intro t ht _ c hc
  rw [ht.1, h] at hc
  cases hc

/-- The end of a call, when it leaves its request settled. -/
lemma inv_stop (hi : Inv s) (h : ∀ c, s.task i = some c → Settled c.token s) :
    Inv (s.assign i none) := by
  have hold : ∀ {j c}, (s.assign i none).task j = some c → s.task j = some c := by
    intro j c hj
    by_cases hji : j = i
    · subst hji
      rw [assign_self] at hj
      cases hj
    · rwa [assign_ne _ _ hji] at hj
  refine ⟨?_, fun j c hj => hi.known j c (hold hj), hi.drawn, hi.temporary, ?_⟩
  · intro j k c d hj hk
    exact hi.alone j k c d (hold hj) (hold hk)
  · intro r hr hactive
    rcases hi.owned r hr hactive with ⟨j, c, hj, htoken⟩ | hin
    · by_cases hji : j = i
      · subst hji
        exact .inr (htoken ▸ h c hj r hr htoken.symm hactive)
      · exact .inl ⟨j, c, (assign_ne _ _ hji).trans hj, htoken⟩
    · exact .inr hin

lemma stop_relies : ∀ j, j ≠ i → relies j s (s.assign i none) :=
  fun _ hj => ⟨assign_ne _ _ hj, fun _ _ => ⟨fun _ _ => Iff.rfl, fun _ h => h⟩⟩

lemma inv_begin (hi : Inv s) (hidle : s.task i = none) (hfresh : c.token ∉ s.tokens) :
    Inv ({ s with tokens := c.token :: s.tokens }.assign i (some c)) := by
  have hold : ∀ {j d}, ({ s with tokens := c.token :: s.tokens }.assign i (some c)).task j =
      some d → j = i ∧ d = c ∨ s.task j = some d ∧ d.token ≠ c.token := by
    intro j d hj
    by_cases hji : j = i
    · subst hji
      rw [assign_self] at hj
      exact .inl ⟨rfl, (Option.some.inj hj).symm⟩
    · rw [assign_ne _ _ hji] at hj
      refine .inr ⟨hj, fun htoken => hfresh ?_⟩
      rw [← htoken]
      exact hi.known j d hj
  refine ⟨?_, ?_, fun r hr => .tail _ (hi.drawn r hr), fun t ht => .tail _ (hi.temporary t ht),
    ?_⟩
  · intro j k d e hj hk htoken
    rcases hold hj with ⟨rfl, rfl⟩ | ⟨hj, hd⟩ <;> rcases hold hk with ⟨rfl, rfl⟩ | ⟨hk, he⟩
    · rfl
    · exact absurd htoken.symm he
    · exact absurd htoken hd
    · exact hi.alone j k d e hj hk htoken
  · intro j d hj
    rcases hold hj with ⟨-, rfl⟩ | ⟨hj, -⟩
    · exact .head _
    · exact .tail _ (hi.known j d hj)
  · intro r hr hactive
    refine (hi.owned r hr hactive).imp_left ?_
    rintro ⟨j, d, hj, htoken⟩
    refine ⟨j, d, (assign_ne _ _ ?_).trans hj, htoken⟩
    rintro rfl
    rw [hidle] at hj
    cases hj

/-- The supervisor finishes with inactive requests only. -/
lemma inv_supervised (h : Supervised S True s t) (hi : Inv s) :
    Inv t ∧ ∀ j, relies j s t := by
  have hkeep : ∀ {t : SpoolState}, t.task = s.task → t.tokens = s.tokens →
      t.requests = s.requests → t.temporary = s.temporary →
      (∀ r ∈ s.requests.rows, r.active → InSpool r.ownershipToken s →
        InSpool r.ownershipToken t) → Inv t ∧ ∀ j, relies j s t := by
    intro t htask htokens hrows htemp hspool
    refine ⟨⟨?_, ?_, ?_, ?_, ?_⟩, fun j => ⟨by rw [htask], fun c _ => ⟨?_, ?_⟩⟩⟩
    · rw [htask]
      exact hi.alone
    · rw [htask, htokens]
      exact hi.known
    · rw [hrows, htokens]
      exact hi.drawn
    · rw [htemp, htokens]
      exact hi.temporary
    · intro r hr hactive
      rw [hrows] at hr
      rw [htask]
      exact (hi.owned r hr hactive).imp_right (hspool r hr hactive)
    · intro r _
      rw [hrows]
    · rintro ⟨r, hr, htoken, hactive⟩ hin
      rw [← htoken] at hin ⊢
      exact hspool r hr hactive hin
  cases h with
  | claim f hpending hfree =>
      refine hkeep rfl rfl rfl rfl ?_
      rintro r - - ⟨g, hg | hg, htoken⟩
      · rw [hpending] at hg
        obtain rfl := Option.some.inj hg
        exact ⟨f, .inr rfl, htoken⟩
      · rw [hfree] at hg
        cases hg
  | finish f hclaimed _ hinactive =>
      refine hkeep rfl rfl rfl rfl ?_
      rintro r hr hactive ⟨g, hg | hg, htoken⟩
      · exact ⟨g, .inl hg, htoken⟩
      · rw [hclaimed] at hg
        obtain rfl := Option.some.inj hg
        rw [hinactive trivial r hr htoken.symm] at hactive
        cases hactive

lemma keeps : Keeps (system S True) contract Ended where
  lawful := contract_lawful
  exec := fun _ _ _ _ _ h => h
  start := by
    rintro i _ s p t hstart hi hend
    cases hstart with
    | finish =>
        exact ⟨inv_stop hi hend, stop_relies, idle_safe (assign_self _ _ _)⟩
    | request c hidle hfresh =>
        have ht := inv_begin hi hidle hfresh
        refine ⟨ht, fun j hj => ?_, request_triple _ ht ⟨assign_self _ _ _, ?_⟩⟩
        · exact ⟨assign_ne _ _ hj, fun _ _ => ⟨fun _ _ => Iff.rfl, fun _ h => h⟩⟩
        · intro r hr htoken
          exact hfresh (htoken ▸ hi.drawn r hr)
  environment := fun _ _ _ h hi => inv_supervised h hi
  crash := by
    rintro i s t p ⟨rfl, rfl, hsettled⟩ hi
    exact ⟨inv_stop hi (hsettled trivial), stop_relies, idle_safe (assign_self _ _ _)⟩

lemma inv_empty : Inv RecoverySpool.empty.state where
  alone := fun _ _ _ _ h => by cases h
  known := fun _ _ h => by cases h
  drawn := fun _ h => by cases h
  temporary := fun _ h => absurd rfl h
  owned := fun _ h => by cases h

lemma initial_sound {c : Config spool SpoolState ℕ Unit} (h : initial c) :
    Sound contract Ended c := by
  obtain rfl := h
  exact ⟨inv_empty, fun i => idle_safe rfl⟩

/-! ### A call by itself -/

variable {offer : Offer}

lemma outcome_ask {ε : Type} (o : SpoolOp) :
    (ask o : ExceptT ε (Prog spool) o.Res).run.outcome (works offer) s =
      (.ok (works offer s o).1, (works offer s o).2) := rfl

lemma checkRequest_welcome (h : Welcome S offer c) :
    (checkRequest S c.input).run.outcome (works offer) s = (.ok offer.restore, s) := by
  unfold checkRequest given
  rw [if_neg (by simp [h.enabled.1, h.enabled.2]), if_neg (by simp [h.confirmed])]
  refine (outcome_bind_ok (a := ()) rfl).trans ?_
  refine (outcome_bind_ok (a := ()) rfl).trans ?_
  refine (outcome_bind_ok (outcome_ask _)).trans ?_
  have hfilter : (some offer.restore).filter (·.status = .staged) = some offer.restore := by
    simp [Option.filter, h.staged]
  simp only [works, hfilter]
  refine (outcome_bind_ok (outcome_ask _)).trans ?_
  refine (outcome_bind_ok (outcome_ask _)).trans ?_
  refine (outcome_bind_ok (a := ()) (t := s) ?_).trans ?_
  · simp only [works]
    rw [h.artifact]
    rfl
  refine (outcome_bind_ok (a := ()) (t := s) ?_).trans rfl
  unfold inspectArtifact
  refine (outcome_bind_ok (outcome_ask _)).trans ?_
  refine (outcome_bind_ok (a := offer.archive) rfl).trans ?_
  refine (outcome_bind_ok (a := ()) (t := s) ?_).trans rfl
  rw [h.archive]
  rfl

lemma created_inactive {requests : Requests} {id token : String} (restoreId userId : String)
    (hactive : ∀ r ∈ requests.rows, r.active = false)
    (htoken : ∀ r ∈ requests.rows, r.ownershipToken ≠ token)
    (hid : id ∉ requests.rows.map RecoveryRequest.id) :
    ∃ requests', createSystemRecoveryRequest requests id restoreId userId token =
      some requests' := by
  unfold createSystemRecoveryRequest Table.insert?
  rw [if_neg, dif_neg hid]
  · exact ⟨_, rfl⟩
  · simp only [List.any_eq_true, decide_eq_true_eq, not_exists, not_and, not_or]
    exact fun r hr => ⟨by simp [hactive r hr], htoken r hr⟩

variable (offer) in
/-- With nothing pending, a request is published. -/
lemma publish_accepted (request : Request) (htemporary : s.temporary c.token = none)
    (hpending : s.pending = none) :
    ∃ u, (publishRecoveryRequest c.token request).run.outcome (works offer) s = (.ok (), u) := by
  have hlink : ∃ u, (linkRequest c.token request).run.outcome (works offer) s = (.ok (), u) := by
    unfold linkRequest
    rw [outcome_bind_ok (outcome_ask _)]
    simp only [works, htemporary, if_true]
    rw [outcome_bind_ok (a := ()) rfl, outcome_bind_ok (outcome_ask _)]
    simp only [works, putTemporary, hpending, if_true, Function.update_self]
    rw [outcome_bind_ok (a := ()) rfl]
    exact ⟨_, rfl⟩
  obtain ⟨u, hu⟩ := hlink
  refine ⟨u, (outcome_bind_ok (a := .ok ()) (t := u) ?_).trans rfl⟩
  rw [outcome_lift, hu]

variable (offer) in
/-- With no request active and nothing pending, a call goes through. -/
lemma submit_accepted {r : SystemRestore} (hactive : ∀ r ∈ s.requests.rows, r.active = false)
    (htoken : ∀ r ∈ s.requests.rows, r.ownershipToken ≠ c.token)
    (hid : offer.requestId ∉ s.requests.rows.map RecoveryRequest.id)
    (htemporary : s.temporary c.token = none) (hpending : s.pending = none) :
    ((submit S c.input c.token r).run.outcome (works offer) s).1 = .ok () := by
  obtain ⟨requests, hrequests⟩ := created_inactive r.id
    c.input.requestedByUserId hactive htoken hid
  have hcreate : works offer s (.createSystemRecoveryRequest r.id
      c.input.requestedByUserId c.token) =
      (some (some offer.requestId), { s with requests := requests }) := by
    simp only [works, hrequests]
  unfold submit
  rw [outcome_bind_ok (outcome_ask _), hcreate]
  obtain ⟨u, hu⟩ := publish_accepted offer (c := c)
    (s := { s with requests := requests }) (S.sign r.id) htemporary hpending
  have hsent : (ExceptT.lift (publishRecoveryRequest c.token (S.sign r.id)).run :
      ExceptT Thrown (Prog spool) _).run.outcome (works offer)
        { s with requests := requests } = (.ok (.ok ()), u) := by
    rw [outcome_lift, hu]
  exact congrArg Prod.fst ((outcome_bind_ok hsent).trans rfl)

/-- As long as the supervisor finishes with no active request, and no call leaves one behind
without a file, requests do not block each other. -/
theorem requests_proceed (S : Service) {c : Config spool SpoolState ℕ Unit}
    (h : Reach (system S True) initial c) : Unblocked S c.state := by
  have hi : Inv c.state := (reach_sound keeps (fun _ => initial_sound) h).1
  have hfree : ∀ {token id}, Fresh token id c.state →
      ∀ r ∈ c.state.requests.rows, r.ownershipToken ≠ token := by
    rintro token id hfresh r hr rfl
    exact hfresh.1 (hi.drawn r hr)
  refine ⟨fun id restoreId userId token hfresh hrefused => ?_, ?_⟩
  · -- the index refuses the row: some request is active
    obtain ⟨r, hr, hactive⟩ : ∃ r ∈ c.state.requests.rows, r.active := by
      by_contra hno
      push Not at hno
      obtain ⟨requests, hok⟩ := created_inactive restoreId userId
        (fun r hr => Bool.eq_false_iff.2 (hno r hr)) (hfree hfresh) hfresh.2
      rw [hrefused] at hok
      cases hok
    rcases hi.owned r hr hactive with ⟨i, d, hd, htoken⟩ | ⟨f, hf | hf, -⟩
    · exact .inl ⟨i, d, hd, r, hr, hactive, htoken.symm⟩
    · exact .inr (.inl (by simp [hf]))
    · exact .inr (.inr (by simp [hf]))
  · intro hidle hpending hclaimed offer i d hfresh hwelcome
    have hactive : ∀ r ∈ c.state.requests.rows, r.active = false := by
      intro r hr
      by_contra hne
      rcases hi.owned r hr (by simpa using hne) with ⟨j, e, he, -⟩ | ⟨f, hf | hf, -⟩
      · rw [hidle j] at he
        cases he
      · rw [hpending] at hf
        cases hf
      · rw [hclaimed] at hf
        cases hf
    have htemporary : c.state.temporary d.token = none := by
      by_contra hne
      exact hfresh.1 (hi.temporary _ hne)
    have hrun := submit_accepted offer (S := S) (c := d) (r := offer.restore)
      (s := { c.state with tokens := d.token :: c.state.tokens }.assign i (some d))
      hactive (hfree hfresh) hfresh.2 htemporary hpending
    unfold requested requestApply
    rw [outcome_bind_ok (checkRequest_welcome hwelcome)]
    exact hrun

/-! ### Requests that stay active -/

/-- The token whose row or file an effect is about. -/
def subject : SpoolOp → Option String
  | .createSystemRecoveryRequest _ _ token | .finishSystemRecoveryRequest _ token _ _
  | .writeTemporary token _ | .link token | .removeTemporary token => some token
  | _ => none

/-- An effect of the call at work, about its own request. -/
def OwnEffect (task : Option Call) (o : SpoolOp) : Prop :=
  ∀ token, subject o = some token → task.map Call.token = some token

lemma only_ask {ε : Type} {φ : SpoolOp → Prop} {o : SpoolOp} (ho : φ o) :
    (ask o : ExceptT ε (Prog spool) o.Res).run.Only φ := ⟨ho, fun _ => trivial⟩

lemma only_throw {ε α : Type} {φ : SpoolOp → Prop} (e : ε) :
    (throw e : ExceptT ε (Prog spool) α).run.Only φ := trivial

lemma only_given {ε : Type} {φ : SpoolOp → Prop} {p : Prop} [Decidable p] {e : ε} :
    (given p (throw e) : ExceptT ε (Prog spool) Unit).run.Only φ := by
  unfold given
  split_ifs <;> trivial

lemma only_ofExcept {ε α : Type} {φ : SpoolOp → Prop} (x : Except ε α) :
    (ofExcept x : ExceptT ε (Prog spool) α).run.Only φ := by
  cases x <;> trivial

lemma own_other {task : Option Call} {o : SpoolOp} (h : subject o = none) :
    OwnEffect task o := by
  intro token ht
  rw [h] at ht
  cases ht

lemma own_self {o : SpoolOp} (h : subject o = some c.token) : OwnEffect (some c) o := by
  intro token ht
  rw [h] at ht
  simpa using ht

lemma checkRequest_own {task : Option Call} (input : ApplyInput) :
    (checkRequest S input).run.Only (OwnEffect task) := by
  have hask {o : SpoolOp} (h : subject o = none) :
      (ask o : ExceptT Thrown (Prog spool) o.Res).run.Only (OwnEffect task) :=
    only_ask (own_other h)
  refine only_bind only_given fun _ => only_bind only_given fun _ => ?_
  refine only_bind (hask rfl) fun found => ?_
  cases found with
  | none => exact only_throw _
  | some found =>
    dsimp only
    split
    · exact only_throw _
    · refine only_bind (hask rfl) fun backup => ?_
      match backup with
      | none => exact only_throw _
      | some none => exact only_throw _
      | some (some backup) =>
        refine only_bind (hask rfl) fun artifact => ?_
        cases artifact with
        | none => exact only_throw _
        | some artifact =>
          refine only_bind (only_ofExcept _) fun _ => only_bind ?_ fun _ => ?_
          · refine only_bind (hask rfl) fun _ => only_bind (only_ofExcept _) fun _ => ?_
            exact only_bind (only_ofExcept _) fun _ => only_bind (hask rfl) fun _ => only_given
          · refine only_bind (hask rfl) fun root => ?_
            match root with
            | none => exact only_throw _
            | some false => exact only_throw _
            | some true => trivial

lemma publishRecoveryRequest_own (request : Request) :
    (publishRecoveryRequest c.token request).run.Only (OwnEffect (some c)) := by
  have hcreated (r : Created) : (created r).run.Only (OwnEffect (some c)) := by
    cases r <;> trivial
  have horElse {p : ExceptT SpoolError (Prog spool) Bool} (hp : p.run.Only (OwnEffect (some c))) :
      (orElse p).run.Only (OwnEffect (some c)) := by
    refine only_bind hp fun r => ?_
    cases r <;> trivial
  refine only_bind (.lift ?_) fun r => ?_
  · refine only_bind (only_ask (own_self rfl)) fun r => only_bind (hcreated r) fun _ => ?_
    refine only_bind (only_ask (own_self rfl)) fun r => only_bind (hcreated r) fun _ => ?_
    exact only_bind (horElse (only_ask (own_self rfl))) fun _ =>
      horElse (only_ask (own_other rfl))
  · cases r with
    | ok u => trivial
    | error e => exact only_bind (only_ask (own_self rfl)) fun _ => only_throw _

lemma requestApply_own :
    (requestApply S c.input c.token).run.Only (OwnEffect (some c)) := by
  refine only_bind (checkRequest_own _) fun restore => ?_
  refine only_bind (only_ask (own_self rfl)) fun audit => ?_
  match audit with
  | none => exact only_throw _
  | some none => exact only_throw _
  | some (some id) =>
    refine only_bind (.lift (publishRecoveryRequest_own _)) fun r => ?_
    cases r with
    | ok u =>
        refine only_bind (only_ask (own_self rfl)) fun _ => ?_
        exact only_bind (only_ask (own_other rfl)) fun _ => trivial
    | error e => exact only_bind (only_ask (own_self rfl)) fun _ => only_throw _

/-- An active request whose call is gone. -/
structure Abandoned (token : String) (s : SpoolState) : Prop where
  drawn : token ∈ s.tokens
  gone : ∀ i c, s.task i = some c → c.token ≠ token
  active : ∃ r ∈ s.requests.rows, r.active ∧ r.ownershipToken = token

lemma effect_task {careful : Prop} {o : SpoolOp} {r : o.Res} (h : spoolEffect careful s o r t) :
    t.task = s.task ∧ t.tokens = s.tokens := by
  cases o with
  | createSystemRecoveryRequest restoreId userId x =>
      obtain ⟨id, h⟩ := h
      split at h
      · obtain ⟨-, rfl⟩ := h
        exact ⟨rfl, rfl⟩
      · rcases h with ⟨-, rfl⟩ | ⟨-, -, rfl⟩ | ⟨-, rfl⟩ <;> exact ⟨rfl, rfl⟩
  | finishSystemRecoveryRequest id x status error =>
      rcases h with ⟨-, rfl⟩ | ⟨-, rfl, -⟩ <;> exact ⟨rfl, rfl⟩
  | writeTemporary x q =>
      rcases h with ⟨-, -, rfl⟩ | ⟨-, ⟨-, rfl⟩ | ⟨-, rfl | rfl⟩⟩ <;> exact ⟨rfl, rfl⟩
  | link x =>
      rcases h with ⟨-, -, rfl⟩ | ⟨-, ⟨-, rfl⟩ | ⟨q, -, -, rfl⟩⟩ <;> exact ⟨rfl, rfl⟩
  | removeTemporary x => rcases h with ⟨-, rfl⟩ | ⟨-, rfl⟩ <;> exact ⟨rfl, rfl⟩
  | _ =>
      obtain rfl : t = s := h
      exact ⟨rfl, rfl⟩

/-- An effect takes back no request but its own. -/
lemma effect_rows {careful : Prop} {o : SpoolOp} {r : o.Res} {q : RecoveryRequest}
    (h : spoolEffect careful s o r t) (ho : subject o ≠ some q.ownershipToken)
    (hq : q ∈ s.requests.rows) : q ∈ t.requests.rows := by
  cases o with
  | createSystemRecoveryRequest restoreId userId x =>
      obtain ⟨id, h⟩ := h
      split at h
      · obtain ⟨-, rfl⟩ := h
        exact hq
      · rename_i requests hrequests
        have hmem : q ∈ requests.rows := (created_mem hrequests q).2 (.inl hq)
        rcases h with ⟨-, rfl⟩ | ⟨-, -, rfl⟩ | ⟨-, rfl⟩
        · exact hq
        · exact hmem
        · exact hmem
  | finishSystemRecoveryRequest id x status error =>
      rcases h with ⟨-, rfl⟩ | ⟨-, rfl, -⟩
      · exact (finished_other fun hx => ho (congrArg some hx.symm)).2 hq
      · exact hq
  | writeTemporary x f =>
      rcases h with ⟨-, -, rfl⟩ | ⟨-, ⟨-, rfl⟩ | ⟨-, rfl | rfl⟩⟩ <;> exact hq
  | link x => rcases h with ⟨-, -, rfl⟩ | ⟨-, ⟨-, rfl⟩ | ⟨f, -, -, rfl⟩⟩ <;> exact hq
  | removeTemporary x => rcases h with ⟨-, rfl⟩ | ⟨-, rfl⟩ <;> exact hq
  | _ =>
      obtain rfl : t = s := h
      exact hq

lemma Abandoned.mono {token : String} (h : Abandoned token s) (htokens : s.tokens ⊆ t.tokens)
    (htask : ∀ i c, t.task i = some c → c.token ≠ token)
    (hrows : ∀ r, r.ownershipToken = token → r ∈ s.requests.rows → r ∈ t.requests.rows) :
    Abandoned token t := by
  obtain ⟨hdrawn, -, r, hr, hactive, htoken⟩ := h
  exact ⟨htokens hdrawn, htask, r, hrows r htoken hr, hactive, htoken⟩

/-- Every call keeps to its own request. -/
def Kept (c : Config spool SpoolState ℕ Unit) : Prop :=
  ∀ i, (c.thread i).Only (OwnEffect (c.state.task i))

lemma kept_step {careful : Prop} {x y : Config spool SpoolState ℕ Unit} (h : Kept x)
    (hs : Step (system S careful) x y) : Kept y ∧
      ∀ token, Abandoned token x.state → Abandoned token y.state := by
  have hupdate {s t : SpoolState} {th : ℕ → Prog spool Unit} {i : ℕ} {p : Prog spool Unit}
      (h : Kept ⟨s, th⟩) (htask : ∀ j, j ≠ i → t.task j = s.task j)
      (hp : p.Only (OwnEffect (t.task i))) : Kept ⟨t, Function.update th i p⟩ := by
    intro j
    by_cases hj : j = i
    · subst hj
      simpa using hp
    · have hold := h j
      simpa [Function.update_of_ne hj, htask j hj] using hold
  have hstop {s : SpoolState} {i : ℕ} {token : String} (h : Abandoned token s) :
      Abandoned token (s.assign i none) := by
    refine h.mono (fun _ h => h) (fun j d hd => ?_) fun _ _ hr => hr
    by_cases hj : j = i
    · subst hj
      rw [assign_self] at hd
      cases hd
    · exact h.gone j d ((assign_ne _ _ hj).symm.trans hd)
  cases hs with
  | @perform s t th i o k r at_op run =>
      have hi := h i
      simp only [at_op] at hi
      obtain ⟨ho, hk⟩ := hi
      obtain ⟨htask, htokens⟩ := effect_task run
      refine ⟨hupdate h (fun j _ => by rw [htask]) (by rw [htask]; exact hk r), fun token ha => ?_⟩
      refine ha.mono (by rw [htokens]; exact fun _ h => h) (fun j d hd => ?_) ?_
      · rw [htask] at hd
        exact ha.gone j d hd
      · rintro q rfl hq
        refine effect_rows run (fun hx => ?_) hq
        obtain ⟨c, hc, hcx⟩ := Option.map_eq_some_iff.1 (ho _ hx)
        exact ha.gone i c hc hcx
  | @start s t th i a p at_end next =>
      cases next with
      | finish =>
          exact ⟨hupdate h (fun j hj => assign_ne _ _ hj) trivial, fun token ha => hstop ha⟩
      | request c hidle hfresh =>
          refine ⟨hupdate h (fun j hj => assign_ne _ _ hj) ?_, fun token ha => ?_⟩
          · rw [assign_self]
            exact requestApply_own.bind fun _ => trivial
          · refine ha.mono (fun _ h => .tail _ h) (fun j d hd => ?_) fun _ _ hr => hr
            by_cases hj : j = i
            · subst hj
              rw [assign_self] at hd
              obtain rfl := Option.some.inj hd
              rintro rfl
              exact hfresh ha.drawn
            · exact ha.gone j d ((assign_ne _ _ hj).symm.trans hd)
  | @environment s t th a run =>
      cases run with
      | claim f hpending hfree =>
          exact ⟨h, fun token ha => ha.mono (fun _ h => h) ha.gone fun _ _ hr => hr⟩
      | finish f hclaimed hsigned hinactive =>
          exact ⟨h, fun token ha => ha.mono (fun _ h => h) ha.gone fun _ _ hr => hr⟩
  | @crash s t th i p run =>
      obtain ⟨rfl, rfl, -⟩ := run
      exact ⟨hupdate h (fun j hj => assign_ne _ _ hj) trivial, fun token ha => hstop ha⟩

lemma reach_kept {careful : Prop} {c : Config spool SpoolState ℕ Unit}
    (h : Reach (system S careful) initial c) : Kept c := by
  induction h with
  | init h =>
      obtain rfl := h
      exact fun _ => trivial
  | step _ hs ih => exact (kept_step ih hs).1

/-- A request left active without its call is never taken back: however a run goes on, every
insertion is refused. -/
theorem abandoned_blocks (S : Service) {careful : Prop} {x y : Config spool SpoolState ℕ Unit}
    {token : String} (hx : Reach (system S careful) initial x) (ha : Abandoned token x.state)
    (hy : Reach (system S careful) (· = x) y) :
    ∀ id restoreId userId token',
      createSystemRecoveryRequest y.state.requests id restoreId userId token' = none := by
  have hstays : Kept y ∧ Abandoned token y.state := by
    induction hy with
    | init h =>
        obtain rfl := h
        exact ⟨reach_kept hx, ha⟩
    | step _ hs ih => exact ⟨(kept_step ih.1 hs).1, (kept_step ih.1 hs).2 token ih.2⟩
  obtain ⟨r, hr, hactive, -⟩ := hstays.2.active
  intro id restoreId userId token'
  unfold createSystemRecoveryRequest
  rw [if_pos]
  exact List.any_eq_true.2 ⟨r, hr, by simp [hactive]⟩

/-! ### Single runs -/

lemma works_effect {careful : Prop} (offer : Offer) (s : SpoolState) (o : SpoolOp) :
    spoolEffect careful s o (works offer s o).1 (works offer s o).2 := by
  cases o with
  | createSystemRecoveryRequest restoreId userId token =>
      refine ⟨offer.requestId, ?_⟩
      simp only [works]
      split
      · exact ⟨.inr rfl, rfl⟩
      · exact .inr (.inr ⟨rfl, rfl⟩)
  | writeTemporary token q =>
      simp only [works]
      split_ifs with hfile
      · exact .inr ⟨hfile, .inl ⟨rfl, rfl⟩⟩
      · exact .inl ⟨hfile, rfl, rfl⟩
  | link token =>
      simp only [works]
      split_ifs with hpending
      · refine .inr ⟨hpending, ?_⟩
        split
        · rename_i q hq
          exact .inr ⟨q, hq, rfl, rfl⟩
        · exact .inl ⟨rfl, rfl⟩
      · exact .inl ⟨hpending, rfl, rfl⟩
  | removeTemporary token => exact .inl ⟨rfl, rfl⟩
  | finishSystemRecoveryRequest id token status error => exact .inl ⟨.inl rfl, rfl⟩
  | _ => exact rfl

/-- Let a call perform up to `n` effects, none of which fails. -/
def letRun (offer : Offer) (i n : ℕ) (c : Config spool SpoolState ℕ Unit) :
    Config spool SpoolState ℕ Unit :=
  let (p, s) := (c.thread i).runFor (works offer) n c.state
  ⟨s, Function.update c.thread i p⟩

lemma works_task (offer : Offer) (s : SpoolState) (o : SpoolOp) :
    (works offer s o).2.task = s.task := by
  cases o with
  | createSystemRecoveryRequest _ _ _ | writeTemporary _ _ =>
      simp only [works]
      split <;> rfl
  | link token =>
      simp only [works]
      split
      · split <;> rfl
      · rfl
  | _ => rfl

lemma letRun_task (offer : Offer) (i n : ℕ) (c : Config spool SpoolState ℕ Unit) :
    (letRun offer i n c).state.task = c.state.task :=
  Prog.runFor_frame SpoolState.task (works_task offer) n (c.thread i) c.state

def letBegin (S : Service) (i : ℕ) (d : Call) (c : Config spool SpoolState ℕ Unit) :
    Config spool SpoolState ℕ Unit where
  state := { c.state with tokens := d.token :: c.state.tokens }.assign i (some d)
  thread := Function.update c.thread i (runToEnd (requestApply S d.input d.token))

def letStop (i : ℕ) (c : Config spool SpoolState ℕ Unit) : Config spool SpoolState ℕ Unit where
  state := c.state.assign i none
  thread := Function.update c.thread i (.pure ())

lemma reach_letRun {careful : Prop} (offer : Offer) (i n : ℕ)
    {c : Config spool SpoolState ℕ Unit} (h : Reach (system S careful) initial c) :
    Reach (system S careful) initial (letRun offer i n c) :=
  reach_runFor (fun s o => works_effect offer s o) n h

lemma reach_letBegin {careful : Prop} {c : Config spool SpoolState ℕ Unit}
    (h : Reach (system S careful) initial c) (hend : c.thread i = .pure ())
    (hidle : c.state.task i = none) (hfresh : d.token ∉ c.state.tokens) :
    Reach (system S careful) initial (letBegin S i d c) :=
  h.step (Step.start (S := system S careful) i hend (Starts.request d hidle hfresh))

lemma reach_letEnd {careful : Prop} {c : Config spool SpoolState ℕ Unit}
    (h : Reach (system S careful) initial c) (hend : (c.thread i).next = none) :
    Reach (system S careful) initial (letStop i c) := by
  have hpure : c.thread i = .pure () := by
    cases hp : c.thread i with
    | pure a => rfl
    | op o k =>
        rw [hp] at hend
        cases hend
  exact h.step (Step.start (S := system S careful) i hpure Starts.finish)

def sampleService : Service where
  recovery := ⟨fun _ => "b5a26a21290c39819235a235b8ed66b3bd98ed90c8316c8949bfbb7419cac878",
    List.replicate 32 0⟩
  recoverySupervisorEnabled := true
  recoveryRequestSecret := "0123456789abcdef0123456789abcdef"
  hmac := fun key text => key ++ text

def sampleCall : Call where
  input := ⟨"3f2504e0-4f89-41d3-9a0c-0305e82c3303", "3f2504e0-4f89-41d3-9a0c-0305e82c3300",
    "APPLY 3f2504e0-4f89-41d3-9a0c-0305e82c3303"⟩
  token := "3f2504e0-4f89-41d3-9a0c-0305e82c3305"

def sampleOffer : Offer where
  restore := ⟨"3f2504e0-4f89-41d3-9a0c-0305e82c3303", "3f2504e0-4f89-41d3-9a0c-0305e82c3301",
    .staged⟩
  backup := ⟨some 4096, some "aa"⟩
  artifact := ⟨4096, "aa"⟩
  archive := ⟨⟨"3f2504e0-4f89-41d3-9a0c-0305e82c3301",
    "b5a26a21290c39819235a235b8ed66b3bd98ed90c8316c8949bfbb7419cac878",
    "b5a26a21290c39819235a235b8ed66b3bd98ed90c8316c8949bfbb7419cac878"⟩,
    List.replicate 32 0, [[80, 71]]⟩
  requestId := "3f2504e0-4f89-41d3-9a0c-0305e82c3306"

/-- A restore has been requested, and the call has returned. -/
def sampleRequested : Config spool SpoolState ℕ Unit :=
  letStop 0 (letRun sampleOffer 0 20 (letBegin sampleService 0 sampleCall RecoverySpool.empty))

lemma sampleRequested_reach (careful : Prop) :
    Reach (system sampleService careful) initial sampleRequested :=
  reach_letEnd (reach_letRun sampleOffer 0 20
    (reach_letBegin (.init rfl) rfl rfl (by decide))) (by decide)

theorem requests_proceed_sample : Unblocked sampleService sampleRequested.state :=
  requests_proceed sampleService (sampleRequested_reach True)

lemma sampleRequested_idle (i : ℕ) : sampleRequested.state.task i = none := by
  by_cases hi : i = 0
  · subst hi
    exact assign_self _ _ _
  · refine (assign_ne _ _ hi).trans ?_
    rw [letRun_task]
    exact assign_ne _ _ hi

/-- The file of the request, as the call put it into the spool. -/
def sampleFile : Spooled :=
  ⟨sampleService.sign sampleOffer.restore.id, sampleCall.token⟩

/-- The supervisor has taken the request, and is done with it. -/
def sampleFinished : Config spool SpoolState ℕ Unit :=
  ⟨{ sampleRequested.state with pending := none, claimed := none }, sampleRequested.thread⟩

lemma sampleFinished_reach :
    Reach (system sampleService False) initial sampleFinished := by
  have hpending : sampleRequested.state.pending = some sampleFile := by decide
  have hclaimed : sampleRequested.state.claimed = none := by decide
  have hclaim := (sampleRequested_reach False).step
    (Step.environment (S := system sampleService False) ()
      (Supervised.claim sampleFile hpending hclaimed))
  exact hclaim.step (Step.environment (S := system sampleService False) ()
    (Supervised.finish sampleFile rfl rfl fun h => absurd h id))

/-- Once the supervisor is done with a request that was published, its row stays active and
every other request is refused. -/
theorem finished_blocks : ∃ c, Reach (system sampleService False) initial c ∧
    ¬ Unblocked sampleService c.state := by
  refine ⟨sampleFinished, sampleFinished_reach, fun h => ?_⟩
  have hfresh : Fresh "3f2504e0-4f89-41d3-9a0c-0305e82c3307"
      "3f2504e0-4f89-41d3-9a0c-0305e82c3308" sampleFinished.state := by
    constructor <;> decide
  have hrefused : createSystemRecoveryRequest sampleFinished.state.requests
      "3f2504e0-4f89-41d3-9a0c-0305e82c3308" "3f2504e0-4f89-41d3-9a0c-0305e82c3303"
      "3f2504e0-4f89-41d3-9a0c-0305e82c3300" "3f2504e0-4f89-41d3-9a0c-0305e82c3307" = none := by
    decide
  rcases h.1 _ _ _ _ hfresh hrefused with ⟨i, c, hc, -⟩ | hpending | hclaimed
  · have hidle : sampleFinished.state.task i = none := sampleRequested_idle i
    rw [hidle] at hc
    cases hc
  · exact hpending rfl
  · exact hclaimed rfl

end GatewayControl.RecoveryProgress
