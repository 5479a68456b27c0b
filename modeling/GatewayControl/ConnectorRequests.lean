import GatewayControl.AgentTypes
import GatewayControl.IdentitySafety
import GatewayControl.Requests

/-!
Which connectors there can be: the fields of the requests that create and change connectors
are checked, and what the rows keep of them holds in every run.
-/

namespace GatewayControl.ConnectorRequests

open Json Text AgentTypes Identity Programs
open Cloudflare (Failure)
open Requests (stringField trim)

/-! ### Fields -/

/-- `opaqueStringField`, given the body's value of the field. -/
def opaqueStringField (value : Option Json) (least most : Nat) : Option String :=
  match value with
  | some (.str s) =>
      let length := jsLength s.toList
      if length < least ∨ length > most then none else some s
  | _ => none

def nameField (value : Option Json) : Option String := stringField value 1 120

def tokenField (value : Option Json) : Option String := opaqueStringField value 20 4096

/-- The fields of the body are texts the route reads. A bootstrap's token is Cloudflare's. -/
def Read : Request → Prop
  | .post body => (∃ value, nameField value = some body.name) ∧
      ∃ value, tokenField value = some body.token
  | .bootstrap connectorName _ _ _ _ => ∃ value, nameField value = some connectorName
  | .patch _ body => (∀ name, body.name = some name → ∃ value, nameField value = some name) ∧
      ∀ token, body.token = some token → ∃ value, tokenField value = some token
  | .verify _ | .reconcile => True

/-! ### The system -/

variable (keys : Keys)

/-- What is encrypted can be decrypted, and new ids are UUIDs. -/
def Honest (ch : Choice) : Op → Prop
  | .encrypt token => keys.decrypt ch.encrypted = some token
  | .createConnector _ => connectorUUIDPattern ch.newId = true
  | _ => True

def HonestExec (db : Db) (o : Op) (r : Except Failure o.Answer) (db' : Db) : Prop :=
  ∃ ch, Honest keys ch o ∧ ((r = (o.run ch db).1 ∧ db' = (o.run ch db).2) ∨
    ∃ e, r = .error e ∧ (db' = db ∨ db' = (o.run ch db).2))

/-- Any number of requests whose fields have been read. -/
def connectorSystem : System Plane Db Nat (Except Failure Unit) Unit where
  exec := fun _ => HonestExec keys
  start := fun _ _ db p db' => db' = db ∧ ∃ q, Read q ∧ p = (q.handler keys).run
  environment := fun _ => Touches
  crash := fun _ db db' p => db' = db ∧ p = .pure (.ok ())

/-! ### What the rows keep -/

/-- A name with something in it, and without white space at its ends. -/
def Named (name : String) : Prop := name ≠ "" ∧ trim name = name

/-- A ciphertext of a token that can be read. -/
def Holds (encryptedToken : String) : Prop :=
  ∃ token parsed, keys.decrypt encryptedToken = some token ∧ keys.parse token = some parsed

structure Fit (c : ConnectorRow) : Prop where
  id : connectorUUIDPattern c.id = true
  name : Named c.name
  token : Holds keys c.encryptedToken
  revision : 1 ≤ c.desiredRevision

def AllFit (db : Db) : Prop := ∀ id c, db.connectors.find? id = some c → Fit keys c

def Fitting : Op → Prop
  | .createConnector values => Named values.name ∧ Holds keys values.encryptedToken
  | .updateConnector _ values => (∀ name, values.name = some name → Named name) ∧
      ∀ token, values.encryptedToken = some token → Holds keys token
  | _ => True

def fitContract : Contract Plane Db Nat where
  exec := fun _ => HonestExec keys
  inv := AllFit keys
  rely := fun _ _ _ => True
  allowed := fun _ _ => Fitting keys

lemma lawful_fit : (fitContract keys).Lawful :=
  ⟨fun _ _ => trivial, fun _ _ _ _ _ _ => trivial⟩

/-! ### Names -/

lemma named_of_nameField {value : Option Json} {name : String}
    (h : nameField value = some name) : Named name := by
  unfold nameField stringField at h
  split at h
  · next s =>
    dsimp only at h
    split_ifs at h with hlength
    obtain rfl := Option.some.inj h
    refine ⟨?_, ?_⟩
    · intro hempty
      rw [hempty] at hlength
      exact hlength (.inl (by decide))
    · unfold trim
      rw [String.toList_ofList, trimBoth_trimBoth]
  · cases h

/-! ### What the statements do -/

variable {keys}

/-- A row is replaced by one that keeps what fits. -/
lemma fit_replaced {db db' : Db} {old : ConnectorRow} {f : ConnectorRow → ConnectorRow}
    {hf : ∀ c, (f c).id = c.id} (h : replaceConnector db old f hf = .ok db')
    (hold : db.connectors.find? old.id = some old) (hinv : AllFit keys db)
    (hfit : Fit keys (f old)) : AllFit keys db' := by
  obtain rfl := replaceConnector_ok h
  intro id c hc
  change (db.connectors.update (·.id = old.id) f hf).find? id = some c at hc
  rw [find?_replaced hf hold] at hc
  by_cases hid : id = old.id
  · rw [if_pos hid] at hc
    obtain rfl := Option.some.inj hc
    exact hfit
  · rw [if_neg hid] at hc
    exact hinv id c hc

lemma fit_created {db db' : Db} {id : String} {values : ConnectorValues}
    {x : Option ConnectorRow} (hid : connectorUUIDPattern id = true)
    (hvalues : Fitting keys (.createConnector values)) (hinv : AllFit keys db)
    (h : createConnector db id values = .ok (db', x)) : AllFit keys db' := by
  unfold createConnector at h
  split_ifs at h
  · cases h
    exact hinv
  · dsimp only at h
    rcases hins : insertConnector db (createdConnector db.now id values) with r | db₁
    · rw [hins] at h
      cases h
    · rw [hins] at h
      cases h
      obtain ⟨connectors, hinsert, rfl⟩ := insertConnector_ok hins
      intro k c hc
      change connectors.find? k = some c at hc
      rw [Table.find?_insert hinsert] at hc
      split_ifs at hc
      · obtain rfl := Option.some.inj hc
        exact ⟨hid, hvalues.1, hvalues.2, le_rfl⟩
      · exact hinv k c hc

lemma fit_changed {values : ConnectorChange} {id : String} {c : ConnectorRow} (now : Database.Time)
    (hvalues : Fitting keys (.updateConnector id values)) (hc : Fit keys c) :
    Fit keys (changeConnector now values c) := by
  have hname : Named (values.name.getD c.name) := by
    cases hgiven : values.name with
    | none => exact hc.name
    | some name => exact hvalues.1 name hgiven
  have htoken : Holds keys (values.encryptedToken.getD c.encryptedToken) := by
    cases hgiven : values.encryptedToken with
    | none => exact hc.token
    | some token => exact hvalues.2 token hgiven
  unfold changeConnector
  split
  · exact ⟨hc.id, hname, htoken, Nat.le_add_left ..⟩
  · exact ⟨hc.id, hname, htoken, Nat.le_add_left ..⟩

lemma fit_updated {db db' : Db} {id : String} {values : ConnectorChange}
    {x : Option ConnectorRow} (hvalues : Fitting keys (.updateConnector id values))
    (hinv : AllFit keys db) (h : updateConnector db id values = .ok (db', x)) :
    AllFit keys db' := by
  unfold updateConnector at h
  rcases hcur : db.connectors.find? id with _ | current
  · rw [hcur] at h
    cases h
    exact hinv
  rw [hcur] at h
  dsimp only at h
  split_ifs at h
  · cases h
    exact hinv
  · rcases hrep : replaceConnector db current (changeConnector db.now values)
      (changeConnector_id db.now values) with r | db₁
    · rw [hrep] at h
      cases h
    · rw [hrep] at h
      cases h
      exact fit_replaced hrep (Table.key_find? hcur ▸ hcur) hinv
        (fit_changed db.now hvalues (hinv id current hcur))

lemma fit_marked {db db' : Db} {id : String} {expected : Expectation} {values : IdentityValues}
    {x : Option ConnectorRow} (hinv : AllFit keys db)
    (h : markConnectorIdentity db id expected values = .ok (db', x)) : AllFit keys db' := by
  unfold markConnectorIdentity at h
  rcases hcur : (db.connectors.find? id).filter (asExpected expected) with _ | c
  · rw [hcur] at h
    cases h
    exact hinv
  rw [hcur] at h
  dsimp only at h
  have hfind := (Option.filter_eq_some_iff.mp hcur).1
  have hc := hinv id c hfind
  rcases hrep : replaceConnector db c (markedConnector db.now values) fun _ => rfl with r | db₁
  · rw [hrep] at h
    cases h
  · rw [hrep] at h
    cases h
    exact fit_replaced hrep (Table.key_find? hfind ▸ hfind) hinv
      ⟨hc.id, hc.name, hc.token, hc.revision⟩

lemma fit_run {db : Db} {o : Op} {ch : Choice} (hch : Honest keys ch o)
    (hfitting : Fitting keys o) (hinv : AllFit keys db) : AllFit keys (o.run ch db).2 := by
  have hstored : ∀ {α : Type} (x : Except Refusal (Db × α)),
      (∀ db' a, x = .ok (db', a) → AllFit keys db') → AllFit keys (stored db x).2 := by
    intro α x hx
    rcases x with r | ⟨db', a⟩
    · exact hinv
    · exact hx db' a rfl
  cases o with
  | markConnectorIdentity id expected values =>
    exact hstored _ fun _ _ h => fit_marked hinv h
  | createConnector values => exact hstored _ fun _ _ h => fit_created hch hfitting hinv h
  | updateConnector id values => exact hstored _ fun _ _ h => fit_updated hfitting hinv h
  | _ => exact hinv

lemma fit_exec {db db' : Db} {o : Op} {r : Except Failure o.Answer}
    (h : HonestExec keys db o r db') (hfitting : Fitting keys o) (hinv : AllFit keys db) :
    AllFit keys db' := by
  obtain ⟨ch, hch, ⟨-, rfl⟩ | ⟨e, -, rfl | rfl⟩⟩ := h
  · exact fit_run hch hfitting hinv
  · exact hinv
  · exact fit_run hch hfitting hinv

lemma fit_touched {db db' : Db} (h : Touches db db') (hinv : AllFit keys db) :
    AllFit keys db' := by
  obtain ⟨touched, h⟩ := h
  intro id c hc
  rw [h, Option.map_eq_some_iff] at hc
  obtain ⟨r, hr, rfl⟩ := hc
  have hfit := hinv id r hr
  exact ⟨hfit.id, hfit.name, hfit.token, hfit.revision⟩

/-! ### The programs -/

variable {i : Nat}

variable (keys i) in
/-- The handler keeps the rows fit, and returns with `ψ` or throws. -/
def Makes {α : Type} (ψ : α → Prop) (p : Handler α) : Prop :=
  Triple (fitContract keys) i (fun _ => True) p.run (Exits (fun a _ => ψ a) fun _ _ => True)

lemma triple_fitting {α : Type} {p : Prog Plane α} (hp : p.Only (Fitting keys)) :
    Triple (fitContract keys) i (fun _ => True) p fun _ _ => True := by
  refine triple_only hp stable_true (fun _ _ ho _ _ => ho) ?_
  intro s o r t ho hinv _ hexec
  exact ⟨fit_exec hexec ho hinv, fun _ _ => trivial, trivial⟩

lemma makes_fitting {α : Type} {ψ : α → Prop} {p : Handler α}
    (hp : p.run.Only (Fitting keys)) (hgives : Gives p ψ) : Makes keys i ψ p := by
  refine triple_conseq (triple_ends (triple_fitting hp) hgives) (fun _ _ h => h) ?_
  rintro (e | a) s - ⟨hr, -⟩
  · trivial
  · exact hr a rfl

lemma makes_return {α : Type} {ψ : α → Prop} {a : α} (h : ψ a) :
    Makes keys i ψ (pure a : Handler α) :=
  exits_pure stable_true fun _ _ _ => h

lemma makes_throw {α : Type} {ψ : α → Prop} (e : Failure) :
    Makes keys i ψ (throw e : Handler α) :=
  exits_throw stable_true fun _ _ _ => trivial

lemma makes_bind {α β : Type} {ψ : α → Prop} {χ : β → Prop} {p : Handler α}
    {f : α → Handler β} (hp : Makes keys i ψ p) (hf : ∀ a, ψ a → Makes keys i χ (f a)) :
    Makes keys i χ (p >>= f) :=
  exits_bind (lawful_fit keys) (fun _ => stable_true) hp fun a _ hinv ha => hf a ha _ hinv trivial

lemma fitting_of_reads {o : Op} (h : o.reads) : Fitting keys o := by
  cases o <;> trivial

lemma makes_read {o : Op} (h : o.reads) : Makes keys i (fun _ => True) (call o) :=
  makes_fitting (only_call (fitting_of_reads h)) fun _ _ _ => trivial

lemma makes_create {values : ConnectorValues} (hname : Named values.name)
    (htoken : Holds keys values.encryptedToken) :
    Makes keys i (fun _ => True) (call (.createConnector values)) :=
  makes_fitting (only_call ⟨hname, htoken⟩) fun _ _ _ => trivial

/-- What is encrypted can be decrypted. -/
lemma makes_encrypted (token : String) :
    Makes keys i (fun encrypted => keys.decrypt encrypted = some token)
      (call (.encrypt token)) := by
  refine triple_perform stable_true (fun r => ?_) (fun _ _ _ => trivial) ?_
  · cases r <;> exact stable_const _
  · intro s r t hinv _ hexec
    refine ⟨fit_exec hexec trivial hinv, fun _ _ => trivial, ?_⟩
    obtain ⟨ch, hch, ⟨rfl, -⟩ | ⟨e, rfl, -⟩⟩ := hexec
    · exact hch
    · trivial

lemma gives_of {α : Type} {ψ : α → Prop} (h : ∀ a, ψ a) (p : Handler α) : Gives p ψ := by
  unfold Gives
  generalize p.run = q
  induction q with
  | pure r => exact fun a _ => h a
  | op o k ih => exact ih

/-- Where an identity is made of a token, the token can be read. -/
lemma creation_read (token : String) (accountId tunnelId : Option String) :
    Makes keys i (fun _ => ∃ parsed, keys.parse token = some parsed)
      (connectorIdentityForCreation keys token accountId tunnelId) := by
  refine makes_fitting (creation_only (fun _ => fitting_of_reads) token accountId tunnelId) ?_
  cases hparse : keys.parse token with
  | none =>
    unfold connectorIdentityForCreation
    rw [hparse]
    exact gives_throw _
  | some parsed => exact gives_of (fun _ => ⟨parsed, rfl⟩) _

lemma verify_read (token : String) :
    Makes keys i (fun _ => ∃ parsed, keys.parse token = some parsed)
      (verifyConnectorToken keys token) := by
  unfold verifyConnectorToken
  cases hparse : keys.parse token with
  | none => exact makes_throw _
  | some parsed =>
    exact makes_fitting (verifyParsed_only (fun _ ho => fitting_of_reads (reads_of_asks ho)) parsed)
      (gives_of (fun _ => ⟨parsed, rfl⟩) _)

lemma makes_given {α : Type} {ψ : String → α → Prop} {token : Option String}
    {f : String → Handler α} (hf : ∀ t, Makes keys i (ψ t) (f t)) :
    Makes keys i (Option.Rel ψ token) (whenGiven token f) := by
  cases token with
  | none => exact makes_return .none
  | some t => exact makes_bind (hf t) fun a ha => makes_return (.some ha)

lemma post_makes {body : CreateBody} (hname : Named body.name) :
    Makes keys i (fun _ => True) (postConnector keys body) := by
  refine makes_bind (creation_read _ _ _) fun identity ⟨parsed, hparse⟩ => ?_
  refine makes_bind (makes_encrypted body.token) fun encrypted hencrypted => ?_
  refine makes_bind (makes_create hname ⟨_, parsed, hencrypted, hparse⟩) fun connector _ => ?_
  cases connector with
  | none => exact makes_throw _
  | some connector => exact makes_return trivial

lemma bootstrap_makes {connectorName : String} (hname : Named connectorName)
    (connectorToken accountId tunnelId agentId : String) :
    Makes keys i (fun _ => True)
      (bootstrapConnector keys connectorName connectorToken accountId tunnelId agentId) := by
  refine makes_bind (creation_read _ _ _) fun identity ⟨parsed, hparse⟩ => ?_
  split_ifs
  · exact makes_throw _
  · refine makes_bind (makes_encrypted connectorToken) fun encrypted hencrypted => ?_
    refine makes_bind (makes_create hname ⟨_, parsed, hencrypted, hparse⟩) fun connector _ => ?_
    cases connector with
    | none => exact makes_throw _
    | some connector => exact makes_return trivial

lemma dependency_makes (id : String) (body : PatchBody) :
    Makes keys i (fun _ => True) (dependencyEnabled id body) := by
  unfold dependencyEnabled
  split_ifs
  · exact makes_read rfl
  · exact makes_return trivial

lemma patch_makes {body : PatchBody} (hname : ∀ name, body.name = some name → Named name)
    (id : String) : Makes keys i (fun _ => True) (patchConnector keys id body) := by
  refine makes_bind (makes_read rfl) fun connectors _ => ?_
  split
  · exact makes_throw _
  refine makes_bind (dependency_makes id body) fun dependent _ => ?_
  split_ifs
  · exact makes_throw _
  refine makes_bind (makes_given verify_read) fun identity hidentity => ?_
  split_ifs
  · exact makes_throw _
  · exact makes_throw _
  refine makes_bind (makes_given makes_encrypted) fun given hgiven => ?_
  refine makes_bind (makes_fitting (only_call ⟨hname, ?_⟩) fun _ _ _ => trivial)
    fun connector _ => ?_
  · rintro encrypted rfl
    obtain ⟨token, htoken, hencrypted⟩ : ∃ token, body.token = some token ∧
        keys.decrypt encrypted = some token := by
      generalize body.token = given at hgiven
      cases hgiven with
      | some h => exact ⟨_, rfl, h⟩
    rw [htoken] at hidentity
    cases hidentity with
    | some hparse => exact ⟨token, _, hencrypted, hparse.choose_spec⟩
  · cases connector with
    | none => exact makes_throw _
    | some connector => exact makes_return trivial

lemma verify_fitting (id : String) : (verifyStoredConnector keys id).run.Only (Fitting keys) := by
  refine only_bind (only_call trivial) fun deployment => ?_
  cases deployment with
  | none => trivial
  | some d =>
    refine (verifyReadConnector_only id d).mono ?_
    rintro o (ho | ⟨values, rfl, -⟩)
    · exact fitting_of_reads ho
    · trivial

lemma verifyAll_fitting (cs : List ConnectorRow) :
    (verifyAll keys cs).run.Only (Fitting keys) := by
  induction cs with
  | nil => trivial
  | cons c cs ih => exact only_bind (verify_fitting c.id).lift fun _ => ih

lemma handler_fitting {q : Request} (h : Read q) :
    Triple (fitContract keys) i (fun _ => True) (q.handler keys).run fun _ _ => True := by
  have hdrop : ∀ {α : Type} {p : Handler α}, Makes keys i (fun _ => True) p →
      Triple (fitContract keys) i (fun _ => True)
        (p >>= fun _ => (pure () : Handler Unit)).run fun _ _ => True :=
    fun hp => triple_conseq (makes_bind hp fun _ _ => makes_return (ψ := fun _ => True) trivial)
      (fun _ _ h => h) fun _ _ _ _ => trivial
  cases q with
  | post body =>
    obtain ⟨⟨value, hname⟩, -⟩ := h
    exact hdrop (post_makes (named_of_nameField hname))
  | bootstrap connectorName connectorToken accountId tunnelId agentId =>
    obtain ⟨value, hname⟩ := h
    exact hdrop (bootstrap_makes (named_of_nameField hname) _ _ _ _)
  | patch id body =>
    refine hdrop (patch_makes (fun name hname => ?_) id)
    obtain ⟨value, hvalue⟩ := h.1 name hname
    exact named_of_nameField hvalue
  | verify id => exact triple_fitting (only_bind (verify_fitting id) fun _ => trivial)
  | reconcile =>
    exact triple_fitting (only_bind (only_call trivial) fun cs => verifyAll_fitting cs)

/-! ### Runs -/

lemma keeps_fit : Keeps (connectorSystem keys) (fitContract keys) fun _ _ _ => True where
  lawful := lawful_fit keys
  exec := fun _ _ _ _ _ h => h
  start := by
    rintro i a db p db' ⟨rfl, q, hread, rfl⟩ hinv -
    exact ⟨hinv, fun _ _ => trivial, handler_fitting hread db' hinv trivial⟩
  environment := fun _ _ _ h hinv => ⟨fit_touched h hinv, fun _ => trivial⟩
  crash := by
    rintro i db db' p ⟨rfl, rfl⟩ hinv
    exact ⟨hinv, fun _ _ => trivial, fun _ _ _ => trivial⟩

/-- In every run, every connector is fit. -/
lemma reach_fit {c : Config Plane Db Nat (Except Failure Unit)}
    (h : Reach (connectorSystem keys) Initial c) : AllFit keys c.state := by
  refine (reach_sound keeps_fit ?_ h).1
  rintro c ⟨hempty, hthreads⟩
  refine ⟨?_, fun i => ?_⟩
  · intro id r hr
    rw [hempty] at hr
    cases hr
  · rw [hthreads]
    exact fun _ _ _ => trivial

end GatewayControl.ConnectorRequests
