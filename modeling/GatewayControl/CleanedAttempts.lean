import GatewayControl.PublishCleanup
import GatewayControl.PublishedRecords

/-!
An attempt to publish as a whole, under its locks: when it fails it has cleaned up after
itself.
-/

namespace GatewayControl.CleanedAttempts

open Database Publishing Ingress Cloudflare Calls Reconcile Programs
open ControlPlane DnsOwnership DnsRuns FailedPublish PublishCleanup PublishedRecords

variable {i : Slot} {id : String} {s t : AttemptState}

lemma deployment_id {db : PublishDb} {d : Deployment}
    (h : getCloudflareDomainAccessDeployment db id = some d) : d.access.id = id :=
  Table.key_find? (DnsSafety.deployment_some h).1

lemma stable_cleaned : Stable (contract i id) () (Cleaned id) := by
  intro s t hi hi' hr h b d hb hd henabled
  obtain rfl := deployment_id hd
  have hbefore : s.before = some b := hr.before.symm.trans hb
  exact (stable_done hd s t hi hi' hr ⟨hbefore, h b d hbefore hd henabled⟩).cleaned

lemma Done.all {b : PlaneWorld} {d : Deployment}
    (hd : getCloudflareDomainAccessDeployment b.db id = some d) (h : Done b d s) :
    Cleaned id s := by
  intro b' d' hb' hd' _
  obtain rfl := Option.some.inj (h.before.symm.trans hb')
  obtain rfl := Option.some.inj (hd.symm.trans hd')
  exact h.cleaned

/-! ### The deployment -/

/-- What the attempt knows once it has read its deployment. -/
def Opened (b : PlaneWorld) (id : String) (s : AttemptState) : Prop :=
  s.before = some b ∧ ∀ d, getCloudflareDomainAccessDeployment b.db id = some d →
    d.access.enabled → Orderly b d ∧ Creating b d [] none s

lemma stable_opened {b : PlaneWorld} : Stable (contract i id) () (Opened b id) := by
  rintro s t hi hi' hr ⟨hb, h⟩
  refine ⟨hr.before.trans hb, fun d hd henabled => ⟨(h d hd henabled).1, ?_⟩⟩
  obtain rfl := deployment_id hd
  exact stable_creating hd s t hi hi' hr (h d hd henabled).2

lemma Opened.cleaned {b : PlaneWorld} (h : Opened b id s) : Cleaned id s := by
  intro b' d hb' hd henabled
  obtain rfl := Option.some.inj (h.1.symm.trans hb')
  exact (h.2 d hd henabled).2.done.cleaned

/-- Nothing has been read, and no tunnel has been written. -/
def Fresh (s : AttemptState) : Prop := s.before = none ∧ s.written = none

lemma stable_fresh : Stable (contract i id) () Fresh :=
  fun _ _ _ _ hr h => ⟨hr.before.trans h.1, hr.written.trans h.2⟩

lemma Fresh.cleaned (h : Fresh s) : Cleaned id s := by
  intro b d hb
  rw [h.1] at hb
  cases hb

lemma deployment_call : Triple (contract i id) () Fresh (call (.deployment id)).run
    (Exits (fun found s => ∃ b, getCloudflareDomainAccessDeployment b.db id = found ∧
      Opened b id s) fun _ => Cleaned id) := by
  refine exits_call rfl stable_fresh (fun _ => stable_exists fun _ =>
    (stable_const _).and stable_opened) (fun _ => stable_cleaned) ?_
  rintro s answer t hi ⟨hbefore, hwritten⟩ hcareful hexec
  have hopened : Opened s.world id t := by
    have hb : t.before = some s.world := by
      rw [hexec.before, AttemptState.found, hbefore, Option.none_or]
    have hworld : t.world = s.world := by
      obtain ⟨ch, ⟨-, heq⟩ | ⟨e, -, -, heq | heq⟩⟩ := hexec.cases
      · exact heq
      · exact heq
      · exact heq
    refine ⟨hb, fun d hd henabled => ?_⟩
    have ho := hcareful d hd henabled
    exact ⟨ho, creating_start hi ho hworld hb (hexec.written.trans hwritten)⟩
  cases answer with
  | error e => exact hopened.cleaned
  | ok found =>
    refine ⟨s.world, ?_, hopened⟩
    obtain ⟨ch, ⟨hanswer, -⟩ | ⟨e, hanswer, -⟩⟩ := hexec.cases
    · exact (Except.ok.inj hanswer).symm
    · cases hanswer

/-! ### The callback -/

/-- An access that is switched off is none of the theorem's business. -/
lemma disable_triple {b : PlaneWorld} {d : Deployment}
    (hd : getCloudflareDomainAccessDeployment b.db id = some d) (hoff : ¬d.access.enabled) :
    Triple (contract i id) () (Opened b id) (disable d).run
      (Exits (fun _ _ => True) fun _ => Cleaned id) := by
  have hP : Stable (contract i id) () fun s => s.before = some b :=
    fun _ _ _ _ hr h => hr.before.trans h
  have hkeep : Triple (contract i id) () (fun s => s.before = some b) (disable d).run
      fun _ s => s.before = some b := by
    refine triple_only disable_only hP (fun _ _ _ _ _ => trivial) ?_
    rintro s c answer t hc hi hb ⟨-, hexec⟩
    refine ⟨numbered_exec hc hexec hi, fun j hj => absurd rfl hj, ?_⟩
    rw [hexec.before, AttemptState.found.eq_def]
    split
    · rw [hb, Option.some_or]
    · exact hb
  refine triple_conseq hkeep (fun _ _ h => h.1) ?_
  rintro (e | saved) s - hb
  · intro b' d' hb' hd' henabled
    obtain rfl := Option.some.inj (hb.symm.trans hb')
    obtain rfl := Option.some.inj (hd.symm.trans hd')
    exact absurd henabled hoff
  · trivial

/-- A refusal is recorded, and that is all. -/
lemma refusal_triple {b : PlaneWorld} {d : Deployment} {status : AccessStatus}
    {lastError : Option String} {e : Failure} :
    Triple (contract i id) () (Opened b id)
      (do let _ ← outcome d status lastError; throw e : Handler AccessRow).run
      (Exits (fun _ _ => True) fun _ => Cleaned id) := by
  have hs : Stable (contract i id) () (Opened b id) := stable_opened
  have houtcome : Keeping (contract i id) () (Opened b id) (outcome d status lastError) := by
    refine keeping_bind lawful hs (keeping_look rfl hs) fun saved => ?_
    split
    · exact keeping_pure hs
    · exact keeping_throw hs
  exact exits_conseq (keeping_bind lawful hs houtcome fun _ => keeping_throw hs)
    (fun _ _ h => h) (fun _ _ _ _ => trivial) fun _ _ _ h => h.cleaned

lemma reconcileLocked_triple (requireHttpsObservation : Bool) :
    Triple (contract i id) () Fresh (reconcileLocked id requireHttpsObservation).run
      (Exits (fun _ _ => True) fun _ => Cleaned id) := by
  refine exits_bind lawful (fun _ => stable_cleaned) deployment_call fun found => ?_
  refine triple_exists fun b => triple_pre fun hfound => ?_
  cases found with
  | none => exact exits_throw stable_opened fun _ _ h => h.cleaned
  | some d =>
    dsimp only
    split
    · exact refusal_triple
    · split
      · exact refusal_triple
      · split
        · next henabled =>
          obtain rfl := deployment_id hfound
          refine triple_conseq (P := fun s => Orderly b d ∧ Creating b d [] none s)
            (Q := Exits (fun _ _ => True) fun _ => Cleaned d.access.id)
            (triple_pre fun ho => ?_) (fun _ _ h => h.2 d hfound henabled) fun _ _ _ h => h
          exact exits_conseq (enable_triple hfound henabled ho requireHttpsObservation)
            (fun _ _ h => h) (fun _ _ _ h => h) fun _ _ _ h => Done.all hfound h
        · next hoff => exact disable_triple hfound hoff

/-! ### The locks -/

lemma finallyRelease_triple {α : Type} {p : Handler α} {P : AttemptState → Prop}
    (locks : List LockKey)
    (hp : Triple (contract i id) () P p.run (Exits (fun _ _ => True) fun _ => Cleaned id)) :
    Triple (contract i id) () P (finallyRelease locks p).run
      (Exits (fun _ _ => True) fun _ => Cleaned id) := by
  have honly : (releaseAll locks).Only (isLook ·) := by
    induction locks with
    | nil => trivial
    | cons key rest ih => exact ⟨rfl, fun _ => ih⟩
  have hkeep {φ : AttemptState → Prop} (hφ : Stable (contract i id) () φ) :
      Triple (contract i id) () φ (releaseAll locks) fun _ => φ := by
    refine triple_only honly hφ (fun _ _ _ _ _ => trivial) ?_
    rintro s c answer t hc hi hs ⟨-, hexec⟩
    have hi' := numbered_exec (reconcile_of_look hc) hexec hi
    exact ⟨hi', fun j hj => absurd rfl hj, hφ s t hi hi' (look_others hc hexec) hs⟩
  refine triple_bind lawful hp fun answer => ?_
  cases answer with
  | ok a =>
    exact triple_bind lawful (hkeep stable_true) fun _ =>
      triple_pure stable_true fun _ _ _ => trivial
  | error e =>
    exact triple_bind lawful (hkeep stable_cleaned) fun _ =>
      triple_pure stable_cleaned fun _ _ h => h

lemma reconcileDomainAccess_triple (requireHttpsObservation : Bool) :
    Triple (contract i id) () Fresh (reconcileDomainAccess id requireHttpsObservation).run
      (Exits (fun _ _ => True) fun _ => Cleaned id) := by
  have hlook {c : Call} (hc : isLook c) : Triple (contract i id) () Fresh (call c).run
      (Exits (fun _ => Fresh) fun _ => Cleaned id) :=
    exits_conseq (keeping_look hc stable_fresh) (fun _ _ h => h) (fun _ _ _ h => h)
      fun _ _ _ h => h.cleaned
  have hlocked : Triple (contract i id) () Fresh (reconcileLocked id requireHttpsObservation).run
      (Exits (fun _ _ => True) fun _ => Cleaned id) := reconcileLocked_triple _
  refine finallyRelease_triple _ (exits_bind lawful (fun _ => stable_cleaned) (hlook rfl)
    fun _ => exits_bind lawful (fun _ => stable_cleaned) (hlook rfl) fun row => ?_)
  split
  · exact finallyRelease_triple _ (exits_bind lawful (fun _ => stable_cleaned) (hlook rfl)
      fun _ => hlocked)
  · exact hlocked

/-! ### Every run -/

def sampleAttempt : Config Plane AttemptState Unit (Except Failure AccessRow) where
  state := { world := (play sampleRender sampleChoice sampleCreation sampleStart).state.world }
  thread := fun _ => (reconcileDomainAccess "access" false).run

end GatewayControl.CleanedAttempts
