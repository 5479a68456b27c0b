import Mathlib.Logic.Basic
import Mathlib.Logic.Function.Basic

/-!
Effectful programs as trees, and what it means for one to be safe while other
programs interfere with it.

A program either returns or performs one effect and continues with its answer, so a
crash or a foreign step can fall between any two effects. Safety is rely/guarantee:
each effect is allowed where it is performed, keeps the shared invariant, and stays
within what every other program relies on.
-/

namespace GatewayControl.Programs

/-- The effects a program may perform, and the type of the answer to each. -/
structure Interface where
  Op : Type
  Res : Op → Type

inductive Prog (F : Interface) (α : Type) where
  | pure (a : α)
  | op (o : F.Op) (k : F.Res o → Prog F α)

variable {F : Interface} {σ ι α β : Type}

namespace Prog

protected def bind : Prog F α → (α → Prog F β) → Prog F β
  | .pure a, f => f a
  | .op o k, f => .op o fun r => (k r).bind f

instance : Monad (Prog F) where
  pure := .pure
  bind := Prog.bind

/-- Perform one effect and return its answer. -/
def perform (o : F.Op) : Prog F (F.Res o) := .op o .pure

/-- The effect a program performs next, unless it has returned. -/
def next : Prog F α → Option F.Op
  | .pure _ => none
  | .op o _ => some o

lemma next_eq_some {p : Prog F α} {o : F.Op} (h : p.next = some o) : ∃ k, p = .op o k := by
  cases p with
  | pure a => cases h
  | op o' k =>
      obtain rfl := Option.some.inj h
      exact ⟨k, rfl⟩

@[simp] lemma pure_eq (a : α) : (pure a : Prog F α) = .pure a := rfl

@[simp] lemma pure_bind' (a : α) (f : α → Prog F β) : (Prog.pure a >>= f) = f a := rfl

@[simp] lemma op_bind (o : F.Op) (k : F.Res o → Prog F α) (f : α → Prog F β) :
    (Prog.op o k >>= f) = .op o fun r => k r >>= f := rfl

@[simp] lemma perform_bind (o : F.Op) (f : F.Res o → Prog F β) :
    (perform o >>= f) = .op o f := rfl

end Prog

/-! ### Safety under interference -/

/-- What program `i` may assume and must keep: the effects' meaning, the shared
invariant, the foreign steps it must tolerate, and where each effect is allowed. -/
structure Contract (F : Interface) (σ ι : Type) where
  exec : ι → σ → (o : F.Op) → F.Res o → σ → Prop
  inv : σ → Prop
  rely : ι → σ → σ → Prop
  allowed : ι → σ → F.Op → Prop

/-- The relies compose, so that any number of foreign steps is one. -/
structure Contract.Lawful (C : Contract F σ ι) : Prop where
  refl : ∀ i s, C.rely i s s
  trans : ∀ i s t u, C.rely i s t → C.rely i t u → C.rely i s u

/-- Program `i`, resumed in state `s` or any later one, performs allowed effects only,
keeps the invariant and the other programs' relies, and returns with `Q`. -/
def Safe (C : Contract F σ ι) (i : ι) (Q : α → σ → Prop) : Prog F α → σ → Prop
  | .pure a, s => ∀ t, C.rely i s t → C.inv t → Q a t
  | .op o k, s => ∀ t, C.rely i s t → C.inv t → C.allowed i t o ∧
      ∀ r u, C.exec i t o r u →
        C.inv u ∧ (∀ j, j ≠ i → C.rely j t u) ∧ Safe C i Q (k r) u

/-- An assertion that foreign steps cannot falsify. -/
def Stable (C : Contract F σ ι) (i : ι) (P : σ → Prop) : Prop :=
  ∀ s t, C.inv s → C.inv t → C.rely i s t → P s → P t

/-- From every invariant state with `P`, the program is safe and returns with `Q`. -/
def Triple (C : Contract F σ ι) (i : ι) (P : σ → Prop) (p : Prog F α)
    (Q : α → σ → Prop) : Prop :=
  ∀ s, C.inv s → P s → Safe C i Q p s

variable {C : Contract F σ ι} {i : ι} {P P' : σ → Prop} {Q Q' : α → σ → Prop}

lemma stable_const (φ : Prop) : Stable C i fun _ => φ := fun _ _ _ _ _ h => h

lemma stable_true : Stable C i fun _ => True := stable_const True

lemma Stable.and (h : Stable C i P) (h' : Stable C i P') : Stable C i fun s => P s ∧ P' s :=
  fun s t hs ht hr hp => ⟨h s t hs ht hr hp.1, h' s t hs ht hr hp.2⟩

lemma Stable.or (h : Stable C i P) (h' : Stable C i P') : Stable C i fun s => P s ∨ P' s :=
  fun s t hs ht hr hp => hp.imp (h s t hs ht hr) (h' s t hs ht hr)

lemma Stable.imp {φ : Prop} (h : Stable C i P) : Stable C i fun s => φ → P s :=
  fun s t hs ht hr hp hφ => h s t hs ht hr (hp hφ)

lemma stable_exists {γ : Type} {P : γ → σ → Prop} (h : ∀ c, Stable C i (P c)) :
    Stable C i fun s => ∃ c, P c s :=
  fun s t hs ht hr hp => hp.imp fun c hc => h c s t hs ht hr hc

lemma safe_rely (hC : C.Lawful) {p : Prog F α} {s t : σ} (h : Safe C i Q p s)
    (hst : C.rely i s t) : Safe C i Q p t := by
  cases p with
  | pure a => exact fun u hu hi => h u (hC.trans _ _ _ _ hst hu) hi
  | op o k => exact fun u hu hi => h u (hC.trans _ _ _ _ hst hu) hi

lemma safe_of_rely (hC : C.Lawful) {p : Prog F α} {s : σ}
    (h : ∀ t, C.rely i s t → C.inv t → Safe C i Q p t) : Safe C i Q p s := by
  cases p with
  | pure a => exact fun t hst hi => h t hst hi t (hC.refl _ _) hi
  | op o k => exact fun t hst hi => h t hst hi t (hC.refl _ _) hi

lemma safe_mono {p : Prog F α} {s : σ} (h : Safe C i Q p s)
    (hQ : ∀ a t, C.inv t → Q a t → Q' a t) : Safe C i Q' p s := by
  induction p generalizing s with
  | pure a => exact fun t hst hi => hQ a t hi (h t hst hi)
  | op o k ih =>
      intro t hst hi
      refine ⟨(h t hst hi).1, fun r u hu => ?_⟩
      obtain ⟨hiu, hj, hk⟩ := (h t hst hi).2 r u hu
      exact ⟨hiu, hj, ih r hk⟩

lemma safe_bind (hC : C.Lawful) {p : Prog F α} {f : α → Prog F β} {R : β → σ → Prop}
    {s : σ} (h : Safe C i Q p s)
    (hf : ∀ a t, C.inv t → Q a t → Safe C i R (f a) t) : Safe C i R (p >>= f) s := by
  induction p generalizing s with
  | pure a => exact safe_of_rely hC fun t hst hi => hf a t hi (h t hst hi)
  | op o k ih =>
      intro t hst hi
      refine ⟨(h t hst hi).1, fun r u hu => ?_⟩
      obtain ⟨hiu, hj, hk⟩ := (h t hst hi).2 r u hu
      exact ⟨hiu, hj, ih r hk⟩

/-! ### Rules -/

lemma triple_pure {a : α} (hP : Stable C i P) (h : ∀ s, C.inv s → P s → Q a s) :
    Triple C i P (.pure a) Q :=
  fun s hi hs t hst ht => h t ht (hP s t hi ht hst hs)

lemma triple_op {o : F.Op} {k : F.Res o → Prog F α} {R : F.Res o → σ → Prop}
    (hP : Stable C i P) (hok : ∀ s, C.inv s → P s → C.allowed i s o)
    (hstep : ∀ s r t, C.inv s → P s → C.exec i s o r t →
      C.inv t ∧ (∀ j, j ≠ i → C.rely j s t) ∧ R r t)
    (hk : ∀ r, Triple C i (R r) (k r) Q) : Triple C i P (.op o k) Q := by
  intro s hi hs t hst ht
  have hPt := hP s t hi ht hst hs
  refine ⟨hok t ht hPt, fun r u hu => ?_⟩
  obtain ⟨hiu, hj, hR⟩ := hstep t r u ht hPt hu
  exact ⟨hiu, hj, hk r u hiu hR⟩

lemma triple_perform {o : F.Op} {R : F.Res o → σ → Prop} (hP : Stable C i P)
    (hR : ∀ r, Stable C i (R r)) (hok : ∀ s, C.inv s → P s → C.allowed i s o)
    (hstep : ∀ s r t, C.inv s → P s → C.exec i s o r t →
      C.inv t ∧ (∀ j, j ≠ i → C.rely j s t) ∧ R r t) :
    Triple C i P (Prog.perform o) R :=
  triple_op hP hok hstep fun r => triple_pure (hR r) fun _ _ h => h

lemma triple_bind (hC : C.Lawful) {p : Prog F α} {f : α → Prog F β} {R : β → σ → Prop}
    (hp : Triple C i P p Q) (hf : ∀ a, Triple C i (Q a) (f a) R) :
    Triple C i P (p >>= f) R :=
  fun s hi hs => safe_bind hC (hp s hi hs) fun a t ht hq => hf a t ht hq

lemma triple_conseq {p : Prog F α} (h : Triple C i P p Q)
    (hP : ∀ s, C.inv s → P' s → P s) (hQ : ∀ a s, C.inv s → Q a s → Q' a s) :
    Triple C i P' p Q' :=
  fun s hi hs => safe_mono (h s hi (hP s hi hs)) hQ

lemma triple_exists {γ : Type} {P : γ → σ → Prop} {p : Prog F α}
    (h : ∀ c, Triple C i (P c) p Q) : Triple C i (fun s => ∃ c, P c s) p Q :=
  fun s hi ⟨c, hc⟩ => h c s hi hc

/-- Every effect the program can come to perform satisfies `φ`. -/
def Prog.Only (φ : F.Op → Prop) : Prog F α → Prop
  | .pure _ => True
  | .op o k => φ o ∧ ∀ r, (k r).Only φ

lemma Prog.Only.bind {φ : F.Op → Prop} {p : Prog F α} {f : α → Prog F β}
    (hp : p.Only φ) (hf : ∀ a, (f a).Only φ) : (p >>= f).Only φ := by
  induction p with
  | pure a => exact hf a
  | op o k ih => exact ⟨hp.1, fun r => ih r (hp.2 r)⟩

lemma Prog.Only.mono {φ ψ : F.Op → Prop} {p : Prog F α} (hp : p.Only φ)
    (h : ∀ o, φ o → ψ o) : p.Only ψ := by
  induction p with
  | pure a => trivial
  | op o k ih => exact ⟨h o hp.1, fun r => ih r (hp.2 r)⟩

lemma Prog.only_true (p : Prog F α) : p.Only fun _ => True := by
  induction p with
  | pure a => trivial
  | op o k ih => exact ⟨trivial, ih⟩

/-- A program of effects that each keep an assertion keeps it. -/
lemma triple_only {φ : F.Op → Prop} {p : Prog F α} (hp : p.Only φ) (hP : Stable C i P)
    (hok : ∀ s o, φ o → C.inv s → P s → C.allowed i s o)
    (hstep : ∀ s o r t, φ o → C.inv s → P s → C.exec i s o r t →
      C.inv t ∧ (∀ j, j ≠ i → C.rely j s t) ∧ P t) :
    Triple C i P p fun _ => P := by
  induction p with
  | pure a => exact triple_pure hP fun _ _ h => h
  | op o k ih =>
      exact triple_op hP (fun s => hok s o hp.1) (fun s r t => hstep s o r t hp.1)
        fun r => ih r (hp.2 r)

/-- What no effect of a program falsifies is still so when the program returns. -/
lemma safe_frame {φ : F.Op → Prop} {p : Prog F α} {s : σ} (h : Safe C i Q p s)
    (hp : p.Only φ) (hP : Stable C i P)
    (hkeep : ∀ s o r t, φ o → C.inv s → P s → C.exec i s o r t → P t) (hi : C.inv s)
    (hs : P s) : Safe C i (fun a t => Q a t ∧ P t) p s := by
  induction p generalizing s with
  | pure a => exact fun t hst ht => ⟨h t hst ht, hP s t hi ht hst hs⟩
  | op o k ih =>
      intro t hst ht
      have htP := hP s t hi ht hst hs
      refine ⟨(h t hst ht).1, fun r u hu => ?_⟩
      obtain ⟨hiu, hj, hk⟩ := (h t hst ht).2 r u hu
      exact ⟨hiu, hj, ih r hk (hp.2 r) hiu (hkeep t o r u hp.1 ht htP hu)⟩

lemma triple_frame {φ : F.Op → Prop} {p : Prog F α} (h : Triple C i P p Q) (hp : p.Only φ)
    (hP' : Stable C i P')
    (hkeep : ∀ s o r t, φ o → C.inv s → P' s → C.exec i s o r t → P' t) :
    Triple C i (fun s => P s ∧ P' s) p fun a s => Q a s ∧ P' s :=
  fun s hi hs => safe_frame (h s hi hs.1) hp hP' hkeep hi hs.2

/-- Every value the program can return satisfies `ψ`. -/
def Prog.Ends (ψ : α → Prop) : Prog F α → Prop
  | .pure a => ψ a
  | .op _ k => ∀ r, (k r).Ends ψ

lemma Prog.Ends.bind {ψ : α → Prop} {χ : β → Prop} {p : Prog F α} {f : α → Prog F β}
    (hp : p.Ends ψ) (hf : ∀ a, ψ a → (f a).Ends χ) : (p >>= f).Ends χ := by
  induction p with
  | pure a => exact hf a hp
  | op o k ih => exact fun r => ih r (hp r)

lemma Prog.Ends.mono {ψ χ : α → Prop} {p : Prog F α} (hp : p.Ends ψ) (h : ∀ a, ψ a → χ a) :
    p.Ends χ := by
  induction p with
  | pure a => exact h a hp
  | op o k ih => exact fun r => ih r (hp r)

lemma Prog.ends_true (p : Prog F α) : p.Ends fun _ => True := by
  induction p with
  | pure a => trivial
  | op o k ih => exact ih

lemma safe_ends {ψ : α → Prop} {p : Prog F α} {s : σ} (h : Safe C i Q p s)
    (hp : p.Ends ψ) : Safe C i (fun a t => ψ a ∧ Q a t) p s := by
  induction p generalizing s with
  | pure a => exact fun t hst hi => ⟨hp, h t hst hi⟩
  | op o k ih =>
      intro t hst hi
      refine ⟨(h t hst hi).1, fun r u hu => ?_⟩
      obtain ⟨hiu, hj, hk⟩ := (h t hst hi).2 r u hu
      exact ⟨hiu, hj, ih r hk (hp r)⟩

/-- What the values alone say may be added to what a program promises. -/
lemma triple_ends {ψ : α → Prop} {p : Prog F α} (h : Triple C i P p Q) (hp : p.Ends ψ) :
    Triple C i P p fun a s => ψ a ∧ Q a s :=
  fun s hi hs => safe_ends (h s hi hs) hp

/-! ### Programs that can fail -/

lemma only_bind {ε : Type} {φ : F.Op → Prop} {p : ExceptT ε (Prog F) α}
    {f : α → ExceptT ε (Prog F) β} (hp : p.run.Only φ) (hf : ∀ a, (f a).run.Only φ) :
    (p >>= f).run.Only φ := by
  refine hp.bind fun r => ?_
  cases r with
  | ok a => exact hf a
  | error e => trivial

lemma only_catch {ε : Type} {φ : F.Op → Prop} {p : ExceptT ε (Prog F) α}
    {f : ε → ExceptT ε (Prog F) α} (hp : p.run.Only φ) (hf : ∀ e, (f e).run.Only φ) :
    (tryCatch p f).run.Only φ := by
  refine hp.bind fun r => ?_
  cases r with
  | ok a => trivial
  | error e => exact hf e

lemma Prog.Only.lift {ε : Type} {φ : F.Op → Prop} {p : Prog F α} (hp : p.Only φ) :
    (ExceptT.lift p : ExceptT ε (Prog F) α).run.Only φ :=
  hp.bind fun _ => trivial

/-- A program that can stop early with an error text. -/
abbrev Fallible (F : Interface) (α : Type) := ExceptT String (Prog F) α

/-- What a fallible program promises: one assertion for each way out. -/
def Outcome (K : α → σ → Prop) (X : String → σ → Prop) : Except String α → σ → Prop
  | .ok a => K a
  | .error e => X e

variable {K : α → σ → Prop} {X : String → σ → Prop}

lemma triple_fallible_pure {a : α} (hP : Stable C i P) (h : ∀ s, C.inv s → P s → K a s) :
    Triple C i P (pure a : Fallible F α).run (Outcome K X) :=
  triple_pure hP h

lemma triple_fallible_throw {e : String} (hP : Stable C i P)
    (h : ∀ s, C.inv s → P s → X e s) :
    Triple C i P (throw e : Fallible F α).run (Outcome K X) :=
  triple_pure hP h

/-- Sequencing: an error of the first part is an error of the whole. -/
lemma triple_fallible_bind (hC : C.Lawful) {p : Fallible F α} {f : α → Fallible F β}
    {K' : β → σ → Prop} (herr : ∀ e, Stable C i (X e))
    (hp : Triple C i P p.run (Outcome K X))
    (hf : ∀ a, Triple C i (K a) (f a).run (Outcome K' X)) :
    Triple C i P (p >>= f).run (Outcome K' X) := by
  refine triple_bind hC hp fun r => ?_
  cases r with
  | ok a => exact hf a
  | error e => exact triple_pure (herr e) fun _ _ h => h

/-- A program that cannot fail, inside one that can. -/
lemma triple_lift (hC : C.Lawful) {p : Prog F α} (hok : ∀ a, Stable C i (K a))
    (hp : Triple C i P p K) :
    Triple C i P (ExceptT.lift p : Fallible F α).run (Outcome K X) :=
  triple_bind hC hp fun a => triple_pure (hok a) fun _ _ h => h

/-- What a fallible program's values satisfy, when it returns one. -/
def Fallible.Ends (ψ : α → Prop) (p : Fallible F α) : Prop :=
  p.run.Ends fun r => ∀ a, r = .ok a → ψ a

lemma Fallible.Ends.bind {ψ : α → Prop} {χ : β → Prop} {p : Fallible F α}
    {f : α → Fallible F β} (hp : p.Ends ψ) (hf : ∀ a, ψ a → (f a).Ends χ) :
    (p >>= f).Ends χ := by
  refine Prog.Ends.bind hp fun r hr => ?_
  cases r with
  | ok a => exact hf a (hr a rfl)
  | error e => rintro a ⟨⟩

lemma Fallible.ends_pure {ψ : α → Prop} {a : α} (h : ψ a) :
    (pure a : Fallible F α).Ends ψ := by
  rintro _ ⟨⟩
  exact h

lemma Fallible.ends_throw {ψ : α → Prop} (e : String) :
    (throw e : Fallible F α).Ends ψ := by
  rintro _ ⟨⟩

lemma Fallible.ends_true (p : Fallible F α) : p.Ends fun _ => True := by
  have hp := Prog.ends_true p.run
  unfold Fallible.Ends
  generalize p.run = q at hp
  induction q with
  | pure a => exact fun _ _ => trivial
  | op o k ih => exact fun r => ih r (hp r)

/-! ### Errors that end everything

The rules for a fallible program whose errors need nothing said of them. -/

/-- From `P`, the program returns a value with `K`, or any error. -/
abbrev Tri (C : Contract F σ ι) (i : ι) (P : σ → Prop) (p : Fallible F α)
    (K : α → σ → Prop) : Prop :=
  Triple C i P p.run (Outcome K fun _ _ => True)

lemma tri_pure {a : α} (hP : Stable C i P) (h : ∀ s, C.inv s → P s → K a s) :
    Tri C i P (pure a) K :=
  triple_pure hP h

lemma tri_throw {e : String} (hP : Stable C i P) : Tri C i P (throw e) K :=
  triple_pure hP fun _ _ _ => trivial

lemma tri_bind (hC : C.Lawful) {p : Fallible F α} {f : α → Fallible F β}
    {K' : β → σ → Prop} (hp : Tri C i P p K) (hf : ∀ a, Tri C i (K a) (f a) K') :
    Tri C i P (p >>= f) K' :=
  triple_fallible_bind hC (fun _ => stable_true) hp hf

lemma tri_lift (hC : C.Lawful) {p : Prog F α} (hok : ∀ a, Stable C i (K a))
    (hp : Triple C i P p K) : Tri C i P (ExceptT.lift p) K :=
  triple_lift hC hok hp

lemma tri_conseq {p : Fallible F α} {K' : α → σ → Prop} (h : Tri C i P p K)
    (hP : ∀ s, C.inv s → P' s → P s) (hok : ∀ a s, C.inv s → K a s → K' a s) :
    Tri C i P' p K' := by
  refine triple_conseq h hP fun r s hi hr => ?_
  cases r with
  | ok a => exact hok a s hi hr
  | error e => trivial

lemma tri_ends {ψ : α → Prop} {p : Fallible F α} (h : Tri C i P p K) (hp : p.Ends ψ) :
    Tri C i P p fun a s => ψ a ∧ K a s := by
  refine triple_conseq (triple_ends h hp) (fun _ _ h => h) ?_
  rintro (e | a) s - ⟨hr, h⟩
  · trivial
  · exact ⟨hr a rfl, h⟩

lemma tri_frame {φ : F.Op → Prop} {p : Fallible F α} (h : Tri C i P p K) (hp : p.run.Only φ)
    (hP' : Stable C i P')
    (hkeep : ∀ s o r t, φ o → C.inv s → P' s → C.exec i s o r t → P' t) :
    Tri C i (fun s => P s ∧ P' s) p fun a s => K a s ∧ P' s := by
  refine triple_conseq (triple_frame h hp hP' hkeep) (fun _ _ h => h) ?_
  rintro (e | a) s - ⟨hr, h⟩
  · trivial
  · exact ⟨hr, h⟩

/-- Handling the error of a program instead of passing it on. -/
lemma tri_catch (hC : C.Lawful) {p : Fallible F α} {f : Except String α → Fallible F β}
    {K' : β → σ → Prop} (hok : ∀ a, Stable C i (K a)) (hp : Tri C i P p K)
    (hf : ∀ a, Tri C i (K a) (f (.ok a)) K')
    (he : ∀ e, Tri C i (fun _ => True) (f (.error e)) K') :
    Tri C i P (ExceptT.lift p.run >>= f) K' := by
  refine tri_bind hC (K := Outcome K fun _ _ => True) (tri_lift hC ?_ hp) ?_
  · rintro (_ | a)
    · exact stable_true
    · exact hok a
  · rintro (e | a)
    · exact he e
    · exact hf a

/-! ### Programs that throw

The rules for errors of any type, with an assertion for each error. -/

/-- What holds on each way out: one assertion for the values, one for the errors. -/
def Exits {ε : Type} (K : α → σ → Prop) (X : ε → σ → Prop) : Except ε α → σ → Prop
  | .ok a => K a
  | .error e => X e

section Throwing

variable {ε : Type} {X X' : ε → σ → Prop}

lemma exits_pure {a : α} (hP : Stable C i P) (h : ∀ s, C.inv s → P s → K a s) :
    Triple C i P (pure a : ExceptT ε (Prog F) α).run (Exits K X) :=
  triple_pure hP h

lemma exits_throw {e : ε} (hP : Stable C i P) (h : ∀ s, C.inv s → P s → X e s) :
    Triple C i P (throw e : ExceptT ε (Prog F) α).run (Exits K X) :=
  triple_pure hP h

lemma exits_bind (hC : C.Lawful) {p : ExceptT ε (Prog F) α} {f : α → ExceptT ε (Prog F) β}
    {K' : β → σ → Prop} (herr : ∀ e, Stable C i (X e)) (hp : Triple C i P p.run (Exits K X))
    (hf : ∀ a, Triple C i (K a) (f a).run (Exits K' X)) :
    Triple C i P (p >>= f).run (Exits K' X) := by
  refine triple_bind hC hp fun r => ?_
  cases r with
  | ok a => exact hf a
  | error e => exact triple_pure (herr e) fun _ _ h => h

lemma exits_catch (hC : C.Lawful) {p : ExceptT ε (Prog F) α} {f : ε → ExceptT ε (Prog F) α}
    (hok : ∀ a, Stable C i (K a)) (hp : Triple C i P p.run (Exits K X))
    (hf : ∀ e, Triple C i (X e) (f e).run (Exits K X')) :
    Triple C i P (tryCatch p f).run (Exits K X') := by
  refine triple_bind hC hp fun r => ?_
  cases r with
  | ok a => exact triple_pure (hok a) fun _ _ h => h
  | error e => exact hf e

lemma exits_conseq {p : ExceptT ε (Prog F) α} {K' : α → σ → Prop}
    (h : Triple C i P p.run (Exits K X)) (hP : ∀ s, C.inv s → P' s → P s)
    (hok : ∀ a s, C.inv s → K a s → K' a s) (herr : ∀ e s, C.inv s → X e s → X' e s) :
    Triple C i P' p.run (Exits K' X') := by
  refine triple_conseq h hP fun r s hi hr => ?_
  cases r with
  | ok a => exact hok a s hi hr
  | error e => exact herr e s hi hr

/-- A program that cannot throw, inside one that can. -/
lemma exits_lift (hC : C.Lawful) {p : Prog F α} (hok : ∀ a, Stable C i (K a))
    (hp : Triple C i P p K) :
    Triple C i P (ExceptT.lift p : ExceptT ε (Prog F) α).run (Exits K X) :=
  triple_bind hC hp fun a => triple_pure (hok a) fun _ _ h => h

/-- An error is passed on in another form. -/
lemma exits_adapt {ε' : Type} {Y : ε' → σ → Prop} (hC : C.Lawful)
    (hok : ∀ a, Stable C i (K a)) (herr : ∀ e, Stable C i (X e)) {f : ε → ε'}
    {p : ExceptT ε (Prog F) α} (hp : Triple C i P p.run (Exits K X))
    (h : ∀ e s, C.inv s → X e s → Y (f e) s) :
    Triple C i P (p.adapt f).run (Exits K Y) := by
  refine triple_bind hC hp fun r => ?_
  cases r with
  | ok a => exact triple_pure (hok a) fun _ _ h => h
  | error e => exact triple_pure (herr e) (h e)

/-- A program that keeps an assertion on every way out. -/
abbrev Keeping (C : Contract F σ ι) (i : ι) (P : σ → Prop) (p : ExceptT ε (Prog F) α) : Prop :=
  Triple C i P p.run (Exits (fun _ => P) fun _ => P)

lemma keeping_pure {a : α} (hP : Stable C i P) :
    Keeping C i P (pure a : ExceptT ε (Prog F) α) :=
  exits_pure hP fun _ _ h => h

lemma keeping_throw {e : ε} (hP : Stable C i P) :
    Keeping C i P (throw e : ExceptT ε (Prog F) α) :=
  exits_throw hP fun _ _ h => h

lemma keeping_bind (hC : C.Lawful) {p : ExceptT ε (Prog F) α}
    {f : α → ExceptT ε (Prog F) β} (hP : Stable C i P) (hp : Keeping C i P p)
    (hf : ∀ a, Keeping C i P (f a)) : Keeping C i P (p >>= f) :=
  exits_bind hC (fun _ => hP) hp hf

lemma keeping_ofExcept {x : Except ε α} (hP : Stable C i P) :
    Keeping C i P (ofExcept x : ExceptT ε (Prog F) α) := by
  cases x with
  | ok a => exact keeping_pure hP
  | error e => exact keeping_throw hP

/-- Every way out of the program is an error. -/
def Throws (p : ExceptT ε (Prog F) α) : Prop := p.run.Ends fun r => ∃ e, r = .error e

lemma throws_throw (e : ε) : Throws (throw e : ExceptT ε (Prog F) α) := ⟨e, rfl⟩

lemma Throws.after {p : ExceptT ε (Prog F) α} {f : α → ExceptT ε (Prog F) β}
    (hf : ∀ a, Throws (f a)) : Throws (p >>= f) := by
  refine Prog.Ends.bind (Prog.ends_true p.run) fun r _ => ?_
  cases r with
  | ok a => exact hf a
  | error e => exact ⟨e, rfl⟩

/-- What the values of the last part satisfy, and every error does. -/
lemma ends_after {χ : Except ε β → Prop} {p : ExceptT ε (Prog F) α}
    {f : α → ExceptT ε (Prog F) β} (herr : ∀ e, χ (.error e)) (hf : ∀ a, (f a).run.Ends χ) :
    (p >>= f).run.Ends χ := by
  refine Prog.Ends.bind (Prog.ends_true p.run) fun r _ => ?_
  cases r with
  | ok a => exact hf a
  | error e => exact herr e

lemma exits_throws {p : ExceptT ε (Prog F) α} {K' : α → σ → Prop} (hp : Throws p)
    (h : Triple C i P p.run (Exits K X)) : Triple C i P p.run (Exits K' X) := by
  refine triple_conseq (triple_ends h hp) (fun _ _ h => h) ?_
  rintro _ s - ⟨⟨e, rfl⟩, h⟩
  exact h

end Throwing

/-- A pure fact carried beside an assertion. -/
lemma triple_pre {φ : Prop} {p : Prog F α} (h : φ → Triple C i P p Q) :
    Triple C i (fun s => φ ∧ P s) p Q :=
  fun s hi ⟨hφ, hs⟩ => h hφ s hi hs

/-! ### Contracts about a part of the state -/

/-- A contract read on larger states. -/
def Contract.on {τ : Type} (C : Contract F τ ι) (f : σ → τ) : Contract F σ ι where
  exec := fun i s o r t => C.exec i (f s) o r (f t)
  inv := fun s => C.inv (f s)
  rely := fun i s t => C.rely i (f s) (f t)
  allowed := fun i s o => C.allowed i (f s) o

lemma Contract.Lawful.on {τ : Type} {C : Contract F τ ι} (h : C.Lawful) (f : σ → τ) :
    (C.on f).Lawful :=
  ⟨fun i s => h.refl i (f s), fun i s t u => h.trans i (f s) (f t) (f u)⟩

lemma safe_on {τ : Type} {C : Contract F τ ι} {Q : α → τ → Prop} (f : σ → τ) {p : Prog F α}
    {s : σ} (h : Safe C i Q p (f s)) : Safe (C.on f) i (fun a t => Q a (f t)) p s := by
  induction p generalizing s with
  | pure a => exact fun t hst hi => h (f t) hst hi
  | op o k ih =>
      intro t hst hi
      refine ⟨(h (f t) hst hi).1, fun r u hu => ?_⟩
      obtain ⟨hiu, hj, hk⟩ := (h (f t) hst hi).2 r (f u) hu
      exact ⟨hiu, hj, ih r hk⟩

/-- A program that is safe for a part of the state is safe for the whole, with an assertion that
its effects keep, when the rest of the invariant follows for each effect. -/
lemma safe_part {τ : Type} {D : Contract F τ ι} {Q : α → τ → Prop} (f : σ → τ)
    (hinv : ∀ s, C.inv s → D.inv (f s)) (hrely : ∀ s t, C.rely i s t → D.rely i (f s) (f t))
    (hP : Stable C i P) (hok : ∀ s o, C.inv s → P s → D.allowed i (f s) o → C.allowed i s o)
    (hstep : ∀ s o r t, C.inv s → P s → C.exec i s o r t → D.exec i (f s) o r (f t) ∧
      (D.inv (f t) → C.inv t ∧ (∀ j, j ≠ i → C.rely j s t) ∧ P t))
    {p : Prog F α} {s : σ} (h : Safe D i Q p (f s)) (hi : C.inv s) (hs : P s) :
    Safe C i (fun a t => Q a (f t) ∧ P t) p s := by
  induction p generalizing s with
  | pure a => exact fun t hst ht => ⟨h (f t) (hrely s t hst) (hinv t ht), hP s t hi ht hst hs⟩
  | op o k ih =>
      intro t hst ht
      have htP := hP s t hi ht hst hs
      obtain ⟨hallowed, hafter⟩ := h (f t) (hrely s t hst) (hinv t ht)
      refine ⟨hok t o ht htP hallowed, fun r u hu => ?_⟩
      obtain ⟨hexec, hkeep⟩ := hstep t o r u ht htP hu
      obtain ⟨hiu, -, hk⟩ := hafter r (f u) hexec
      obtain ⟨hu, hj, huP⟩ := hkeep hiu
      exact ⟨hu, hj, ih r hk hu huP⟩

/-! ### Programs of a larger interface -/

/-- A program whose effects are among those of a larger interface. -/
def Prog.embed {G : Interface} (f : F.Op → G.Op) (back : ∀ o, G.Res (f o) → F.Res o) :
    Prog F α → Prog G α
  | .pure a => .pure a
  | .op o k => .op (f o) fun r => (k (back o r)).embed f back

lemma Prog.Only.embed {G : Interface} {f : F.Op → G.Op} {back : ∀ o, G.Res (f o) → F.Res o}
    {φ : G.Op → Prop} {p : Prog F α} (hp : p.Only fun o => φ (f o)) :
    (p.embed f back).Only φ := by
  induction p with
  | pure a => trivial
  | op o k ih => exact ⟨hp.1, fun r => ih (back o r) (hp.2 (back o r))⟩

/-- A contract as the programs of a smaller interface meet it. -/
def Contract.under {G : Interface} (C : Contract G σ ι) (f : F.Op → G.Op)
    (back : ∀ o, G.Res (f o) → F.Res o) : Contract F σ ι where
  exec := fun i s o r t => ∃ r', back o r' = r ∧ C.exec i s (f o) r' t
  inv := C.inv
  rely := C.rely
  allowed := fun i s o => C.allowed i s (f o)

lemma Contract.Lawful.under {G : Interface} {C : Contract G σ ι} (h : C.Lawful)
    (f : F.Op → G.Op) (back : ∀ o, G.Res (f o) → F.Res o) : (C.under f back).Lawful :=
  ⟨h.refl, h.trans⟩

lemma safe_embed {G : Interface} {C : Contract G σ ι} {f : F.Op → G.Op}
    {back : ∀ o, G.Res (f o) → F.Res o} {p : Prog F α} {s : σ}
    (h : Safe (C.under f back) i Q p s) : Safe C i Q (p.embed f back) s := by
  induction p generalizing s with
  | pure a => exact h
  | op o k ih =>
      intro t hst hi
      refine ⟨(h t hst hi).1, fun r u hu => ?_⟩
      obtain ⟨hiu, hj, hk⟩ := (h t hst hi).2 (back o r) u ⟨r, rfl, hu⟩
      exact ⟨hiu, hj, ih (back o r) hk⟩

lemma triple_embed {G : Interface} {C : Contract G σ ι} {f : F.Op → G.Op}
    {back : ∀ o, G.Res (f o) → F.Res o} {p : Prog F α}
    (h : Triple (C.under f back) i P p Q) : Triple C i P (p.embed f back) Q :=
  fun s hi hp => safe_embed (h s hi hp)

/-! ### Systems of programs -/

/-- Programs `i : ι` over one shared state. `start` is what follows a program that has
returned, `environment` the steps no program takes, and `crash` how a program can be cut
short at any effect and what runs in its place. -/
structure System (F : Interface) (σ ι α Act : Type) where
  exec : ι → σ → (o : F.Op) → F.Res o → σ → Prop
  start : ι → α → σ → Prog F α → σ → Prop
  environment : Act → σ → σ → Prop
  crash : ι → σ → σ → Prog F α → Prop

/-- A shared state with what each program has still to do. -/
structure Config (F : Interface) (σ ι α : Type) where
  state : σ
  thread : ι → Prog F α

variable {Act : Type} [DecidableEq ι]

inductive Step (S : System F σ ι α Act) : Config F σ ι α → Config F σ ι α → Prop where
  | perform {s t : σ} {th : ι → Prog F α} (i : ι) {o : F.Op} {k : F.Res o → Prog F α}
      (r : F.Res o) (at_op : th i = .op o k) (run : S.exec i s o r t) :
      Step S ⟨s, th⟩ ⟨t, Function.update th i (k r)⟩
  | start {s t : σ} {th : ι → Prog F α} (i : ι) {a : α} {p : Prog F α}
      (at_end : th i = .pure a) (next : S.start i a s p t) :
      Step S ⟨s, th⟩ ⟨t, Function.update th i p⟩
  | environment {s t : σ} {th : ι → Prog F α} (a : Act) (run : S.environment a s t) :
      Step S ⟨s, th⟩ ⟨t, th⟩
  | crash {s t : σ} {th : ι → Prog F α} (i : ι) {p : Prog F α} (run : S.crash i s t p) :
      Step S ⟨s, th⟩ ⟨t, Function.update th i p⟩

/-- The configurations some run from `init` passes through. -/
inductive Reach (S : System F σ ι α Act) (init : Config F σ ι α → Prop) :
    Config F σ ι α → Prop where
  | init {c : Config F σ ι α} (h : init c) : Reach S init c
  | step {c d : Config F σ ι α} (h : Reach S init c) (hs : Step S c d) : Reach S init d

/-- The same programs, in the runs whose effects and foreign steps all meet a
condition. -/
def System.within (S : System F σ ι α Act)
    (effect : ι → σ → (o : F.Op) → F.Res o → Prop) (foreign : Act → σ → Prop) :
    System F σ ι α Act where
  exec := fun i s o r t => effect i s o r ∧ S.exec i s o r t
  start := S.start
  environment := fun a s t => foreign a s ∧ S.environment a s t
  crash := S.crash

/-- A condition that always holds leaves out no run. -/
lemma Reach.within {S : System F σ ι α Act} {init : Config F σ ι α → Prop}
    {c : Config F σ ι α} {effect : ι → σ → (o : F.Op) → F.Res o → Prop}
    {foreign : Act → σ → Prop} (h : Reach S init c) (heffect : ∀ i s o r, effect i s o r)
    (hforeign : ∀ a s, foreign a s) : Reach (S.within effect foreign) init c := by
  induction h with
  | init h => exact .init h
  | step _ hs ih =>
      refine ih.step ?_
      cases hs with
      | perform i r at_op run => exact .perform i r at_op ⟨heffect _ _ _ _, run⟩
      | start i at_end next => exact .start i at_end next
      | environment a run => exact .environment a ⟨hforeign _ _, run⟩
      | crash i run => exact .crash i run

/-- Run `n` effects of a program, with given answers. -/
def Prog.runFor (h : σ → (o : F.Op) → F.Res o × σ) : Nat → Prog F α → σ → Prog F α × σ
  | 0, p, s => (p, s)
  | _ + 1, .pure a, s => (.pure a, s)
  | n + 1, .op o k, s => (k (h s o).1).runFor h n (h s o).2

omit [DecidableEq ι] in
/-- What no effect changes, a run does not change. -/
lemma Prog.runFor_frame {τ : Type} {h : σ → (o : F.Op) → F.Res o × σ} (f : σ → τ)
    (hf : ∀ s o, f (h s o).2 = f s) (n : Nat) (p : Prog F α) (s : σ) :
    f (p.runFor h n s).2 = f s := by
  induction n generalizing p s with
  | zero => rfl
  | succ n ih =>
      cases p with
      | pure a => rfl
      | op o k => exact (ih _ _).trans (hf s o)

/-- Effects answered as the system may answer them make a run. -/
lemma reach_runFor {S : System F σ ι α Act} {init : Config F σ ι α → Prop}
    {h : σ → (o : F.Op) → F.Res o × σ} {i : ι}
    (hh : ∀ s o, S.exec i s o (h s o).1 (h s o).2) (n : Nat) {s : σ} {th : ι → Prog F α}
    (hr : Reach S init ⟨s, th⟩) :
    Reach S init ⟨((th i).runFor h n s).2,
      Function.update th i ((th i).runFor h n s).1⟩ := by
  induction n generalizing s th with
  | zero => simpa [Prog.runFor] using hr
  | succ n ih =>
      cases hth : th i with
      | pure a => simpa [Prog.runFor, ← hth] using hr
      | op o k =>
          have hstep := hr.step (.perform i (h s o).1 hth (hh s o))
          simpa [Prog.runFor] using ih hstep

/-! ### Programs whose effects are all answered -/

/-- Run a program to its end. -/
def Prog.outcome (h : σ → (o : F.Op) → F.Res o × σ) : Prog F α → σ → α × σ
  | .pure a, s => (a, s)
  | .op o k, s => (k (h s o).1).outcome h (h s o).2

/-- The states after its effects, in order. -/
def Prog.states (h : σ → (o : F.Op) → F.Res o × σ) : Prog F α → σ → List σ
  | .pure _, _ => []
  | .op o k, s => (h s o).2 :: (k (h s o).1).states h (h s o).2

lemma Prog.outcome_bind (h : σ → (o : F.Op) → F.Res o × σ) (p : Prog F α) (f : α → Prog F β)
    (s : σ) : (p >>= f).outcome h s = (f (p.outcome h s).1).outcome h (p.outcome h s).2 := by
  induction p generalizing s with
  | pure a => rfl
  | op o k ih => exact ih _ _

lemma Prog.states_bind (h : σ → (o : F.Op) → F.Res o × σ) (p : Prog F α) (f : α → Prog F β)
    (s : σ) : (p >>= f).states h s =
      p.states h s ++ (f (p.outcome h s).1).states h (p.outcome h s).2 := by
  induction p generalizing s with
  | pure a => rfl
  | op o k ih => exact congrArg ((h s o).2 :: ·) (ih _ _)

/-- What all effects of a program keep holds of every state it passes through. -/
lemma Prog.Only.states {φ : F.Op → Prop} {P : σ → Prop} {h : σ → (o : F.Op) → F.Res o × σ}
    {p : Prog F α} (hp : p.Only φ) (hkeep : ∀ s o, φ o → P s → P (h s o).2) {s : σ} (hs : P s) :
    P (p.outcome h s).2 ∧ ∀ t ∈ p.states h s, P t := by
  induction p generalizing s with
  | pure a => exact ⟨hs, fun t ht => absurd ht List.not_mem_nil⟩
  | op o k ih =>
    have hnext := hkeep s o hp.1 hs
    obtain ⟨hlast, hstates⟩ := ih (h s o).1 (hp.2 _) hnext
    refine ⟨hlast, fun t ht => ?_⟩
    rcases List.mem_cons.mp ht with rfl | ht
    · exact hnext
    · exact hstates t ht

/-- A program that is answered alike from two states returns alike. -/
lemma Prog.Only.outcome_eq {φ : F.Op → Prop} {h : σ → (o : F.Op) → F.Res o × σ} {p : Prog F α}
    (hp : p.Only φ) (hsame : ∀ s s' o, φ o → (h s o).1 = (h s' o).1) (s s' : σ) :
    (p.outcome h s).1 = (p.outcome h s').1 := by
  induction p generalizing s s' with
  | pure a => rfl
  | op o k ih =>
    change ((k (h s o).1).outcome h (h s o).2).1 = ((k (h s' o).1).outcome h (h s' o).2).1
    rw [hsame s s' o hp.1]
    exact ih _ (hp.2 _) _ _

omit [DecidableEq ι] in
/-- What a safe program promises holds of its end when its effects are all answered. -/
lemma Safe.outcome (hC : C.Lawful) {h : σ → (o : F.Op) → F.Res o × σ}
    (hh : ∀ s o, C.exec i s o (h s o).1 (h s o).2) {p : Prog F α} {s : σ}
    (hs : Safe C i Q p s) (hi : C.inv s) :
    C.inv (p.outcome h s).2 ∧ Q (p.outcome h s).1 (p.outcome h s).2 := by
  induction p generalizing s with
  | pure a => exact ⟨hi, hs s (hC.refl i s) hi⟩
  | op o k ih =>
    obtain ⟨ht, -, hk⟩ := (hs s (hC.refl i s) hi).2 _ _ (hh s o)
    exact ih _ hk ht

omit [DecidableEq ι] in
/-- Sequencing, when the first part returns. -/
lemma outcome_bind_ok {ε : Type} {h : σ → (o : F.Op) → F.Res o × σ}
    {p : ExceptT ε (Prog F) α} {f : α → ExceptT ε (Prog F) β} {a : α} {s t : σ}
    (hp : p.run.outcome h s = (.ok a, t)) :
    (p >>= f).run.outcome h s = (f a).run.outcome h t := by
  refine (Prog.outcome_bind h p.run (ExceptT.bindCont f) s).trans ?_
  rw [hp]
  rfl

omit [DecidableEq ι] in
lemma outcome_lift {ε : Type} {h : σ → (o : F.Op) → F.Res o × σ} {p : Prog F α} {s : σ} :
    (ExceptT.lift p : ExceptT ε (Prog F) α).run.outcome h s =
      (.ok (p.outcome h s).1, (p.outcome h s).2) := by
  change (p >>= fun a => Prog.pure (Except.ok a)).outcome h s = _
  rw [Prog.outcome_bind]
  rfl

/-- A run under a condition is a run. -/
lemma Reach.of_within {S : System F σ ι α Act} {init : Config F σ ι α → Prop}
    {c : Config F σ ι α} {effect : ι → σ → (o : F.Op) → F.Res o → Prop}
    {foreign : Act → σ → Prop} (h : Reach (S.within effect foreign) init c) :
    Reach S init c := by
  induction h with
  | init h => exact .init h
  | step _ hs ih =>
      refine ih.step ?_
      cases hs with
      | perform i r at_op run => exact .perform i r at_op run.2
      | start i at_end next => exact .start i at_end next
      | environment a run => exact .environment a run.2
      | crash i run => exact .crash i run

/-- Every one of the first `n` effects passes a check. -/
def Prog.checkFor (check : σ → F.Op → Bool) (h : σ → (o : F.Op) → F.Res o × σ) :
    Nat → Prog F α → σ → Bool
  | 0, _, _ => true
  | _ + 1, .pure _, _ => true
  | n + 1, .op o k, s => check s o && (k (h s o).1).checkFor check h n (h s o).2

/-- Effects that pass a check make a run, when the check is enough for each of them. -/
lemma reach_checked {S : System F σ ι α Act} {init : Config F σ ι α → Prop}
    {c : σ → F.Op → Bool} {h : σ → (o : F.Op) → F.Res o × σ} {i : ι}
    (hh : ∀ s o, c s o → S.exec i s o (h s o).1 (h s o).2) (n : Nat) {s : σ}
    {th : ι → Prog F α} (hr : Reach S init ⟨s, th⟩) (hn : (th i).checkFor c h n s) :
    Reach S init ⟨((th i).runFor h n s).2,
      Function.update th i ((th i).runFor h n s).1⟩ := by
  induction n generalizing s th with
  | zero => simpa [Prog.runFor] using hr
  | succ n ih =>
      cases hth : th i with
      | pure a => simpa [Prog.runFor, ← hth] using hr
      | op o k =>
          rw [hth, Prog.checkFor, Bool.and_eq_true] at hn
          have hstep := hr.step (.perform i (h s o).1 hth (hh s o hn.1))
          have hrest := ih hstep (by simpa using hn.2)
          simpa [Prog.runFor] using hrest

/-- A program runs through its first part, when that part returns. -/
lemma reach_through {ε γ δ : Type} {S : System F σ ι (Except ε γ) Act}
    {init : Config F σ ι (Except ε γ) → Prop} {φ : F.Op → Prop}
    {h : σ → (o : F.Op) → F.Res o × σ} {i : ι}
    (hh : ∀ s o, φ o → S.exec i s o (h s o).1 (h s o).2) {p : ExceptT ε (Prog F) δ}
    {f : δ → ExceptT ε (Prog F) γ} {a : δ} {s t : σ} {th : ι → Prog F (Except ε γ)}
    (hp : p.run.Only φ) (hr : Reach S init ⟨s, th⟩) (hth : th i = (p >>= f).run)
    (ho : p.run.outcome h s = (.ok a, t)) :
    Reach S init ⟨t, Function.update th i (f a).run⟩ := by
  change th i = p.run >>= ExceptT.bindCont f at hth
  generalize p.run = q at hp hth ho
  induction q generalizing s th with
  | pure r =>
      obtain ⟨rfl, rfl⟩ : r = .ok a ∧ s = t := by simpa [Prog.outcome] using ho
      have hsame : Function.update th i (f a).run = th :=
        Function.update_eq_self_iff.mpr hth.symm
      rwa [hsame]
  | op o k ih =>
      have hstep := hr.step (.perform i (h s o).1 hth (hh s o hp.1))
      have hrest := ih (h s o).1 hstep (hp.2 _) (Function.update_self _ _ _) ho
      rwa [Function.update_idem] at hrest

/-- Effects that pass a check make a run under the condition it stands for. -/
lemma reach_checkFor {S : System F σ ι α Act} {init : Config F σ ι α → Prop}
    {effect : ι → σ → (o : F.Op) → F.Res o → Prop} {foreign : Act → σ → Prop}
    {check : σ → F.Op → Bool} {h : σ → (o : F.Op) → F.Res o × σ} {i : ι}
    (hh : ∀ s o, S.exec i s o (h s o).1 (h s o).2)
    (hcheck : ∀ s o r, check s o → effect i s o r) (n : Nat) {s : σ} {th : ι → Prog F α}
    (hr : Reach (S.within effect foreign) init ⟨s, th⟩) (hn : (th i).checkFor check h n s) :
    Reach (S.within effect foreign) init ⟨((th i).runFor h n s).2,
      Function.update th i ((th i).runFor h n s).1⟩ :=
  reach_checked (S := S.within effect foreign) (fun s o ho => ⟨hcheck s o _ ho, hh s o⟩) n hr hn

/-! ### What a program can do -/

/-- The program can end with that value in that state. -/
def Prog.Can (exec : σ → (o : F.Op) → F.Res o → σ → Prop) : Prog F α → σ → α → σ → Prop
  | .pure a, s, b, t => b = a ∧ t = s
  | .op o k, s, b, t => ∃ r u, exec s o r u ∧ (k r).Can exec u b t

/-- From every state in `P` the program can end as `K` says. -/
def Possible (exec : σ → (o : F.Op) → F.Res o → σ → Prop) (P : σ → Prop) (p : Prog F α)
    (K : α → σ → Prop) : Prop :=
  ∀ s, P s → ∃ a t, p.Can exec s a t ∧ K a t

section

variable {exec : σ → (o : F.Op) → F.Res o → σ → Prop} {P P' : σ → Prop}
  {K : α → σ → Prop}

omit [DecidableEq ι]

lemma can_bind {p : Prog F α} {f : α → Prog F β} {s t u : σ} {a : α} {b : β}
    (hp : p.Can exec s a t) (hf : (f a).Can exec t b u) : (p >>= f).Can exec s b u := by
  induction p generalizing s with
  | pure a' =>
      obtain ⟨rfl, rfl⟩ := hp
      exact hf
  | op o k ih =>
      obtain ⟨r, v, hexec, hk⟩ := hp
      exact ⟨r, v, hexec, ih r hk⟩

lemma possible_pure {a : α} (h : ∀ s, P s → K a s) : Possible exec P (pure a : Prog F α) K :=
  fun s hs => ⟨a, s, ⟨rfl, rfl⟩, h s hs⟩

lemma possible_perform {o : F.Op} {K : F.Res o → σ → Prop}
    (h : ∀ s, P s → ∃ r t, exec s o r t ∧ K r t) : Possible exec P (Prog.perform o) K := by
  intro s hs
  obtain ⟨r, t, hexec, hK⟩ := h s hs
  exact ⟨r, t, ⟨r, t, hexec, rfl, rfl⟩, hK⟩

lemma possible_bind {p : Prog F α} {f : α → Prog F β} {K' : β → σ → Prop}
    (hp : Possible exec P p K) (hf : ∀ a, Possible exec (K a) (f a) K') :
    Possible exec P (p >>= f) K' := by
  intro s hs
  obtain ⟨a, t, hcan, ha⟩ := hp s hs
  obtain ⟨b, u, hcan', hb⟩ := hf a t ha
  exact ⟨b, u, can_bind hcan hcan', hb⟩

lemma possible_conseq {p : Prog F α} {K' : α → σ → Prop} (h : Possible exec P p K)
    (hP : ∀ s, P' s → P s) (hK : ∀ a s, K a s → K' a s) : Possible exec P' p K' := by
  intro s hs
  obtain ⟨a, t, hcan, ha⟩ := h s (hP s hs)
  exact ⟨a, t, hcan, hK a t ha⟩

lemma can_ends {ψ : α → Prop} {p : Prog F α} {s t : σ} {a : α} (h : p.Can exec s a t)
    (hp : p.Ends ψ) : ψ a := by
  induction p generalizing s with
  | pure a' =>
      obtain ⟨rfl, -⟩ := h
      exact hp
  | op o k ih =>
      obtain ⟨r, u, -, hk⟩ := h
      exact ih r hk (hp r)

lemma can_keeps {p : Prog F α} {s t : σ} {a : α}
    (hkeep : ∀ s o r t, P s → exec s o r t → P t) (h : p.Can exec s a t) (hs : P s) : P t := by
  induction p generalizing s with
  | pure a' =>
      obtain ⟨-, rfl⟩ := h
      exact hs
  | op o k ih =>
      obtain ⟨r, u, hexec, hk⟩ := h
      exact ih r hk (hkeep s o r u hs hexec)

/-- What no effect falsifies still holds at the end. -/
lemma possible_frame {p : Prog F α} (h : Possible exec P p K)
    (hkeep : ∀ s o r t, P' s → exec s o r t → P' t) :
    Possible exec (fun s => P s ∧ P' s) p fun a s => K a s ∧ P' s := by
  rintro s ⟨hs, hs'⟩
  obtain ⟨a, t, hcan, ha⟩ := h s hs
  exact ⟨a, t, hcan, ha, can_keeps hkeep hcan hs'⟩

/-- From every state in `P` the program can return, as `K` says. -/
def Works (exec : σ → (o : F.Op) → F.Res o → σ → Prop) (P : σ → Prop) (p : Fallible F α)
    (K : α → σ → Prop) : Prop :=
  Possible exec P p.run fun r s => ∃ a, r = .ok a ∧ K a s

lemma works_pure {a : α} (h : ∀ s, P s → K a s) : Works exec P (pure a : Fallible F α) K :=
  possible_pure fun s hs => ⟨a, rfl, h s hs⟩

lemma works_bind {p : Fallible F α} {f : α → Fallible F β} {K' : β → σ → Prop}
    (hp : Works exec P p K) (hf : ∀ a, Works exec (K a) (f a) K') :
    Works exec P (p >>= f) K' := by
  refine possible_bind (f := ExceptT.bindCont f) hp fun r => ?_
  rintro s ⟨a, rfl, ha⟩
  exact hf a s ha

lemma works_lift {p : Prog F α} (h : Possible exec P p K) :
    Works exec P (ExceptT.lift p : Fallible F α) K := by
  change Possible exec P (p >>= fun a => pure (Except.ok a)) _
  exact possible_bind h fun a => possible_pure fun s ha => ⟨a, rfl, ha⟩

lemma works_conseq {p : Fallible F α} {K' : α → σ → Prop} (h : Works exec P p K)
    (hP : ∀ s, P' s → P s) (hK : ∀ a s, K a s → K' a s) : Works exec P' p K' := by
  refine possible_conseq h hP ?_
  rintro r s ⟨a, rfl, ha⟩
  exact ⟨a, rfl, hK a s ha⟩

lemma works_frame {p : Fallible F α} (h : Works exec P p K)
    (hkeep : ∀ s o r t, P' s → exec s o r t → P' t) :
    Works exec (fun s => P s ∧ P' s) p fun a s => K a s ∧ P' s := by
  refine possible_conseq (possible_frame h hkeep) (fun _ hs => hs) ?_
  rintro r s ⟨⟨a, rfl, ha⟩, hs⟩
  exact ⟨a, rfl, ha, hs⟩

end

/-- What a program can do, some run does. -/
lemma reach_can {S : System F σ ι α Act} {init : Config F σ ι α → Prop} {i : ι} {s t : σ}
    {th : ι → Prog F α} {a : α} (hr : Reach S init ⟨s, th⟩) (h : (th i).Can (S.exec i) s a t) :
    Reach S init ⟨t, Function.update th i (.pure a)⟩ := by
  generalize hp : th i = p at h
  induction p generalizing s th with
  | pure a' =>
      obtain ⟨rfl, rfl⟩ := h
      rwa [← hp, Function.update_eq_self]
  | op o k ih =>
      obtain ⟨r, u, hexec, hk⟩ := h
      have hstep := hr.step (.perform i r hp hexec)
      have hrest := ih r hstep (Function.update_self _ _ _) hk
      rwa [Function.update_idem] at hrest

/-- A contract with the system it is for: what starts, interferes and restarts keeps
every program safe. -/
structure Keeps (S : System F σ ι α Act) (C : Contract F σ ι)
    (Q : ι → α → σ → Prop) : Prop where
  lawful : C.Lawful
  exec : ∀ i s o r t, S.exec i s o r t → C.exec i s o r t
  start : ∀ i a s p t, S.start i a s p t → C.inv s → Q i a s →
    C.inv t ∧ (∀ j, j ≠ i → C.rely j s t) ∧ Safe C i (Q i) p t
  environment : ∀ a s t, S.environment a s t → C.inv s → C.inv t ∧ ∀ i, C.rely i s t
  crash : ∀ i s t p, S.crash i s t p → C.inv s →
    C.inv t ∧ (∀ j, j ≠ i → C.rely j s t) ∧ Safe C i (Q i) p t

/-- The invariant holds and every program is safe. -/
def Sound (C : Contract F σ ι) (Q : ι → α → σ → Prop) (c : Config F σ ι α) : Prop :=
  C.inv c.state ∧ ∀ i, Safe C i (Q i) (c.thread i) c.state

lemma sound_update {Q : ι → α → σ → Prop} (hC : C.Lawful) {s t : σ}
    {th : ι → Prog F α} {i : ι} {p : Prog F α} (h : ∀ j, Safe C j (Q j) (th j) s)
    (ht : C.inv t) (hj : ∀ j, j ≠ i → C.rely j s t) (hp : Safe C i (Q i) p t) :
    Sound C Q ⟨t, Function.update th i p⟩ := by
  refine ⟨ht, fun j => ?_⟩
  by_cases hji : j = i
  · subst hji
    simpa using hp
  · simpa [Function.update_of_ne hji] using safe_rely hC (h j) (hj j hji)

lemma sound_step {S : System F σ ι α Act} {Q : ι → α → σ → Prop} (hK : Keeps S C Q)
    {c d : Config F σ ι α} (h : Sound C Q c) (hs : Step S c d) : Sound C Q d := by
  obtain ⟨hi, hth⟩ := h
  have hC := hK.lawful
  cases hs with
  | @perform s t th i o k r at_op run =>
      have hsafe := hth i
      simp only [at_op] at hsafe
      obtain ⟨ht, hj, hk⟩ := (hsafe s (hC.refl _ _) hi).2 r t (hK.exec _ _ _ _ _ run)
      exact sound_update hC hth ht hj hk
  | @start s t th i a p at_end next =>
      have hsafe := hth i
      simp only [at_end] at hsafe
      obtain ⟨ht, hj, hp⟩ := hK.start i a s p t next hi (hsafe s (hC.refl _ _) hi)
      exact sound_update hC hth ht hj hp
  | @environment s t th a run =>
      obtain ⟨ht, hr⟩ := hK.environment a s t run hi
      exact ⟨ht, fun j => safe_rely hC (hth j) (hr j)⟩
  | @crash s t th i p run =>
      obtain ⟨ht, hj, hp⟩ := hK.crash i s t p run hi
      exact sound_update hC hth ht hj hp

/-- **Soundness of a contract.** In every configuration a run passes through, the
invariant holds and every program is safe to resume. -/
theorem reach_sound {S : System F σ ι α Act} {Q : ι → α → σ → Prop} (hK : Keeps S C Q)
    {init : Config F σ ι α → Prop} (hinit : ∀ c, init c → Sound C Q c)
    {c : Config F σ ι α} (h : Reach S init c) : Sound C Q c := by
  induction h with
  | init h => exact hinit _ h
  | step _ hs ih => exact sound_step hK ih hs

omit [DecidableEq ι] in
/-- Whatever effect a sound configuration performs next is allowed there. -/
lemma Sound.allowed {Q : ι → α → σ → Prop} {c : Config F σ ι α} (h : Sound C Q c)
    (hC : C.Lawful) {i : ι} {o : F.Op} {k : F.Res o → Prog F α}
    (hop : c.thread i = .op o k) : C.allowed i c.state o := by
  have hsafe := h.2 i
  simp only [hop] at hsafe
  exact (hsafe c.state (hC.refl _ _) h.1).1

end GatewayControl.Programs
