import GatewayControl.Programs

/-!
What a program has performed: its effects with their answers, in order. A traced system
keeps that for each program, and forgets it when the program is cut short.
-/

namespace GatewayControl.Traces

open Programs

variable {F : Interface} {σ ι α β Act : Type}

/-! ### Traces of a program -/

abbrev Event (F : Interface) := Σ o : F.Op, F.Res o

/-- After these effects, with these answers, the program goes on as another. -/
inductive Performs : Prog F α → List (Event F) → Prog F α → Prop where
  | refl (p : Prog F α) : Performs p [] p
  | op {o : F.Op} {k : F.Res o → Prog F α} {r : F.Res o} {es : List (Event F)} {q : Prog F α}
      (h : Performs (k r) es q) : Performs (.op o k) (⟨o, r⟩ :: es) q

lemma Performs.snoc {p : Prog F α} {es : List (Event F)} {o : F.Op} {k : F.Res o → Prog F α}
    (h : Performs p es (.op o k)) (r : F.Res o) : Performs p (es ++ [⟨o, r⟩]) (k r) := by
  generalize hq : Prog.op o k = q at h
  induction h with
  | refl p =>
    subst hq
    exact .op (.refl _)
  | op _ ih => exact .op (ih hq)

def Returns (p : Prog F α) (es : List (Event F)) (a : α) : Prop := Performs p es (.pure a)

lemma returns_pure {a b : α} {es : List (Event F)} (h : Returns (.pure a : Prog F α) es b) :
    es = [] ∧ b = a := by
  cases h
  exact ⟨rfl, rfl⟩

lemma returns_op {o : F.Op} {k : F.Res o → Prog F α} {es : List (Event F)} {a : α}
    (h : Returns (.op o k) es a) : ∃ r es', es = ⟨o, r⟩ :: es' ∧ Returns (k r) es' a := by
  cases h with
  | op h => exact ⟨_, _, rfl, h⟩

/-- A trace of a composition is one of its first part, then one of its second. -/
lemma returns_bind {p : Prog F α} {f : α → Prog F β} {es : List (Event F)} {b : β}
    (h : Returns (p >>= f) es b) :
    ∃ es₁ es₂ a, es = es₁ ++ es₂ ∧ Returns p es₁ a ∧ Returns (f a) es₂ b := by
  induction p generalizing es with
  | pure a => exact ⟨[], es, a, rfl, .refl _, h⟩
  | op o k ih =>
    obtain ⟨r, es', rfl, hrest⟩ := returns_op (k := fun r => k r >>= f) h
    obtain ⟨es₁, es₂, a, rfl, hp, hf⟩ := ih r hrest
    exact ⟨⟨o, r⟩ :: es₁, es₂, a, rfl, .op hp, hf⟩

/-- A program that succeeds has not thrown before. -/
lemma returns_ok_bind {ε : Type} {p : ExceptT ε (Prog F) α} {f : α → ExceptT ε (Prog F) β}
    {es : List (Event F)} {b : β} (h : Returns (p >>= f).run es (.ok b)) :
    ∃ es₁ es₂ a, es = es₁ ++ es₂ ∧ Returns p.run es₁ (.ok a) ∧ Returns (f a).run es₂ (.ok b) := by
  obtain ⟨es₁, es₂, r, heq, hp, hf⟩ := returns_bind h
  cases r with
  | ok a => exact ⟨es₁, es₂, a, heq, hp, hf⟩
  | error e => cases (returns_pure hf).2

/-! ### Runs with their traces -/

/-- The program goes from a state, by these events, to a value in a state. -/
def Runs (exec : σ → (o : F.Op) → F.Res o → σ → Prop) :
    Prog F α → σ → List (Event F) → α → σ → Prop
  | .pure a, s, es, b, t => es = [] ∧ b = a ∧ t = s
  | .op o k, s, es, b, t =>
      ∃ r u rest, es = ⟨o, r⟩ :: rest ∧ exec s o r u ∧ Runs exec (k r) u rest b t

section

variable {exec : σ → (o : F.Op) → F.Res o → σ → Prop} {s t u : σ} {es : List (Event F)}

lemma runs_bind {p : Prog F α} {f : α → Prog F β} {b : β} :
    Runs exec (p >>= f) s es b t ↔
      ∃ es₁ es₂ a u, es = es₁ ++ es₂ ∧ Runs exec p s es₁ a u ∧ Runs exec (f a) u es₂ b t := by
  induction p generalizing s es with
  | pure a =>
    constructor
    · exact fun h => ⟨[], es, a, s, rfl, ⟨rfl, rfl, rfl⟩, h⟩
    · rintro ⟨_, es₂, _, _, rfl, ⟨rfl, rfl, rfl⟩, h⟩
      exact h
  | op o k ih =>
    constructor
    · rintro ⟨r, v, rest, rfl, hexec, hrest⟩
      obtain ⟨es₁, es₂, a, u, rfl, hp, hf⟩ := (ih r).mp hrest
      exact ⟨⟨o, r⟩ :: es₁, es₂, a, u, rfl, ⟨r, v, es₁, rfl, hexec, hp⟩, hf⟩
    · rintro ⟨_, es₂, a, u, rfl, ⟨r, v, rest, rfl, hexec, hp⟩, hf⟩
      exact ⟨r, v, rest ++ es₂, rfl, hexec, (ih r).mpr ⟨rest, es₂, a, u, rfl, hp, hf⟩⟩

/-- A composition of programs that may throw goes through, or ends where the first throws. -/
lemma runs_bind_ok {ε : Type} {p : ExceptT ε (Prog F) α} {f : α → ExceptT ε (Prog F) β}
    {r : Except ε β} (h : Runs exec (p >>= f).run s es r t) :
    (∃ es₁ es₂ a u, es = es₁ ++ es₂ ∧ Runs exec p.run s es₁ (.ok a) u ∧
        Runs exec (f a).run u es₂ r t) ∨
      ∃ e, r = .error e ∧ Runs exec p.run s es (.error e) t := by
  obtain ⟨es₁, es₂, a, u, rfl, hp, hf⟩ := runs_bind.mp h
  cases a with
  | ok a => exact .inl ⟨es₁, es₂, a, u, rfl, hp, hf⟩
  | error e =>
    obtain ⟨rfl, rfl, rfl⟩ := hf
    exact .inr ⟨e, rfl, by rwa [List.append_nil]⟩

lemma runs_only {φ : F.Op → Prop} {p : Prog F α} {a : α} (hp : p.Only φ)
    (h : Runs exec p s es a t) : ∀ ev ∈ es, φ ev.1 := by
  induction p generalizing s es with
  | pure b =>
    obtain ⟨rfl, -⟩ := h
    exact fun ev hev => absurd hev List.not_mem_nil
  | op o k ih =>
    obtain ⟨r, u, rest, rfl, -, hrest⟩ := h
    intro ev hev
    rcases List.mem_cons.mp hev with rfl | hev
    · exact hp.1
    · exact ih r (hp.2 r) hrest ev hev

/-- What no effect of a program changes is at the end what it was. -/
lemma runs_frame {τ : Type} {φ : F.Op → Prop} {f : σ → τ} {p : Prog F α} {a : α}
    (hp : p.Only φ) (hkeep : ∀ s o r t, φ o → exec s o r t → f t = f s)
    (h : Runs exec p s es a t) : f t = f s := by
  induction p generalizing s es with
  | pure b =>
    obtain ⟨-, -, rfl⟩ := h
    rfl
  | op o k ih =>
    obtain ⟨r, u, rest, -, hexec, hrest⟩ := h
    exact (ih r (hp.2 r) hrest).trans (hkeep s o r u hp.1 hexec)

/-- The events of a run on given answers. -/
def events (answers : σ → (o : F.Op) → F.Res o × σ) : Prog F α → σ → List (Event F)
  | .pure _, _ => []
  | .op o k, s => ⟨o, (answers s o).1⟩ :: events answers (k (answers s o).1) (answers s o).2

lemma runs_outcome {answers : σ → (o : F.Op) → F.Res o × σ}
    (h : ∀ s o, exec s o (answers s o).1 (answers s o).2) (p : Prog F α) (s : σ) :
    Runs exec p s (events answers p s) (p.outcome answers s).1 (p.outcome answers s).2 := by
  induction p generalizing s with
  | pure a => exact ⟨rfl, rfl, rfl⟩
  | op o k ih => exact ⟨_, _, _, rfl, h s o, ih _ _⟩

end

/-! ### Traced systems -/

variable [DecidableEq ι]

/-- The same system, with what each program has performed since its start. -/
def traced (S : System F σ ι α Act) : System F (σ × (ι → Option (List (Event F)))) ι α Act where
  exec := fun i s o r t => S.exec i s.1 o r t.1 ∧
    t.2 = Function.update s.2 i ((s.2 i).map (· ++ [⟨o, r⟩]))
  start := fun i a s p t => S.start i a s.1 p t.1 ∧ t.2 = Function.update s.2 i (some [])
  environment := fun a s t => S.environment a s.1 t.1 ∧ t.2 = s.2
  crash := fun i s t p => S.crash i s.1 t.1 p ∧ t.2 = Function.update s.2 i none

abbrev untraced {τ : Type} (c : Config F (σ × τ) ι α) : Config F σ ι α :=
  ⟨c.state.1, c.thread⟩

/-- At the start nothing has been performed. -/
def Fresh (init : Config F σ ι α → Prop)
    (c : Config F (σ × (ι → Option (List (Event F)))) ι α) : Prop :=
  init (untraced c) ∧ ∀ i, c.state.2 i = none

variable {S : System F σ ι α Act} {init : Config F σ ι α → Prop}
  {c : Config F (σ × (ι → Option (List (Event F)))) ι α}

lemma reach_untraced (h : Reach (traced S) (Fresh init) c) : Reach S init (untraced c) := by
  induction h with
  | init h => exact .init h.1
  | step _ hs ih =>
    refine ih.step ?_
    cases hs with
    | perform i r at_op run => exact .perform i r at_op run.1
    | start i at_end next => exact .start i at_end next.1
    | environment a run => exact .environment a run.1
    | crash i run => exact .crash i run.1

/-- Every run can be traced. -/
lemma reach_traced {d : Config F σ ι α} (h : Reach S init d) :
    ∃ es, Reach (traced S) (Fresh init) ⟨(d.state, es), d.thread⟩ := by
  induction h with
  | init h => exact ⟨fun _ => none, .init ⟨h, fun _ => rfl⟩⟩
  | step _ hs ih =>
    obtain ⟨es, ih⟩ := ih
    cases hs with
    | perform i r at_op run => exact ⟨_, ih.step (.perform i r at_op ⟨run, rfl⟩)⟩
    | start i at_end next => exact ⟨_, ih.step (.start i at_end ⟨next, rfl⟩)⟩
    | environment a run => exact ⟨_, ih.step (.environment a ⟨run, rfl⟩)⟩
    | crash i run => exact ⟨_, ih.step (.crash i ⟨run, rfl⟩)⟩

/-- Effects of one program that pass a check, in a traced run. -/
lemma reach_traced_run {effect : ι → σ → (o : F.Op) → F.Res o → Prop}
    {foreign : Act → σ → Prop} {check : σ → F.Op → Bool}
    {h : σ → (o : F.Op) → F.Res o × σ} {i : ι}
    (hh : ∀ s o, S.exec i s o (h s o).1 (h s o).2)
    (hcheck : ∀ s o, check s o → effect i s o (h s o).1) (n : Nat) {s : σ}
    {es : ι → Option (List (Event F))} {th : ι → Prog F α} (hi : (es i).isSome)
    (hr : Reach (traced (S.within effect foreign)) (Fresh init) ⟨(s, es), th⟩)
    (hn : (th i).checkFor check h n s) :
    ∃ es', (es' i).isSome ∧ Reach (traced (S.within effect foreign)) (Fresh init)
      ⟨(((th i).runFor h n s).2, es'), Function.update th i ((th i).runFor h n s).1⟩ := by
  induction n generalizing s es th with
  | zero => exact ⟨es, hi, by simpa [Prog.runFor] using hr⟩
  | succ n ih =>
    cases hth : th i with
    | pure a => exact ⟨es, hi, by simpa [Prog.runFor, ← hth] using hr⟩
    | op o k =>
      rw [hth, Prog.checkFor, Bool.and_eq_true] at hn
      let es' := Function.update es i ((es i).map (· ++ [⟨o, (h s o).1⟩]))
      have hes' : (es' i).isSome := by simpa [es'] using hi
      have hstep := hr.step (d := ⟨((h s o).2, es'), Function.update th i (k (h s o).1)⟩)
        (.perform i (h s o).1 hth ⟨⟨hcheck s o hn.1, hh s o⟩, rfl⟩)
      obtain ⟨es'', hes'', hrest⟩ := ih hes' hstep (by simpa using hn.2)
      exact ⟨es'', hes'', by simpa [Prog.runFor] using hrest⟩

/-- **Traces are true.** What is kept of a program leads from its start to where it is. -/
theorem traced_performs (h : Reach (traced S) (Fresh init) c) :
    ∀ i es, c.state.2 i = some es →
      ∃ a s p t, S.start i a s p t ∧ Performs p es (c.thread i) := by
  induction h with
  | init h =>
    intro i es hes
    rw [h.2] at hes
    cases hes
  | step _ hs ih =>
    intro j es hes
    cases hs with
    | @perform s t th i o k r at_op run =>
      obtain ⟨-, htrace⟩ := run
      dsimp only at hes ⊢
      rw [htrace] at hes
      by_cases hji : j = i
      · subst hji
        rw [Function.update_self] at hes ⊢
        obtain ⟨es', hes', rfl⟩ := Option.map_eq_some_iff.mp hes
        obtain ⟨a, s', p, t', hstart, hp⟩ := ih j es' hes'
        simp only [at_op] at hp
        exact ⟨a, s', p, t', hstart, hp.snoc r⟩
      · rw [Function.update_of_ne hji] at hes ⊢
        exact ih j es hes
    | @start s t th i a p at_end next =>
      obtain ⟨hstart, htrace⟩ := next
      dsimp only at hes ⊢
      rw [htrace] at hes
      by_cases hji : j = i
      · subst hji
        rw [Function.update_self] at hes ⊢
        obtain rfl := Option.some.inj hes
        exact ⟨a, s.1, p, t.1, hstart, .refl p⟩
      · rw [Function.update_of_ne hji] at hes ⊢
        exact ih j es hes
    | @environment s t th a run =>
      obtain ⟨-, htrace⟩ := run
      dsimp only at hes ⊢
      rw [htrace] at hes
      exact ih j es hes
    | @crash s t th i p run =>
      obtain ⟨-, htrace⟩ := run
      dsimp only at hes ⊢
      rw [htrace] at hes
      by_cases hji : j = i
      · subst hji
        rw [Function.update_self] at hes
        cases hes
      · rw [Function.update_of_ne hji] at hes ⊢
        exact ih j es hes

end GatewayControl.Traces
