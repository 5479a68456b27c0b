import Mathlib.Data.List.Forall2

/-!
Sequences of checks in `Except`, and what their success says about each check.
-/

namespace GatewayControl.Checks

variable {ε α β : Type}

/-- Stop with an error unless the condition holds. -/
def require (condition : Bool) (e : ε) : Except ε Unit :=
  if condition then .ok () else .error e

@[simp] lemma require_eq_ok {condition : Bool} {e : ε} {u : Unit} :
    require condition e = .ok u ↔ condition = true := by
  cases condition <;> simp [require]

@[simp] lemma bind_eq_ok {x : Except ε α} {f : α → Except ε β} {b : β} :
    (x >>= f) = .ok b ↔ ∃ a, x = .ok a ∧ f a = .ok b := by
  cases x <;> simp [bind, Except.bind]

/-- A check over a list passes exactly when it passes on every element. -/
lemma forM_eq_ok {xs : List α} {f : α → Except ε Unit} {u : Unit} :
    xs.forM f = .ok u ↔ ∀ x ∈ xs, f x = .ok () := by
  induction xs with
  | nil => simp [pure, Except.pure]
  | cons x xs ih =>
      change (f x >>= fun _ => xs.forM f) = .ok u ↔ _
      simp only [bind_eq_ok, ih, List.mem_cons, forall_eq_or_imp]
      constructor
      · rintro ⟨⟨⟩, hx, hxs⟩
        exact ⟨hx, hxs⟩
      · rintro ⟨hx, hxs⟩
        exact ⟨(), hx, hxs⟩

/-- Each result of a check over a list is that of one element. -/
lemma mapM_ok {f : α → Except ε β} {xs : List α} :
    ∀ {ys : List β}, xs.mapM f = .ok ys → List.Forall₂ (fun x y => f x = .ok y) xs ys := by
  induction xs with
  | nil =>
    intro ys h
    obtain rfl := Except.ok.inj h
    exact .nil
  | cons x xs ih =>
    intro ys h
    rw [List.mapM_cons] at h
    obtain ⟨y, hy, h⟩ := bind_eq_ok.mp h
    obtain ⟨ys', hys, h⟩ := bind_eq_ok.mp h
    obtain rfl := Except.ok.inj h
    exact .cons hy (ih hys)

lemma mem_mapM_ok {f : α → Except ε β} {xs : List α} {ys : List β} (h : xs.mapM f = .ok ys) :
    ∀ y ∈ ys, ∃ x ∈ xs, f x = .ok y := by
  have hall := mapM_ok h
  clear h
  induction hall with
  | nil => simp
  | cons hfirst _ ih =>
    refine List.forall_mem_cons.mpr ⟨⟨_, List.mem_cons_self, hfirst⟩, fun y hy => ?_⟩
    obtain ⟨x, hx, hxy⟩ := ih y hy
    exact ⟨x, List.mem_cons_of_mem _ hx, hxy⟩

end GatewayControl.Checks
