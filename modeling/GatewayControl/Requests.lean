import GatewayControl.Jsonb

/-!
Fields of a request body as the route handlers read them, with the string functions of
JavaScript they use.

Lower-casing is Unicode's. Its images of the letters outside ASCII stay a parameter, which
may depend on the text around the letter (the final sigma does): only two of them have an
image with an ASCII letter in it, and these are spelled out.
-/

namespace GatewayControl.Requests

open Json Text

/-! ### Lower-casing -/

/-- How letters outside ASCII are lower-cased, given the text before (backwards) and after. -/
structure CaseMapping where
  lower : List Char → Char → List Char → List Char
  nonempty : ∀ before c after, lower before c after ≠ []
  foreign : ∀ before c after, 128 ≤ c.toNat → ∀ d ∈ lower before c after, 128 ≤ d.toNat

/-- The mapping of a text whose letters outside ASCII have no upper case. -/
def CaseMapping.caseless : CaseMapping where
  lower := fun _ c _ => [c]
  nonempty := by simp
  foreign := by simp

variable (m : CaseMapping)

def lowerAt (before : List Char) (c : Char) (after : List Char) : List Char :=
  if c.toNat < 128 then [c.toLower]
  else if c.toNat = 0x212A then ['k']
  else if c.toNat = 0x130 then ['i', '\u0307']
  else m.lower before c after

def lowerFrom : List Char → List Char → List Char
  | _, [] => []
  | before, c :: after => lowerAt m before c after ++ lowerFrom (c :: before) after

/-- `s.toLowerCase()`. -/
def toLowerCase (s : String) : String := String.ofList (lowerFrom m [] s.toList)

/-! ### Fields -/

/-- `s.trim()`. -/
def trim (s : String) : String := String.ofList (trimBoth isJsSpace s.toList)

/-- `stringField`, given the body's value of the field. -/
def stringField (value : Option Json) (least most : Nat) : Option String :=
  match value with
  | some (.str s) =>
      let length := jsLength (trim s).toList
      if length < least ∨ length > most then none else some (trim s)
  | _ => none

/-- `/^[a-z0-9](?:[a-z0-9-]*[a-z0-9])?$/` and the bounds on a label. -/
def hostnameLabel (label : List Char) : Bool :=
  label.head?.any isLowerOrDigit && label.getLast?.any isLowerOrDigit &&
    label.all (fun c => isLowerOrDigit c || c == '-') && decide (label.length ≤ 63)

def validateHostname (value : String) : Option String :=
  let hostname := toLowerCase m value
  if jsLength hostname.toList > 253 then none
  else if (hostname.toList.splitOn '.').all hostnameLabel then some hostname
  else none

variable {m}

/-! ### What is accepted -/

lemma lowerFrom_plain {before cs : List Char}
    (h : ∀ c ∈ cs, c.toNat < 128 ∧ c.toLower = c) : lowerFrom m before cs = cs := by
  induction cs generalizing before with
  | nil => rfl
  | cons c cs ih =>
    have hc := h c (by simp)
    have hcs := @ih (c :: before) fun d hd => h d (by simp [hd])
    simp [lowerFrom, lowerAt, hc.1, hc.2, hcs]

lemma isLowerOrDigit_plain {c : Char} (h : isLowerOrDigit c) :
    c.toNat < 128 ∧ c.toLower = c := by
  have hbounds := isLowerOrDigit_iff.mp h
  refine ⟨by omega, ?_⟩
  unfold Char.toLower
  rw [dif_neg]
  simp only [ge_iff_le, UInt32.le_iff_toNat_le]
  change ¬(65 ≤ c.toNat ∧ c.toNat ≤ 90)
  omega

lemma mem_splitOn {sep c : Char} {cs : List Char} (hc : c ∈ cs) (hsep : c ≠ sep) :
    ∃ piece ∈ cs.splitOn sep, c ∈ piece := by
  have hjoin : [sep].intercalate (cs.splitOn sep) = cs := List.intercalate_splitOn sep
  rw [← hjoin] at hc
  generalize cs.splitOn sep = pieces at hc
  induction pieces with
  | nil => simp at hc
  | cons piece pieces ih =>
    cases pieces with
    | nil => exact ⟨piece, by simp, by simpa using hc⟩
    | cons next rest =>
      rw [List.intercalate_cons_cons] at hc
      simp only [List.mem_append, List.mem_singleton] at hc
      rcases hc with (hc | hc) | hc
      · exact ⟨piece, by simp, hc⟩
      · exact absurd hc hsep
      · obtain ⟨found, hfound, hmem⟩ := ih hc
        exact ⟨found, List.mem_cons_of_mem _ hfound, hmem⟩

lemma validateHostname_eq {value h : String} (hv : validateHostname m value = some h) :
    h = toLowerCase m value := by
  unfold validateHostname at hv
  dsimp only at hv
  split_ifs at hv with hlength hlabels
  exact (Option.some.inj hv).symm

/-- Lower-casing leaves a validated host name alone. -/
lemma toLowerCase_hostname {value h : String} (hv : validateHostname m value = some h) :
    toLowerCase m h = h := by
  have hh := validateHostname_eq hv
  unfold validateHostname at hv
  dsimp only at hv
  split_ifs at hv with hlength hlabels
  rw [← hh] at hlabels
  unfold toLowerCase
  rw [lowerFrom_plain, String.ofList_toList]
  intro c hc
  by_cases hdot : c = '.'
  · subst hdot
    decide
  · obtain ⟨label, hlabel, hmem⟩ := mem_splitOn hc hdot
    have hall := List.all_eq_true.mp hlabels label hlabel
    simp only [hostnameLabel, Bool.and_eq_true, List.all_eq_true, Bool.or_eq_true] at hall
    rcases hall.1.2 c hmem with hplain | hdash
    · exact isLowerOrDigit_plain hplain
    · rw [beq_iff_eq] at hdash
      subst hdash
      decide

/-- A text that lower-cases to a validated host name is validated itself. -/
lemma validateHostname_of_lower {value value' h : String}
    (hv : validateHostname m value = some h) (h' : toLowerCase m value' = h) :
    validateHostname m value' = some h := by
  have hh := validateHostname_eq hv
  unfold validateHostname at hv ⊢
  rw [← hh] at hv
  rw [h']
  exact hv

end GatewayControl.Requests
