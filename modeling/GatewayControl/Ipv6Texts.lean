import Mathlib.Algebra.Order.Group.Nat
import Mathlib.Data.List.Induction
import GatewayControl.Text

/-!
The textual forms of IP addresses: eight groups of hexadecimal digits between colons, one run of
zero groups left out for a double colon, the last two groups also as four octets.
-/

namespace GatewayControl.Ipv6Texts

open Text

/-! ### Groups and octets -/

def hexDigit (c : Char) : ℕ :=
  if c.isDigit then c.toNat - 48 else if c.toNat < 97 then c.toNat - 55 else c.toNat - 87

def hexValue (cs : List Char) : ℕ := cs.foldl (fun n c => n * 16 + hexDigit c) 0

def isGroup (cs : List Char) : Bool := 1 ≤ cs.length && cs.length ≤ 4 && cs.all isHex

def decimal (cs : List Char) : ℕ := cs.foldl (fun n c => n * 10 + (c.toNat - 48)) 0

/-- A number up to 255 without leading zeros. -/
def isOctet (cs : List Char) : Bool :=
  1 ≤ cs.length && cs.length ≤ 3 && cs.all Char.isDigit &&
    (cs.length = 1 || cs.head? != some '0') && decimal cs ≤ 255

/-- The four octets between dots. -/
def quad (cs : List Char) : Option (List ℕ) :=
  if (cs.splitOn '.').length = 4 && (cs.splitOn '.').all isOctet then
    some ((cs.splitOn '.').map decimal)
  else none

def quadGroups : List ℕ → List ℕ
  | [a, b, c, d] => [a * 256 + b, c * 256 + d]
  | _ => []

/-! ### Addresses -/

/-- The text before the first double colon, and what follows it when there is one. -/
def sides : List Char → List Char × Option (List Char)
  | [] => ([], none)
  | c :: rest =>
    if c = ':' ∧ rest.head? = some ':' then ([], some rest.tail)
    else (c :: (sides rest).1, (sides rest).2)

/-- The groups of the parts between colons, the last of which may be four octets. -/
def readParts : List (List Char) → Option (List ℕ)
  | [] => some []
  | part :: rest =>
    if isGroup part then (readParts rest).map (hexValue part :: ·)
    else if rest = [] then (quad part).map quadGroups
    else none

def readLeft (cs : List Char) : Option (List ℕ) :=
  if cs = [] then some []
  else if (cs.splitOn ':').all isGroup then some ((cs.splitOn ':').map hexValue)
  else none

def readRight (cs : List Char) : Option (List ℕ) :=
  if cs = [] then some [] else readParts (cs.splitOn ':')

/-- The groups of the address that a text is a form of. -/
def address (cs : List Char) : Option (List ℕ) :=
  match (sides cs).2 with
  | none => (readParts (cs.splitOn ':')).filter (·.length = 8)
  | some right =>
    match readLeft (sides cs).1, readRight right with
    | some ls, some rs =>
      if ls.length + rs.length ≤ 7 then
        some (ls ++ List.replicate (8 - ls.length - rs.length) 0 ++ rs)
      else none
    | _, _ => none

/-! ### The double colon -/

lemma sides_eq_of_none {cs : List Char} (h : (sides cs).2 = none) : (sides cs).1 = cs := by
  induction cs with
  | nil => rfl
  | cons c cs ih =>
    unfold sides at h ⊢
    split at h
    · cases h
    · next hc =>
      rw [if_neg hc]
      exact congrArg (c :: ·) (ih h)

lemma sides_eq_of_some {cs right : List Char} (h : (sides cs).2 = some right) :
    cs = (sides cs).1 ++ ':' :: ':' :: right := by
  induction cs with
  | nil => cases h
  | cons c cs ih =>
    unfold sides at h ⊢
    split at h
    · next hc =>
      obtain ⟨rfl, hhead⟩ := hc
      rw [if_pos ⟨rfl, hhead⟩]
      cases cs with
      | nil => cases hhead
      | cons d cs =>
        obtain rfl : d = ':' := by simpa using hhead
        obtain rfl : cs = right := by simpa using h
        rfl
    · next hc =>
      rw [if_neg hc]
      exact congrArg (c :: ·) (ih h)

lemma sides_append_of_none {cs rest : List Char} (h : (sides cs).2 = none)
    (hmeet : cs.getLast? ≠ some ':' ∨ rest.head? ≠ some ':') :
    sides (cs ++ rest) = (cs ++ (sides rest).1, (sides rest).2) := by
  induction cs with
  | nil => rfl
  | cons c cs ih =>
    unfold sides at h
    split at h
    · cases h
    · next hc =>
      have hnot : ¬(c = ':' ∧ (cs ++ rest).head? = some ':') := by
        rintro ⟨rfl, hhead⟩
        cases cs with
        | nil =>
          rcases hmeet with hlast | hfirst
          · exact hlast rfl
          · exact hfirst hhead
        | cons d cs => exact hc ⟨rfl, hhead⟩
      have hmeet' : cs.getLast? ≠ some ':' ∨ rest.head? ≠ some ':' := by
        cases cs with
        | nil => exact .inl (by simp)
        | cons d cs => simpa using hmeet
      rw [List.cons_append, sides, if_neg hnot, ih h hmeet']
      rfl

lemma sides_append_of_some {cs right rest : List Char} (h : (sides cs).2 = some right) :
    sides (cs ++ rest) = ((sides cs).1, some (right ++ rest)) := by
  induction cs with
  | nil => cases h
  | cons c cs ih =>
    unfold sides at h
    split at h
    · next hc =>
      obtain ⟨rfl, hhead⟩ := hc
      cases cs with
      | nil => cases hhead
      | cons d cs =>
        obtain rfl : cs = right := by simpa using h
        rw [List.cons_append, sides, sides, if_pos ⟨rfl, hhead⟩, if_pos ⟨rfl, hhead⟩]
        rfl
    · next hc =>
      have hcs : cs ≠ [] := by
        rintro rfl
        cases h
      have hhead : (cs ++ rest).head? = cs.head? := List.head?_append_of_ne_nil _ hcs
      rw [List.cons_append, sides, sides, if_neg (hhead ▸ hc), if_neg hc, ih h]

lemma sides_of_notMem {cs : List Char} (h : ':' ∉ cs) : (sides cs).2 = none := by
  induction cs with
  | nil => rfl
  | cons c cs ih =>
    have hc : ¬(c = ':' ∧ cs.head? = some ':') := by
      rintro ⟨rfl, -⟩
      exact h List.mem_cons_self
    rw [sides, if_neg hc]
    exact ih fun hmem => h (List.mem_cons_of_mem _ hmem)

/-- Parts that are not empty are joined by single colons. -/
lemma sides_joined {parts : List (List Char)} (hparts : parts ≠ [])
    (h : ∀ part ∈ parts, part ≠ [] ∧ ':' ∉ part) :
    (sides ([':'].intercalate parts)).2 = none ∧
      ([':'].intercalate parts).getLast? ≠ some ':' ∧
      ([':'].intercalate parts).head? ≠ some ':' := by
  have hends : ∀ part ∈ parts, part.getLast? ≠ some ':' ∧ part.head? ≠ some ':' :=
    fun part hpart => ⟨fun hlast => (h part hpart).2 (List.mem_of_getLast? hlast),
      fun hhead => (h part hpart).2 (List.mem_of_mem_head? hhead)⟩
  induction parts with
  | nil => exact absurd rfl hparts
  | cons part parts ih =>
    obtain ⟨hpart, hrest⟩ := List.forall_mem_cons.mp h
    obtain ⟨hend, hends'⟩ := List.forall_mem_cons.mp hends
    have hnone := sides_of_notMem hpart.2
    cases parts with
    | nil =>
      rw [List.intercalate_singleton]
      exact ⟨hnone, hend⟩
    | cons next parts =>
      obtain ⟨hsides, hlast, hhead⟩ := ih (List.cons_ne_nil _ _) hrest hends'
      rw [List.intercalate_cons_of_ne_nil (List.cons_ne_nil _ _), List.append_assoc,
        sides_append_of_none hnone (.inl hend.1)]
      have hcolon : ¬(':' = ':' ∧ ([':'].intercalate (next :: parts)).head? = some ':') :=
        fun hboth => hhead hboth.2
      refine ⟨?_, ?_, ?_⟩
      · rw [List.singleton_append, sides, if_neg hcolon]
        exact hsides
      · have hne : [':'].intercalate (next :: parts) ≠ [] := by
          intro hnil
          have hnext := (hrest next List.mem_cons_self).1
          cases parts with
          | nil => exact hnext (by rwa [List.intercalate_singleton] at hnil)
          | cons last parts =>
            rw [List.intercalate_cons_of_ne_nil (List.cons_ne_nil _ _)] at hnil
            simp at hnil
        rw [List.getLast?_append_of_ne_nil _ (by simp), List.getLast?_append_of_ne_nil _ hne]
        exact hlast
      · rw [List.head?_append_of_ne_nil _ hpart.1]
        exact hend.2

/-! ### Digits -/

lemma hexDigit_lt {c : Char} (h : isHex c = true) : hexDigit c < 16 := by
  have hall : ∀ c ∈ "0123456789abcdefABCDEF".toList, hexDigit c < 16 :=
    forall_of_all (by decide)
  exact hall c (isHex_mem h)

@[simp] lemma hexValue_concat (cs : List Char) (c : Char) :
    hexValue (cs ++ [c]) = hexValue cs * 16 + hexDigit c := List.foldl_concat ..

@[simp] lemma decimal_concat (cs : List Char) (c : Char) :
    decimal (cs ++ [c]) = decimal cs * 10 + (c.toNat - 48) := List.foldl_concat ..

lemma hexValue_lt {cs : List Char} (h : cs.all isHex = true) : hexValue cs < 16 ^ cs.length := by
  induction cs using List.reverseRecOn with
  | nil => exact Nat.one_pos
  | append_singleton cs c ih =>
    simp only [List.all_append, List.all_cons, List.all_nil, Bool.and_true,
      Bool.and_eq_true] at h
    have hcs := ih h.1
    have hc := hexDigit_lt h.2
    rw [hexValue_concat, List.length_append, List.length_singleton, pow_succ]
    omega

lemma hexValue_lt_of_isGroup {cs : List Char} (h : isGroup cs = true) : hexValue cs < 65536 := by
  simp only [isGroup, Bool.and_eq_true, decide_eq_true_eq] at h
  calc hexValue cs < 16 ^ cs.length := hexValue_lt h.2
    _ ≤ 16 ^ 4 := Nat.pow_le_pow_right (by decide) h.1.2

def hexText (n : ℕ) : List Char := Nat.toDigits 16 n

/-- The digits of a number are hexadecimal and read as the number. -/
lemma hexText_digits (n : ℕ) : (hexText n).all isHex = true ∧ hexValue (hexText n) = n := by
  unfold hexText
  have hdigit : ∀ d < 16, isHex d.digitChar = true ∧ hexDigit d.digitChar = d := by decide
  induction n using Nat.strongRecOn with
  | ind n ih =>
    rw [Nat.toDigits_eq_if (by decide)]
    split
    · next hn =>
      obtain ⟨hhex, hvalue⟩ := hdigit n hn
      refine ⟨by simpa using hhex, ?_⟩
      simp [hexValue, hvalue]
    · next hn =>
      obtain ⟨hall, hvalue⟩ := ih (n / 16) (by omega)
      obtain ⟨hhex, hlast⟩ := hdigit (n % 16) (Nat.mod_lt _ (by decide))
      refine ⟨by simp [hall, hhex], ?_⟩
      rw [hexValue_concat, hvalue, hlast]
      omega

lemma isGroup_hexText {n : ℕ} (h : n < 65536) : isGroup (hexText n) = true := by
  have hlow : 1 ≤ (hexText n).length := Nat.length_toDigits_pos
  have hhigh : (hexText n).length ≤ 4 :=
    (Nat.length_toDigits_le_iff (by decide) (by decide)).mpr h
  simp [isGroup, hlow, hhigh, (hexText_digits n).1]

lemma digitChar_of_isDigit {c : Char} (h : c.isDigit = true) :
    (c.toNat - 48).digitChar = c ∧ c.toNat - 48 < 10 := by
  obtain ⟨hlow, hhigh⟩ := isDigit_iff.mp h
  have hall : ∀ n < 58, 48 ≤ n → (n - 48).digitChar = Char.ofNat n ∧ n - 48 < 10 := by decide
  have hc := hall c.toNat (by omega) hlow
  rwa [Char.ofNat_toNat] at hc

/-- A number without leading zeros is printed as it was written. -/
lemma toDigits_decimal {cs : List Char} (hne : cs ≠ []) (hdigits : cs.all Char.isDigit = true)
    (hzero : cs.length = 1 ∨ cs.head? ≠ some '0') :
    Nat.toDigits 10 (decimal cs) = cs ∧ (cs.head? ≠ some '0' → 0 < decimal cs) := by
  induction cs using List.reverseRecOn with
  | nil => exact absurd rfl hne
  | append_singleton cs c ih =>
    simp only [List.all_append, List.all_cons, List.all_nil, Bool.and_true,
      Bool.and_eq_true] at hdigits
    obtain ⟨hchar, hlt⟩ := digitChar_of_isDigit hdigits.2
    rw [decimal_concat]
    cases cs with
    | nil =>
      have hn : decimal [] * 10 + (c.toNat - 48) = c.toNat - 48 := by simp [decimal]
      rw [hn, Nat.toDigits_of_lt_base hlt, hchar]
      refine ⟨rfl, fun hfirst => Nat.pos_of_ne_zero fun hz => hfirst ?_⟩
      rw [hz] at hchar
      rw [← hchar]
      rfl
    | cons d cs =>
      have hfirst : (d :: cs).head? ≠ some '0' := by
        rcases hzero with hlength | hfirst
        · simp at hlength
        · simpa using hfirst
      obtain ⟨hback, hpos⟩ := ih (List.cons_ne_nil _ _) hdigits.1 (.inr hfirst)
      have hpos := hpos hfirst
      rw [Nat.toDigits_eq_if (by decide), if_neg (by omega)]
      have hdiv : (decimal (d :: cs) * 10 + (c.toNat - 48)) / 10 = decimal (d :: cs) := by omega
      have hmod : (decimal (d :: cs) * 10 + (c.toNat - 48)) % 10 = c.toNat - 48 := by omega
      rw [hdiv, hmod, hback, hchar]
      exact ⟨rfl, fun _ => by omega⟩

/-! ### What is read -/

lemma isGroup_ne_nil {cs : List Char} (h : isGroup cs = true) : cs ≠ [] := by
  rintro rfl
  exact absurd h (by decide)

lemma isHex_of_isGroup {cs : List Char} (h : isGroup cs = true) : ∀ c ∈ cs, isHex c = true := by
  simp only [isGroup, Bool.and_eq_true, List.all_eq_true] at h
  exact h.2

lemma isHex_ne {c : Char} (h : isHex c = true) :
    c ≠ ':' ∧ c ≠ '.' ∧ c ≠ '%' ∧ c ≠ 'N' ∧ c ≠ '-' := by
  have hall : ∀ c ∈ "0123456789abcdefABCDEF".toList,
      c ≠ ':' ∧ c ≠ '.' ∧ c ≠ '%' ∧ c ≠ 'N' ∧ c ≠ '-' := forall_of_all (by decide)
  exact hall c (isHex_mem h)

/-- What a quad is made of. -/
lemma quad_eq_some {cs : List Char} {octets : List ℕ} (h : quad cs = some octets) :
    (cs.splitOn '.').length = 4 ∧ (∀ octet ∈ cs.splitOn '.', isOctet octet = true) ∧
      octets = (cs.splitOn '.').map decimal := by
  unfold quad at h
  split at h
  · next hquad =>
    simp only [Bool.and_eq_true, decide_eq_true_eq, List.all_eq_true] at hquad
    exact ⟨hquad.1, hquad.2, (Option.some.inj h).symm⟩
  · cases h

lemma decimal_le {octet : List Char} (h : isOctet octet = true) : decimal octet ≤ 255 := by
  simp only [isOctet, Bool.and_eq_true, decide_eq_true_eq] at h
  exact h.2

lemma isOctet_digits {octet : List Char} (h : isOctet octet = true) :
    octet ≠ [] ∧ octet.all Char.isDigit = true ∧ (octet.length = 1 ∨ octet.head? ≠ some '0') := by
  simp only [isOctet, Bool.and_eq_true, decide_eq_true_eq, Bool.or_eq_true, bne_iff_ne] at h
  exact ⟨List.ne_nil_of_length_pos h.1.1.1.1, h.1.1.2, h.1.2⟩

lemma quad_forms {cs : List Char} {octets : List ℕ} (h : quad cs = some octets) :
    ∃ a b c d, octets = [a, b, c, d] ∧ a ≤ 255 ∧ b ≤ 255 ∧ c ≤ 255 ∧ d ≤ 255 := by
  obtain ⟨hlength, hall, rfl⟩ := quad_eq_some h
  match hparts : cs.splitOn '.', hlength with
  | [a, b, c, d], _ =>
    rw [hparts] at hall
    simp only [List.forall_mem_cons] at hall
    exact ⟨_, _, _, _, rfl, decimal_le hall.1, decimal_le hall.2.1, decimal_le hall.2.2.1,
      decimal_le hall.2.2.2.1⟩

lemma quadGroups_of_quad {cs : List Char} {octets : List ℕ} (h : quad cs = some octets) :
    (quadGroups octets).length = 2 ∧ ∀ g ∈ quadGroups octets, g < 65536 := by
  obtain ⟨a, b, c, d, rfl, ha, hb, hc, hd⟩ := quad_forms h
  refine ⟨rfl, ?_⟩
  simp only [quadGroups, List.forall_mem_cons]
  exact ⟨by omega, by omega, by simp⟩

lemma readParts_lt {parts : List (List Char)} {gs : List ℕ} (h : readParts parts = some gs) :
    ∀ g ∈ gs, g < 65536 := by
  induction parts generalizing gs with
  | nil =>
    obtain rfl := Option.some.inj h
    simp
  | cons part parts ih =>
    unfold readParts at h
    split at h
    · next hgroup =>
      obtain ⟨rest, hrest, rfl⟩ := Option.map_eq_some_iff.mp h
      exact List.forall_mem_cons.mpr ⟨hexValue_lt_of_isGroup hgroup, ih hrest⟩
    · split at h
      · obtain ⟨octets, hquad, rfl⟩ := Option.map_eq_some_iff.mp h
        exact (quadGroups_of_quad hquad).2
      · cases h

lemma readLeft_eq_some {cs : List Char} {gs : List ℕ} (h : readLeft cs = some gs) :
    (cs = [] ∧ gs = []) ∨
      (cs ≠ [] ∧ (∀ part ∈ cs.splitOn ':', isGroup part = true) ∧
        gs = (cs.splitOn ':').map hexValue) := by
  unfold readLeft at h
  split at h
  · next hcs => exact .inl ⟨hcs, (Option.some.inj h).symm⟩
  · next hcs =>
    split at h
    · next hall => exact .inr ⟨hcs, List.all_eq_true.mp hall, (Option.some.inj h).symm⟩
    · cases h

lemma readLeft_lt {cs : List Char} {gs : List ℕ} (h : readLeft cs = some gs) :
    ∀ g ∈ gs, g < 65536 := by
  rcases readLeft_eq_some h with ⟨-, rfl⟩ | ⟨-, hall, rfl⟩
  · simp
  · intro g hg
    obtain ⟨part, hpart, rfl⟩ := List.mem_map.mp hg
    exact hexValue_lt_of_isGroup (hall part hpart)

lemma readRight_lt {cs : List Char} {gs : List ℕ} (h : readRight cs = some gs) :
    ∀ g ∈ gs, g < 65536 := by
  unfold readRight at h
  split at h
  · obtain rfl := Option.some.inj h
    simp
  · exact readParts_lt h

/-- The two forms of an address. -/
lemma address_eq_some {cs : List Char} {gs : List ℕ} (h : address cs = some gs) :
    ((sides cs).2 = none ∧ readParts (cs.splitOn ':') = some gs ∧ gs.length = 8) ∨
      ∃ right ls rs, (sides cs).2 = some right ∧ readLeft (sides cs).1 = some ls ∧
        readRight right = some rs ∧ ls.length + rs.length ≤ 7 ∧
        gs = ls ++ List.replicate (8 - ls.length - rs.length) 0 ++ rs := by
  unfold address at h
  cases hsides : (sides cs).2 with
  | none =>
    rw [hsides] at h
    obtain ⟨hread, hlength⟩ := Option.filter_eq_some_iff.mp h
    exact .inl ⟨rfl, hread, of_decide_eq_true hlength⟩
  | some right =>
    rw [hsides] at h
    cases hl : readLeft (sides cs).1 with
    | none => simp [hl] at h
    | some ls =>
      cases hr : readRight right with
      | none => simp [hl, hr] at h
      | some rs =>
        simp only [hl, hr] at h
        split at h
        · next hlength =>
          exact .inr ⟨right, ls, rs, rfl, rfl, hr, hlength, (Option.some.inj h).symm⟩
        · cases h

lemma address_wellFormed {cs : List Char} {gs : List ℕ} (h : address cs = some gs) :
    gs.length = 8 ∧ ∀ g ∈ gs, g < 65536 := by
  rcases address_eq_some h with ⟨-, hread, hlength⟩ | ⟨right, ls, rs, -, hl, hr, hlength, rfl⟩
  · exact ⟨hlength, readParts_lt hread⟩
  · refine ⟨?_, ?_⟩
    · rw [List.length_append, List.length_append, List.length_replicate]
      omega
    · intro g hg
      rcases List.mem_append.mp hg with hg | hg
      · rcases List.mem_append.mp hg with hg | hg
        · exact readLeft_lt hl g hg
        · rw [List.eq_of_mem_replicate hg]
          decide
      · exact readRight_lt hr g hg

end GatewayControl.Ipv6Texts
