import Mathlib.Tactic

/-!
Base 64 with padding, over any alphabet of sixty-four digits and a padding character, and
without padding.

A text of the right shape may still end in digits with unused bits that are not zero. It is the
canonical text of its bytes exactly if encoding them gives it back.
-/

namespace GatewayControl.Base64

instance sextetNeZero : NeZero 64 := ⟨by decide⟩

structure Alphabet (α : Type*) where
  digit : Fin 64 → α
  value : α → Option (Fin 64)
  pad : α
  value_digit : ∀ n, value (digit n) = some n
  value_pad : value pad = none

variable {α : Type*} (A : Alphabet α)

/-! ### Encoding -/

def Alphabet.sextet (n : ℕ) : α := A.digit (Fin.ofNat 64 n)

def encode : List UInt8 → List α
  | [] => []
  | [x] => [A.sextet (x.toNat / 4), A.sextet (x.toNat % 4 * 16), A.pad, A.pad]
  | [x, y] =>
      [A.sextet (x.toNat / 4), A.sextet (x.toNat % 4 * 16 + y.toNat / 16),
        A.sextet (y.toNat % 16 * 4), A.pad]
  | x :: y :: z :: rest =>
      A.sextet (x.toNat / 4) :: A.sextet (x.toNat % 4 * 16 + y.toNat / 16) ::
        A.sextet (y.toNat % 16 * 4 + z.toNat / 64) :: A.sextet (z.toNat % 64) :: encode rest

/-! ### Decoding -/

def Alphabet.isDigit (a : α) : Bool := (A.value a).isSome

def Alphabet.bits (a : α) : ℕ := ((A.value a).map Fin.val).getD 0

/-- Groups of four digits, of which the last may end in padding. -/
def wellPadded [DecidableEq α] : List α → Bool
  | [] => true
  | a :: b :: c :: d :: rest =>
      A.isDigit a && A.isDigit b &&
        (A.isDigit c && A.isDigit d && wellPadded rest ||
          d == A.pad && (c == A.pad || A.isDigit c) && rest.isEmpty)
  | _ => false

/-- The bytes of a text of that shape; unused bits are dropped. -/
def decode : List α → List UInt8
  | a :: b :: c :: d :: rest =>
      let first := UInt8.ofNat (A.bits a * 4 + A.bits b / 16)
      let second := UInt8.ofNat (A.bits b % 16 * 16 + A.bits c / 4)
      let third := UInt8.ofNat (A.bits c % 4 * 64 + A.bits d)
      if A.isDigit d then first :: second :: third :: decode rest
      else if A.isDigit c then [first, second]
      else [first]
  | _ => []

variable {A}

lemma bits_sextet {n : ℕ} (h : n < 64) : A.bits (A.sextet n) = n := by
  unfold Alphabet.bits Alphabet.sextet
  rw [A.value_digit, Option.map_some, Option.getD_some, Fin.val_ofNat, Nat.mod_eq_of_lt h]

@[simp] lemma isDigit_sextet (n : ℕ) : A.isDigit (A.sextet n) = true := by
  unfold Alphabet.isDigit Alphabet.sextet
  rw [A.value_digit, Option.isSome_some]

@[simp] lemma isDigit_pad : A.isDigit A.pad = false := by
  unfold Alphabet.isDigit
  rw [A.value_pad, Option.isSome_none]

lemma ofNat_of_eq {n : ℕ} {x : UInt8} (h : n = x.toNat) : UInt8.ofNat n = x := by
  rw [h, UInt8.ofNat_toNat]

theorem decode_encode (bytes : List UInt8) : decode A (encode A bytes) = bytes := by
  induction bytes using encode.induct with
  | case1 => rfl
  | case2 x =>
    have hx := x.toNat_lt
    simp only [encode, decode, isDigit_pad, Bool.false_eq_true, if_false,
      bits_sextet (by omega : x.toNat / 4 < 64), bits_sextet (by omega : x.toNat % 4 * 16 < 64)]
    rw [ofNat_of_eq (x := x) (by omega)]
  | case3 x y =>
    have hx := x.toNat_lt
    have hy := y.toNat_lt
    simp only [encode, decode, isDigit_sextet, isDigit_pad, Bool.false_eq_true, if_false, if_true,
      bits_sextet (by omega : x.toNat / 4 < 64),
      bits_sextet (by omega : x.toNat % 4 * 16 + y.toNat / 16 < 64),
      bits_sextet (by omega : y.toNat % 16 * 4 < 64)]
    rw [ofNat_of_eq (x := x) (by omega), ofNat_of_eq (x := y) (by omega)]
  | case4 x y z rest ih =>
    have hx := x.toNat_lt
    have hy := y.toNat_lt
    have hz := z.toNat_lt
    simp only [encode, decode, isDigit_sextet, if_true, ih,
      bits_sextet (by omega : x.toNat / 4 < 64),
      bits_sextet (by omega : x.toNat % 4 * 16 + y.toNat / 16 < 64),
      bits_sextet (by omega : y.toNat % 16 * 4 + z.toNat / 64 < 64),
      bits_sextet (by omega : z.toNat % 64 < 64)]
    rw [ofNat_of_eq (x := x) (by omega), ofNat_of_eq (x := y) (by omega),
      ofNat_of_eq (x := z) (by omega)]

theorem wellPadded_encode [DecidableEq α] (bytes : List UInt8) :
    wellPadded A (encode A bytes) = true := by
  induction bytes using encode.induct with
  | case1 => rfl
  | case2 x => simp [encode, wellPadded]
  | case3 x y => simp [encode, wellPadded]
  | case4 x y z rest ih => simp [encode, wellPadded, ih]

theorem length_encode (bytes : List UInt8) :
    (encode A bytes).length = (bytes.length + 2) / 3 * 4 := by
  induction bytes using encode.induct with
  | case1 => rfl
  | case2 x => simp [encode]
  | case3 x y => simp [encode]
  | case4 x y z rest ih =>
    simp only [encode, List.length_cons, ih]
    omega

/-- The characters of an encoding are digits and padding. -/
lemma mem_encode {bytes : List UInt8} {a : α} (h : a ∈ encode A bytes) :
    A.isDigit a = true ∨ a = A.pad := by
  induction bytes using encode.induct with
  | case1 => cases h
  | case2 x =>
    simp only [encode, List.mem_cons, List.not_mem_nil, or_false] at h
    rcases h with rfl | rfl | rfl | rfl <;> simp
  | case3 x y =>
    simp only [encode, List.mem_cons, List.not_mem_nil, or_false] at h
    rcases h with rfl | rfl | rfl | rfl <;> simp
  | case4 x y z rest ih =>
    simp only [encode, List.mem_cons] at h
    rcases h with rfl | rfl | rfl | rfl | h
    iterate 4 simp
    exact ih h

/-! ### Without padding -/

variable (A)

def unpadded (bytes : List UInt8) : List α := (encode A bytes).filter A.isDigit

def padding (as : List α) : List α := List.replicate ((4 - as.length % 4) % 4) A.pad

variable {A}

lemma mem_unpadded {bytes : List UInt8} {a : α} (h : a ∈ unpadded A bytes) :
    A.isDigit a = true :=
  (List.mem_filter.mp h).2

lemma unpadded_padding (bytes : List UInt8) :
    unpadded A bytes ++ padding A (unpadded A bytes) = encode A bytes := by
  induction bytes using encode.induct with
  | case1 => simp [unpadded, padding, encode]
  | case2 x => simp [unpadded, padding, encode]
  | case3 x y => simp [unpadded, padding, encode]
  | case4 x y z rest ih =>
    have hfour : unpadded A (x :: y :: z :: rest) = A.sextet (x.toNat / 4) ::
        A.sextet (x.toNat % 4 * 16 + y.toNat / 16) :: A.sextet (y.toNat % 16 * 4 + z.toNat / 64) ::
          A.sextet (z.toNat % 64) :: unpadded A rest := by
      simp [unpadded, encode]
    have hpadding : padding A (unpadded A (x :: y :: z :: rest)) = padding A (unpadded A rest) := by
      unfold padding
      rw [hfour]
      simp only [List.length_cons, Nat.add_assoc, Nat.reduceAdd, Nat.add_mod_right]
    rw [hpadding, hfour]
    simp only [List.cons_append, ih, encode]

lemma unpadded_eq_nil {bytes : List UInt8} : unpadded A bytes = [] ↔ bytes = [] := by
  constructor
  · intro h
    have hlength := length_encode (A := A) bytes
    have hnone := unpadded_padding (A := A) bytes
    rw [h] at hnone
    rw [← hnone] at hlength
    simp only [padding, List.length_nil, Nat.zero_mod, Nat.sub_zero, Nat.mod_self,
      List.replicate_zero, List.append_nil] at hlength
    exact List.length_eq_zero_iff.mp (by omega)
  · rintro rfl
    simp [unpadded, encode]

end GatewayControl.Base64
