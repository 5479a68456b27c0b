import GatewayControl.Text
import Mathlib.Data.List.Dedup
import Mathlib.Data.String.Basic

/-!
The buffer a command's output is collected in. It takes bytes up to a limit, drops the rest and
remembers that it did.

What it holds of a text are the characters that fit and, where the limit falls inside one, the
broken part of it.
-/

namespace GatewayControl.LimitedOutput

open Text

structure LimitedBuffer where
  buffer : List UInt8
  remaining : ℕ
  truncated : Bool

def newLimitedBuffer (limit : ℕ) : LimitedBuffer := ⟨[], limit, false⟩

def LimitedBuffer.write (b : LimitedBuffer) (contents : List UInt8) : LimitedBuffer :=
  let kept := if b.remaining < contents.length then contents.take b.remaining else contents
  ⟨b.buffer ++ kept, b.remaining - kept.length,
    b.truncated || decide (b.remaining < contents.length)⟩

def writes (limit : ℕ) (chunks : List (List UInt8)) : LimitedBuffer :=
  chunks.foldl LimitedBuffer.write (newLimitedBuffer limit)

lemma write_eq (b : LimitedBuffer) (contents : List UInt8) :
    b.write contents = ⟨b.buffer ++ contents.take b.remaining, b.remaining - contents.length,
      b.truncated || decide (b.remaining < contents.length)⟩ := by
  unfold LimitedBuffer.write
  by_cases h : b.remaining < contents.length
  · simp only [h, if_true, List.length_take, LimitedBuffer.mk.injEq, true_and, and_true]
    omega
  · rw [not_lt] at h
    simp [List.take_of_length_le h, Nat.not_lt.mpr h]

lemma foldl_write (chunks : List (List UInt8)) (b : LimitedBuffer) :
    chunks.foldl LimitedBuffer.write b =
      ⟨b.buffer ++ chunks.flatten.take b.remaining, b.remaining - chunks.flatten.length,
        b.truncated || decide (b.remaining < chunks.flatten.length)⟩ := by
  induction chunks generalizing b with
  | nil => simp
  | cons chunk chunks ih =>
    rw [List.foldl_cons, ih, write_eq, List.flatten_cons, List.length_append, List.take_append]
    simp only [List.append_assoc, LimitedBuffer.mk.injEq, true_and, Bool.or_assoc]
    refine ⟨by omega, ?_⟩
    congr 1
    rw [← Bool.decide_or, decide_eq_decide]
    omega

/-- However the output is cut into writes, the buffer holds its first bytes. -/
lemma writes_eq (limit : ℕ) (chunks : List (List UInt8)) :
    writes limit chunks = ⟨chunks.flatten.take limit, limit - chunks.flatten.length,
      decide (limit < chunks.flatten.length)⟩ := by
  unfold writes
  rw [foldl_write]
  simp [newLimitedBuffer]

/-! ### Text -/

def encode (text : List Char) : List UInt8 := text.flatMap String.utf8EncodeChar

lemma utf8ByteSize_plain {cs : List Char} (h : ∀ c ∈ cs, c.toNat < 128) :
    (String.ofList cs).utf8ByteSize = cs.length := by
  rw [String.utf8ByteSize_ofList]
  induction cs with
  | nil => rfl
  | cons c cs ih =>
    have hc : c.utf8Size = 1 := by
      rw [Char.utf8Size_eq_one_iff]
      exact Nat.le_of_lt_succ (h c List.mem_cons_self)
    rw [String.utf8Len, ih fun d hd => h d (List.mem_cons_of_mem _ hd), hc, List.length_cons]

/-- The characters whose bytes come before the limit, and the bytes after them. -/
def fitting : ℕ → List Char → List Char × List UInt8
  | _, [] => ([], [])
  | limit, c :: cs =>
      let bytes := String.utf8EncodeChar c
      if bytes.length ≤ limit then
        let (kept, broken) := fitting (limit - bytes.length) cs
        (c :: kept, broken)
      else ([], bytes.take limit)

lemma take_encode (limit : ℕ) (text : List Char) :
    (encode text).take limit = encode (fitting limit text).1 ++ (fitting limit text).2 := by
  induction text generalizing limit with
  | nil => simp [encode, fitting]
  | cons c cs ih =>
    have hcons : encode (c :: cs) = String.utf8EncodeChar c ++ encode cs := rfl
    rw [hcons, List.take_append, fitting]
    by_cases h : (String.utf8EncodeChar c).length ≤ limit
    · rw [if_pos h, List.take_of_length_le h, ih]
      simp [encode]
    · have hzero : limit - (String.utf8EncodeChar c).length = 0 := by omega
      rw [if_neg h, hzero]
      simp [encode]

lemma fitting_of_le {limit : ℕ} {text : List Char} (h : (encode text).length ≤ limit) :
    fitting limit text = (text, []) := by
  induction text generalizing limit with
  | nil => rfl
  | cons c cs ih =>
    have hcons : encode (c :: cs) = String.utf8EncodeChar c ++ encode cs := rfl
    rw [hcons, List.length_append] at h
    rw [fitting, if_pos (by omega), ih (by omega)]

/-- What a program reads of a text from a buffer with that limit; a broken byte is read as the
replacement character. -/
def received (limit : ℕ) (text : String) : String :=
  let (kept, broken) := fitting limit text.toList
  String.ofList (kept ++ broken.map fun _ => '\uFFFD')

def size (text : String) : ℕ := (encode text.toList).length

/-- The text is longer than the limit. -/
def Truncated (limit : ℕ) (text : String) : Prop := limit < size text

instance (limit : ℕ) (text : String) : Decidable (Truncated limit text) :=
  inferInstanceAs (Decidable (_ < _))

lemma received_of_fits {limit : ℕ} {text : String} (h : ¬ Truncated limit text) :
    received limit text = text := by
  unfold received
  rw [fitting_of_le (Nat.not_lt.mp h)]
  simp

/-- A text written in any chunks is received as its bytes in the buffer read. -/
lemma received_writes {limit : ℕ} {text : String} {chunks : List (List UInt8)}
    (h : chunks.flatten = encode text.toList) :
    (writes limit chunks).buffer =
        encode (fitting limit text.toList).1 ++ (fitting limit text.toList).2 ∧
      ((writes limit chunks).truncated = true ↔ Truncated limit text) := by
  rw [writes_eq, h, take_encode]
  exact ⟨rfl, decide_eq_true_iff⟩

/-! ### Listings -/

/-- A name to a line. -/
def listing (names : List (List Char)) : List Char := names.flatMap (· ++ ['\n'])

lemma fitting_append {limit : ℕ} {text rest : List Char} (h : (encode text).length = limit) :
    fitting limit (text ++ rest) = (text ++ (fitting 0 rest).1, (fitting 0 rest).2) := by
  induction text generalizing limit with
  | nil =>
    obtain rfl := h
    rfl
  | cons c cs ih =>
    have hcons : encode (c :: cs) = String.utf8EncodeChar c ++ encode cs := rfl
    rw [hcons, List.length_append] at h
    rw [List.cons_append, fitting, if_pos (by omega), ih (by omega)]
    rfl

lemma fitting_zero (text : List Char) : fitting 0 text = ([], []) := by
  cases text with
  | nil => rfl
  | cons c cs =>
    rw [fitting, if_neg (by have := String.length_utf8EncodeChar c; have := c.utf8Size_pos; omega)]
    rfl

/-- Where the limit falls between two lines, the listing is read as a shorter one. -/
lemma received_listing {limit : ℕ} {names more : List (List Char)}
    (h : (encode (listing names)).length = limit) :
    received limit (String.ofList (listing (names ++ more))) =
      String.ofList (listing names) := by
  unfold received
  have happend : listing (names ++ more) = listing names ++ listing more := by
    simp [listing]
  rw [String.toList_ofList, happend, fitting_append h, fitting_zero]
  simp

lemma splitLines_append {line rest : List Char} (h : '\n' ∉ line) :
    splitLines (line ++ '\n' :: rest) = line :: splitLines rest := by
  induction line with
  | nil => rfl
  | cons c cs ih =>
    rw [List.mem_cons, not_or] at h
    rw [List.cons_append, splitLines, ih h.2, beq_false_of_ne (Ne.symm h.1)]

lemma splitLines_listing {names : List (List Char)} (h : ∀ n ∈ names, '\n' ∉ n) :
    splitLines (listing names) = names ++ [[]] := by
  induction names with
  | nil => rfl
  | cons n names ih =>
    have hcons : listing (n :: names) = n ++ '\n' :: listing names := by simp [listing]
    rw [hcons, splitLines_append (h n List.mem_cons_self),
      ih fun m hm => h m (List.mem_cons_of_mem _ hm)]
    rfl

/-- A listing of different trimmed names in order is read as those names. -/
lemma lines_listing {names : List (List Char)} (hline : ∀ n ∈ names, '\n' ∉ n)
    (htrim : ∀ n ∈ names, trimBoth isSpace n = n) (hsome : ∀ n ∈ names, n ≠ [])
    (hnodup : names.Nodup) (hsorted : (names.map String.ofList).Pairwise (· ≤ ·)) :
    nonemptyUniqueLines (String.ofList (listing names)) = names.map String.ofList := by
  unfold nonemptyUniqueLines trimSpace
  simp only [String.toList_ofList]
  rw [splitLines_listing hline, List.map_append]
  have hmap : names.map (fun l => String.ofList (trimBoth isSpace l)) =
      names.map String.ofList :=
    List.map_congr_left fun n hn => by rw [htrim n hn]
  have hkept : (names.map String.ofList).filter (· ≠ "") = names.map String.ofList := by
    refine List.filter_eq_self.mpr fun s hs => ?_
    obtain ⟨n, hn, rfl⟩ := List.mem_map.mp hs
    have hne := hsome n hn
    simpa using hne
  have hlast : ([([] : List Char)].map fun l => String.ofList (trimBoth isSpace l)).filter
      (· ≠ "") = [] := rfl
  have hdifferent : (names.map String.ofList).Nodup :=
    hnodup.map fun a b hab => by simpa using congrArg String.toList hab
  rw [hmap, List.filter_append, hkept, hlast, List.append_nil, hdifferent.dedup,
    hsorted.insertionSort_eq]

end GatewayControl.LimitedOutput
