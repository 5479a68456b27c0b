import GatewayControl.Secrets
import GatewayControl.Text

/-!
Which texts the box opens.

The parts are told apart by tests for emptiness, and decoded leniently. `sealed_iff` says on
which secrets and on which texts this agrees with what the box writes.
-/

namespace GatewayControl.SealedTexts

open Base64 Secrets Text

/-- What Node documents. -/
structure Lawful (r : Runtime) : Prop where
  fromBase64url : ∀ bytes, r.fromBase64url (base64url bytes) = bytes
  toUtf8 : ∀ value : String, r.toUtf8 (utf8 value) = value
  opens : ∀ key iv plaintext : Bytes, key.length = 32 → iv.length = 12 →
    r.createDecipheriv key iv (r.createCipheriv key iv plaintext).2
      (r.createCipheriv key iv plaintext).1 = .ok plaintext
  tag : ∀ key iv plaintext : Bytes, key.length = 32 → iv.length = 12 →
    (r.createCipheriv key iv plaintext).2.length = 16
  ciphertext : ∀ key iv plaintext : Bytes, key.length = 32 → iv.length = 12 →
    (r.createCipheriv key iv plaintext).1.length = plaintext.length

variable (r : Runtime) (box : SecretBox)

/-- The box may have written the text. -/
def Produced (text : String) : Prop :=
  ∃ iv value, iv.length = 12 ∧ text = encrypt r box iv value

/-- A segment is what its bytes are encoded as. -/
def Canonical (segment : List Char) : Prop := base64url (r.fromBase64url segment) = segment

def Authentic (iv tag ciphertext : Bytes) : Prop :=
  ∃ plaintext, r.createDecipheriv box.key iv tag ciphertext = .ok plaintext

/-- What the text holds with a full tag is not a forgery: the box has sealed it. -/
def Unforged (text : String) : Prop :=
  ∀ version iv tag ciphertext rest,
    text.toList.splitOn '.' = version :: iv :: tag :: ciphertext :: rest →
    (r.fromBase64url tag).length = 16 →
    Authentic r box (r.fromBase64url iv) (r.fromBase64url tag) (r.fromBase64url ciphertext) →
    (r.fromBase64url iv).length = 12 ∧
      ∃ value : String, r.createCipheriv box.key (r.fromBase64url iv) (utf8 value) =
        (r.fromBase64url ciphertext, r.fromBase64url tag)

/-- Authentic segments in a text of another form: with more segments, a short tag, or a segment
that is not canonical. -/
def Lenient (text : String) : Prop :=
  ∃ iv tag ciphertext rest,
    text.toList.splitOn '.' = "v1".toList :: iv :: tag :: ciphertext :: rest ∧
    (iv ≠ [] ∧ tag ≠ [] ∧ ciphertext ≠ []) ∧
    Authentic r box (r.fromBase64url iv) (r.fromBase64url tag) (r.fromBase64url ciphertext) ∧
    (rest ≠ [] ∨ (r.fromBase64url tag).length ≠ 16 ∨
      ¬Canonical r iv ∨ ¬Canonical r tag ∨ ¬Canonical r ciphertext)

variable {r : Runtime} {box : SecretBox} {iv : Bytes} {value text : String}

/-! ### Segments -/

lemma utf8_eq_nil : utf8 value = [] ↔ value = "" := by
  unfold utf8
  rw [← List.length_eq_zero_iff, Array.length_toList]
  exact String.utf8ByteSize_eq_zero_iff

lemma no_dot {bytes : Bytes} : '.' ∉ base64url bytes := by
  intro hmem
  exact absurd (mem_unpadded hmem) (by decide)

lemma canonical_base64url (hr : Lawful r) (bytes : Bytes) : Canonical r (base64url bytes) := by
  unfold Canonical
  rw [hr.fromBase64url]

lemma split_encrypt (r : Runtime) (box : SecretBox) (iv : Bytes) (value : String) :
    (encrypt r box iv value).toList.splitOn '.' =
      ["v1".toList, base64url iv, base64url (r.createCipheriv box.key iv (utf8 value)).2,
        base64url (r.createCipheriv box.key iv (utf8 value)).1] := by
  unfold encrypt
  dsimp only
  rw [String.toList_ofList]
  refine List.splitOn_intercalate '.' ?_ (by simp)
  simp only [List.mem_cons, List.not_mem_nil, or_false]
  rintro segment (rfl | rfl | rfl | rfl)
  · decide
  all_goals exact no_dot

/-- A text is its segments and the dots between them. -/
lemma text_of_split {segments : List (List Char)} (h : text.toList.splitOn '.' = segments) :
    text = String.ofList (['.'].intercalate segments) := by
  rw [← h, show ['.'].intercalate (text.toList.splitOn '.') = text.toList from
    List.intercalate_splitOn '.', String.ofList_toList]

lemma decrypt_ok (h : decrypt r box text = .ok value) : ∃ iv tag ciphertext rest,
    text.toList.splitOn '.' = "v1".toList :: iv :: tag :: ciphertext :: rest ∧
    (iv ≠ [] ∧ tag ≠ [] ∧ ciphertext ≠ []) ∧
    Authentic r box (r.fromBase64url iv) (r.fromBase64url tag) (r.fromBase64url ciphertext) := by
  unfold decrypt at h
  split at h
  · next version iv tag ciphertext rest hsplit =>
    split at h
    · cases h
    · next hparts =>
      simp only [not_or, ne_eq, not_not] at hparts
      obtain ⟨rfl, hiv, htag, hciphertext⟩ := hparts
      refine ⟨iv, tag, ciphertext, rest, hsplit, ⟨hiv, htag, hciphertext⟩, ?_⟩
      cases hopened : r.createDecipheriv box.key (r.fromBase64url iv) (r.fromBase64url tag)
          (r.fromBase64url ciphertext) with
      | ok plaintext => exact ⟨plaintext, hopened⟩
      | error message =>
        rw [hopened] at h
        cases h
  · cases h

lemma ok_decrypt {iv tag ciphertext : List Char} {rest : List (List Char)} {plaintext : Bytes}
    (hsplit : text.toList.splitOn '.' = "v1".toList :: iv :: tag :: ciphertext :: rest)
    (hsome : iv ≠ [] ∧ tag ≠ [] ∧ ciphertext ≠ [])
    (hopened : r.createDecipheriv box.key (r.fromBase64url iv) (r.fromBase64url tag)
      (r.fromBase64url ciphertext) = .ok plaintext) :
    decrypt r box text = .ok (r.toUtf8 plaintext) := by
  obtain ⟨hiv, htag, hciphertext⟩ := hsome
  unfold decrypt
  rw [hsplit]
  dsimp only
  rw [if_neg, hopened]
  · rfl
  · simp only [not_or, ne_eq, not_not]
    exact ⟨trivial, hiv, htag, hciphertext⟩

/-! ### Secrets -/

/-- The empty secret has no ciphertext, and its text is refused. -/
lemma decrypt_encrypt (hr : Lawful r) (hiv : iv.length = 12) :
    decrypt r box (encrypt r box iv value) = .ok value ↔ value ≠ "" := by
  have hlength := hr.ciphertext box.key iv (utf8 value) box.length hiv
  have htag := hr.tag box.key iv (utf8 value) box.length hiv
  constructor
  · rintro h rfl
    rw [utf8_eq_nil.mpr rfl, List.length_nil, List.length_eq_zero_iff] at hlength
    obtain ⟨iv', tag, ciphertext, rest, hsplit, ⟨-, -, hsome⟩, -⟩ := decrypt_ok h
    rw [split_encrypt] at hsplit
    simp only [List.cons.injEq] at hsplit
    obtain ⟨-, -, -, rfl, -⟩ := hsplit
    exact hsome (unpadded_eq_nil.mpr (utf8_eq_nil.mpr rfl ▸ hlength))
  · intro hvalue
    have hsome : base64url iv ≠ [] ∧ base64url (r.createCipheriv box.key iv (utf8 value)).2 ≠ [] ∧
        base64url (r.createCipheriv box.key iv (utf8 value)).1 ≠ [] := by
      refine ⟨fun h => ?_, fun h => ?_, fun h => hvalue ?_⟩
      · rw [unpadded_eq_nil.mp h] at hiv
        cases hiv
      · rw [unpadded_eq_nil.mp h] at htag
        cases htag
      · rw [unpadded_eq_nil.mp h, List.length_nil] at hlength
        exact utf8_eq_nil.mp (List.length_eq_zero_iff.mp hlength.symm)
    have hopened : r.createDecipheriv box.key (r.fromBase64url (base64url iv))
        (r.fromBase64url (base64url (r.createCipheriv box.key iv (utf8 value)).2))
        (r.fromBase64url (base64url (r.createCipheriv box.key iv (utf8 value)).1)) =
          .ok (utf8 value) := by
      simp only [hr.fromBase64url]
      exact hr.opens box.key iv (utf8 value) box.length hiv
    rw [ok_decrypt (split_encrypt r box iv value) hsome hopened, hr.toUtf8]

/-! ### Texts -/

lemma produced_of_strict (hunforged : Unforged r box text) {iv tag ciphertext : List Char}
    (hsplit : text.toList.splitOn '.' = ["v1".toList, iv, tag, ciphertext])
    (hauthentic : Authentic r box (r.fromBase64url iv) (r.fromBase64url tag)
      (r.fromBase64url ciphertext)) (htag : (r.fromBase64url tag).length = 16)
    (hcanonical : Canonical r iv ∧ Canonical r tag ∧ Canonical r ciphertext) :
    Produced r box text := by
  obtain ⟨hiv, value, hvalue⟩ := hunforged _ iv tag ciphertext [] hsplit htag hauthentic
  obtain ⟨hiv', htag', hciphertext'⟩ := hcanonical
  refine ⟨r.fromBase64url iv, value, hiv, ?_⟩
  unfold encrypt
  dsimp only
  rw [hvalue, hiv', htag', hciphertext']
  exact text_of_split hsplit

lemma Produced.strict (hr : Lawful r) (h : Produced r box text)
    {version iv tag ciphertext : List Char} {rest : List (List Char)}
    (hsplit : text.toList.splitOn '.' = version :: iv :: tag :: ciphertext :: rest) :
    rest = [] ∧ (r.fromBase64url tag).length = 16 ∧
      Canonical r iv ∧ Canonical r tag ∧ Canonical r ciphertext := by
  obtain ⟨bytes, value, hlength, rfl⟩ := h
  rw [split_encrypt] at hsplit
  simp only [List.cons.injEq] at hsplit
  obtain ⟨-, rfl, rfl, rfl, rfl⟩ := hsplit
  refine ⟨rfl, ?_, canonical_base64url hr _, canonical_base64url hr _, canonical_base64url hr _⟩
  rw [hr.fromBase64url]
  exact hr.tag box.key bytes (utf8 value) box.length hlength

lemma produced_iff (hr : Lawful r) (hunforged : Unforged r box text) :
    (∀ value, decrypt r box text = .ok value → Produced r box text) ↔ ¬Lenient r box text := by
  constructor
  · rintro h ⟨iv, tag, ciphertext, rest, hsplit, hsome, ⟨plaintext, hopened⟩, hform⟩
    have hproduced := h _ (ok_decrypt hsplit hsome hopened)
    obtain ⟨hrest, htag, hiv, htag', hciphertext⟩ := hproduced.strict hr hsplit
    rcases hform with hform | hform | hform | hform | hform
    · exact hform hrest
    · exact hform htag
    · exact hform hiv
    · exact hform htag'
    · exact hform hciphertext
  · intro hlenient value hvalue
    obtain ⟨iv, tag, ciphertext, rest, hsplit, hsome, hauthentic⟩ := decrypt_ok hvalue
    by_cases hrest : rest = []
    · subst hrest
      by_cases hstrict : (r.fromBase64url tag).length = 16 ∧
          Canonical r iv ∧ Canonical r tag ∧ Canonical r ciphertext
      · exact produced_of_strict hunforged hsplit hauthentic hstrict.1 hstrict.2
      · refine absurd ⟨iv, tag, ciphertext, [], hsplit, hsome, hauthentic, .inr ?_⟩ hlenient
        simpa only [not_and_or] using hstrict
    · exact absurd ⟨iv, tag, ciphertext, rest, hsplit, hsome, hauthentic, .inl hrest⟩ hlenient

/-- A secret comes back from its text just if it is not empty, and a text that is opened is one
that the box writes just if it is not of a lenient form. -/
theorem sealed_iff (hr : Lawful r) (hiv : iv.length = 12) (hunforged : Unforged r box text) :
    (decrypt r box (encrypt r box iv value) = .ok value ∧
        ∀ opened, decrypt r box text = .ok opened → Produced r box text) ↔
      value ≠ "" ∧ ¬Lenient r box text :=
  and_congr (decrypt_encrypt hr hiv) (produced_iff hr hunforged)

lemma unforged_encrypt (hr : Lawful r) (hiv : iv.length = 12) :
    Unforged r box (encrypt r box iv value) := by
  intro version iv' tag ciphertext rest hsplit _ _
  rw [split_encrypt] at hsplit
  simp only [List.cons.injEq] at hsplit
  obtain ⟨-, rfl, rfl, rfl, -⟩ := hsplit
  simp only [hr.fromBase64url]
  exact ⟨hiv, value, rfl⟩

/-! ### A run -/

def zeros (n : ℕ) : Bytes := List.replicate n 0

/-- What AES-256-GCM makes of no byte and of sixteen zeros, under the zero key and IV. -/
def vectors : List (Bytes × Bytes × Bytes) :=
  [([], [],
      [0x53, 0x0f, 0x8a, 0xfb, 0xc7, 0x45, 0x36, 0xb9, 0xa9, 0x63, 0xb4, 0xf1, 0xc4, 0xcb, 0x73, 0x8b]),
    (zeros 16,
      [0xce, 0xa7, 0x40, 0x3d, 0x4d, 0x60, 0x6b, 0x6e, 0x07, 0x4e, 0xc5, 0xd3, 0xba, 0xf3, 0x9d, 0x18],
      [0xd0, 0xd1, 0xc8, 0xa7, 0x99, 0x99, 0x6b, 0xf0, 0x26, 0x5b, 0x98, 0xb5, 0xd4, 0x8a, 0xb9, 0x19])]

def sampleRuntime : Runtime where
  createCipheriv _ _ plaintext :=
    ((vectors.find? fun v => v.1 = plaintext).map Prod.snd).getD (plaintext, zeros 16)
  createDecipheriv _ _ tag ciphertext :=
    match vectors.find? fun v => v.2 = (ciphertext, tag) with
    | some (plaintext, _) => .ok plaintext
    | none => if tag = zeros 16 then .ok ciphertext else .error "unable to authenticate data"
  fromBase64url segment :=
    let digits := segment.filter urlAlphabet.isDigit
    decode urlAlphabet (digits ++ padding urlAlphabet digits)
  toUtf8 bytes := (String.fromUTF8? ⟨bytes.toArray⟩).getD ""

lemma sample_cases (plaintext : Bytes) :
    (plaintext = [] ∨ plaintext = zeros 16) ∨
      vectors.find? (fun v => v.1 = plaintext) = none := by
  by_cases hempty : plaintext = []
  · exact .inl (.inl hempty)
  · by_cases hzeros : plaintext = zeros 16
    · exact .inl (.inr hzeros)
    · refine .inr ?_
      simp [vectors, Ne.symm hempty, Ne.symm hzeros]

lemma lawful_sample : Lawful sampleRuntime where
  fromBase64url bytes := by
    have hdigits : (base64url bytes).filter urlAlphabet.isDigit = base64url bytes :=
      List.filter_eq_self.mpr fun c hc => mem_unpadded hc
    simp only [sampleRuntime, hdigits]
    unfold base64url
    rw [unpadded_padding, decode_encode]
  toUtf8 value := by
    have hbytes : (⟨(utf8 value).toArray⟩ : ByteArray) = value.toByteArray := rfl
    simp only [sampleRuntime, hbytes, String.fromUTF8?]
    rw [dif_pos value.isValidUTF8]
    rfl
  opens key iv plaintext _ _ := by
    rcases sample_cases plaintext with (rfl | rfl) | hother
    · rfl
    · rfl
    · have hsealed : ∀ v ∈ vectors, v.2 ≠ (plaintext, zeros 16) := by
        intro v hv heq
        have htags : ∀ v ∈ vectors, v.2.2 ≠ zeros 16 := by decide
        exact htags v hv (congrArg Prod.snd heq)
      have hnone : vectors.find? (fun v => v.2 = (plaintext, zeros 16)) = none := by
        simpa only [List.find?_eq_none, decide_eq_true_eq] using hsealed
      simp only [sampleRuntime, hother, Option.map_none, Option.getD_none, hnone, if_true]
  tag key iv plaintext _ _ := by
    rcases sample_cases plaintext with (rfl | rfl) | hother
    · rfl
    · rfl
    · simp only [sampleRuntime, hother, Option.map_none, Option.getD_none]
      decide
  ciphertext key iv plaintext _ _ := by
    rcases sample_cases plaintext with (rfl | rfl) | hother
    · rfl
    · rfl
    · simp only [sampleRuntime, hother, Option.map_none, Option.getD_none]

def zeroBox : SecretBox := ⟨zeros 32, by decide⟩

def secret : String := String.ofList (List.replicate 16 (Char.ofNat 0))

theorem sealed_secret :
    (decrypt sampleRuntime zeroBox (encrypt sampleRuntime zeroBox (zeros 12) secret) = .ok secret ∧
        ∀ opened, decrypt sampleRuntime zeroBox (encrypt sampleRuntime zeroBox (zeros 12) secret) =
          .ok opened → Produced sampleRuntime zeroBox
            (encrypt sampleRuntime zeroBox (zeros 12) secret)) ↔
      secret ≠ "" ∧
        ¬Lenient sampleRuntime zeroBox (encrypt sampleRuntime zeroBox (zeros 12) secret) :=
  sealed_iff lawful_sample (by decide) (unforged_encrypt lawful_sample (by decide))

def sealedText : String :=
  "v1.AAAAAAAAAAAAAAAA.0NHIp5mZa_AmW5i11Iq5GQ.zqdAPU1ga24HTsXTuvOdGA"

/-- The empty secret does not come back, and a fifth segment is ignored. -/
theorem empty_and_extended :
    decrypt sampleRuntime zeroBox (encrypt sampleRuntime zeroBox (zeros 12) "") =
        .error unsupported ∧
      decrypt sampleRuntime zeroBox (sealedText ++ ".x") = .ok secret ∧
      ¬Produced sampleRuntime zeroBox (sealedText ++ ".x") := by
  refine ⟨by decide, by decide, fun hproduced => ?_⟩
  have hsplit : (sealedText ++ ".x").toList.splitOn '.' =
      ["v1".toList, "AAAAAAAAAAAAAAAA".toList, "0NHIp5mZa_AmW5i11Iq5GQ".toList,
        "zqdAPU1ga24HTsXTuvOdGA".toList, "x".toList] := by
    decide
  exact absurd (hproduced.strict lawful_sample hsplit).1 (by decide)

end GatewayControl.SealedTexts
