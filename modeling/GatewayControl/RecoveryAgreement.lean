import GatewayControl.RecoverySupervisor
import GatewayControl.SealedTexts

/-!
Whether control plane and supervisor agree on a request.

The messages they sign are the same text. Their keys are the same just if the file is text that
white space neither begins nor ends, followed by newlines; and then every request that is
published is applied.
-/

namespace GatewayControl.RecoveryAgreement

open Text Secrets RecoverySupervisor

/-! ### Newlines at the end -/

lemma rdropWhile_replicate {α : Type*} [DecidableEq α] {as : List α} {a : α} (n : ℕ)
    (h : ∀ b ∈ as.getLast?, b ≠ a) :
    (as ++ List.replicate n a).rdropWhile (· = a) = as := by
  induction n with
  | zero =>
    rw [List.replicate_zero, List.append_nil, List.rdropWhile_eq_self_iff]
    intro hne
    simpa using h _ (List.getLast?_eq_some_getLast hne)
  | succ n ih =>
    rw [List.replicate_succ', ← List.append_assoc, List.rdropWhile_concat_pos _ _ _ (by simp), ih]

lemma eq_rdropWhile_append {α : Type*} [DecidableEq α] (as : List α) (a : α) :
    ∃ n, as = as.rdropWhile (· = a) ++ List.replicate n a := by
  refine ⟨(as.rtakeWhile (· = a)).length, ?_⟩
  have hall : as.rtakeWhile (· = a) = List.replicate (as.rtakeWhile (· = a)).length a :=
    List.eq_replicate_length.mpr fun b hb => by simpa using List.mem_rtakeWhile_imp hb
  rw [← hall, List.rdropWhile_append_rtakeWhile]

/-! ### White space at the ends -/

lemma trimBoth_append {space : Char → Bool} {cs : List Char} (n : ℕ) {blank : Char}
    (hblank : space blank = true) (hfirst : ∀ c ∈ cs.head?, space c = false)
    (hlast : ∀ c ∈ cs.getLast?, space c = false) :
    trimBoth space (cs ++ List.replicate n blank) = cs := by
  have htail : ∀ c ∈ List.replicate n blank, space c = true := by
    intro c hc
    rw [(List.mem_replicate.mp hc).2]
    exact hblank
  cases cs with
  | nil =>
    unfold trimBoth
    rw [List.nil_append, List.dropWhile_eq_nil_iff.mpr htail]
    rfl
  | cons c cs =>
    have hkept : (c :: cs ++ List.replicate n blank).dropWhile space =
        c :: cs ++ List.replicate n blank := by
      rw [List.cons_append, List.dropWhile_cons_of_neg (by simp [hfirst c rfl])]
    have hends := trimBoth_of_ends hfirst hlast
    unfold trimBoth at hends ⊢
    rw [hkept, List.reverse_append, List.dropWhile_append_of_pos
      fun c hc => htail c (List.mem_reverse.mp hc)]
    rwa [List.dropWhile_cons_of_neg (by simp [hfirst c rfl])] at hends

/-! ### The keys -/

lemma utf8_eq (value : String) : utf8 value = value.toList.flatMap String.utf8EncodeChar := by
  have hbytes : utf8 (String.ofList value.toList) =
      value.toList.flatMap String.utf8EncodeChar := by
    unfold utf8
    rw [String.toUTF8_eq_toByteArray, String.toByteArray_ofList]
    exact List.toList_data_toByteArray
  rwa [String.ofList_toList] at hbytes

lemma last_of_newline {c : Char} (h : (String.utf8EncodeChar c).getLast? = some 10) :
    c = '\n' := by
  have hcode : ∀ n : ℕ, UInt8.ofNat n = 10 → n % 256 = 10 := fun n heq => by
    simpa using congrArg UInt8.toNat heq
  have hhigh : UInt8.ofNat (c.val.toNat % 0x40 + 0x80) ≠ 10 := by
    intro heq
    have hnat := hcode _ heq
    omega
  unfold String.utf8EncodeChar at h
  dsimp only at h
  split at h
  · next hascii =>
    have hnat := hcode _ (Option.some.inj h)
    have hten : c.toNat = 10 := by
      change c.val.toNat = 10
      omega
    rw [← Char.ofNat_toNat c, hten]
  · split at h
    · exact absurd (Option.some.inj h) hhigh
    · split at h
      · exact absurd (Option.some.inj h) hhigh
      · exact absurd (Option.some.inj h) hhigh

lemma last_utf8 {value : String} (h : ∀ c ∈ value.toList.getLast?, isJsSpace c = false) :
    ∀ b ∈ (utf8 value).getLast?, b ≠ 10 := by
  rintro b hb rfl
  rw [utf8_eq] at hb
  rcases List.eq_nil_or_concat value.toList with hnil | ⟨cs, c, hcs⟩
  · rw [hnil] at hb
    cases hb
  · rw [List.concat_eq_append] at hcs
    rw [hcs, List.getLast?_concat] at h
    rw [hcs, List.flatMap_append, List.flatMap_singleton] at hb
    have hsome : String.utf8EncodeChar c ≠ [] := by
      have hlength := String.length_utf8EncodeChar c
      intro hnil
      rw [hnil] at hlength
      exact absurd hlength.symm (Char.utf8Size_pos c).ne'
    rw [List.getLast?_append_of_ne_nil _ hsome] at hb
    have hc := h c rfl
    rw [last_of_newline hb] at hc
    exact absurd hc (by decide)

lemma utf8_newlines (value : String) (n : ℕ) :
    utf8 (String.ofList (value.toList ++ List.replicate n '\n')) =
      utf8 value ++ List.replicate n 10 := by
  rw [utf8_eq, String.toList_ofList, List.flatMap_append, ← utf8_eq, List.flatMap_replicate]
  congr 1
  induction n with
  | zero => rfl
  | succ n ih => rw [List.replicate_succ, List.flatten_cons, ih]; rfl

/-- A text that white space neither begins nor ends, and newlines after it. -/
def Plain (file : Bytes) : Prop :=
  ∃ (secret : String) (n : ℕ), file = utf8 secret ++ List.replicate n 10 ∧
    (∀ c ∈ secret.toList.head?, isJsSpace c = false) ∧
    (∀ c ∈ secret.toList.getLast?, isJsSpace c = false)

lemma keys_iff {toUtf8 : Bytes → String} (hutf8 : ∀ value, toUtf8 (utf8 value) = value)
    {file : Bytes} (hnull : 0 ∉ file) :
    utf8 (String.ofList (trimBoth isJsSpace (toUtf8 file).toList)) =
      commandSubstitution 0 10 file ↔ Plain file := by
  have hfile : file.filter (· ≠ 0) = file :=
    List.filter_eq_self.mpr fun b hb => decide_eq_true fun h => hnull (h ▸ hb)
  unfold commandSubstitution
  rw [hfile]
  constructor
  · intro heq
    obtain ⟨n, hn⟩ := eq_rdropWhile_append file 10
    refine ⟨_, n, heq ▸ hn, ?_, ?_⟩
    · rw [String.toList_ofList]
      exact head_trimBoth
    · rw [String.toList_ofList]
      exact getLast_trimBoth
  · rintro ⟨secret, n, rfl, hfirst, hlast⟩
    rw [rdropWhile_replicate n (last_utf8 hlast), ← utf8_newlines, hutf8, String.toList_ofList,
      trimBoth_append n (by decide) hfirst hlast, String.ofList_toList]

/-! ### The messages -/

lemma escape_plain {c : Char} (h : 32 ≤ c.toNat ∧ c ≠ '"' ∧ c ≠ '\\') : Json.escapeChar c = [c] := by
  obtain ⟨hlow, hquote, hback⟩ := h
  have hne : ∀ d : Char, d.toNat < 32 → c ≠ d := by
    rintro d hd rfl
    omega
  unfold Json.escapeChar
  rw [if_neg hquote, if_neg hback, if_neg (hne _ (by decide)), if_neg (hne _ (by decide)),
    if_neg (hne _ (by decide)), if_neg (by omega), if_neg (by omega), if_neg (by omega)]

lemma quote_plain {text : List Char} (h : ∀ c ∈ text, 32 ≤ c.toNat ∧ c ≠ '"' ∧ c ≠ '\\') :
    Json.quote (String.ofList text) = '"' :: text ++ ['"'] := by
  unfold Json.quote
  rw [String.toList_ofList]
  have hbody : text.flatMap Json.escapeChar = text := by
    induction text with
    | nil => rfl
    | cons c cs ih =>
      rw [List.flatMap_cons, escape_plain (h c List.mem_cons_self),
        ih fun d hd => h d (List.mem_cons_of_mem _ hd)]
      rfl
  rw [hbody]

/-- What the characters of identifiers and signatures are not. -/
def Tame (text : List Char) : Prop := ∀ c ∈ text, c ∈ "0123456789abcdefABCDEF-".toList

lemma Tame.printable {text : List Char} (h : Tame text) :
    ∀ c ∈ text, 32 ≤ c.toNat ∧ c ≠ '"' ∧ c ≠ '\\' := by
  have hall : ∀ c ∈ "0123456789abcdefABCDEF-".toList, 32 ≤ c.toNat ∧ c ≠ '"' ∧ c ≠ '\\' :=
    forall_of_all (by decide)
  exact fun c hc => hall c (h c hc)

lemma tame_digest (hmac : Hmac) (key : Bytes) (message : List Char) :
    Tame (hmac.digest key message) := by
  intro c hc
  have hhex : isHex c = true := by
    simp only [isHex, decide_eq_true_eq]
    rcases hmac.hex key message c hc with hdigit | hletter
    · obtain ⟨hlow, hhigh⟩ := Bool.and_eq_true_iff.mp hdigit
      exact .inl ⟨of_decide_eq_true hlow, of_decide_eq_true hhigh⟩
    · exact .inr (.inl hletter)
  have hall : ∀ c ∈ "0123456789abcdefABCDEF".toList, c ∈ "0123456789abcdefABCDEF-".toList :=
    forall_of_all (by decide)
  exact hall c (isHex_mem hhex)

/-- The members of a request, to which others may be added. -/
lemma stringify_fields {id : List Char} (h : Tame id) (more : List (String × Json)) :
    (Json.obj (unsignedFields (String.ofList id) ++ more)).stringify =
      beforeId ++ id ++ '"' :: ((if more.isEmpty then [] else ',' :: Json.stringifyEntries more) ++
        ['\x7d']) := by
  have hstart : beforeId = '\x7b' :: (Json.quote "version" ++ ':' :: "1".toList ++ ',' ::
      (Json.quote "operation" ++ ':' :: Json.quote "apply-system-restore" ++ ',' ::
        (Json.quote "restoreId" ++ [':', '"']))) := by
    decide
  unfold unsignedFields
  simp only [Json.stringify, Json.stringifyEntries, Json.stringifyEntry, List.cons_append,
    List.nil_append, List.isEmpty_cons, Bool.false_eq_true, if_false, Option.isSome_some, if_true,
    quote_plain h.printable, hstart, List.append_assoc]

/-- Both sign the same text. -/
lemma unsigned_eq {id : List Char} (h : Tame id) :
    unsigned (String.ofList id) = unsignedTemplate id := by
  have hfields := stringify_fields h []
  rw [List.append_nil] at hfields
  unfold unsigned unsignedTemplate
  rw [hfields]
  rfl

/-- The line of a request. -/
def requestLine (id signature : List Char) : List Char :=
  beforeId ++ id ++ '"' :: (beforeSignature ++ signature ++ ['"', '\x7d'])

lemma published_eq (hmac : Hmac) (key : Bytes) {id : List Char} (h : Tame id) :
    publishedRequest hmac key (String.ofList id) =
      requestLine id (hmac.digest key (unsignedTemplate id)) ++ ['\n'] := by
  have hname : Json.quote "signature" ++ [':', '"'] = beforeSignature.tail := by decide
  have hcomma : beforeSignature = ',' :: beforeSignature.tail := by decide
  unfold publishedRequest requestLine
  dsimp only
  rw [stringify_fields h, unsigned_eq h, hcomma, ← hname]
  simp only [List.isEmpty_cons, Bool.false_eq_true, if_false, Json.stringifyEntries,
    Json.stringifyEntry, Json.stringify, List.isEmpty_nil, if_true,
    quote_plain (tame_digest hmac key _).printable, List.cons_append, List.nil_append,
    List.append_assoc, List.append_nil]

/-! ### Identifiers -/

lemma matchesClasses_forall {ps : List (Char → Bool)} {cs : List Char}
    (h : matchesClasses ps cs = true) : List.Forall₂ (fun p c => p c = true) ps cs := by
  induction ps generalizing cs with
  | nil =>
    cases cs with
    | nil => exact .nil
    | cons c cs => cases h
  | cons p ps ih =>
    cases cs with
    | nil => cases h
    | cons c cs =>
      obtain ⟨hc, hcs⟩ := Bool.and_eq_true_iff.mp h
      exact .cons hc (ih hcs)

lemma class_mem {p : Char → Bool} (hp : p ∈ uuidClasses) {c : Char} (hc : p c = true) :
    c ∈ "0123456789abcdefABCDEF-".toList := by
  have hhex : ∀ c, isHex c = true → c ∈ "0123456789abcdefABCDEF-".toList := fun c hc =>
    List.mem_append_left ['-'] (isHex_mem hc)
  simp only [uuidClasses, List.mem_append, List.mem_replicate, List.mem_singleton] at hp
  have hone : p = isHex ∨ (p = fun c => c == '-') ∨ (p = fun c => decide ('1' ≤ c ∧ c ≤ '5')) ∨
      p = fun c => ['8', '9', 'a', 'b', 'A', 'B'].contains c := by
    rcases hp with (((((((((⟨-, h⟩ | h) | ⟨-, h⟩) | h) | h) | ⟨-, h⟩) | h) | h) | ⟨-, h⟩) | h) | ⟨-, h⟩
    all_goals
      first
      | exact .inl h
      | exact .inr (.inl h)
      | exact .inr (.inr (.inl h))
      | exact .inr (.inr (.inr h))
  rcases hone with rfl | rfl | rfl | rfl
  · exact hhex c hc
  · obtain rfl : c = '-' := by simpa using hc
    decide
  · obtain ⟨hlow, hhigh⟩ := of_decide_eq_true hc
    exact hhex c (decide_eq_true (.inl ⟨Char.le_trans (by decide) hlow,
      Char.le_trans hhigh (by decide)⟩))
  · have hlist : ∀ c ∈ ['8', '9', 'a', 'b', 'A', 'B'], c ∈ "0123456789abcdefABCDEF-".toList :=
      forall_of_all (by decide)
    exact hlist c (List.contains_iff_mem.mp hc)

lemma tame_id {id : List Char} (h : matchesClasses uuidClasses id = true) : Tame id := by
  obtain ⟨hlength, hget⟩ := List.forall₂_iff_get.mp (matchesClasses_forall h)
  intro c hc
  obtain ⟨i, hi, rfl⟩ := List.mem_iff_getElem.mp hc
  exact class_mem (List.get_mem _ ⟨i, hlength ▸ hi⟩) (hget i (hlength ▸ hi) hi)

lemma length_id {id : List Char} (h : matchesClasses uuidClasses id = true) : id.length = 36 :=
  (matchesClasses_forall h).length_eq.symm

lemma fixedSchema_id {id : List Char} (h : matchesClasses uuidClasses id = true) :
    fixedSchema id = true := by
  obtain ⟨hlength, hget⟩ := List.forall₂_iff_get.mp (matchesClasses_forall h)
  have h36 := length_id h
  have hdash : ∀ i ∈ [8, 13, 18, 23], id[i]? = some '-' := by
    intro i hi
    have hplace : ∀ i ∈ [8, 13, 18, 23], ∃ hi : i < uuidClasses.length,
        ∀ c, uuidClasses.get ⟨i, hi⟩ c = true → c = '-' := by
      have hone : ∀ c : Char, (c == '-') = true → c = '-' := fun c hc => by simpa using hc
      simp only [List.mem_cons, List.not_mem_nil, or_false]
      rintro i (rfl | rfl | rfl | rfl)
      all_goals exact ⟨by decide, hone⟩
    obtain ⟨hlt, hdash⟩ := hplace i hi
    rw [List.getElem?_eq_getElem (hlength ▸ hlt)]
    exact congrArg some (hdash _ (hget i hlt (hlength ▸ hlt)))
  unfold fixedSchema
  rw [Bool.and_eq_true_iff, List.all_eq_true]
  exact ⟨decide_eq_true h36, fun i hi => by rw [hdash i hi]; rfl⟩

/-! ### How a request is read -/

lemma dropPrefix_append (front rest : List Char) : (front ++ rest).dropPrefix? front = some rest :=
  List.dropPrefix?_eq_some_iff.mpr ⟨front, rfl, beq_self_eq_true _⟩

lemma Tame.all_id {text : List Char} (h : Tame text) : ∀ c ∈ text, isIdCharacter c = true := by
  have hall : ∀ c ∈ "0123456789abcdefABCDEF-".toList, isIdCharacter c = true :=
    forall_of_all (by decide)
  exact fun c hc => hall c (h c hc)

lemma Tame.no_newline {text : List Char} (h : Tame text) : '\n' ∉ text ∧ '\x00' ∉ text := by
  have hall : '\n' ∉ "0123456789abcdefABCDEF-".toList ∧
      '\x00' ∉ "0123456789abcdefABCDEF-".toList := by
    decide
  exact ⟨fun hmem => hall.1 (h _ hmem), fun hmem => hall.2 (h _ hmem)⟩

lemma lowerHex_digest (hmac : Hmac) (key : Bytes) (message : List Char) :
    ∀ c ∈ hmac.digest key message, isLowerHex c = true := by
  intro c hc
  unfold isLowerHex
  rcases hmac.hex key message c hc with hdigit | ⟨hlow, hhigh⟩
  · rw [hdigit, Bool.true_or]
  · simp [hlow, hhigh]

lemma restoreIdOf_line {id signature : List Char} (hid : Tame id)
    (hsignature : ∀ c ∈ signature, isLowerHex c = true) :
    restoreIdOf (requestLine id signature) = some id := by
  have hquote : isIdCharacter '"' = false := by decide
  have hend : isLowerHex '"' = false := by decide
  unfold restoreIdOf requestLine
  rw [List.append_assoc, dropPrefix_append]
  simp only [Option.bind_eq_bind, Option.bind_some]
  rw [List.dropWhile_append_of_pos hid.all_id,
    List.takeWhile_append_of_pos hid.all_id,
    List.dropWhile_cons_of_neg (by rw [hquote]; simp),
    List.takeWhile_cons_of_neg (by rw [hquote]; simp), List.append_nil, List.append_assoc,
    ← List.cons_append, dropPrefix_append, Option.bind_some,
    List.dropWhile_append_of_pos hsignature, List.dropWhile_cons_of_neg (by rw [hend]; simp)]
  rfl

lemma signatureOf_line {shell : Shell} {id signature : List Char}
    (hsignature : ∀ c ∈ signature, isLowerHex c = true)
    (hshell : shell.anything (beforeId ++ id ++ ['"']) = true) :
    signatureOf shell (requestLine id signature) = some signature := by
  have hend : isLowerHex '"' = false := by decide
  have hreverse : (requestLine id signature).reverse =
      ['\x7d', '"'] ++ (signature.reverse ++ (beforeSignature.reverse ++
        (beforeId ++ id ++ ['"']).reverse)) := by
    unfold requestLine
    simp
  have hstart : beforeSignature.reverse = '"' :: beforeSignature.reverse.tail := by decide
  have hall : ∀ c ∈ signature.reverse, isLowerHex c = true := fun c hc =>
    hsignature c (List.mem_reverse.mp hc)
  unfold signatureOf
  rw [hreverse, dropPrefix_append]
  simp only [Option.bind_eq_bind, Option.bind_some]
  have hquote : ∀ rest, (beforeSignature.reverse ++ rest).dropWhile isLowerHex =
        beforeSignature.reverse ++ rest ∧
      (beforeSignature.reverse ++ rest).takeWhile isLowerHex = [] := by
    intro rest
    rw [hstart, List.cons_append]
    exact ⟨List.dropWhile_cons_of_neg (by rw [hend]; simp),
      List.takeWhile_cons_of_neg (by rw [hend]; simp)⟩
  rw [List.dropWhile_append_of_pos hall, List.takeWhile_append_of_pos hall, (hquote _).1,
    (hquote _).2, dropPrefix_append, Option.bind_some, List.reverse_reverse, if_pos hshell,
    List.append_nil, List.reverse_reverse]

/-- What is printed of a line stands at its end. -/
lemma signatureOf_some {shell : Shell} {line signature : List Char}
    (h : signatureOf shell line = some signature) :
    beforeSignature ++ signature ++ ['"', '\x7d'] <:+ line ∧
      ∀ c ∈ signature, isLowerHex c = true := by
  unfold signatureOf at h
  obtain ⟨rest, hrest, h⟩ := Option.bind_eq_some_iff.mp h
  obtain ⟨front, hfront, h⟩ := Option.bind_eq_some_iff.mp h
  split at h
  · obtain rfl := Option.some.inj h
    obtain ⟨tail, htail, hbeq⟩ := List.dropPrefix?_eq_some_iff.mp hrest
    obtain rfl := eq_of_beq hbeq
    obtain ⟨middle, hmiddle, hbeq'⟩ := List.dropPrefix?_eq_some_iff.mp hfront
    obtain rfl := eq_of_beq hbeq'
    refine ⟨⟨front.reverse, ?_⟩, fun c hc => ?_⟩
    · have hsplit : rest.takeWhile isLowerHex ++ (beforeSignature.reverse ++ front) = rest := by
        rw [← hmiddle, List.takeWhile_append_dropWhile]
      have hline := congrArg List.reverse htail
      rw [List.reverse_reverse, ← hsplit] at hline
      rw [hline]
      simp
    · exact List.all_eq_true.mp List.all_takeWhile c (List.mem_reverse.mp hc)
  · cases h

lemma sed_line {substitute : List Char → Option (List Char)} {line printed : List Char}
    (hline : '\n' ∉ line) (h : substitute line = some printed) :
    sed substitute line = printed ++ ['\n'] := by
  unfold sed
  rw [List.splitOn_eq_singleton hline, List.flatMap_singleton, h]
  rfl

lemma substituted_line {line : List Char} (hnewline : '\n' ∉ line) (hnull : '\x00' ∉ line) :
    commandSubstitution '\x00' '\n' (line ++ ['\n']) = line := by
  have hnull' : '\x00' ∉ line ++ ['\n'] := by simp [hnull]
  have hfile : (line ++ ['\n']).filter (· ≠ '\x00') = line ++ ['\n'] :=
    List.filter_eq_self.mpr fun c hc => decide_eq_true fun h => hnull' (h ▸ hc)
  unfold commandSubstitution
  rw [hfile]
  exact rdropWhile_replicate 1 fun c hc heq => hnewline (heq ▸ List.mem_of_mem_getLast? hc)

/-- A printed text without newlines is what one of the lines makes. -/
lemma line_of_sed {substitute : List Char → Option (List Char)} {lines : List (List Char)}
    {printed : List Char} {n : ℕ} (hprinted : '\n' ∉ printed) (hne : printed ≠ [])
    (hclean : ∀ line front, substitute line = some front → '\n' ∉ front)
    (h : (lines.flatMap fun line => ((substitute line).map (· ++ ['\n'])).getD []) =
      printed ++ List.replicate n '\n') :
    ∃ line ∈ lines, substitute line = some printed := by
  induction lines with
  | nil =>
    rw [List.flatMap_nil, List.nil_eq_append_iff] at h
    exact absurd h.1 hne
  | cons line lines ih =>
    rw [List.flatMap_cons] at h
    cases hline : substitute line with
    | none =>
      rw [hline] at h
      obtain ⟨line', hline', hsome⟩ := ih h
      exact ⟨line', List.mem_cons_of_mem _ hline', hsome⟩
    | some front =>
      have hfront := hclean line front hline
      rw [hline, Option.map_some, Option.getD_some, List.append_assoc] at h
      refine ⟨line, List.mem_cons_self, hline.trans (congrArg some ?_)⟩
      have htake : ∀ cs rest : List Char, '\n' ∉ cs → (∀ c ∈ rest.head?, c = '\n') →
          (cs ++ rest).takeWhile (· ≠ '\n') = cs := by
        intro cs rest hcs hrest
        have hall : ∀ c ∈ cs, decide (c ≠ '\n') = true := fun c hc =>
          decide_eq_true fun heq => hcs (heq ▸ hc)
        rw [List.takeWhile_append_of_pos hall]
        cases rest with
        | nil => simp
        | cons c rest => simp [hrest c rfl]
      have hends := congrArg (List.takeWhile (· ≠ '\n')) h
      rw [htake front _ hfront (by simp), htake printed _ hprinted] at hends
      · exact hends
      · intro c hc
        exact (List.mem_replicate.mp (List.mem_of_mem_head? hc)).2

/-! ### Requests -/

/-- `.*` matches what stands before a signature. -/
def Readable (shell : Shell) : Prop :=
  ∀ text : List Char, (∀ c ∈ text, 32 ≤ c.toNat ∧ c.toNat < 127) → shell.anything text = true

lemma Tame.ascii {text : List Char} (h : Tame text) :
    ∀ c ∈ text, 32 ≤ c.toNat ∧ c.toNat < 127 := by
  have hall : ∀ c ∈ "0123456789abcdefABCDEF-".toList, 32 ≤ c.toNat ∧ c.toNat < 127 :=
    forall_of_all (by decide)
  exact fun c hc => hall c (h c hc)

lemma mem_requestLine {id signature : List Char} (hid : Tame id) (hsignature : Tame signature) :
    ∀ c ∈ requestLine id signature, 32 ≤ c.toNat ∧ c.toNat < 127 := by
  have hfixed : ∀ c ∈ beforeId ++ ('"' :: beforeSignature ++ ['"', '\x7d']),
      32 ≤ c.toNat ∧ c.toNat < 127 :=
    forall_of_all (by decide)
  intro c hc
  simp only [requestLine, List.mem_append, List.mem_cons] at hc hfixed
  rcases hc with (hc | hc) | hc | (hc | hc) | hc
  · exact hfixed c (.inl hc)
  · exact hid.ascii c hc
  · exact hfixed c (.inr (.inl (.inl hc)))
  · exact hfixed c (.inr (.inl (.inr hc)))
  · exact hsignature.ascii c hc
  · exact hfixed c (.inr (.inr hc))

/-- Of a published request nothing but the signature is refused. -/
lemma claimed_published {hmac : Hmac} {shell : Shell} (hshell : Readable shell) (key key' : Bytes)
    {id : List Char} (hid : matchesClasses uuidClasses id = true) :
    claimedRequest hmac shell key' (publishedRequest hmac key (String.ofList id)) =
      if hmac.digest key (unsignedTemplate id) = hmac.digest key' (unsignedTemplate id) then .ok id
      else .error "The claimed recovery request signature is invalid." := by
  have htame := tame_id hid
  have hsignature := tame_digest hmac key (unsignedTemplate id)
  have hascii := mem_requestLine htame hsignature
  have hnewline : '\n' ∉ requestLine id (hmac.digest key (unsignedTemplate id)) := fun hmem =>
    absurd (hascii _ hmem).1 (by decide)
  have hnull : '\x00' ∉ requestLine id (hmac.digest key (unsignedTemplate id)) := fun hmem =>
    absurd (hascii _ hmem).1 (by decide)
  have hlength : ¬512 < (requestLine id (hmac.digest key (unsignedTemplate id)) ++
      ['\n']).length := by
    have hbefore : beforeId.length = 61 := by decide
    have hbetween : beforeSignature.length = 14 := by decide
    simp only [requestLine, List.length_append, List.length_cons, List.length_nil, length_id hid,
      hmac.length, hbefore, hbetween]
    omega
  have hanything : shell.anything (beforeId ++ id ++ ['"']) = true := by
    refine hshell _ fun c hc => hascii c ?_
    simp only [requestLine, List.mem_append, List.mem_cons, List.not_mem_nil, or_false] at hc ⊢
    rcases hc with hc | rfl
    · exact .inl hc
    · exact .inr (.inl rfl)
  have hmatch : (id.splitOn '\n').any (matchesClasses uuidClasses) = true := by
    rw [List.splitOn_eq_singleton htame.no_newline.1]
    simp [hid]
  unfold claimedRequest
  rw [published_eq hmac key htame, if_neg hlength]
  dsimp only
  rw [substituted_line hnewline hnull,
    sed_line hnewline (restoreIdOf_line htame (lowerHex_digest hmac key _)),
    sed_line hnewline (signatureOf_line (lowerHex_digest hmac key _) hanything),
    substituted_line htame.no_newline.1 htame.no_newline.2,
    substituted_line hsignature.no_newline.1 hsignature.no_newline.2, fixedSchema_id hid, hmatch]
  simp [hmac.length]

/-- The file has the signature in it. -/
def Carries (contents signature : List Char) : Prop :=
  beforeSignature ++ signature ++ ['"', '\x7d'] <:+: contents.filter (· ≠ '\x00')

lemma infix_of_mem_splitOn {α : Type*} [DecidableEq α] {a : α} {as part : List α}
    (h : part ∈ as.splitOn a) : part <:+: as := by
  have hjoined : ∀ parts : List (List α), part ∈ parts → part <:+: [a].intercalate parts := by
    intro parts hpart
    induction parts with
    | nil => cases hpart
    | cons first parts ih =>
      cases parts with
      | nil =>
        obtain rfl := List.mem_singleton.mp hpart
        rw [List.intercalate_singleton]
      | cons next parts =>
        rw [List.intercalate_cons_of_ne_nil (List.cons_ne_nil _ _)]
        rcases List.mem_cons.mp hpart with rfl | hpart
        · rw [List.append_assoc]
          exact (List.prefix_append _ _).isInfix
        · exact (ih hpart).trans (List.suffix_append _ _).isInfix
  have hback : [a].intercalate (as.splitOn a) = as := List.intercalate_splitOn a
  rw [← hback]
  exact hjoined _ h

lemma eq_of_fixedSchema {id : List Char} (hlength : id.length = 36)
    (h : (id.splitOn '\n').any (matchesClasses uuidClasses) = true) :
    matchesClasses uuidClasses id = true := by
  obtain ⟨line, hline, hmatch⟩ := List.any_eq_true.mp h
  have heq := (infix_of_mem_splitOn hline).eq_of_length ((length_id hmatch).trans hlength.symm)
  exact heq ▸ hmatch

/-- What is printed of the lines has no null bytes. -/
lemma sed_clean {shell : Shell} {text : List Char} :
    (sed (signatureOf shell) text).filter (· ≠ '\x00') = sed (signatureOf shell) text := by
  refine List.filter_eq_self.mpr fun c hc => decide_eq_true ?_
  rintro rfl
  obtain ⟨line, -, hprinted⟩ := List.mem_flatMap.mp hc
  cases hline : signatureOf shell line with
  | none =>
    rw [hline] at hprinted
    cases hprinted
  | some front =>
    rw [hline, Option.map_some, Option.getD_some, List.mem_append, List.mem_singleton] at hprinted
    rcases hprinted with hprinted | hprinted
    · exact absurd ((signatureOf_some hline).2 _ hprinted) (by decide)
    · exact absurd hprinted (by decide)

/-- A signature that is read stands in the file. -/
lemma carries_of_sed {shell : Shell} {contents signature : List Char}
    (hnewline : '\n' ∉ signature) (hne : signature ≠ [])
    (h : commandSubstitution '\x00' '\n'
      (sed (signatureOf shell) (commandSubstitution '\x00' '\n' contents)) = signature) :
    Carries contents signature := by
  obtain ⟨n, hn⟩ := eq_rdropWhile_append
    (sed (signatureOf shell) (commandSubstitution '\x00' '\n' contents)) '\n'
  rw [commandSubstitution, sed_clean] at h
  rw [h] at hn
  have hclean : ∀ line front, signatureOf shell line = some front → '\n' ∉ front :=
    fun line front hfront hmem => absurd ((signatureOf_some hfront).2 _ hmem) (by decide)
  obtain ⟨line, hline, hsome⟩ := line_of_sed hnewline hne hclean hn
  have hrequest : commandSubstitution '\x00' '\n' contents <:+: contents.filter (· ≠ '\x00') :=
    (List.rdropWhile_prefix _ _).isInfix
  exact ((signatureOf_some hsome).1.isInfix.trans (infix_of_mem_splitOn hline)).trans hrequest

/-- Whatever is applied carries the HMAC of the text that the control plane signs for it. -/
lemma carries_of_claimed {hmac : Hmac} {shell : Shell} {key : Bytes} {contents id : List Char}
    (h : claimedRequest hmac shell key contents = .ok id) :
    Carries contents (hmac.digest key (unsigned (String.ofList id))) := by
  unfold claimedRequest at h
  split at h
  · cases h
  · dsimp only at h
    split at h
    · cases h
    · next hschema =>
      split at h
      · cases h
      · next hid =>
        split at h
        · next hsigned =>
          obtain rfl := Except.ok.inj h
          rw [Bool.not_eq_true', Bool.not_eq_false] at hschema hid
          have hlength := of_decide_eq_true (Bool.and_eq_true_iff.mp hschema).1
          have htame := tame_id (eq_of_fixedSchema hlength hid)
          rw [unsigned_eq htame]
          refine carries_of_sed (tame_digest hmac key _).no_newline.1 (fun hnil => ?_) hsigned.2
          have hempty := congrArg List.length hnil
          rw [hmac.length] at hempty
          cases hempty
        · cases h

/-- Every published request is applied, and whatever is applied carries the control plane's HMAC
of the restore's unsigned request. -/
structure Agrees (hmac : Hmac) (shell : Shell) (key key' : Bytes) : Prop where
  applied : ∀ restoreId : String, commandIDPattern restoreId = true →
    claimedRequest hmac shell key' (publishedRequest hmac key restoreId) = .ok restoreId.toList
  carries : ∀ contents id, claimedRequest hmac shell key' contents = .ok id →
    Carries contents (hmac.digest key (unsigned (String.ofList id)))

/-- Two keys that differ are told apart by the HMAC of some request. -/
def Distinguishes (hmac : Hmac) (key key' : Bytes) : Prop :=
  key ≠ key' → ∃ restoreId : String, commandIDPattern restoreId = true ∧
    hmac.digest key (unsigned restoreId) ≠ hmac.digest key' (unsigned restoreId)

lemma claimed_restore (hmac : Hmac) {shell : Shell} (hshell : Readable shell) (key key' : Bytes)
    {restoreId : String} (hid : commandIDPattern restoreId = true) :
    claimedRequest hmac shell key' (publishedRequest hmac key restoreId) =
      if hmac.digest key (unsigned restoreId) = hmac.digest key' (unsigned restoreId) then
        .ok restoreId.toList
      else .error "The claimed recovery request signature is invalid." := by
  have hclaimed : claimedRequest hmac shell key'
      (publishedRequest hmac key (String.ofList restoreId.toList)) = _ :=
    claimed_published hshell key key' hid
  rwa [← unsigned_eq (tame_id hid), String.ofList_toList] at hclaimed

lemma applied_iff {hmac : Hmac} {shell : Shell} (hshell : Readable shell) (key key' : Bytes)
    {restoreId : String} (hid : commandIDPattern restoreId = true) :
    claimedRequest hmac shell key' (publishedRequest hmac key restoreId) = .ok restoreId.toList ↔
      hmac.digest key (unsigned restoreId) = hmac.digest key' (unsigned restoreId) := by
  rw [claimed_restore hmac hshell key key' hid]
  split
  · next heq => exact ⟨fun _ => heq, fun _ => rfl⟩
  · next hne => exact ⟨fun h => (by cases h), fun heq => absurd heq hne⟩

/-- Control plane and supervisor agree just if white space neither begins nor ends the secret,
newlines at the end apart, and the file is text. -/
theorem agrees_iff {hmac : Hmac} {shell : Shell} {toUtf8 : Bytes → String} {file key key' : Bytes}
    (hshell : Readable shell) (hutf8 : ∀ value, toUtf8 (utf8 value) = value) (hnull : 0 ∉ file)
    (hkey : serverSecret toUtf8 file = .ok key) (hkey' : supervisorSecret shell file = .ok key')
    (hdistinct : Distinguishes hmac key key') :
    Agrees hmac shell key key' ↔ Plain file := by
  have hserver : key = utf8 (String.ofList (trimBoth isJsSpace (toUtf8 file).toList)) := by
    unfold serverSecret at hkey
    dsimp only at hkey
    split at hkey
    · cases hkey
    · exact (Except.ok.inj hkey).symm
  have hsupervisor : key' = commandSubstitution 0 10 file := by
    unfold supervisorSecret at hkey'
    dsimp only at hkey'
    split at hkey'
    · cases hkey'
    · exact (Except.ok.inj hkey').symm
  rw [← keys_iff hutf8 hnull, ← hserver, ← hsupervisor]
  constructor
  · intro hagrees
    by_contra hne
    obtain ⟨restoreId, hid, hdiffer⟩ := hdistinct hne
    exact hdiffer ((applied_iff hshell key key' hid).mp (hagrees.applied restoreId hid))
  · rintro rfl
    exact ⟨fun restoreId hid => (applied_iff hshell key key hid).mpr rfl,
      fun contents id hclaimed => carries_of_claimed hclaimed⟩

/-! ### A run -/

def restoreId : String := "3f2504e0-4f89-41d3-9a0c-0305e82c3301"

def secretA : Bytes := List.replicate 32 97

def digestA : List Char :=
  "cf35df1503dbdb86117f8ed32a73633948fff4066c21bdb032d2f566212d554d".toList

def digestReturn : List Char :=
  "8285a895a97dabec7d8472f6ab361b7a95ff340bf450bbfc52929a9728f34cb0".toList

/-- The HMAC of that restore's request under two keys. -/
def sampleDigest (key : Bytes) (message : List Char) : List Char :=
  if key = secretA ∧ message = unsigned restoreId then digestA
  else if key = secretA ++ [13] ∧ message = unsigned restoreId then digestReturn
  else List.replicate 64 '0'

lemma sampleDigest_mem (key : Bytes) (message : List Char) :
    sampleDigest key message ∈ [digestA, digestReturn, List.replicate 64 '0'] := by
  unfold sampleDigest
  split
  · exact .head _
  · split
    · exact .tail _ (.head _)
    · exact .tail _ (.tail _ (.head _))

def sampleHmac : Hmac where
  digest := sampleDigest
  length key message := by
    have hall : ∀ digest ∈ [digestA, digestReturn, List.replicate 64 '0'],
        digest.length = 64 := by
      decide
    exact hall _ (sampleDigest_mem key message)
  hex key message := by
    have hall : ∀ digest ∈ [digestA, digestReturn, List.replicate 64 '0'],
        ∀ c ∈ digest, c.isDigit = true ∨ 'a' ≤ c ∧ c ≤ 'f' := by
      simp only [List.forall_mem_cons]
      exact ⟨forall_of_all (by decide), forall_of_all (by decide), forall_of_all (by decide),
        by simp⟩
    exact hall _ (sampleDigest_mem key message)

def dash : Shell where
  anything := fun _ => true
  characters := List.length

theorem agrees_newline :
    Agrees sampleHmac dash secretA secretA ↔ Plain (secretA ++ [10]) :=
  agrees_iff (fun _ _ => rfl) SealedTexts.lawful_sample.toUtf8 (by decide) (by decide)
    (by decide) (fun hne => absurd rfl hne)

/-- A secret that a carriage return follows is two keys, and the published request is refused. -/
theorem carriage_return_refused :
    serverSecret SealedTexts.sampleRuntime.toUtf8 (secretA ++ [13, 10]) = .ok secretA ∧
      supervisorSecret dash (secretA ++ [13, 10]) = .ok (secretA ++ [13]) ∧
      claimedRequest sampleHmac dash (secretA ++ [13])
        (publishedRequest sampleHmac secretA restoreId) =
          .error "The claimed recovery request signature is invalid." := by
  refine ⟨by decide, by decide, ?_⟩
  rw [claimed_restore sampleHmac (fun _ _ => rfl) _ _ (by decide), if_neg]
  have hfirst : sampleDigest secretA (unsigned restoreId) = digestA := if_pos ⟨rfl, rfl⟩
  have hsecond : sampleDigest (secretA ++ [13]) (unsigned restoreId) = digestReturn := by
    rw [sampleDigest, if_neg (fun h => absurd h.1 (by decide)), if_pos ⟨rfl, rfl⟩]
  have hdigest : sampleHmac.digest = sampleDigest := rfl
  rw [hdigest, hfirst, hsecond]
  decide

end GatewayControl.RecoveryAgreement
