import GatewayControl.TunnelToken

/-!
That the reading of tunnel tokens is exact.

The keys are looked for with an expression over the text of the document. Where each match is one
of the four names, the matches are the keys of the document at every depth: a match that begins
inside a string or at its end would hold more than a letter.
-/

namespace GatewayControl.TokenParsing

open Base64 JsonText TunnelToken

/-! ### Looking for keys -/

lemma serializedKeys_some {text key rest : List Char} (h : keyAt text = some (key, rest)) :
    serializedKeys text = key :: serializedKeys rest := by
  cases text with
  | nil => cases h
  | cons c text =>
    rw [serializedKeys]
    split
    · next key' rest' hkey =>
      rw [h] at hkey
      obtain ⟨rfl, rfl⟩ := Prod.mk.inj (Option.some.inj hkey)
      rfl
    · next hnone =>
      rw [h] at hnone
      cases hnone

lemma serializedKeys_none {c : Char} {text : List Char} (h : keyAt (c :: text) = none) :
    serializedKeys (c :: text) = serializedKeys text := by
  rw [serializedKeys]
  split
  · next key rest hkey =>
    rw [h] at hkey
    cases hkey
  · rfl

lemma keyAt_of_ne {c : Char} (text : List Char) (h : c ≠ '"') : keyAt (c :: text) = none := by
  unfold keyAt
  split
  · next heq => exact absurd (List.cons.inj heq).1 h
  · rfl

lemma serializedKeys_plain {front : List Char} (text : List Char) (h : '"' ∉ front) :
    serializedKeys (front ++ text) = serializedKeys text := by
  induction front with
  | nil => rfl
  | cons c front ih =>
    rw [List.mem_cons, not_or] at h
    rw [List.cons_append, serializedKeys_none (keyAt_of_ne _ (Ne.symm h.1)), ih h.2]

/-! ### Space -/

lemma isJsSpace_of_isWs {c : Char} (h : isWs c = true) : Text.isJsSpace c = true := by
  simp only [isWs, List.contains_eq_mem, decide_eq_true_eq, List.mem_cons, List.not_mem_nil,
    or_false] at h
  rcases h with rfl | rfl | rfl | rfl <;> decide

lemma skipWs_spec (text : List Char) :
    ∃ space, text = space ++ skipWs text ∧ ∀ c ∈ space, isWs c = true :=
  ⟨text.takeWhile isWs, (List.takeWhile_append_dropWhile).symm,
    fun c hc => List.all_eq_true.mp List.all_takeWhile c hc⟩

lemma serializedKeys_skipWs (text : List Char) :
    serializedKeys (skipWs text) = serializedKeys text := by
  obtain ⟨space, htext, hspace⟩ := skipWs_spec text
  conv_rhs => rw [htext]
  refine (serializedKeys_plain _ fun hmem => ?_).symm
  exact absurd (hspace _ hmem) (by decide)

/-- What begins with no space of JSON's begins with none of the expression's, if it is plain. -/
lemma dropWhile_space {text rest : List Char} {c : Char} (h : skipWs text = c :: rest)
    (hc : Text.isJsSpace c = false) : text.dropWhile Text.isJsSpace = c :: rest := by
  obtain ⟨space, htext, hspace⟩ := skipWs_spec text
  rw [htext, List.dropWhile_append_of_pos fun c hc => isJsSpace_of_isWs (hspace c hc), h,
    List.dropWhile_cons_of_neg (by simp [hc])]

lemma dropWhile_space_nil {text : List Char} (h : skipWs text = []) :
    text.dropWhile Text.isJsSpace = [] := by
  obtain ⟨space, htext, hspace⟩ := skipWs_spec text
  rw [htext, List.dropWhile_append_of_pos fun c hc => isJsSpace_of_isWs (hspace c hc), h]
  rfl

/-- What follows a value. -/
def Ended (text : List Char) : Prop :=
  skipWs text = [] ∨ ∃ c rest, skipWs text = c :: rest ∧ c ∈ [',', '}', ']']

/-! ### Strings -/

lemma closeQuote_plain {c : Char} {text body rest : List Char} (hquote : c ≠ '"') (hback : c ≠ '\\')
    (h : closeQuote text = some (body, rest)) :
    closeQuote (c :: text) = some (c :: body, rest) := by
  rw [closeQuote, h]
  · rfl
  · exact hquote
  · exact fun heq _ => hback heq
  · exact fun c' text' heq _ => hback heq

lemma closeQuote_escape {c : Char} {text body rest : List Char} (hc : isLineTerminator c = false)
    (h : closeQuote text = some (body, rest)) :
    closeQuote ('\\' :: c :: text) = some ('\\' :: c :: body, rest) := by
  rw [closeQuote, if_neg (by simp [hc]), h]
  rfl

lemma plain_of_isHexDigit {c : Char} (h : isHexDigit c = true) : c ≠ '"' ∧ c ≠ '\\' := by
  constructor
  · rintro rfl
    exact absurd h (by decide)
  · rintro rfl
    exact absurd h (by decide)

lemma not_lineTerminator_of_escape {c : Char} (h : c ∈ escapes) : isLineTerminator c = false := by
  have hall : escapes.all (fun c => !isLineTerminator c) = true := by decide
  simpa using List.all_eq_true.mp hall c h

lemma closeQuote_of_parseString {text rest : List Char} {items : List Item}
    (h : parseString text = some (items, rest)) : closeQuote text = some (raw items, rest) := by
  fun_induction parseString text generalizing items rest with
  | case1 => cases h
  | case2 text =>
    obtain ⟨rfl, rfl⟩ := Prod.mk.inj (Option.some.inj h)
    rfl
  | case3 a b c d text hhex ih =>
    obtain ⟨⟨items', rest'⟩, hrest, heq⟩ := Option.map_eq_some_iff.mp h
    obtain ⟨rfl, rfl⟩ := Prod.mk.inj heq
    simp only [List.all_cons, List.all_nil, Bool.and_true, Bool.and_eq_true] at hhex
    obtain ⟨ha, hb, hc, hd⟩ := hhex
    have hclose := ih hrest
    have hd' := closeQuote_plain (plain_of_isHexDigit hd).1 (plain_of_isHexDigit hd).2 hclose
    have hc' := closeQuote_plain (plain_of_isHexDigit hc).1 (plain_of_isHexDigit hc).2 hd'
    have hb' := closeQuote_plain (plain_of_isHexDigit hb).1 (plain_of_isHexDigit hb).2 hc'
    have ha' := closeQuote_plain (plain_of_isHexDigit ha).1 (plain_of_isHexDigit ha).2 hb'
    exact closeQuote_escape (by decide) ha'
  | case4 => cases h
  | case5 c text hu hmem ih =>
    obtain ⟨⟨items', rest'⟩, hrest, heq⟩ := Option.map_eq_some_iff.mp h
    obtain ⟨rfl, rfl⟩ := Prod.mk.inj heq
    exact closeQuote_escape (not_lineTerminator_of_escape hmem) (ih hrest)
  | case6 => cases h
  | case7 => cases h
  | case8 c text hquote hu hback hplain ih =>
    obtain ⟨⟨items', rest'⟩, hrest, heq⟩ := Option.map_eq_some_iff.mp h
    obtain ⟨rfl, rfl⟩ := Prod.mk.inj heq
    rw [not_or] at hplain
    exact closeQuote_plain (fun heq => hquote heq) hplain.2 (ih hrest)

/-- A key is found. -/
lemma keyAt_key {text rest after : List Char} {items : List Item}
    (h : parseString text = some (items, rest)) (hcolon : skipWs rest = ':' :: after) :
    keyAt ('"' :: text) = some (written items, after) := by
  unfold keyAt
  change (closeQuote text).bind _ = _
  rw [closeQuote_of_parseString h, Option.bind_some]
  dsimp only
  rw [dropWhile_space hcolon (by decide)]
  rfl

/-- A string that is a value is not found. -/
lemma keyAt_value {text rest : List Char} {items : List Item}
    (h : parseString text = some (items, rest)) (hended : Ended rest) :
    keyAt ('"' :: text) = none := by
  unfold keyAt
  change (closeQuote text).bind _ = _
  rw [closeQuote_of_parseString h, Option.bind_some]
  dsimp only
  rcases hended with hnil | ⟨c, after, hskip, hc⟩
  · rw [dropWhile_space_nil hnil]
  · simp only [List.mem_cons, List.not_mem_nil, or_false] at hc
    rcases hc with rfl | rfl | rfl
    · rw [dropWhile_space hskip (by decide)]
      rfl
    · rw [dropWhile_space hskip (by decide)]
      rfl
    · rw [dropWhile_space hskip (by decide)]
      rfl

/-- Nothing is found inside a string that is a value. -/
lemma serializedKeys_inside {text rest : List Char} {items : List Item}
    (h : parseString text = some (items, rest)) (hended : Ended rest) :
    serializedKeys text = serializedKeys ('"' :: rest) := by
  fun_induction parseString text generalizing items with
  | case1 => cases h
  | case2 text =>
    obtain ⟨rfl, rfl⟩ := Prod.mk.inj (Option.some.inj h)
    rfl
  | case3 a b c d text hhex ih =>
    obtain ⟨⟨items', rest'⟩, hrest, heq⟩ := Option.map_eq_some_iff.mp h
    obtain ⟨rfl, rfl⟩ := Prod.mk.inj heq
    simp only [List.all_cons, List.all_nil, Bool.and_true, Bool.and_eq_true] at hhex
    obtain ⟨ha, hb, hc, hd⟩ := hhex
    rw [← ih hrest]
    have hplain : '"' ∉ ['\\', 'u', a, b, c, d] →
        serializedKeys (['\\', 'u', a, b, c, d] ++ text) = serializedKeys text :=
      serializedKeys_plain text
    apply hplain
    simp only [List.mem_cons, List.not_mem_nil, or_false, not_or]
    exact ⟨by decide, by decide, (plain_of_isHexDigit ha).1.symm, (plain_of_isHexDigit hb).1.symm,
      (plain_of_isHexDigit hc).1.symm, (plain_of_isHexDigit hd).1.symm⟩
  | case4 => cases h
  | case5 c text hu hmem ih =>
    obtain ⟨⟨items', rest'⟩, hrest, heq⟩ := Option.map_eq_some_iff.mp h
    obtain ⟨rfl, rfl⟩ := Prod.mk.inj heq
    rw [serializedKeys_none (keyAt_of_ne _ (by decide)), ← ih hrest]
    by_cases hc : c = '"'
    · subst hc
      exact serializedKeys_none (keyAt_value hrest hended)
    · exact serializedKeys_none (keyAt_of_ne _ hc)
  | case6 => cases h
  | case7 => cases h
  | case8 c text hquote hu hback hplain ih =>
    obtain ⟨⟨items', rest'⟩, hrest, heq⟩ := Option.map_eq_some_iff.mp h
    obtain ⟨rfl, rfl⟩ := Prod.mk.inj heq
    rw [serializedKeys_none (keyAt_of_ne _ fun heq => hquote heq), ih hrest]

/-! ### Documents with the four names only -/

def Allowed (text : List Char) : Prop := ∀ key ∈ serializedKeys text, key ∈ quotedNames

/-- No match begins at the end of a string that is a value. -/
lemma keyAt_end {rest : List Char} (hended : Ended rest) (h : Allowed ('"' :: rest)) :
    keyAt ('"' :: rest) = none := by
  cases hkey : keyAt ('"' :: rest) with
  | none => rfl
  | some r =>
    obtain ⟨key, after⟩ := r
    exfalso
    have hname : key ∈ quotedNames := h key (by
      rw [serializedKeys_some hkey]
      exact List.mem_cons_self)
    obtain ⟨space, htext, -⟩ := keyAt_eq hkey
    obtain ⟨x, hx, rfl⟩ : ∃ x ∈ ['a', 'e', 's', 't'], key = ['"', x, '"'] := by
      simp only [quotedNames, List.mem_cons, List.not_mem_nil, or_false] at hname
      rcases hname with rfl | rfl | rfl | rfl
      · exact ⟨'a', by decide, rfl⟩
      · exact ⟨'e', by decide, rfl⟩
      · exact ⟨'s', by decide, rfl⟩
      · exact ⟨'t', by decide, rfl⟩
    obtain rfl := (List.cons.inj htext).2
    have hplain : isWs x = false ∧ x ∉ [',', '}', ']'] := by
      simp only [List.mem_cons, List.not_mem_nil, or_false] at hx
      rcases hx with rfl | rfl | rfl | rfl <;> decide
    have hskip : skipWs (x :: '"' :: (space ++ ':' :: after)) =
        x :: '"' :: (space ++ ':' :: after) := List.dropWhile_cons_of_neg (by simp [hplain.1])
    rcases hended with hnil | ⟨c, more, hcons, hc⟩
    · cases hskip.symm.trans hnil
    · obtain rfl := (List.cons.inj (hskip.symm.trans hcons)).1
      exact hplain.2 hc

lemma Allowed.rest {text rest : List Char} (keys : List (List Char)) (h : Allowed text)
    (heq : serializedKeys text = keys ++ serializedKeys rest) : Allowed rest := by
  intro key hkey
  apply h
  rw [heq]
  exact List.mem_append_right _ hkey

lemma serializedKeys_step {text rest : List Char} {c : Char} (h : skipWs text = c :: rest)
    (hc : c ≠ '"') : serializedKeys text = serializedKeys rest := by
  rw [← serializedKeys_skipWs, h, serializedKeys_none (keyAt_of_ne _ hc)]

lemma ended_of {text rest : List Char} {c : Char} (h : skipWs text = c :: rest)
    (hc : c ∈ [',', '}', ']']) : Ended text := .inr ⟨c, rest, h, hc⟩

/-- The keys that are found in a value, where all that are found are allowed. -/
def Finds (value : List Char → Option (Tree × List Char)) : Prop :=
  ∀ text tree rest, value text = some (tree, rest) → Ended rest → Allowed text →
    serializedKeys text = tree.keys ++ serializedKeys rest

variable {value : List Char → Option (Tree × List Char)}

/-- The key before a value, and its value. -/
lemma member_found (hvalue : Finds value) {t₁ t₂ t₃ t₄ : List Char} {key : List Item} {tree : Tree}
    (hkey : parseString t₁ = some (key, t₂)) (hcolon : skipWs t₂ = ':' :: t₃)
    (hread : value (skipWs t₃) = some (tree, t₄)) (hended : Ended t₄) (h : Allowed ('"' :: t₁)) :
    serializedKeys ('"' :: t₁) = written key :: (tree.keys ++ serializedKeys t₄) := by
  have hfirst := serializedKeys_some (keyAt_key hkey hcolon)
  have hrest : Allowed (skipWs t₃) := by
    refine h.rest [written key] ?_
    rw [hfirst, serializedKeys_skipWs]
    rfl
  rw [hfirst, ← serializedKeys_skipWs t₃, hvalue _ _ _ hread hended hrest]

lemma members_found (hvalue : Finds value) {fuel : ℕ} {text rest : List Char}
    {members : List (List Item × Tree)} (h : parseMembers value fuel text = some (members, rest))
    (hallowed : Allowed text) :
    serializedKeys text = memberKeys members ++ serializedKeys rest := by
  induction fuel generalizing text members with
  | zero =>
    obtain ⟨_, _, _, _, _, _, _, hfuel, -⟩ := parseMembers_cases h
    cases hfuel
  | succ fuel ih =>
    obtain ⟨_, t₁, key, t₂, t₃, tree, t₄, hfuel, rfl, hkey, hcolon, hread, hend⟩ :=
      parseMembers_cases h
    obtain rfl := Nat.succ.inj hfuel
    rcases hend with ⟨t₅, more, hcomma, hmore, rfl⟩ | ⟨hbrace, rfl⟩
    · have hfirst := member_found hvalue hkey hcolon hread (ended_of hcomma (by simp)) hallowed
      rw [serializedKeys_step hcomma (by decide), ← serializedKeys_skipWs t₅, ← List.cons_append]
        at hfirst
      rw [hfirst, ih hmore (hallowed.rest _ hfirst)]
      simp [memberKeys]
    · have hfirst := member_found hvalue hkey hcolon hread (ended_of hbrace (by simp)) hallowed
      rw [hfirst, serializedKeys_step hbrace (by decide)]
      simp [memberKeys]

lemma elements_found (hvalue : Finds value) {fuel : ℕ} {text rest : List Char}
    {elements : List Tree} (h : parseElements value fuel text = some (elements, rest))
    (hallowed : Allowed text) :
    serializedKeys text = elementKeys elements ++ serializedKeys rest := by
  induction fuel generalizing text elements with
  | zero =>
    obtain ⟨_, _, _, hfuel, -⟩ := parseElements_cases h
    cases hfuel
  | succ fuel ih =>
    obtain ⟨_, tree, t₁, hfuel, hread, hend⟩ := parseElements_cases h
    obtain rfl := Nat.succ.inj hfuel
    rcases hend with ⟨t₂, more, hcomma, hmore, rfl⟩ | ⟨hbracket, rfl⟩
    · have hfirst := hvalue _ _ _ hread (ended_of hcomma (by simp)) hallowed
      rw [serializedKeys_step hcomma (by decide), ← serializedKeys_skipWs t₂] at hfirst
      rw [hfirst, ih hmore (hallowed.rest _ hfirst)]
      simp [elementKeys]
    · have hfirst := hvalue _ _ _ hread (ended_of hbracket (by simp)) hallowed
      rw [hfirst, serializedKeys_step hbracket (by decide)]
      simp [elementKeys]

/-- Where all that is found is allowed, it is the keys at every depth. -/
lemma value_found (fuel : ℕ) : Finds (parseValue fuel) := by
  induction fuel with
  | zero =>
    intro text tree rest h
    cases h
  | succ fuel ih =>
    intro text tree rest h hended hallowed
    obtain ⟨_, hfuel, hread⟩ := parseValue_cases h
    obtain rfl := Nat.succ.inj hfuel
    cases hread with
    | string hstring =>
      have hquote : serializedKeys ('"' :: _) = serializedKeys _ :=
        serializedKeys_none (keyAt_value hstring hended)
      rw [serializedKeys_inside hstring hended] at hquote
      have hend : Allowed ('"' :: rest) := fun key hkey => hallowed key (hquote ▸ hkey)
      rw [hquote, serializedKeys_none (keyAt_end hended hend)]
      simp [Tree.keys]
    | emptyObject hbrace =>
      rw [serializedKeys_none (keyAt_of_ne _ (by decide)), serializedKeys_step hbrace (by decide)]
      simp [Tree.keys, memberKeys]
    | object hmembers =>
      rename_i text members
      have hopen : serializedKeys ('{' :: text) = serializedKeys (skipWs text) := by
        rw [serializedKeys_none (keyAt_of_ne _ (by decide)), serializedKeys_skipWs]
      have hinner : Allowed (skipWs text) := fun key hkey => hallowed key (hopen ▸ hkey)
      rw [hopen, members_found ih hmembers hinner]
      simp [Tree.keys]
    | emptyArray hbracket =>
      rw [serializedKeys_none (keyAt_of_ne _ (by decide)),
        serializedKeys_step hbracket (by decide)]
      simp [Tree.keys, elementKeys]
    | array helements =>
      rename_i text elements
      have hopen : serializedKeys ('[' :: text) = serializedKeys (skipWs text) := by
        rw [serializedKeys_none (keyAt_of_ne _ (by decide)), serializedKeys_skipWs]
      have hinner : Allowed (skipWs text) := fun key hkey => hallowed key (hopen ▸ hkey)
      rw [hopen, elements_found ih helements hinner]
      simp [Tree.keys]
    | scalar hscalar =>
      obtain ⟨front, rfl, hquote, rfl | rfl⟩ := parseScalar_cases hscalar
      · rw [serializedKeys_plain _ hquote, Tree.keys, List.nil_append]
      · rw [serializedKeys_plain _ hquote, Tree.keys, List.nil_append]

/-! ### Documents without nesting -/

lemma closeQuote_front {front : List Char} (text : List Char)
    (h : ∀ c ∈ front, c ≠ '"' ∧ c ≠ '\\') :
    closeQuote (front ++ '"' :: text) = some (front, text) := by
  induction front with
  | nil => rfl
  | cons c front ih =>
    obtain ⟨hquote, hback⟩ := h c List.mem_cons_self
    exact closeQuote_plain hquote hback (ih fun c' hc' => h c' (List.mem_cons_of_mem _ hc'))

lemma closeQuote_none {text : List Char} (h : '"' ∉ text) : closeQuote text = none := by
  cases hclose : closeQuote text with
  | none => rfl
  | some r =>
    rw [closeQuote_eq hclose] at h
    exact absurd (by simp) h

lemma plain_of_isWs {c : Char} (h : isWs c = true) : c ≠ '"' ∧ c ≠ '\\' := by
  constructor
  · rintro rfl
    exact absurd h (by decide)
  · rintro rfl
    exact absurd h (by decide)

/-- A quoted name is written as a single letter. -/
lemma letter_of_quoted {key : List Item} (h : written key ∈ quotedNames) :
    ∃ x ∈ ['a', 'e', 's', 't'], key = [.plain x] := by
  obtain ⟨x, hx, hraw⟩ : ∃ x ∈ ['a', 'e', 's', 't'], raw key = [x] := by
    simp only [quotedNames, List.mem_cons, List.not_mem_nil, or_false, written,
      List.cons_append, List.cons.injEq, true_and] at h
    have hsame : ∀ {x : Char}, raw key ++ ['"'] = [x] ++ ['"'] → raw key = [x] := fun heq =>
      List.append_cancel_right heq
    rcases h with h | h | h | h
    · exact ⟨'a', by decide, hsame h⟩
    · exact ⟨'e', by decide, hsame h⟩
    · exact ⟨'s', by decide, hsame h⟩
    · exact ⟨'t', by decide, hsame h⟩
  refine ⟨x, hx, ?_⟩
  unfold raw at hraw
  cases key with
  | nil => cases hraw
  | cons item key =>
    rw [List.flatMap_cons] at hraw
    cases item with
    | plain c =>
      obtain ⟨rfl, hrest⟩ := List.cons.inj hraw
      cases key with
      | nil => rfl
      | cons item key => cases item <;> cases hrest
    | escape c => cases (List.cons.inj hraw).2
    | unicode digits => cases (List.cons.inj hraw).2

/-- The text from a key on begins with the letter. -/
lemma text_of_quoted {text rest : List Char} {key : List Item}
    (h : parseString text = some (key, rest)) (hkey : written key ∈ quotedNames) :
    ∃ x ∈ ['a', 'e', 's', 't'], text = x :: '"' :: rest := by
  obtain ⟨x, hx, rfl⟩ := letter_of_quoted hkey
  exact ⟨x, hx, closeQuote_eq (closeQuote_of_parseString h)⟩

lemma keyAt_none_of_letter {text front rest : List Char} {x : Char}
    (hx : x ∈ ['a', 'e', 's', 't']) (h : closeQuote text = some (front, x :: rest)) :
    keyAt ('"' :: text) = none := by
  unfold keyAt
  change (closeQuote text).bind _ = _
  rw [h, Option.bind_some]
  simp only [List.mem_cons, List.not_mem_nil, or_false] at hx
  rcases hx with rfl | rfl | rfl | rfl <;> rfl

lemma string_read {n : ℕ} {text rest : List Char} {items : List Item}
    (h : parseValue n text = some (.string items, rest)) :
    ∃ u, text = '"' :: u ∧ parseString u = some (items, rest) := by
  obtain ⟨f, -, hread⟩ := parseValue_cases h
  cases hread with
  | string hstring => exact ⟨_, rfl, hstring⟩
  | scalar hscalar =>
    obtain ⟨front, -, -, heq | heq⟩ := parseScalar_cases hscalar
    · cases heq
    · cases heq

/-- Nothing is found between a string and a quoted name. -/
lemma keyAt_before_name {fuel : ℕ} {t₄ t₅ rest : List Char} {more : List (List Item × Tree)}
    (hcomma : skipWs t₄ = ',' :: t₅)
    (hmore : parseMembers value fuel (skipWs t₅) = some (more, rest))
    (hnames : ∀ m ∈ more, written m.1 ∈ quotedNames) : keyAt ('"' :: t₄) = none := by
  obtain ⟨space, htext, hspace⟩ := skipWs_spec t₄
  obtain ⟨space', htext', hspace'⟩ := skipWs_spec t₅
  obtain ⟨_, t₁, key, t₂, _, _, _, -, hquote, hkey, -, -, hlist⟩ := parseMembers_cases hmore
  have hname : written key ∈ quotedNames := by
    rcases hlist with ⟨_, _, _, _, rfl⟩ | ⟨_, rfl⟩
    · exact hnames _ List.mem_cons_self
    · exact hnames _ List.mem_cons_self
  obtain ⟨x, hx, rfl⟩ := text_of_quoted hkey hname
  have hclose : closeQuote t₄ = some (space ++ ',' :: space', x :: '"' :: t₂) := by
    have hplain : ∀ c ∈ space ++ ',' :: space', c ≠ '"' ∧ c ≠ '\\' := by
      intro c hc
      simp only [List.mem_append, List.mem_cons] at hc
      rcases hc with hc | rfl | hc
      · exact plain_of_isWs (hspace c hc)
      · exact ⟨by decide, by decide⟩
      · exact plain_of_isWs (hspace' c hc)
    have hfront := closeQuote_front (x :: '"' :: t₂) hplain
    rw [htext, hcomma, htext', hquote]
    rwa [List.append_assoc, List.cons_append] at hfront
  exact keyAt_none_of_letter hx hclose

/-- Nothing is found between a string and the end of the document. -/
lemma keyAt_before_end {t₄ rest : List Char} (hbrace : skipWs t₄ = '}' :: rest)
    (hend : skipWs rest = []) : keyAt ('"' :: t₄) = none := by
  obtain ⟨space, htext, hspace⟩ := skipWs_spec t₄
  obtain ⟨space', htext', hspace'⟩ := skipWs_spec rest
  have hnone : closeQuote t₄ = none := by
    apply closeQuote_none
    rw [htext, hbrace, htext', hend, List.append_nil]
    simp only [List.mem_append, List.mem_cons, not_or]
    exact ⟨fun hmem => (plain_of_isWs (hspace _ hmem)).1 rfl, by decide,
      fun hmem => (plain_of_isWs (hspace' _ hmem)).1 rfl⟩
  unfold keyAt
  change (closeQuote t₄).bind _ = _
  rw [hnone]
  rfl

lemma members_flat {fuel n : ℕ} {text rest : List Char} {members : List (List Item × Tree)}
    (h : parseMembers (parseValue n) fuel text = some (members, rest)) (hend : skipWs rest = [])
    (hstrings : ∀ m ∈ members, ∃ items, m.2 = .string items)
    (hnames : ∀ m ∈ members, written m.1 ∈ quotedNames) :
    serializedKeys text = members.map fun m => written m.1 := by
  induction fuel generalizing text members with
  | zero =>
    obtain ⟨_, _, _, _, _, _, _, hfuel, -⟩ := parseMembers_cases h
    cases hfuel
  | succ fuel ih =>
    obtain ⟨_, t₁, key, t₂, t₃, tree, t₄, hfuel, rfl, hkey, hcolon, hread, hmore⟩ :=
      parseMembers_cases h
    obtain rfl := Nat.succ.inj hfuel
    -- the key is found, and nothing is in its value or at the end of it
    have hfound : ∀ {items : List Item}, tree = .string items → Ended t₄ →
        keyAt ('"' :: t₄) = none →
        serializedKeys ('"' :: t₁) = written key :: serializedKeys t₄ := by
      rintro items rfl hended hnone
      obtain ⟨u, htext, hstring⟩ := string_read hread
      rw [serializedKeys_some (keyAt_key hkey hcolon), ← serializedKeys_skipWs t₃, htext,
        serializedKeys_none (keyAt_value hstring hended), serializedKeys_inside hstring hended,
        serializedKeys_none hnone]
    obtain ⟨items, htree⟩ := hstrings (key, tree) (by
      rcases hmore with ⟨_, _, _, _, rfl⟩ | ⟨_, rfl⟩
      · exact List.mem_cons_self
      · exact List.mem_cons_self)
    rcases hmore with ⟨t₅, more, hcomma, hmore, rfl⟩ | ⟨hbrace, rfl⟩
    · have hstrings' : ∀ m ∈ more, ∃ items, m.2 = .string items := fun m hm =>
        hstrings m (List.mem_cons_of_mem _ hm)
      have hnames' : ∀ m ∈ more, written m.1 ∈ quotedNames := fun m hm =>
        hnames m (List.mem_cons_of_mem _ hm)
      rw [hfound htree (ended_of hcomma (by simp)) (keyAt_before_name hcomma hmore hnames'),
        serializedKeys_step hcomma (by decide), ← serializedKeys_skipWs t₅,
        ih hmore hstrings' hnames', List.map_cons]
    · rw [hfound htree (ended_of hbrace (by simp)) (keyAt_before_end hbrace hend),
        serializedKeys_step hbrace (by decide), ← serializedKeys_skipWs rest, hend,
        List.map_cons, List.map_nil, serializedKeys]

/-! ### Base 64 and UTF-8 -/

lemma decodeCanonicalBase64_eq {value : JsString} {least most : ℕ} (hleast : 1 ≤ least)
    {decoded : List UInt8} :
    decodeCanonicalBase64 value least most = some decoded ↔
      value = encode standard decoded ∧ least ≤ decoded.length ∧ decoded.length ≤ most := by
  unfold decodeCanonicalBase64
  constructor
  · intro h
    split at h
    · cases h
    · dsimp only at h
      split at h
      · cases h
      · next hbounds =>
        obtain rfl := Option.some.inj h
        simp only [not_or, not_lt, not_not] at hbounds
        exact ⟨hbounds.2.2.symm, hbounds.1, hbounds.2.1⟩
  · rintro ⟨rfl, hfew, hmany⟩
    have hlen := length_encode (A := standard) decoded
    rw [if_neg, decode_encode]
    · dsimp only
      rw [if_neg]
      simp only [not_or, not_lt, not_not]
      exact ⟨hfew, hmany, trivial⟩
    · rw [wellPadded_encode, hlen]
      simp only [not_or, not_lt, Bool.not_true, Bool.false_eq_true, not_false_eq_true, and_true]
      constructor
      · omega
      · exact Nat.mul_le_mul_right 4 (Nat.div_le_div_right (by omega))

lemma toUtf8_encode (text : List Char) : toUtf8 (LimitedOutput.encode text) = text := by
  induction text with
  | nil =>
    unfold LimitedOutput.encode
    rw [List.flatMap_nil, toUtf8]
  | cons c text ih =>
    have hcons : LimitedOutput.encode (c :: text) =
        String.utf8EncodeChar c ++ LimitedOutput.encode text := rfl
    have hdecode : (LimitedOutput.encode (c :: text)).toByteArray.utf8DecodeChar? 0 = some c :=
      List.utf8DecodeChar?_utf8Encode_cons
    cases hbytes : String.utf8EncodeChar c with
    | nil =>
      have hsize := String.length_utf8EncodeChar c
      have hpos := c.utf8Size_pos
      rw [hbytes, List.length_nil] at hsize
      omega
    | cons b rest =>
      have hsize := String.length_utf8EncodeChar c
      rw [hbytes, List.length_cons] at hsize
      rw [hcons, hbytes, List.cons_append] at hdecode ⊢
      rw [toUtf8, hdecode]
      dsimp only
      rw [← hsize, Nat.add_sub_cancel, List.drop_left, ih]

end GatewayControl.TokenParsing
