import GatewayControl.Ipv6Forms
import GatewayControl.PublicIp

/-!
What the expansion of an address reads of a text with or without a zone.

The expansion knows no zones: a zone is read as the end of the last group, and a colon or a dot in
it as one of the address.
-/

namespace GatewayControl.PublicIp

open Text Ipv6Texts

/-- What is known of `Number`: it reads decimal digits, and no text with a percent sign. -/
structure Reads (number : List Char → Number) : Prop where
  octet : ∀ text, isOctet text = true → number text = some (decimal text : ℤ)
  percent : ∀ text, '%' ∈ text → number text = none

/-- The numbers of groups. -/
def numbers (gs : List ℕ) : List Number := gs.map fun g : ℕ => some (g : ℤ)

@[simp] lemma numbers_append (gs hs : List ℕ) : numbers (gs ++ hs) = numbers gs ++ numbers hs := by
  simp [numbers]

@[simp] lemma length_numbers (gs : List ℕ) : (numbers gs).length = gs.length := by
  simp [numbers]

lemma numbers_zeros (n : ℕ) : numbers (List.replicate n 0) = List.replicate n (some 0) := by
  simp [numbers]

def EndsInGroup (cs : List Char) : Prop := ∀ last ∈ (cs.splitOn ':').getLast?, isGroup last = true

/-- What follows a group of digits: nothing, or a zone without colons and dots. -/
structure Suffix (w : List Char) : Prop where
  start : w = [] ∨ ∃ zone, w = '%' :: zone
  plain : ∀ c ∈ w, c ≠ ':' ∧ c ≠ '.'

variable {number : List Char → Number}

/-- A text and what is added to its last piece. -/
lemma splitOn_append_last (a : Char) (cs : List Char) :
    ∃ init last, cs.splitOn a = init ++ [last] ∧
      ∀ w, a ∉ w → (cs ++ w).splitOn a = init ++ [last ++ w] := by
  induction cs with
  | nil => exact ⟨[], [], rfl, fun w hw => List.splitOn_eq_singleton hw⟩
  | cons c cs ih =>
    obtain ⟨init, last, hcs, happend⟩ := ih
    by_cases hc : c = a
    · refine ⟨[] :: init, last, ?_, fun w hw => ?_⟩
      · rw [List.splitOn_cons_eq_if_modifyHead, if_pos (by simpa using hc), hcs]
        rfl
      · rw [List.cons_append, List.splitOn_cons_eq_if_modifyHead, if_pos (by simpa using hc),
          happend w hw]
        rfl
    · have hkeep : ∀ cs : List Char, (c :: cs).splitOn a = (cs.splitOn a).modifyHead (c :: ·) :=
        fun cs => by rw [List.splitOn_cons_eq_if_modifyHead, if_neg (by simpa using hc)]
      cases init with
      | nil =>
        refine ⟨[], c :: last, by rw [hkeep, hcs]; rfl, fun w hw => ?_⟩
        rw [List.cons_append, hkeep, happend w hw]
        rfl
      | cons first init =>
        refine ⟨(c :: first) :: init, last, by rw [hkeep, hcs]; rfl, fun w hw => ?_⟩
        rw [List.cons_append, hkeep, happend w hw]
        rfl

/-! ### One group -/

lemma parseHex_group {cs w : List Char} (h : isGroup cs = true) (hw : Suffix w) :
    parseHex (cs ++ w) = some (hexValue cs : ℤ) := by
  obtain ⟨c, cs, rfl⟩ := List.exists_cons_of_ne_nil (isGroup_ne_nil h)
  have hhex := isHex_of_isGroup h
  have hc := hhex c List.mem_cons_self
  have hfirst : ∀ c ∈ "0123456789abcdefABCDEF".toList, isJsSpace c = false ∧ c ≠ '-' ∧ c ≠ '+' :=
    forall_of_all (by decide)
  obtain ⟨hspace, hminus, hplus⟩ := hfirst c (isHex_mem hc)
  have hx : ∀ d, cs.head? = some d ∨ (cs = [] ∧ w.head? = some d) → d ≠ 'x' ∧ d ≠ 'X' := by
    rintro d (hd | ⟨-, hd⟩)
    · have hall : ∀ c ∈ "0123456789abcdefABCDEF".toList, c ≠ 'x' ∧ c ≠ 'X' :=
        forall_of_all (by decide)
      exact hall d (isHex_mem (hhex d (List.mem_cons_of_mem _ (List.mem_of_mem_head? hd))))
    · rcases hw.start with rfl | ⟨zone, rfl⟩
      · cases hd
      · obtain rfl : '%' = d := by simpa using hd
        decide
  have htrim : (c :: cs ++ w).dropWhile isJsSpace = c :: cs ++ w :=
    List.dropWhile_cons_of_neg (by simp [hspace])
  have hnohex : ∀ x, x = 'x' ∨ x = 'X' → ['0', x].isPrefixOf (c :: cs ++ w) = false := by
    intro x hxs
    rw [Bool.eq_false_iff]
    intro hpre
    obtain ⟨rest, hrest⟩ := List.isPrefixOf_iff_prefix.mp hpre
    have hd : cs.head? = some x ∨ (cs = [] ∧ w.head? = some x) := by
      cases cs with
      | nil =>
        have hw' := (List.cons.inj hrest).2
        exact .inr ⟨rfl, by rw [← show ['0', x].tail ++ rest = w from hw']; rfl⟩
      | cons d cs =>
        have hd := (List.cons.inj (List.cons.inj hrest).2).1
        exact .inl (by rw [List.head?_cons, ← hd])
    rcases hxs with rfl | rfl
    · exact (hx _ hd).1 rfl
    · exact (hx _ hd).2 rfl
  have htake : (c :: cs ++ w).takeWhile isHex = c :: cs := by
    rw [List.takeWhile_append_of_pos hhex]
    rcases hw.start with rfl | ⟨zone, rfl⟩
    · simp
    · rw [List.takeWhile_cons_of_neg (by decide), List.append_nil]
  have hnegative : (c :: cs ++ w).head? ≠ some '-' := by simpa using hminus
  have hpositive : (c :: cs ++ w).head? ≠ some '+' := by simpa using hplus
  unfold parseHex
  simp only [htrim, hnegative, hpositive, decide_false, Bool.or_self, Bool.false_eq_true, if_false,
    hnohex 'x' (.inl rfl), hnohex 'X' (.inr rfl), htake]
  rw [if_neg (List.cons_ne_nil _ _)]

lemma parseHex_percent (zone : List Char) : parseHex ('%' :: zone) = none := by
  have htrim : ('%' :: zone).dropWhile isJsSpace = '%' :: zone :=
    List.dropWhile_cons_of_neg (by decide)
  have htake : ('%' :: zone).takeWhile isHex = [] := List.takeWhile_cons_of_neg (by decide)
  unfold parseHex
  simp only [htrim, List.head?_cons]
  simp [List.isPrefixOf, htake]

lemma notMem_dot {cs w : List Char} (h : isGroup cs = true) (hw : Suffix w) : '.' ∉ cs ++ w := by
  intro hmem
  rcases List.mem_append.mp hmem with hmem | hmem
  · exact (isHex_ne (isHex_of_isGroup h '.' hmem)).2.1 rfl
  · exact (hw.plain '.' hmem).2 rfl

lemma token_group {cs w : List Char} (h : isGroup cs = true) (hw : Suffix w) :
    token number (cs ++ w) = [some (hexValue cs : ℤ)] := by
  unfold token
  rw [if_neg (by simpa using notMem_dot h hw), parseHex_group h hw]

lemma suffix_nil : Suffix [] := ⟨.inl rfl, by simp⟩

lemma tokens_groups {parts : List (List Char)} (h : ∀ part ∈ parts, isGroup part = true) :
    parts.flatMap (token number) = numbers (parts.map hexValue) := by
  induction parts with
  | nil => rfl
  | cons part parts ih =>
    obtain ⟨hpart, hparts⟩ := List.forall_mem_cons.mp h
    have htoken : token number (part ++ []) = _ := token_group hpart suffix_nil
    rw [List.append_nil] at htoken
    rw [List.flatMap_cons, htoken, ih hparts]
    rfl

/-! ### Four octets -/

lemma contains_dot {cs : List Char} {octets : List ℕ} (h : quad cs = some octets) :
    cs.contains '.' = true := by
  obtain ⟨hlength, -, -⟩ := quad_eq_some h
  rw [List.contains_iff_mem]
  by_contra hmem
  rw [List.splitOn_eq_singleton hmem] at hlength
  cases hlength

lemma token_quad (hn : Reads number) {cs : List Char} {octets : List ℕ}
    (h : quad cs = some octets) : token number cs = numbers (quadGroups octets) := by
  obtain ⟨hlength, hall, rfl⟩ := quad_eq_some h
  unfold token
  rw [if_pos (contains_dot h)]
  match hparts : cs.splitOn '.', hlength with
  | [a, b, c, d], _ =>
    rw [hparts] at hall
    simp only [List.forall_mem_cons] at hall
    obtain ⟨ha, hb, hc, hd, -⟩ := hall
    simp [hn.octet a ha, hn.octet b hb, hn.octet c hc, hn.octet d hd, pair, numbers, quadGroups]

/-- A zone makes the last octet no number. -/
lemma token_quad_zone (hn : Reads number) {cs w : List Char} {octets : List ℕ}
    (h : quad cs = some octets) (hw : Suffix w) (hne : w ≠ []) :
    ∃ a, quadGroups octets = [a, (quadGroups octets).getD 1 0] ∧
      token number (cs ++ w) = [some (a : ℤ), none] := by
  obtain ⟨hlength, hall, rfl⟩ := quad_eq_some h
  have hdot : (cs ++ w).contains '.' = true := by
    have hcs := contains_dot h
    rw [List.contains_iff_mem] at hcs ⊢
    exact List.mem_append_left _ hcs
  have hplain : '.' ∉ w := fun hmem => (hw.plain '.' hmem).2 rfl
  obtain ⟨init, last, hcs, happend⟩ := splitOn_append_last '.' cs
  have hsplit := happend w hplain
  have hinit : init.length = 3 := by
    rw [hcs, List.length_append, List.length_singleton] at hlength
    omega
  match init, hinit with
  | [a, b, c], _ =>
    rw [hcs] at hall
    simp only [List.cons_append, List.nil_append, List.forall_mem_cons] at hall
    obtain ⟨ha, hb, hc, hd, -⟩ := hall
    have hlast : number (last ++ w) = none := by
      refine hn.percent _ (List.mem_append_right _ ?_)
      rcases hw.start with rfl | ⟨zone, rfl⟩
      · exact absurd rfl hne
      · exact List.mem_cons_self
    refine ⟨decimal a * 256 + decimal b, ?_, ?_⟩
    · rw [hcs]
      rfl
    · unfold token
      rw [if_pos hdot, hsplit]
      simp [hn.octet a ha, hn.octet b hb, hn.octet c hc, hlast, pair]

/-! ### The parts of one side -/

lemma readParts_concat {init : List (List Char)} {last : List Char} {gs : List ℕ}
    (h : readParts (init ++ [last]) = some gs) :
    (∀ part ∈ init, isGroup part = true) ∧
      ∃ ends, readParts [last] = some ends ∧ gs = init.map hexValue ++ ends := by
  induction init generalizing gs with
  | nil => exact ⟨by simp, gs, h, rfl⟩
  | cons part init ih =>
    rw [List.cons_append, readParts] at h
    split at h
    · next hgroup =>
      obtain ⟨rest, hrest, rfl⟩ := Option.map_eq_some_iff.mp h
      obtain ⟨hinit, ends, hends, rfl⟩ := ih hrest
      exact ⟨List.forall_mem_cons.mpr ⟨hgroup, hinit⟩, ends, hends, rfl⟩
    · rw [if_neg (by simp)] at h
      cases h

lemma readParts_last {last : List Char} {ends : List ℕ} (h : readParts [last] = some ends) :
    (isGroup last = true ∧ ends = [hexValue last]) ∨
      (isGroup last = false ∧ ∃ octets, quad last = some octets ∧ ends = quadGroups octets) := by
  unfold readParts at h
  split at h
  · next hgroup => exact .inl ⟨hgroup, (Option.some.inj h).symm⟩
  · next hgroup =>
    rw [if_pos rfl] at h
    obtain ⟨octets, hquad, rfl⟩ := Option.map_eq_some_iff.mp h
    exact .inr ⟨Bool.eq_false_iff.mpr hgroup, octets, hquad, rfl⟩

lemma ne_nil_of_readParts {cs : List Char} {gs : List ℕ}
    (h : readParts (cs.splitOn ':') = some gs) : cs ≠ [] := by
  rintro rfl
  exact nomatch (show none = some gs from h)

/-- The parts of a side, with what follows its last group. -/
lemma parsePart_append {cs : List Char} {gs : List ℕ} (h : readParts (cs.splitOn ':') = some gs) :
    ∃ (init : List (List Char)) (last : List Char) (ends : List ℕ),
      gs = init.map hexValue ++ ends ∧ readParts [last] = some ends ∧
      (cs.splitOn ':').getLast? = some last ∧
      ∀ w, ':' ∉ w → parsePart number (cs ++ w) =
        numbers (init.map hexValue) ++ token number (last ++ w) := by
  obtain ⟨init, last, hcs, happend⟩ := splitOn_append_last ':' cs
  rw [hcs] at h
  obtain ⟨hinit, ends, hends, rfl⟩ := readParts_concat h
  refine ⟨init, last, ends, rfl, hends, by rw [hcs, List.getLast?_concat], fun w hw => ?_⟩
  have hne : cs ++ w ≠ [] := by
    rw [← hcs] at h
    exact List.append_ne_nil_of_left_ne_nil (ne_nil_of_readParts h) _
  rw [parsePart, if_neg hne, happend w hw, List.flatMap_append, tokens_groups hinit]
  simp

lemma parsePart_group {cs w : List Char} {gs : List ℕ}
    (h : readParts (cs.splitOn ':') = some gs) (hend : EndsInGroup cs) (hw : Suffix w) :
    parsePart number (cs ++ w) = numbers gs := by
  obtain ⟨init, last, ends, rfl, hends, hlast, happend⟩ := @parsePart_append number _ _ h
  have hgroup := hend last hlast
  rw [happend w fun hmem => (hw.plain ':' hmem).1 rfl, token_group hgroup hw, numbers_append]
  rcases readParts_last hends with ⟨-, rfl⟩ | ⟨hnot, -⟩
  · rfl
  · rw [hgroup] at hnot
    cases hnot

lemma parsePart_whole (hn : Reads number) {cs : List Char} {gs : List ℕ}
    (h : readParts (cs.splitOn ':') = some gs) : parsePart number cs = numbers gs := by
  obtain ⟨init, last, ends, rfl, hends, -, happend⟩ := @parsePart_append number _ _ h
  have hcs := happend [] (by simp)
  rw [List.append_nil, List.append_nil] at hcs
  rw [hcs, numbers_append]
  rcases readParts_last hends with ⟨hgroup, rfl⟩ | ⟨-, octets, hquad, rfl⟩
  · have htoken : token number (last ++ []) = _ := token_group hgroup suffix_nil
    rw [List.append_nil] at htoken
    rw [htoken]
    rfl
  · rw [token_quad hn hquad]

/-- After four octets a zone is misread. -/
lemma parsePart_quad (hn : Reads number) {cs w : List Char} {gs : List ℕ}
    (h : readParts (cs.splitOn ':') = some gs) (hend : ¬ EndsInGroup cs) (hw : Suffix w)
    (hne : w ≠ []) : parsePart number (cs ++ w) = numbers gs.dropLast ++ [none] := by
  obtain ⟨init, last, ends, rfl, hends, hlast, happend⟩ := @parsePart_append number _ _ h
  rw [happend w fun hmem => (hw.plain ':' hmem).1 rfl]
  rcases readParts_last hends with ⟨hgroup, -⟩ | ⟨-, octets, hquad, rfl⟩
  · refine absurd ?_ hend
    intro last' hlast'
    rw [hlast] at hlast'
    exact Option.some.inj hlast' ▸ hgroup
  · obtain ⟨a, hgroups, htoken⟩ := token_quad_zone hn hquad hw hne
    rw [htoken, hgroups, List.dropLast_append_of_ne_nil (List.cons_ne_nil _ _)]
    simp [numbers]

lemma parsePart_readLeft {cs : List Char} {gs : List ℕ} (h : readLeft cs = some gs) :
    parsePart number cs = numbers gs := by
  rcases readLeft_eq_some h with ⟨rfl, rfl⟩ | ⟨hne, hall, rfl⟩
  · rfl
  · rw [parsePart, if_neg hne, tokens_groups hall]

lemma parsePart_readRight (hn : Reads number) {cs : List Char} {gs : List ℕ}
    (h : readRight cs = some gs) : parsePart number cs = numbers gs := by
  unfold readRight at h
  split at h
  · next hnil =>
    obtain rfl := Option.some.inj h
    rw [hnil]
    rfl
  · exact parsePart_whole hn h

/-! ### A whole text -/

/-- What the code reads right of the first double colon: up to the next one. -/
def rightPiece (text : List Char) : List Char :=
  match (sides text).2 with
  | none => []
  | some rest => (sides rest).1

lemma expandIpv6_eq (text : List Char) :
    expandIpv6 number text =
      parsePart number (sides text).1 ++
        List.replicate (8 - (parsePart number (sides text).1).length -
          (parsePart number (rightPiece text)).length) (some 0) ++
        parsePart number (rightPiece text) := by
  have hleft : (doubleColonPieces (text.length + 1) text).getD 0 [] = (sides text).1 := by
    unfold doubleColonPieces
    cases hsides : (sides text).2 with
    | none => simpa using (sides_eq_of_none hsides).symm
    | some rest => rfl
  have hright : (doubleColonPieces (text.length + 1) text).getD 1 [] = rightPiece text := by
    unfold doubleColonPieces rightPiece
    cases hsides : (sides text).2 with
    | none => rfl
    | some rest =>
      have hlength := congrArg List.length (sides_eq_of_some hsides)
      simp only [List.length_append, List.length_cons] at hlength
      obtain ⟨n, hn⟩ : ∃ n, text.length = n + 1 := ⟨text.length - 1, by omega⟩
      simp only [hn, doubleColonPieces]
      cases hrest : (sides rest).2 with
      | none => simpa using (sides_eq_of_none hrest).symm
      | some _ => rfl
  unfold expandIpv6
  simp only [hleft, hright]

/-- The side that is read last has no double colon of its own. -/
lemma sides_of_readParts {cs : List Char} {gs : List ℕ}
    (h : readParts (cs.splitOn ':') = some gs) : (sides cs).2 = none := by
  have hparts : ∀ part ∈ cs.splitOn ':', part ≠ [] ∧ ':' ∉ part := by
    intro part hpart
    refine ⟨?_, notMem_of_mem_splitOn hpart⟩
    rintro rfl
    obtain ⟨init, last, hcs, -⟩ := splitOn_append_last ':' cs
    rw [hcs] at h hpart
    obtain ⟨hinit, ends, hends, -⟩ := readParts_concat h
    rcases List.mem_append.mp hpart with hmem | hmem
    · exact isGroup_ne_nil (hinit [] hmem) rfl
    · obtain rfl := List.mem_singleton.mp hmem
      exact nomatch (show none = some ends from hends)
  have hback : [':'].intercalate (cs.splitOn ':') = cs := List.intercalate_splitOn ':'
  rw [← hback]
  exact (sides_joined (List.splitOn_ne_nil _ _) hparts).1

/-- An address is read as its groups. -/
lemma expandIpv6_address (hn : Reads number) {cs : List Char} {gs : List ℕ}
    (h : address cs = some gs) : expandIpv6 number cs = numbers gs := by
  rw [expandIpv6_eq]
  unfold rightPiece
  rcases address_eq_some h with ⟨hsides, hread, hlength⟩ | ⟨right, ls, rs, hsides, hl, hr, -, rfl⟩
  · rw [hsides, sides_eq_of_none hsides, parsePart_whole hn hread, length_numbers, hlength]
    simp [parsePart]
  · have hright : (sides right).1 = right := by
      unfold readRight at hr
      split at hr
      · next hnil =>
        rw [hnil]
        rfl
      · exact sides_eq_of_none (sides_of_readParts hr)
    rw [hsides]
    simp only [hright, parsePart_readLeft hl, parsePart_readRight hn hr, length_numbers]
    rw [numbers_append, numbers_append, numbers_zeros]

/-- The code reads nothing of the zone, or no more than the end of a group. -/
structure HarmlessZone (cs zone : List Char) : Prop where
  group : EndsInGroup cs
  plain : ∀ c ∈ (sides zone).1, c ≠ ':' ∧ c ≠ '.'
  unread : (sides cs).2 = none → rightPiece zone = []

lemma sides_percent (zone : List Char) :
    sides ('%' :: zone) = ('%' :: (sides zone).1, (sides zone).2) := by
  rw [sides, if_neg fun h => absurd h.1 (by decide)]

/-- The last group of a text with a double colon is the last one of its right side. -/
lemma endsInGroup_right {cs right : List Char} (h : (sides cs).2 = some right) :
    EndsInGroup cs ↔ EndsInGroup right := by
  have hcs := sides_eq_of_some h
  have hroot : (':' :: right).splitOn ':' = [] :: right.splitOn ':' := by
    rw [List.splitOn_cons_eq_if_modifyHead, if_pos (beq_self_eq_true _)]
  unfold EndsInGroup
  rw [hcs, List.splitOn_append_cons_self, hroot,
    List.getLast?_append_of_ne_nil _ (List.cons_ne_nil _ _),
    List.getLast?_cons_of_ne_nil (List.splitOn_ne_nil _ _)]

lemma suffix_zone {w : List Char} (h : ∀ c ∈ w, c ≠ ':' ∧ c ≠ '.') : Suffix ('%' :: w) :=
  ⟨.inr ⟨w, rfl⟩, List.forall_mem_cons.mpr ⟨by decide, h⟩⟩

lemma expandIpv6_harmless {cs zone : List Char} {gs : List ℕ}
    (h : address cs = some gs) (hz : HarmlessZone cs zone) :
    expandIpv6 number (cs ++ '%' :: zone) = numbers gs := by
  have hsuffix := suffix_zone hz.plain
  rw [expandIpv6_eq]
  unfold rightPiece
  rcases address_eq_some h with ⟨hsides, hread, hlength⟩ | ⟨right, ls, rs, hsides, hl, hr, -, rfl⟩
  · have hmeet : cs.getLast? ≠ some ':' ∨ ('%' :: zone).head? ≠ some ':' := .inr (by simp)
    rw [sides_append_of_none hsides hmeet, sides_percent]
    have hunread := hz.unread hsides
    unfold rightPiece at hunread
    have hpart : parsePart number _ = _ := parsePart_group hread hz.group hsuffix
    cases hrest : (sides zone).2 with
    | none =>
      simp only [hpart, length_numbers, hlength]
      simp [parsePart]
    | some rest =>
      rw [hrest] at hunread
      simp only [hunread, hpart, length_numbers, hlength]
      simp [parsePart]
  · have hgroup := (endsInGroup_right hsides).mp hz.group
    have hne : right ≠ [] := by
      rintro rfl
      exact absurd (hgroup [] rfl) (by decide)
    rw [readRight, if_neg hne] at hr
    have hmeet : right.getLast? ≠ some ':' ∨ ('%' :: zone).head? ≠ some ':' := .inr (by simp)
    rw [sides_append_of_some hsides]
    simp only [sides_append_of_none (sides_of_readParts hr) hmeet, sides_percent]
    rw [parsePart_readLeft hl, parsePart_group hr hgroup hsuffix]
    simp only [length_numbers]
    rw [numbers_append, numbers_append, numbers_zeros]

/-- Otherwise a zone without colons and dots leaves no number of the last group. -/
lemma expandIpv6_harmful (hn : Reads number) {cs zone : List Char} {gs : List ℕ}
    (h : address cs = some gs) (hz : ∀ c ∈ zone, c ≠ ':' ∧ c ≠ '.') (hend : ¬ EndsInGroup cs) :
    expandIpv6 number (cs ++ '%' :: zone) = numbers gs.dropLast ++ [none] := by
  have hsuffix := suffix_zone hz
  have hzone : (sides zone).2 = none := sides_of_notMem fun hmem => (hz ':' hmem).1 rfl
  have hleft := sides_eq_of_none hzone
  rw [expandIpv6_eq]
  unfold rightPiece
  rcases address_eq_some h with ⟨hsides, hread, hlength⟩ | ⟨right, ls, rs, hsides, hl, hr, hle, rfl⟩
  · have hmeet : cs.getLast? ≠ some ':' ∨ ('%' :: zone).head? ≠ some ':' := .inr (by simp)
    rw [sides_append_of_none hsides hmeet, sides_percent]
    have hpart := parsePart_quad hn hread hend hsuffix (List.cons_ne_nil _ _)
    simp only [hzone, hleft, hpart]
    simp [parsePart, hlength]
  · have hright := mt (endsInGroup_right hsides).mpr hend
    rw [sides_append_of_some hsides]
    by_cases hne : right = []
    · subst hne
      obtain rfl : rs = [] := by simpa [readRight] using hr.symm
      have htoken : parsePart number ('%' :: zone) = [none] := by
        rw [parsePart, if_neg (List.cons_ne_nil _ _),
          List.splitOn_eq_singleton fun hmem => (hsuffix.plain ':' hmem).1 rfl, List.flatMap_cons,
          token, if_neg (by simpa using fun hmem => (hz '.' hmem).2 rfl), parseHex_percent]
        rfl
      simp only [List.nil_append, sides_percent, hleft, htoken, parsePart_readLeft hl,
        length_numbers]
      rw [List.append_nil, List.length_nil, Nat.sub_zero, List.length_singleton]
      obtain ⟨n, hn'⟩ : ∃ n, 8 - ls.length = n + 1 := ⟨7 - ls.length, by
        rw [List.length_nil] at hle
        omega⟩
      rw [hn', Nat.add_sub_cancel, List.replicate_succ', ← List.append_assoc, List.dropLast_concat,
        numbers_append, numbers_zeros]
    · rw [readRight, if_neg hne] at hr
      have hmeet : right.getLast? ≠ some ':' ∨ ('%' :: zone).head? ≠ some ':' := .inr (by simp)
      have hpart := parsePart_quad hn hr hright hsuffix (List.cons_ne_nil _ _)
      have hrs : rs ≠ [] := by
        rintro rfl
        obtain ⟨init, last, ends, hgs, hends, -, -⟩ := @parsePart_append number _ _ hr
        obtain ⟨-, rfl⟩ := List.append_eq_nil_iff.mp hgs.symm
        rcases readParts_last hends with ⟨-, hnil⟩ | ⟨-, octets, hquad, hnil⟩
        · cases hnil
        · have htwo := (quadGroups_of_quad hquad).1
          rw [← hnil] at htwo
          cases htwo
      simp only [sides_append_of_none (sides_of_readParts hr) hmeet, sides_percent, hleft]
      rw [parsePart_readLeft hl, hpart]
      simp only [length_numbers, List.length_append, List.length_dropLast, List.length_singleton]
      have hcount : rs.length - 1 + 1 = rs.length :=
        Nat.sub_add_cancel (List.length_pos_of_ne_nil hrs)
      rw [hcount, List.dropLast_append_of_ne_nil hrs, numbers_append, numbers_append,
        numbers_zeros, ← List.append_assoc]

end GatewayControl.PublicIp
