import GatewayControl.PublicRanges

/-!
One canonical form for each public address: that the form written for one is read as the same
address, which addresses are accepted, and which zones break it.
-/

namespace GatewayControl.PublicIp

open Text Ipv6Texts

variable {number : List Char → Number}

/-! ### Runs of zeros -/

/-- The best run so far is one of zeros. -/
def Run (expanded : List Number) (best : Option ℕ × ℕ) : Prop :=
  ∀ start, best.1 = some start → 2 ≤ best.2 ∧ ∃ front back,
    expanded = front ++ List.replicate best.2 (some 0) ++ back ∧ front.length = start

lemma run_here {expanded : List Number} {index : ℕ} (hindex : index < expanded.length)
    (hlong : 2 ≤ ((expanded.drop index).takeWhile (· = some 0)).length) :
    Run expanded (some index, ((expanded.drop index).takeWhile (· = some 0)).length) := by
  intro start hstart
  obtain rfl : index = start := by simpa using hstart
  refine ⟨hlong, expanded.take index, (expanded.drop index).dropWhile (· = some 0), ?_, ?_⟩
  · have hzeros : (expanded.drop index).takeWhile (· = some 0) =
        List.replicate ((expanded.drop index).takeWhile (· = some 0)).length (some 0) := by
      refine List.eq_replicate_of_mem fun x hx => ?_
      simpa using List.all_eq_true.mp List.all_takeWhile x hx
    rw [← hzeros, List.append_assoc, List.takeWhile_append_dropWhile, List.take_append_drop]
  · rw [List.length_take]
    omega

lemma run_bestRun {expanded : List Number} {fuel index : ℕ} {best : Option ℕ × ℕ}
    (h : Run expanded best) : Run expanded (bestRun expanded fuel index best) := by
  induction fuel generalizing index best with
  | zero => exact h
  | succ fuel ih =>
    unfold bestRun
    split
    · next hindex =>
      split
      · exact ih h
      · refine ih ?_
        rw [Nat.add_sub_cancel_left]
        split
        · next hbetter => exact run_here hindex hbetter.2
        · exact h
    · exact h

/-- What is written: all groups, or what stands around a run of zeros. -/
lemma compress_cases (expanded : List Number) :
    compress expanded = joinHex expanded ∨ ∃ front back n, 2 ≤ n ∧
      expanded = front ++ List.replicate n (some 0) ++ back ∧
      compress expanded = joinHex front ++ ':' :: ':' :: joinHex back := by
  have hrun : Run expanded (bestRun expanded expanded.length 0 (none, 0)) :=
    run_bestRun fun start hstart => nomatch hstart
  unfold compress
  cases hbest : bestRun expanded expanded.length 0 (none, 0) with
  | mk start n =>
    cases start with
    | none => exact .inl rfl
    | some start =>
      rw [hbest] at hrun
      obtain ⟨hn, front, back, hexpanded, rfl⟩ := hrun start rfl
      refine .inr ⟨front, back, n, hn, hexpanded, ?_⟩
      have htake : expanded.take front.length = front := by
        rw [hexpanded, List.append_assoc, List.take_left]
      have hdrop : expanded.drop (front.length + n) = back := by
        have hlength : front.length + n = (front ++ List.replicate n (some (0 : ℤ))).length := by
          simp
        rw [hexpanded, hlength, List.drop_left]
      simp only [htake, hdrop]

lemma toHex_natCast (n : ℕ) : toHex (some (n : ℤ)) = hexText n := rfl

lemma joinHex_numbers (gs : List ℕ) : joinHex (numbers gs) = joined gs := by
  unfold joinHex joined numbers
  rw [List.map_map]
  rfl

lemma numbers_injective {gs hs : List ℕ} (h : numbers gs = numbers hs) : gs = hs := by
  refine List.map_injective_iff.mpr (fun a b hab => ?_) h
  exact Int.ofNat.inj (Option.some.inj hab)

/-- The numbers of a part of the groups. -/
lemma exists_numbers {gs : List ℕ} {front back : List Number} (h : numbers gs = front ++ back) :
    ∃ ls rs, gs = ls ++ rs ∧ front = numbers ls ∧ back = numbers rs := by
  obtain ⟨ls, rs, hgs, hl, hr⟩ := List.map_eq_append_iff.mp h
  exact ⟨ls, rs, hgs, hl.symm, hr.symm⟩

/-- The canonical text is a form of the address. -/
lemma address_compress {gs : List ℕ} (hlength : gs.length = 8) (hgs : ∀ g ∈ gs, g < 65536) :
    address (compress (numbers gs)) = some gs := by
  rcases compress_cases (numbers gs) with hall | ⟨front, back, n, hn, hsplit, hshort⟩
  · rw [hall, joinHex_numbers, address_joined hlength hgs]
  · obtain ⟨ms, rs, rfl, hms, rfl⟩ := exists_numbers hsplit
    obtain ⟨ls, zs, rfl, rfl, hzs⟩ := exists_numbers hms.symm
    rw [← numbers_zeros] at hzs
    obtain rfl := numbers_injective hzs
    simp only [List.length_append, List.length_replicate] at hlength
    simp only [List.forall_mem_append] at hgs
    have hzeros : 8 - ls.length - rs.length = n := by omega
    rw [hshort, joinHex_numbers, joinHex_numbers,
      address_short (by omega) hgs.1.1 hgs.2, hzeros]

lemma mem_joinHex {expanded : List Number} (h : none ∈ expanded) : 'N' ∈ joinHex expanded := by
  unfold joinHex
  induction expanded with
  | nil => cases h
  | cons x xs ih =>
    by_cases hxs : xs = []
    · subst hxs
      obtain rfl := List.mem_singleton.mp h
      decide
    · rw [List.map_cons, List.intercalate_cons_of_ne_nil (by simpa using hxs)]
      rcases List.mem_cons.mp h with rfl | hmem
      · exact List.mem_append_left _ (List.mem_append_left _ (by decide))
      · exact List.mem_append_right _ (ih hmem)

lemma char_joinHex {expanded : List Number} {c : Char} (h : c ∈ joinHex expanded) :
    c = ':' ∨ ∃ x ∈ expanded, c ∈ toHex x := by
  unfold joinHex at h
  induction expanded with
  | nil => cases h
  | cons x xs ih =>
    by_cases hxs : xs = []
    · subst hxs
      rw [List.map_singleton, List.intercalate_singleton] at h
      exact .inr ⟨x, List.mem_cons_self, h⟩
    · rw [List.map_cons, List.intercalate_cons_of_ne_nil (by simpa using hxs)] at h
      rcases List.mem_append.mp h with h | h
      · rcases List.mem_append.mp h with h | h
        · exact .inr ⟨x, List.mem_cons_self, h⟩
        · exact .inl (List.mem_singleton.mp h)
      · rcases ih h with hc | ⟨y, hy, hc⟩
        · exact .inl hc
        · exact .inr ⟨y, List.mem_cons_of_mem _ hy, hc⟩

/-- Nothing but numbers and colons is written. -/
lemma char_compress {expanded : List Number} {c : Char} (h : c ∈ compress expanded) :
    c = ':' ∨ ∃ x ∈ expanded, c ∈ toHex x := by
  rcases compress_cases expanded with hall | ⟨front, back, n, -, hsplit, hshort⟩
  · rw [hall] at h
    exact char_joinHex h
  · rw [hshort] at h
    have hin : ∀ part, part = front ∨ part = back → c ∈ joinHex part →
        c = ':' ∨ ∃ x ∈ expanded, c ∈ toHex x := by
      intro part hpart hc
      rcases char_joinHex hc with hc | ⟨x, hx, hc⟩
      · exact .inl hc
      · refine .inr ⟨x, ?_, hc⟩
        rw [hsplit]
        rcases hpart with rfl | rfl
        · exact List.mem_append_left _ (List.mem_append_left _ hx)
        · exact List.mem_append_right _ hx
    rcases List.mem_append.mp h with h | h
    · exact hin front (.inl rfl) h
    · rcases List.mem_cons.mp h with h | h
      · exact .inl h
      · rcases List.mem_cons.mp h with h | h
        · exact .inl h
        · exact hin back (.inr rfl) h

/-- A number that is none is written. -/
lemma mem_compress {expanded : List Number} (h : none ∈ expanded) : 'N' ∈ compress expanded := by
  rcases compress_cases expanded with hall | ⟨front, back, n, -, hsplit, hshort⟩
  · rw [hall]
    exact mem_joinHex h
  · rw [hshort]
    rw [hsplit] at h
    rcases List.mem_append.mp h with h | h
    · rcases List.mem_append.mp h with h | h
      · exact List.mem_append_left _ (mem_joinHex h)
      · exact nomatch List.eq_of_mem_replicate h
    · exact List.mem_append_right _
        (List.mem_cons_of_mem _ (List.mem_cons_of_mem _ (mem_joinHex h)))

/-! ### The case of letters -/

def lowerLetter (c : Char) : Char :=
  if 'A' ≤ c ∧ c ≤ 'Z' then Char.ofNat (c.toNat + 32) else c

lemma asciiLower_ofList (text : List Char) :
    asciiLower (String.ofList text) = text.map lowerLetter := by
  unfold asciiLower
  rw [String.toList_ofList]
  rfl

/-- A letter becomes a letter, everything else stays. -/
lemma lowerLetter_cases (c : Char) :
    lowerLetter c = c ∨ ∃ n < 26, c = Char.ofNat (65 + n) ∧ lowerLetter c = Char.ofNat (97 + n) := by
  unfold lowerLetter
  split
  · next h =>
    obtain ⟨hlow, hhigh⟩ : 65 ≤ c.toNat ∧ c.toNat ≤ 90 := h
    refine .inr ⟨c.toNat - 65, by omega, ?_, ?_⟩
    · rw [Nat.add_sub_cancel' hlow, Char.ofNat_toNat]
    · congr 1
      omega
  · exact .inl rfl

lemma lowerLetter_keeps : KeepsForms lowerLetter where
  colon c := by
    rcases lowerLetter_cases c with h | ⟨n, hn, rfl, h⟩
    · rw [h]
    · rw [h]
      revert n
      decide
  dot c := by
    rcases lowerLetter_cases c with h | ⟨n, hn, rfl, h⟩
    · rw [h]
    · rw [h]
      revert n
      decide
  digit c hc := by
    rcases lowerLetter_cases c with h | ⟨n, hn, rfl, h⟩
    · exact h
    · rw [h] at hc ⊢
      revert n
      decide
  hex c := by
    rcases lowerLetter_cases c with h | ⟨n, hn, rfl, h⟩
    · rw [h]
    · rw [h]
      revert n
      decide
  value c hc := by
    rcases lowerLetter_cases c with h | ⟨n, hn, rfl, h⟩
    · rw [h]
    · rw [h]
      revert n
      decide

lemma lowerLetter_percent (c : Char) : lowerLetter c = '%' ↔ c = '%' := by
  rcases lowerLetter_cases c with h | ⟨n, hn, rfl, h⟩
  · rw [h]
  · rw [h]
    revert n
    decide

lemma splitFirst_lower (text : List Char) :
    splitFirst '%' (text.map lowerLetter) =
      ((splitFirst '%' text).1.map lowerLetter,
        (splitFirst '%' text).2.map (List.map lowerLetter)) := by
  have hsame : ((fun c => decide (c ≠ '%')) ∘ lowerLetter) = fun c => decide (c ≠ '%') := by
    funext c
    simp only [Function.comp_apply, ne_eq, lowerLetter_percent]
  unfold splitFirst
  rw [List.dropWhile_map, List.takeWhile_map, hsame]
  cases text.dropWhile fun c => decide (c ≠ '%') with
  | nil => rfl
  | cons c rest => rfl

lemma denoted_lower (text : List Char) : denoted (text.map lowerLetter) = denoted text := by
  unfold denoted
  rw [splitFirst_lower, lowerLetter_keeps.address]

lemma endsInGroup_lower {cs : List Char} :
    EndsInGroup (cs.map lowerLetter) ↔ EndsInGroup cs := by
  unfold EndsInGroup
  rw [splitOn_map lowerLetter_keeps.colon, List.getLast?_map]
  cases (cs.splitOn ':').getLast? with
  | none => simp
  | some last => simp [lowerLetter_keeps.isGroup]

lemma plain_lower {cs : List Char} (h : ∀ c ∈ cs, c ≠ ':' ∧ c ≠ '.') :
    ∀ c ∈ cs.map lowerLetter, c ≠ ':' ∧ c ≠ '.' := by
  intro c hc
  obtain ⟨d, hd, rfl⟩ := List.mem_map.mp hc
  rw [ne_eq, lowerLetter_keeps.colon, ne_eq, lowerLetter_keeps.dot]
  exact h d hd

lemma HarmlessZone.lower {cs zone : List Char} (h : HarmlessZone cs zone) :
    HarmlessZone (cs.map lowerLetter) (zone.map lowerLetter) where
  group := endsInGroup_lower.mpr h.group
  plain := by
    rw [lowerLetter_keeps.sides]
    exact plain_lower h.plain
  unread hnone := by
    rw [lowerLetter_keeps.sides, Option.map_eq_none_iff] at hnone
    have hunread := h.unread hnone
    unfold rightPiece at hunread ⊢
    rw [lowerLetter_keeps.sides]
    cases hzone : (sides zone).2 with
    | none => rfl
    | some rest =>
      rw [hzone] at hunread
      simp only [Option.map_some, lowerLetter_keeps.sides]
      rw [show (sides rest).1 = [] from hunread]
      rfl

/-! ### Texts -/

/-- The code takes nothing of a zone for a part of the address. -/
def Harmless (text : List Char) : Prop :=
  ∀ zone ∈ (splitFirst '%' text).2, HarmlessZone (splitFirst '%' text).1 zone

/-- A zone, if there is one, has no character that stands between groups or octets. -/
def PlainZone (text : List Char) : Prop :=
  ∀ zone ∈ (splitFirst '%' text).2, ∀ c ∈ zone, c ≠ ':' ∧ c ≠ '.'

lemma eq_of_splitFirst (text : List Char) :
    ((splitFirst '%' text).2 = none ∧ text = (splitFirst '%' text).1) ∨
      ∃ zone, (splitFirst '%' text).2 = some zone ∧
        text = (splitFirst '%' text).1 ++ '%' :: zone := by
  cases h : splitFirst '%' text with
  | mk first zone =>
    cases zone with
    | some zone => exact .inr ⟨zone, rfl, splitFirst_eq h⟩
    | none =>
      unfold splitFirst at h
      split at h
      · exact .inl ⟨rfl, (Prod.mk.inj h).1⟩
      · cases (Prod.mk.inj h).2

lemma expand_harmless (hn : Reads number) {text : List Char} {gs : List ℕ}
    (h : denoted text = some gs) (hz : Harmless text) :
    expandIpv6 number (text.map lowerLetter) = numbers gs := by
  have haddress := lowerLetter_keeps.address (splitFirst '%' text).1
  rw [show address (splitFirst '%' text).1 = some gs from h] at haddress
  rcases eq_of_splitFirst text with ⟨-, htext⟩ | ⟨zone, hzone, htext⟩
  · rw [htext]
    exact expandIpv6_address hn haddress
  · rw [htext, List.map_append, List.map_cons, (lowerLetter_percent '%').mpr rfl]
    exact expandIpv6_harmless haddress (hz zone hzone).lower

lemma plain_harmless {text : List Char} (hplain : PlainZone text)
    (hends : EndsInGroup (splitFirst '%' text).1) : Harmless text := by
  intro zone hzone
  have hno := hplain zone hzone
  have hnone : (sides zone).2 = none := sides_of_notMem fun hmem => (hno ':' hmem).1 rfl
  refine ⟨hends, ?_, fun _ => ?_⟩
  · rw [sides_eq_of_none hnone]
    exact hno
  · unfold rightPiece
    rw [hnone]

/-- A plain zone that is not harmless makes the last group no number. -/
lemma expand_harmful (hn : Reads number) {text : List Char} {gs : List ℕ}
    (h : denoted text = some gs) (hplain : PlainZone text) (hz : ¬ Harmless text) :
    expandIpv6 number (text.map lowerLetter) = numbers gs.dropLast ++ [none] := by
  have haddress := lowerLetter_keeps.address (splitFirst '%' text).1
  rw [show address (splitFirst '%' text).1 = some gs from h] at haddress
  rcases eq_of_splitFirst text with ⟨hnone, -⟩ | ⟨zone, hzone, htext⟩
  · refine absurd ?_ hz
    intro zone hzone
    rw [hnone] at hzone
    cases hzone
  · have hends : ¬ EndsInGroup (splitFirst '%' text).1 := fun hends =>
      hz (plain_harmless hplain hends)
    rw [htext, List.map_append, List.map_cons, (lowerLetter_percent '%').mpr rfl]
    exact expandIpv6_harmful hn haddress (plain_lower (hplain zone hzone))
      (mt endsInGroup_lower.mp hends)

end GatewayControl.PublicIp
