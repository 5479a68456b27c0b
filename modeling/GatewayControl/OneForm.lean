import Mathlib.Data.List.TakeWhile
import GatewayControl.CanonicalIp
import GatewayControl.Checks

/-!
Public addresses have one form: which texts are accepted, which accepted texts get the same
canonical text, and that a request's addresses are different ones.
-/

namespace GatewayControl.PublicIp

open Text Ipv6Texts

variable {number : List Char → Number}

def trimmed (s : String) : List Char := trimBoth isJsSpace s.toList

def Recognised (version : Version) (s : String) : Prop := isIP version (trimmed s) = true

instance (version : Version) (s : String) : Decidable (Recognised version s) :=
  inferInstanceAs (Decidable (_ = true))

/-- The groups or octets of the address that a text denotes. -/
def addressOf : Version → String → Option (List ℕ)
  | .v4, s => quad (trimmed s)
  | .v6, s => denoted (trimmed s)

instance (gs : List ℕ) : Decidable (Global gs) := by
  unfold Global Within
  exact instDecidableAnd

/-! ### IPv6 -/

def canonicalText (gs : List ℕ) : String := String.ofList (compress (numbers gs))

lemma addressOf_recognised {s : String} (h : Recognised .v6 s) :
    ∃ gs, addressOf .v6 s = some gs ∧ gs.length = 8 ∧ ∀ g ∈ gs, g < 65536 := by
  obtain ⟨hsome, -⟩ := Bool.and_eq_true_iff.mp h
  obtain ⟨gs, hgs⟩ := Option.isSome_iff_exists.mp hsome
  exact ⟨gs, hgs, address_wellFormed hgs⟩

/-- What is done with a text depends on the numbers that are read. -/
lemma canonicalIp_v6 {s : String} (h : Recognised .v6 s) :
    canonicalIp number (.str s) .v6 =
      if masked (element (expandIpv6 number ((trimmed s).map lowerLetter)) 0) 0xe000 ≠ 0x2000 ∨
          specialIpv6 (expandIpv6 number ((trimmed s).map lowerLetter)) = true ∨
          explicitlyExcluded (expandIpv6 number ((trimmed s).map lowerLetter)) = true then
        .error nonGlobal
      else .ok (String.ofList (compress (expandIpv6 number ((trimmed s).map lowerLetter)))) := by
  have hvalid : isIP .v6 (trimBoth isJsSpace s.toList) = true := h
  unfold canonicalIp
  simp only [hvalid, if_true, asciiLower_ofList, Bool.or_eq_true, decide_eq_true_eq, or_assoc]
  rfl

lemma canonicalIp_harmless (hn : Reads number) {s : String} {gs : List ℕ}
    (h : Recognised .v6 s) (hgs : addressOf .v6 s = some gs) (hz : Harmless (trimmed s)) :
    canonicalIp number (.str s) .v6 =
      if Global gs then .ok (canonicalText gs) else .error nonGlobal := by
  have haddress : address (splitFirst '%' (trimmed s)).1 = some gs := hgs
  obtain ⟨hlength, hbound⟩ := address_wellFormed haddress
  rw [canonicalIp_v6 h, expand_harmless hn hgs hz]
  by_cases hglobal : Global gs
  · rw [if_neg fun hchecked => (checks_iff hlength hbound).mp hchecked hglobal, if_pos hglobal]
    rfl
  · rw [if_pos ((checks_iff hlength hbound).mpr hglobal), if_neg hglobal]

/-- A character of an address, or one of `NaN`. -/
def Written (c : Char) : Prop := Plain c ∨ c ∈ ['N', 'a', 'N']

lemma written_not_space {c : Char} (h : Written c) : isJsSpace c = false ∧ c ≠ '%' := by
  rcases h with (h | rfl | rfl) | h
  · have hall : ∀ c ∈ "0123456789abcdefABCDEF".toList, isJsSpace c = false ∧ c ≠ '%' :=
      forall_of_all (by decide)
    exact hall c (isHex_mem h)
  · decide
  · decide
  · have hall : ∀ c ∈ ['N', 'a', 'N'], isJsSpace c = false ∧ c ≠ '%' := forall_of_all (by decide)
    exact hall c h

lemma splitFirst_written {cs : List Char} (h : ∀ c ∈ cs, Written c) :
    splitFirst '%' cs = (cs, none) := by
  have hdrop : cs.dropWhile (fun c => decide (c ≠ '%')) = [] :=
    List.dropWhile_eq_nil_iff.mpr fun c hc => decide_eq_true (written_not_space (h c hc)).2
  unfold splitFirst
  rw [hdrop]

lemma trimmed_written {cs : List Char} (h : ∀ c ∈ cs, Written c) :
    trimmed (String.ofList cs) = cs := by
  unfold trimmed
  rw [String.toList_ofList]
  exact trimBoth_of_ends (fun c hc => (written_not_space (h c (List.mem_of_mem_head? hc))).1)
    fun c hc => (written_not_space (h c (List.mem_of_getLast? hc))).1

lemma addressOf_written {cs : List Char} (h : ∀ c ∈ cs, Written c) :
    addressOf .v6 (String.ofList cs) = address cs := by
  change address (splitFirst '%' (trimmed (String.ofList cs))).1 = address cs
  rw [trimmed_written h, splitFirst_written h]

/-- The canonical text is recognised, without a zone, and denotes the address. -/
lemma canonicalText_spec {gs : List ℕ} (hlength : gs.length = 8) (hgs : ∀ g ∈ gs, g < 65536) :
    Recognised .v6 (canonicalText gs) ∧ addressOf .v6 (canonicalText gs) = some gs ∧
      Harmless (trimmed (canonicalText gs)) := by
  have haddress := address_compress hlength hgs
  have hwritten : ∀ c ∈ compress (numbers gs), Written c := fun c hc =>
    .inl (plain_address haddress c hc)
  have htrimmed : trimmed (canonicalText gs) = compress (numbers gs) := trimmed_written hwritten
  have hsplit := splitFirst_written hwritten
  have hdenoted : addressOf .v6 (canonicalText gs) = some gs := by
    rw [← haddress]
    exact addressOf_written hwritten
  refine ⟨?_, hdenoted, ?_⟩
  · change isIPv6 (trimmed (canonicalText gs)) = true
    unfold isIPv6
    rw [show denoted (trimmed (canonicalText gs)) = some gs from hdenoted, htrimmed, hsplit]
    rfl
  · intro zone hzone
    rw [htrimmed, hsplit] at hzone
    cases hzone

lemma canonicalText_injective {gs hs : List ℕ} (hlength : gs.length = 8)
    (hgs : ∀ g ∈ gs, g < 65536) (hlength' : hs.length = 8) (hhs : ∀ g ∈ hs, g < 65536)
    (h : canonicalText gs = canonicalText hs) : gs = hs := by
  have hg := (canonicalText_spec hlength hgs).2.1
  rw [h, (canonicalText_spec hlength' hhs).2.1] at hg
  exact (Option.some.inj hg).symm

/-- The code reads the address alone, or refuses a text it is right to refuse. -/
def Safe (s : String) : Prop :=
  Harmless (trimmed s) ∨
    PlainZone (trimmed s) ∧ ∀ gs, addressOf .v6 s = some gs → ¬ Global gs

lemma element_append {l : List Number} {x : Number} {i : ℕ} (h : i < l.length) :
    element (l ++ [x]) i = element l i := by
  unfold element
  rw [List.getElem?_append_left h]

/-- No check looks at the last of eight groups. -/
lemma checks_dropLast {l : List Number} (hl : l.length = 7) (x y : Number) :
    (masked (element (l ++ [x]) 0) 0xe000 ≠ 0x2000 ∨ specialIpv6 (l ++ [x]) = true ∨
      explicitlyExcluded (l ++ [x]) = true) ↔
    (masked (element (l ++ [y]) 0) 0xe000 ≠ 0x2000 ∨ specialIpv6 (l ++ [y]) = true ∨
      explicitlyExcluded (l ++ [y]) = true) := by
  unfold specialIpv6 explicitlyExcluded
  simp only [element_append (x := x) (hl ▸ (by decide : (0 : ℕ) < 7)),
    element_append (x := x) (hl ▸ (by decide : (1 : ℕ) < 7)),
    element_append (x := x) (hl ▸ (by decide : (2 : ℕ) < 7)),
    element_append (x := x) (hl ▸ (by decide : (5 : ℕ) < 7)),
    element_append (x := y) (hl ▸ (by decide : (0 : ℕ) < 7)),
    element_append (x := y) (hl ▸ (by decide : (1 : ℕ) < 7)),
    element_append (x := y) (hl ▸ (by decide : (2 : ℕ) < 7)),
    element_append (x := y) (hl ▸ (by decide : (5 : ℕ) < 7)),
    List.take_append_of_le_length (hl ▸ (by decide : (5 : ℕ) ≤ 7))]

/-- A misread zone: a public address gets a text that no address has. -/
lemma canonicalIp_harmful (hn : Reads number) {s : String} {gs : List ℕ}
    (h : Recognised .v6 s) (hgs : addressOf .v6 s = some gs) (hplain : PlainZone (trimmed s))
    (hz : ¬ Harmless (trimmed s)) :
    if Global gs then
      ∃ c, canonicalIp number (.str s) .v6 = .ok c ∧ addressOf .v6 c = none
    else canonicalIp number (.str s) .v6 = .error nonGlobal := by
  have haddress : address (splitFirst '%' (trimmed s)).1 = some gs := hgs
  obtain ⟨hlength, hbound⟩ := address_wellFormed haddress
  have hne : gs ≠ [] := by
    rintro rfl
    cases hlength
  have hwhole : numbers gs = numbers gs.dropLast ++ [some (gs.getLast hne : ℤ)] := by
    conv_lhs => rw [← List.dropLast_concat_getLast hne, numbers_append]
    rfl
  have hseven : (numbers gs.dropLast).length = 7 := by
    rw [length_numbers, List.length_dropLast, hlength]
  have hchecks := checks_dropLast hseven none (some (gs.getLast hne : ℤ))
  rw [← hwhole, checks_iff hlength hbound] at hchecks
  rw [canonicalIp_v6 h, expand_harmful hn hgs hplain hz]
  by_cases hglobal : Global gs
  · rw [if_pos hglobal, if_neg fun hchecked => hchecks.mp hchecked hglobal]
    refine ⟨_, rfl, ?_⟩
    have hmem : 'N' ∈ compress (numbers gs.dropLast ++ [none]) :=
      mem_compress (List.mem_append_right _ List.mem_cons_self)
    have hwritten : ∀ c ∈ compress (numbers gs.dropLast ++ [none]), Written c := by
      intro c hc
      rcases char_compress hc with rfl | ⟨x, hx, hc⟩
      · exact .inl (.inr (.inl rfl))
      · rcases List.mem_append.mp hx with hx | hx
        · obtain ⟨g, -, rfl⟩ := List.mem_map.mp hx
          exact .inl (.inl (List.all_eq_true.mp (hexText_digits g).1 c hc))
        · obtain rfl := List.mem_singleton.mp hx
          exact .inr hc
    rw [addressOf_written hwritten, Option.eq_none_iff_forall_not_mem]
    intro gs' hgs'
    rcases plain_address hgs' 'N' hmem with hhex | hcolon | hdot
    · exact absurd hhex (by decide)
    · exact absurd hcolon (by decide)
    · exact absurd hdot (by decide)
  · rw [if_neg hglobal, if_pos (hchecks.mpr hglobal)]

/-! ### IPv4 -/

def quadValue (octets : List ℕ) : ℕ := octets.foldl (fun n o => n * 256 + o) 0

def Reserved (octets : List ℕ) : Prop :=
  ∃ range ∈ reservedRanges, quadValue octets / 2 ^ (32 - range.2) = range.1 / 2 ^ (32 - range.2)

def dotted (octets : List ℕ) : String :=
  String.ofList (['.'].intercalate (octets.map (Nat.toDigits 10)))

lemma foldl_pair (octets : List ℕ) (n : ℕ) :
    (numbers octets).foldl pair (some (n : ℤ)) =
      some ((octets.foldl (fun n o => n * 256 + o) n : ℕ) : ℤ) := by
  induction octets generalizing n with
  | nil => rfl
  | cons o octets ih => exact ih (n * 256 + o)

lemma inRange_iff (octets : List ℕ) (range : ℕ × ℕ) :
    inRange (some (quadValue octets : ℤ)) range = true ↔
      quadValue octets / 2 ^ (32 - range.2) = range.1 / 2 ^ (32 - range.2) := by
  unfold inRange
  rw [decide_eq_true_eq, Option.map_some, Option.some_inj, ← Int.natCast_inj]
  push_cast
  rfl

lemma map_number (hn : Reads number) {parts : List (List Char)}
    (h : ∀ part ∈ parts, isOctet part = true) : parts.map number = numbers (parts.map decimal) := by
  unfold numbers
  rw [List.map_map]
  exact List.map_congr_left fun part hpart => hn.octet part (h part hpart)

/-- A quad is the dotted form of its octets. -/
lemma dotted_quad {cs : List Char} {octets : List ℕ} (h : quad cs = some octets) :
    dotted octets = String.ofList cs := by
  obtain ⟨-, hall, rfl⟩ := quad_eq_some h
  have hparts : ((cs.splitOn '.').map decimal).map (Nat.toDigits 10) = cs.splitOn '.' := by
    rw [List.map_map]
    refine (List.map_congr_left fun part hpart => ?_).trans (List.map_id _)
    obtain ⟨hne, hdigits, hzero⟩ := isOctet_digits (hall part hpart)
    exact (toDigits_decimal hne hdigits hzero).1
  unfold dotted
  rw [hparts]
  exact congrArg String.ofList (List.intercalate_splitOn '.')

lemma canonicalIp_v4 (hn : Reads number) {s : String} {octets : List ℕ}
    (h : addressOf .v4 s = some octets) :
    (Reserved octets ∧ canonicalIp number (.str s) .v4 = .error nonGlobal) ∨
      (¬ Reserved octets ∧ canonicalIp number (.str s) .v4 = .ok (dotted octets)) := by
  have hquad : quad (trimBoth isJsSpace s.toList) = some octets := h
  have hvalid : isIP .v4 (trimBoth isJsSpace s.toList) = true := by
    change isIPv4 _ = true
    unfold isIPv4
    rw [hquad]
    rfl
  obtain ⟨-, hall, hoctets⟩ := quad_eq_some hquad
  have hlower : ((trimBoth isJsSpace s.toList).map lowerLetter).splitOn '.' =
      (trimBoth isJsSpace s.toList).splitOn '.' := by
    rw [splitOn_map lowerLetter_keeps.dot]
    refine (List.map_congr_left fun part hpart => ?_).trans (List.map_id _)
    exact lowerLetter_keeps.digits (isOctet_digits (hall part hpart)).2.1
  have hnumeric : (numbers octets).foldl pair (some 0) = some (quadValue octets : ℤ) :=
    foldl_pair octets 0
  have htexts : (numbers octets).map toText = octets.map (Nat.toDigits 10) := by
    unfold numbers
    rw [List.map_map]
    refine List.map_congr_left fun o _ => ?_
    exact String.toList_ofList
  have hreserved : reservedRanges.any (inRange (some (quadValue octets : ℤ))) = true ↔
      Reserved octets := by
    rw [List.any_eq_true]
    simp only [inRange_iff, Reserved]
  unfold canonicalIp
  simp only [hvalid, if_true, asciiLower_ofList, hlower, map_number hn hall, ← hoctets, hnumeric,
    htexts]
  by_cases hin : Reserved octets
  · rw [if_pos (hreserved.mpr hin)]
    exact .inl ⟨hin, rfl⟩
  · rw [if_neg (mt hreserved.mp hin)]
    exact .inr ⟨hin, rfl⟩

lemma addressOf_dotted {s : String} {octets : List ℕ} (h : addressOf .v4 s = some octets) :
    addressOf .v4 (dotted octets) = some octets := by
  have hquad : quad (trimmed s) = some octets := h
  have hwritten : ∀ c ∈ trimmed s, Written c := fun c hc => .inl (plain_quad hquad c hc)
  rw [dotted_quad hquad]
  change quad (trimmed (String.ofList (trimmed s))) = some octets
  rw [trimmed_written hwritten, hquad]

/-! ### One form -/

def Accepted (number : List Char → Number) (version : Version) (s : String) : Prop :=
  ∃ c, canonicalIp number (.str s) version = .ok c

def Public : Version → List ℕ → Prop
  | .v4, octets => ¬ Reserved octets
  | .v6, gs => Global gs

/-- Addresses have one form, as far as the texts with a property go. -/
structure OneForm (number : List Char → Number) (version : Version) (P : String → Prop) : Prop where
  same_acceptance : ∀ s t, P s → P t → Recognised version s → Recognised version t →
    addressOf version s = addressOf version t →
      (Accepted number version s ↔ Accepted number version t)
  same_text : ∀ s t c d, P s → P t → canonicalIp number (.str s) version = .ok c →
    canonicalIp number (.str t) version = .ok d →
      (c = d ↔ addressOf version s = addressOf version t)
  canonical : ∀ s c, P s → canonicalIp number (.str s) version = .ok c →
    Recognised version c ∧ addressOf version c = addressOf version s ∧
      canonicalIp number (.str c) version = .ok c
  accepted : ∀ s, P s → Recognised version s →
    (Accepted number version s ↔ ∃ gs, addressOf version s = some gs ∧ Public version gs)
  different : ∀ addresses texts, (∀ s, .str s ∈ addresses → P s) →
    publicIpArray number (some (.arr addresses)) version = .ok texts →
      (texts.map (addressOf version)).Nodup

/-- What is done with a text depends on the address it denotes, and so does its canonical text. -/
structure Decides (number : List Char → Number) (version : Version) (text : List ℕ → String)
    (s : String) (gs : List ℕ) : Prop where
  denotes : addressOf version s = some gs
  decides : (Public version gs ∧ canonicalIp number (.str s) version = .ok (text gs) ∧
      canonicalIp number (.str (text gs)) version = .ok (text gs)) ∨
    (¬ Public version gs ∧ canonicalIp number (.str s) version = .error nonGlobal)
  back : addressOf version (text gs) = some gs

lemma recognised_of_ok {version : Version} {s c : String}
    (h : canonicalIp number (.str s) version = .ok c) : Recognised version s := by
  unfold canonicalIp at h
  by_cases hvalid : isIP version (trimBoth isJsSpace s.toList) = true
  · exact hvalid
  · simp only [hvalid] at h
    cases h

lemma Decides.ok {version : Version} {text : List ℕ → String} {s c : String} {gs : List ℕ}
    (h : Decides number version text s gs) (hc : canonicalIp number (.str s) version = .ok c) :
    Public version gs ∧ c = text gs ∧ canonicalIp number (.str c) version = .ok c := by
  rcases h.decides with ⟨hpublic, htext, hself⟩ | ⟨-, herror⟩
  · rw [htext] at hc
    obtain rfl := Except.ok.inj hc
    exact ⟨hpublic, rfl, hself⟩
  · rw [herror] at hc
    cases hc

lemma Decides.accepted_iff {version : Version} {text : List ℕ → String} {s : String} {gs : List ℕ}
    (h : Decides number version text s gs) : Accepted number version s ↔ Public version gs := by
  constructor
  · rintro ⟨c, hc⟩
    exact (h.ok hc).1
  · intro hpublic
    rcases h.decides with ⟨-, htext, -⟩ | ⟨hnot, -⟩
    · exact ⟨text gs, htext⟩
    · exact absurd hpublic hnot

/-- The accepted texts of an array. -/
lemma publicIpArray_ok {version : Version} {addresses : List Json} {texts : List String}
    (h : publicIpArray number (some (.arr addresses)) version = .ok texts) :
    texts.Nodup ∧ ∀ c ∈ texts, ∃ s, .str s ∈ addresses ∧
      canonicalIp number (.str s) version = .ok c := by
  unfold publicIpArray at h
  by_cases hmany : 4 < addresses.length
  · simp only [hmany, if_true] at h
    cases h
  · simp only [hmany, if_false] at h
    cases hmap : addresses.mapM (canonicalIp number · version) with
    | error e =>
      simp only [hmap] at h
      cases h
    | ok canonical =>
      simp only [hmap] at h
      split at h
      · next hnodup =>
        obtain rfl := Except.ok.inj h
        refine ⟨hnodup, fun c hc => ?_⟩
        obtain ⟨address, haddress, hok⟩ := Checks.mem_mapM_ok hmap c hc
        cases address with
        | str s => exact ⟨s, haddress, hok⟩
        | _ => cases hok
      · cases h

/-- The rule for `OneForm`. -/
lemma oneForm_of {version : Version} {P : String → Prop} {text : List ℕ → String}
    (h : ∀ s, P s → Recognised version s → ∃ gs, Decides number version text s gs) :
    OneForm number version P where
  same_acceptance s t hs ht hrs hrt heq := by
    obtain ⟨gs, hd⟩ := h s hs hrs
    obtain ⟨gs', hd'⟩ := h t ht hrt
    rw [hd.denotes, hd'.denotes] at heq
    rw [hd.accepted_iff, hd'.accepted_iff, Option.some.inj heq]
  same_text s t c d hs ht hc hd := by
    obtain ⟨gs, hds⟩ := h s hs (recognised_of_ok hc)
    obtain ⟨gs', hdt⟩ := h t ht (recognised_of_ok hd)
    obtain ⟨-, rfl, -⟩ := hds.ok hc
    obtain ⟨-, rfl, -⟩ := hdt.ok hd
    rw [hds.denotes, hdt.denotes]
    constructor
    · intro heq
      rw [← hds.back, heq, hdt.back]
    · intro heq
      rw [Option.some.inj heq]
  canonical s c hs hc := by
    obtain ⟨gs, hd⟩ := h s hs (recognised_of_ok hc)
    obtain ⟨-, rfl, hself⟩ := hd.ok hc
    exact ⟨recognised_of_ok hself, by rw [hd.back, hd.denotes], hself⟩
  accepted s hs hr := by
    obtain ⟨gs, hd⟩ := h s hs hr
    rw [hd.accepted_iff, hd.denotes]
    constructor
    · exact fun hpublic => ⟨gs, rfl, hpublic⟩
    · rintro ⟨gs', heq, hpublic⟩
      exact Option.some.inj heq ▸ hpublic
  different addresses texts hP hok := by
    obtain ⟨hnodup, hfrom⟩ := publicIpArray_ok hok
    refine (List.nodup_map_iff_inj_on hnodup).mpr fun c hc d hd heq => ?_
    obtain ⟨s, hs, hcs⟩ := hfrom c hc
    obtain ⟨t, ht, hdt⟩ := hfrom d hd
    obtain ⟨gs, hds⟩ := h s (hP s hs) (recognised_of_ok hcs)
    obtain ⟨gs', hdt'⟩ := h t (hP t ht) (recognised_of_ok hdt)
    obtain ⟨-, rfl, -⟩ := hds.ok hcs
    obtain ⟨-, rfl, -⟩ := hdt'.ok hdt
    rw [hds.back, hdt'.back] at heq
    rw [Option.some.inj heq]

lemma decides_v4 (hn : Reads number) {s : String} (h : Recognised .v4 s) :
    ∃ octets, Decides number .v4 dotted s octets := by
  obtain ⟨octets, hoctets⟩ := Option.isSome_iff_exists.mp (show (quad (trimmed s)).isSome from h)
  have hback := addressOf_dotted (s := s) hoctets
  refine ⟨octets, hoctets, ?_, hback⟩
  rcases canonicalIp_v4 hn (s := s) hoctets with ⟨hin, herror⟩ | ⟨hout, hok⟩
  · exact .inr ⟨not_not.mpr hin, herror⟩
  · rcases canonicalIp_v4 hn hback with ⟨hin, -⟩ | ⟨-, hself⟩
    · exact absurd hin hout
    · exact .inl ⟨hout, hok, hself⟩

lemma decides_v6 (hn : Reads number) {s : String} (h : Recognised .v6 s) (hsafe : Safe s) :
    ∃ gs, Decides number .v6 canonicalText s gs := by
  obtain ⟨gs, hgs, hlength, hbound⟩ := addressOf_recognised h
  obtain ⟨hrecognised, hback, hharmless⟩ := canonicalText_spec hlength hbound
  have hself := canonicalIp_harmless hn hrecognised hback hharmless
  refine ⟨gs, hgs, ?_, hback⟩
  by_cases hz : Harmless (trimmed s)
  · have hcanonical := canonicalIp_harmless hn h hgs hz
    by_cases hglobal : Global gs
    · rw [if_pos hglobal] at hcanonical hself
      exact .inl ⟨hglobal, hcanonical, hself⟩
    · rw [if_neg hglobal] at hcanonical
      exact .inr ⟨hglobal, hcanonical⟩
  · obtain ⟨hplain, hnone⟩ := hsafe.resolve_left hz
    have hglobal := hnone gs hgs
    have hcanonical := canonicalIp_harmful hn h hgs hplain hz
    rw [if_neg hglobal] at hcanonical
    exact .inr ⟨hglobal, hcanonical⟩

/-- IPv4 addresses have one form. IPv6 addresses have, as far as texts go whose zones are harmless
or plain, just when every text of a public address among them is harmless. -/
theorem one_form_iff (hn : Reads number) :
    OneForm number .v4 (fun _ => True) ∧
    ∀ P : String → Prop, (∀ s, P s → Harmless (trimmed s) ∨ PlainZone (trimmed s)) →
      (OneForm number .v6 P ↔ ∀ s, P s → Recognised .v6 s → Safe s) := by
  refine ⟨oneForm_of fun s _ h => decides_v4 hn h, fun P hP => ⟨fun hform s hs hr => ?_, ?_⟩⟩
  · by_cases hz : Harmless (trimmed s)
    · exact .inl hz
    · have hplain := (hP s hs).resolve_left hz
      refine .inr ⟨hplain, fun gs hgs hglobal => ?_⟩
      have hharm := canonicalIp_harmful hn hr hgs hplain hz
      rw [if_pos hglobal] at hharm
      obtain ⟨c, hc, hnone⟩ := hharm
      have hdenotes := (hform.canonical s c hs hc).2.1
      rw [hnone, hgs] at hdenotes
      cases hdenotes
  · exact fun hsafe => oneForm_of fun s hs hr => decides_v6 hn hr (hsafe s hs hr)

/-- `Number` on decimal digits. -/
def sampleNumber (text : List Char) : Number :=
  if text.all Char.isDigit then some (decimal text : ℤ) else none

lemma sampleNumber_reads : Reads sampleNumber where
  octet text h := if_pos (isOctet_digits h).2.1
  percent text h := if_neg fun hall => absurd (List.all_eq_true.mp hall '%' h) (by decide)

/-- The texts without a zone. -/
theorem one_form_iff_without_zone :
    OneForm sampleNumber .v6 (fun s => (splitFirst '%' (trimmed s)).2 = none) := by
  have hharmless : ∀ s : String, (splitFirst '%' (trimmed s)).2 = none → Harmless (trimmed s) := by
    intro s hnone zone hzone
    rw [hnone] at hzone
    cases hzone
  exact ((one_form_iff sampleNumber_reads).2 _ fun s hs => .inl (hharmless s hs)).mpr
    fun s hs _ => .inl (hharmless s hs)

/-- The zone `1` after a double colon: the text that is accepted is no address. With the zone
`a:b` another address is accepted. -/
theorem zone_after_double_colon :
    Recognised .v6 "2606::%1" ∧ canonicalIp sampleNumber (.str "2606::%1") .v6 = .ok "2606::NaN" ∧
      ¬ Recognised .v6 "2606::NaN" ∧
      canonicalIp sampleNumber (.str "2606::1%a:b") .v6 = .ok "2606::1:b" ∧
      ¬ OneForm sampleNumber .v6 fun _ => True := by
  have hrecognised : Recognised .v6 "2606::%1" := by decide
  have hno : ¬ Recognised .v6 "2606::NaN" := by decide
  have hcanonical : canonicalIp sampleNumber (.str "2606::%1") .v6 = .ok "2606::NaN" := by decide
  exact ⟨hrecognised, hcanonical, hno, by decide, fun hform =>
    hno (hform.canonical _ _ trivial hcanonical).1⟩

end GatewayControl.PublicIp
