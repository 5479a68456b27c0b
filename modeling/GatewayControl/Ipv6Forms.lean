import GatewayControl.Ipv6Texts

/-!
Which changes of a text keep the address it is a form of, and the forms that are made from the
groups of an address.
-/

namespace GatewayControl.Ipv6Texts

open Text

/-! ### The case of letters -/

/-- A change of characters that no form of an address notices. -/
structure KeepsForms (f : Char → Char) : Prop where
  colon : ∀ c, f c = ':' ↔ c = ':'
  dot : ∀ c, f c = '.' ↔ c = '.'
  digit : ∀ c, c.isDigit = true ∨ (f c).isDigit = true → f c = c
  hex : ∀ c, isHex (f c) = isHex c
  value : ∀ c, isHex c = true → hexDigit (f c) = hexDigit c

lemma splitOn_map {f : Char → Char} {a : Char} (h : ∀ c, f c = a ↔ c = a) (cs : List Char) :
    (cs.map f).splitOn a = (cs.splitOn a).map (List.map f) := by
  induction cs with
  | nil => rfl
  | cons c cs ih =>
    rw [List.map_cons, List.splitOn_cons_eq_if_modifyHead, List.splitOn_cons_eq_if_modifyHead, ih]
    by_cases hc : c = a
    · rw [if_pos (by simpa using (h c).mpr hc), if_pos (by simpa using hc)]
      rfl
    · rw [if_neg (by simpa using mt (h c).mp hc), if_neg (by simpa using hc)]
      cases hparts : cs.splitOn a with
      | nil => rfl
      | cons part parts => rfl

namespace KeepsForms

variable {f : Char → Char} (hf : KeepsForms f)
include hf

lemma isGroup (cs : List Char) : isGroup (cs.map f) = isGroup cs := by
  have hall : (cs.map f).all isHex = cs.all isHex := by
    rw [List.all_map]
    exact congrArg cs.all (funext hf.hex)
  unfold Ipv6Texts.isGroup
  rw [List.length_map, hall]

lemma hexValue {cs : List Char} (h : ∀ c ∈ cs, isHex c = true) :
    hexValue (cs.map f) = hexValue cs := by
  induction cs using List.reverseRecOn with
  | nil => rfl
  | append_singleton cs c ih =>
    rw [List.forall_mem_append] at h
    rw [List.map_append, List.map_singleton, hexValue_concat, hexValue_concat, ih h.1,
      hf.value c (h.2 c List.mem_cons_self)]

lemma digits {cs : List Char} (h : cs.all Char.isDigit = true) : cs.map f = cs :=
  (List.map_congr_left fun c hc => hf.digit c (.inl (List.all_eq_true.mp h c hc))).trans
    (List.map_id cs)

lemma isOctet (cs : List Char) : isOctet (cs.map f) = isOctet cs := by
  by_cases h : cs.all Char.isDigit = true
  · rw [hf.digits h]
  · have hmap : (cs.map f).all Char.isDigit = false := by
      rw [Bool.eq_false_iff]
      intro hall
      refine h (List.all_eq_true.mpr fun c hc => ?_)
      have hdigit := List.all_eq_true.mp hall (f c) (List.mem_map_of_mem hc)
      rwa [hf.digit c (.inr hdigit)] at hdigit
    unfold Ipv6Texts.isOctet
    rw [hmap, Bool.eq_false_iff.mpr h]
    simp

lemma quad (cs : List Char) : quad (cs.map f) = quad cs := by
  have hall : ((cs.splitOn '.').map (List.map f)).all Ipv6Texts.isOctet =
      (cs.splitOn '.').all Ipv6Texts.isOctet := by
    rw [List.all_map]
    exact congrArg _ (funext hf.isOctet)
  unfold Ipv6Texts.quad
  rw [splitOn_map hf.dot, hall, List.length_map]
  split
  · next hoctets =>
    rw [Bool.and_eq_true, List.all_eq_true] at hoctets
    have hsame : (cs.splitOn '.').map (List.map f) = cs.splitOn '.' :=
      (List.map_congr_left fun octet hoctet =>
        hf.digits (isOctet_digits (hoctets.2 octet hoctet)).2.1).trans (List.map_id _)
    rw [hsame]
  · rfl

lemma readParts (parts : List (List Char)) :
    readParts (parts.map (List.map f)) = readParts parts := by
  induction parts with
  | nil => rfl
  | cons part parts ih =>
    rw [List.map_cons, Ipv6Texts.readParts, Ipv6Texts.readParts, hf.isGroup, ih, hf.quad]
    simp only [List.map_eq_nil_iff]
    split
    · next hgroup => rw [hf.hexValue (isHex_of_isGroup hgroup)]
    · rfl

lemma readLeft (cs : List Char) : readLeft (cs.map f) = readLeft cs := by
  have hall : ((cs.splitOn ':').map (List.map f)).all Ipv6Texts.isGroup =
      (cs.splitOn ':').all Ipv6Texts.isGroup := by
    rw [List.all_map]
    exact congrArg _ (funext hf.isGroup)
  unfold Ipv6Texts.readLeft
  rw [splitOn_map hf.colon, hall]
  simp only [List.map_eq_nil_iff]
  split
  · rfl
  · split
    · next hgroups =>
      rw [List.map_map]
      refine congrArg some (List.map_congr_left fun part hpart => ?_)
      exact hf.hexValue (isHex_of_isGroup (List.all_eq_true.mp hgroups part hpart))
    · rfl

lemma readRight (cs : List Char) : readRight (cs.map f) = readRight cs := by
  unfold Ipv6Texts.readRight
  rw [splitOn_map hf.colon, hf.readParts]
  simp only [List.map_eq_nil_iff]

lemma sides (cs : List Char) :
    sides (cs.map f) = ((sides cs).1.map f, (sides cs).2.map (List.map f)) := by
  induction cs with
  | nil => rfl
  | cons c cs ih =>
    have hhead : (cs.map f).head? = some ':' ↔ cs.head? = some ':' := by
      cases cs with
      | nil => simp
      | cons d cs => simpa using hf.colon d
    rw [List.map_cons, Ipv6Texts.sides, Ipv6Texts.sides, ih]
    by_cases hc : c = ':' ∧ cs.head? = some ':'
    · rw [if_pos hc, if_pos ⟨(hf.colon c).mpr hc.1, hhead.mpr hc.2⟩]
      simp
    · rw [if_neg hc, if_neg fun h => hc ⟨(hf.colon c).mp h.1, hhead.mp h.2⟩]
      rfl

lemma address (cs : List Char) : address (cs.map f) = address cs := by
  unfold Ipv6Texts.address
  rw [hf.sides, splitOn_map hf.colon, hf.readParts]
  cases (Ipv6Texts.sides cs).2 with
  | none => rfl
  | some right =>
    simp only [Option.map_some]
    rw [hf.readLeft, hf.readRight]

end KeepsForms

/-! ### Characters -/

lemma isHex_of_isDigit {c : Char} (h : c.isDigit = true) : isHex c = true := by
  obtain ⟨hlow, hhigh⟩ := isDigit_iff.mp h
  exact decide_eq_true (.inl ⟨hlow, hhigh⟩)

/-- The characters of addresses. -/
def Plain (c : Char) : Prop := isHex c = true ∨ c = ':' ∨ c = '.'

lemma mem_splitOn {a : Char} {cs : List Char} {P : Char → Prop} (ha : P a)
    (h : ∀ part ∈ cs.splitOn a, ∀ c ∈ part, P c) : ∀ c ∈ cs, P c := by
  induction cs with
  | nil => simp
  | cons c cs ih =>
    rw [List.splitOn_cons_eq_if_modifyHead] at h
    split at h
    · next hc =>
      obtain rfl : c = a := by simpa using hc
      exact List.forall_mem_cons.mpr ⟨ha, ih (List.forall_mem_cons.mp h).2⟩
    · obtain ⟨part, parts, hparts⟩ := List.exists_cons_of_ne_nil (List.splitOn_ne_nil a cs)
      rw [hparts, List.modifyHead_cons] at h
      obtain ⟨hfirst, hrest⟩ := List.forall_mem_cons.mp h
      obtain ⟨hc, hpart⟩ := List.forall_mem_cons.mp hfirst
      refine List.forall_mem_cons.mpr ⟨hc, ih ?_⟩
      rw [hparts]
      exact List.forall_mem_cons.mpr ⟨hpart, hrest⟩

lemma plain_quad {cs : List Char} {octets : List ℕ} (h : quad cs = some octets) :
    ∀ c ∈ cs, Plain c := by
  obtain ⟨-, hall, -⟩ := quad_eq_some h
  refine mem_splitOn (.inr (.inr rfl)) fun octet hoctet c hc => .inl ?_
  exact isHex_of_isDigit (List.all_eq_true.mp (isOctet_digits (hall octet hoctet)).2.1 c hc)

lemma plain_readParts {parts : List (List Char)} {gs : List ℕ} (h : readParts parts = some gs) :
    ∀ part ∈ parts, ∀ c ∈ part, Plain c := by
  induction parts generalizing gs with
  | nil => simp
  | cons part parts ih =>
    unfold readParts at h
    split at h
    · next hgroup =>
      obtain ⟨rest, hrest, -⟩ := Option.map_eq_some_iff.mp h
      exact List.forall_mem_cons.mpr ⟨fun c hc => .inl (isHex_of_isGroup hgroup c hc), ih hrest⟩
    · split at h
      · next hlast =>
        obtain ⟨octets, hquad, -⟩ := Option.map_eq_some_iff.mp h
        rw [hlast]
        simpa using plain_quad hquad
      · cases h

/-- An address has only hexadecimal digits, colons and dots. -/
lemma plain_address {cs : List Char} {gs : List ℕ} (h : address cs = some gs) :
    ∀ c ∈ cs, Plain c := by
  have hparts : ∀ {cs : List Char} {gs : List ℕ}, readParts (cs.splitOn ':') = some gs →
      ∀ c ∈ cs, Plain c := fun hread => mem_splitOn (.inr (.inl rfl)) (plain_readParts hread)
  rcases address_eq_some h with ⟨-, hread, -⟩ | ⟨right, ls, rs, hsides, hl, hr, -, -⟩
  · exact hparts hread
  · have hleft : ∀ c ∈ (sides cs).1, Plain c := by
      rcases readLeft_eq_some hl with ⟨hnil, -⟩ | ⟨-, hall, -⟩
      · simp [hnil]
      · exact mem_splitOn (.inr (.inl rfl)) fun part hpart c hc =>
          .inl (isHex_of_isGroup (hall part hpart) c hc)
    have hright : ∀ c ∈ right, Plain c := by
      unfold readRight at hr
      split at hr
      · next hnil => simp [hnil]
      · exact hparts hr
    rw [sides_eq_of_some hsides]
    simp only [List.forall_mem_append, List.forall_mem_cons]
    exact ⟨hleft, .inr (.inl rfl), .inr (.inl rfl), hright⟩

/-! ### Forms made from groups -/

lemma hexText_part {g : ℕ} : hexText g ≠ [] ∧ ':' ∉ hexText g := by
  refine ⟨Nat.toDigits_ne_nil, fun hmem => ?_⟩
  exact (isHex_ne (List.all_eq_true.mp (hexText_digits g).1 ':' hmem)).1 rfl

/-- Groups joined by colons. -/
def joined (gs : List ℕ) : List Char := [':'].intercalate (gs.map hexText)

lemma splitOn_joined {gs : List ℕ} (h : gs ≠ []) : (joined gs).splitOn ':' = gs.map hexText := by
  refine List.splitOn_intercalate ':' (fun part hpart => ?_) (by simpa using h)
  obtain ⟨g, -, rfl⟩ := List.mem_map.mp hpart
  exact hexText_part.2

lemma sides_joined_groups {gs : List ℕ} (h : gs ≠ []) :
    (sides (joined gs)).2 = none ∧ (joined gs).getLast? ≠ some ':' ∧
      (joined gs).head? ≠ some ':' := by
  refine sides_joined (by simpa using h) fun part hpart => ?_
  obtain ⟨g, -, rfl⟩ := List.mem_map.mp hpart
  exact hexText_part

lemma joined_ne_nil {gs : List ℕ} (h : gs ≠ []) : joined gs ≠ [] := by
  intro hnil
  have hparts := splitOn_joined h
  rw [hnil, List.splitOn_nil] at hparts
  cases gs with
  | nil => exact h rfl
  | cons g gs => exact hexText_part.1 (List.cons.inj hparts).1.symm

lemma readParts_hexText {gs : List ℕ} (h : ∀ g ∈ gs, g < 65536) :
    readParts (gs.map hexText) = some gs := by
  induction gs with
  | nil => rfl
  | cons g gs ih =>
    obtain ⟨hg, hgs⟩ := List.forall_mem_cons.mp h
    rw [List.map_cons, readParts, if_pos (isGroup_hexText hg), ih hgs]
    exact congrArg (fun n => some (n :: gs)) (hexText_digits g).2

lemma readLeft_joined {gs : List ℕ} (h : ∀ g ∈ gs, g < 65536) : readLeft (joined gs) = some gs := by
  cases gs with
  | nil => rfl
  | cons g gs =>
    have hall : ((g :: gs).map hexText).all isGroup = true := by
      rw [List.all_map, List.all_eq_true]
      exact fun n hn => isGroup_hexText (h n hn)
    have hvalues : ((g :: gs).map hexText).map hexValue = g :: gs := by
      rw [List.map_map]
      exact (List.map_congr_left fun n _ => (hexText_digits n).2).trans (List.map_id _)
    rw [readLeft, if_neg (joined_ne_nil (List.cons_ne_nil _ _)),
      splitOn_joined (List.cons_ne_nil _ _), if_pos hall, hvalues]

lemma readRight_joined {gs : List ℕ} (h : ∀ g ∈ gs, g < 65536) :
    readRight (joined gs) = some gs := by
  cases gs with
  | nil => rfl
  | cons g gs =>
    rw [readRight, if_neg (joined_ne_nil (List.cons_ne_nil _ _)),
      splitOn_joined (List.cons_ne_nil _ _), readParts_hexText h]

lemma address_joined {gs : List ℕ} (hlength : gs.length = 8) (h : ∀ g ∈ gs, g < 65536) :
    address (joined gs) = some gs := by
  have hne : gs ≠ [] := by
    rintro rfl
    cases hlength
  unfold address
  rw [(sides_joined_groups hne).1, splitOn_joined hne, readParts_hexText h]
  simp [Option.filter, hlength]

/-- At least one group is left out for the double colon. -/
lemma address_short {ls rs : List ℕ} (hlength : ls.length + rs.length ≤ 7)
    (hl : ∀ g ∈ ls, g < 65536) (hr : ∀ g ∈ rs, g < 65536) :
    address (joined ls ++ ':' :: ':' :: joined rs) =
      some (ls ++ List.replicate (8 - ls.length - rs.length) 0 ++ rs) := by
  have hsides : sides (joined ls ++ ':' :: ':' :: joined rs) = (joined ls, some (joined rs)) := by
    cases ls with
    | nil => rfl
    | cons g ls =>
      obtain ⟨hnone, hlast, -⟩ := sides_joined_groups (List.cons_ne_nil g ls)
      rw [sides_append_of_none hnone (.inl hlast)]
      simp [sides]
  unfold address
  rw [hsides]
  simp only [readLeft_joined hl, readRight_joined hr]
  rw [if_pos hlength]

end GatewayControl.Ipv6Texts
