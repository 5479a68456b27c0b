import GatewayControl.RuntimeAction

/-!
Which containers a runtime action reaches.

The listing is read as far as the output limit. Where that falls into an identifier the rest of
it is refused; where it falls between two, what is read is a shorter listing, and the action
succeeds on a part of the project. `matched_exactly_iff` says that this is all that goes wrong.
-/

namespace GatewayControl.RuntimeTargets

open Text LimitedOutput RuntimeAction

/-! ### A limited listing -/

/-- What is read of characters. -/
def readText (limit : ℕ) (text : List Char) : List Char :=
  (fitting limit text).1 ++ (fitting limit text).2.map fun _ => '\uFFFD'

lemma toList_received (limit : ℕ) (text : String) :
    (received limit text).toList = readText limit text.toList :=
  String.toList_ofList

/-- Characters of one byte are read one by one. -/
lemma readText_append (limit : ℕ) {front : List Char} (rest : List Char)
    (h : ∀ c ∈ front, (String.utf8EncodeChar c).length = 1) :
    readText limit (front ++ rest) =
      front.take limit ++ readText (limit - front.length) rest := by
  induction front generalizing limit with
  | nil => simp
  | cons c front ih =>
    have hc := h c List.mem_cons_self
    have hrest := fun c' hc' => h c' (List.mem_cons_of_mem _ hc')
    rw [List.cons_append]
    cases limit with
    | zero =>
      unfold readText
      rw [fitting, hc, Nat.zero_sub, if_neg (by omega)]
      simp [fitting_zero]
    | succ limit =>
      have hcons : readText (limit + 1) (c :: (front ++ rest)) =
          c :: readText limit (front ++ rest) := by
        unfold readText
        rw [fitting, hc, if_pos (by omega)]
        rfl
      rw [hcons, ih limit hrest, List.take_succ_cons, List.length_cons, Nat.add_sub_add_right,
        List.cons_append]

lemma received_ascii {limit : ℕ} {text : List Char}
    (h : ∀ c ∈ text, (String.utf8EncodeChar c).length = 1) :
    (received limit (String.ofList text)).toList = text.take limit := by
  have hnil : ∀ n, readText n [] = [] := fun n => rfl
  have hread := readText_append limit [] h
  rw [hnil, List.append_nil, List.append_nil] at hread
  rw [toList_received, String.toList_ofList, hread]

lemma size_ascii {text : List Char} (h : ∀ c ∈ text, (String.utf8EncodeChar c).length = 1) :
    size (String.ofList text) = text.length := by
  unfold size encode
  rw [String.toList_ofList, List.length_flatMap]
  calc (text.map fun c => (String.utf8EncodeChar c).length).sum = (text.map fun _ => 1).sum :=
        congrArg List.sum (List.map_congr_left h)
    _ = text.length := by simp

/-- No more characters are read than the limit has bytes. -/
lemma length_received_le (limit : ℕ) (text : String) :
    (received limit text).toList.length ≤ limit := by
  have hbytes := congrArg List.length (take_encode limit text.toList)
  have hchars : ∀ cs : List Char, cs.length ≤ (encode cs).length := by
    intro cs
    induction cs with
    | nil => exact Nat.zero_le _
    | cons c cs ih =>
      have hcons : encode (c :: cs) = String.utf8EncodeChar c ++ encode cs := rfl
      have hpos := String.length_utf8EncodeChar c
      have hsize := c.utf8Size_pos
      rw [hcons, List.length_append, List.length_cons]
      omega
  have hkept := hchars (fitting limit text.toList).1
  rw [List.length_take, List.length_append] at hbytes
  unfold received
  rw [String.toList_ofList, List.length_append, List.length_map]
  omega

lemma lowerHex_range {c : Char} (h : isLowerHex c = true) :
    48 ≤ c.toNat ∧ c.toNat ≤ 57 ∨ 97 ≤ c.toNat ∧ c.toNat ≤ 102 := by
  simp only [isLowerHex, Bool.or_eq_true, Bool.and_eq_true, decide_eq_true_eq] at h
  exact h

lemma lowerHex_plain {c : Char} (h : isLowerHex c = true) :
    isSpace c = false ∧ (String.utf8EncodeChar c).length = 1 := by
  have hrange := lowerHex_range h
  constructor
  · unfold isSpace
    dsimp only
    rw [decide_eq_false_iff_not]
    omega
  · rw [String.length_utf8EncodeChar, Char.utf8Size_eq_one_iff]
    change c.toNat ≤ 127
    omega

/-- What is read of a listing. -/
def readIDs : ℕ → List ContainerID → List (List Char)
  | _, [] => []
  | limit, id :: ids =>
      if limit = 0 then []
      else if limit ≤ 64 then [id.digits.take limit]
      else id.digits :: readIDs (limit - 65) ids

lemma fields_word {w : List Char} (hne : w ≠ []) (h : ∀ c ∈ w, isSpace c = false) :
    fields w = [w] := by
  unfold fields
  rw [List.splitOnP_eq_singleton h, List.filter_singleton]
  simp [hne]

lemma fields_listing (limit : ℕ) (ids : List ContainerID) :
    fields ((LimitedOutput.listing (ids.map ContainerID.digits)).take limit) =
      readIDs limit ids := by
  induction ids generalizing limit with
  | nil => rw [List.map_nil, readIDs]; simp [LimitedOutput.listing, fields]
  | cons id ids ih =>
    have hspace : ∀ c ∈ id.digits, isSpace c = false := fun c hc =>
      (lowerHex_plain (List.all_eq_true.mp id.hex c hc)).1
    have hcons : LimitedOutput.listing ((id :: ids).map ContainerID.digits) =
        id.digits ++ '\n' :: LimitedOutput.listing (ids.map ContainerID.digits) := by
      simp [LimitedOutput.listing]
    rw [hcons, readIDs, List.take_append, id.length_digits]
    by_cases hzero : limit = 0
    · subst hzero
      rfl
    rw [if_neg hzero]
    by_cases hpart : limit ≤ 64
    · rw [if_pos hpart, show limit - 64 = 0 by omega, List.take_zero, List.append_nil]
      apply fields_word
      · intro hnil
        have hlen := congrArg List.length hnil
        rw [List.length_take, id.length_digits, List.length_nil] at hlen
        omega
      · exact fun c hc => hspace c (List.mem_of_mem_take hc)
    · rw [if_neg hpart, List.take_of_length_le (by rw [id.length_digits]; omega),
        show limit - 64 = limit - 65 + 1 by omega, List.take_succ_cons,
        fields_append (by decide), ih, fields_word ?_ hspace]
      · rfl
      · intro hnil
        have hlen := id.length_digits
        rw [hnil] at hlen
        cases hlen

/-- The limit falls just before or just after the end of a line. -/
def AtLine (limit k : ℕ) : Prop := limit = 65 * k ∨ limit + 1 = 65 * k

lemma readIDs_whole {limit : ℕ} {ids : List ContainerID} (h : 65 * ids.length ≤ limit) :
    readIDs limit ids = ids.map ContainerID.digits := by
  induction ids generalizing limit with
  | nil => rfl
  | cons id ids ih =>
    rw [List.length_cons] at h
    rw [readIDs, if_neg (by omega), if_neg (by omega), ih (by omega), List.map_cons]

lemma readIDs_cut {limit : ℕ} {ids : List ContainerID} (h : limit < 65 * ids.length) :
    (∃ k ≤ ids.length, AtLine limit k ∧
        readIDs limit ids = (ids.take k).map ContainerID.digits) ∨
      ∃ w ∈ readIDs limit ids, w.length < 64 := by
  induction ids generalizing limit with
  | nil => simp at h
  | cons id ids ih =>
    rw [List.length_cons] at h
    rw [readIDs]
    by_cases hzero : limit = 0
    · exact .inl ⟨0, Nat.zero_le _, .inl hzero, if_pos hzero⟩
    rw [if_neg hzero]
    by_cases hpart : limit ≤ 64
    · rw [if_pos hpart]
      rcases Nat.lt_or_ge limit 64 with hless | hfull
      · refine .inr ⟨_, List.mem_cons_self, ?_⟩
        rw [List.length_take]
        omega
      · refine .inl ⟨1, by simp, .inr (by omega), ?_⟩
        rw [List.take_of_length_le (by rw [id.length_digits]; exact hfull)]
        simp
    · rw [if_neg hpart]
      rcases ih (by omega : limit - 65 < 65 * ids.length) with ⟨k, hk, hline, hread⟩ | ⟨w, hw, hlen⟩
      · refine .inl ⟨k + 1, by simpa using hk, ?_, by rw [hread]; rfl⟩
        unfold AtLine at hline ⊢
        omega
      · exact .inr ⟨w, List.mem_cons_of_mem _ hw, hlen⟩

lemma readIDs_atLine {limit k : ℕ} {ids : List ContainerID} (hk : k ≤ ids.length)
    (h : AtLine limit k) : readIDs limit ids = (ids.take k).map ContainerID.digits := by
  induction ids generalizing limit k with
  | nil => simp [readIDs]
  | cons id ids ih =>
    unfold AtLine at h
    rw [readIDs]
    cases k with
    | zero => rw [if_pos (by omega)]; rfl
    | succ k =>
      rw [List.length_cons] at hk
      rw [if_neg (by omega)]
      by_cases hpart : limit ≤ 64
      · obtain rfl : k = 0 := by omega
        rw [if_pos hpart, List.take_of_length_le (by rw [id.length_digits]; omega)]
        simp
      · rw [if_neg hpart, ih (by omega : k ≤ ids.length) (by unfold AtLine; omega)]
        rfl

/-! ### Containers that are read again -/

variable {s : Settings} {d : Docker} {p : Payload}

/-- The labels that the inspection of a container prints are those asked for. -/
structure Confirmed (s : Settings) (d : Docker) (p : Payload) (id : String) : Prop where
  valid : validContainerID id = true
  answered : (d.inspect id).failed = false
  labels : ∃ name service, inspectedFields s d id = [id, name, p.projectName, service] ∧
    composeServicePattern service = true ∧ (p.serviceName = "" ∨ service = p.serviceName)

lemma revalidate_sound {seen ids : List String} {cs : List RuntimeContainer}
    (h : revalidate s d p seen ids = .ok cs) :
    (cs.map (·.id)).Nodup ∧ (∀ id ∈ cs.map (·.id), id ∈ ids ∧ id ∉ seen ∧ Confirmed s d p id) ∧
      ∀ id ∈ ids, id ∈ seen ∨ id ∈ cs.map (·.id) := by
  induction ids generalizing seen cs with
  | nil =>
    obtain rfl := Except.ok.inj h
    simp
  | cons id ids ih =>
    rw [revalidate] at h
    by_cases hseen : id ∈ seen
    · rw [if_pos hseen] at h
      obtain ⟨hnodup, hconfirmed, hall⟩ := ih h
      refine ⟨hnodup, fun id' hid' => ?_, fun id' hid' => ?_⟩
      · obtain ⟨hmem, hrest⟩ := hconfirmed id' hid'
        exact ⟨List.mem_cons_of_mem _ hmem, hrest⟩
      · rcases List.mem_cons.mp hid' with rfl | hid'
        · exact .inl hseen
        · exact hall id' hid'
    rw [if_neg hseen] at h
    split at h
    · cases h
    · next hvalid =>
      split at h
      · cases h
      · next hanswered =>
        split at h
        · next id' name project service hfields =>
          split at h
          · cases h
          · next hlabels =>
            simp only [not_or, not_not, not_and, Bool.not_eq_true, Bool.not_eq_false'] at *
            obtain ⟨rfl, rfl, hservice, hname⟩ := hlabels
            cases hrest : revalidate s d p (id' :: seen) ids with
            | error err =>
              rw [hrest] at h
              cases h
            | ok rest =>
              rw [hrest] at h
              obtain rfl := Except.ok.inj h
              obtain ⟨hnodup, hconfirmed, hall⟩ := ih hrest
              have hself : Confirmed s d p id' := by
                refine ⟨hvalid, hanswered, name, service, hfields, hservice, ?_⟩
                by_cases hempty : p.serviceName = ""
                · exact .inl hempty
                · exact .inr (hname hempty)
              refine ⟨?_, fun id hid => ?_, fun id hid => ?_⟩
              · rw [List.map_cons, List.nodup_cons]
                exact ⟨fun hmem => (hconfirmed _ hmem).2.1 List.mem_cons_self, hnodup⟩
              · rcases List.mem_cons.mp hid with rfl | hid
                · exact ⟨List.mem_cons_self, hseen, hself⟩
                · obtain ⟨hmem, hnew, hconf⟩ := hconfirmed id hid
                  exact ⟨List.mem_cons_of_mem _ hmem,
                    fun hs => hnew (List.mem_cons_of_mem _ hs), hconf⟩
              · rcases List.mem_cons.mp hid with rfl | hid
                · exact .inr List.mem_cons_self
                · rcases hall id hid with hs | hs
                  · rcases List.mem_cons.mp hs with rfl | hs
                    · exact .inr List.mem_cons_self
                    · exact .inl hs
                  · exact .inr (List.mem_cons_of_mem _ hs)
        · cases h

lemma revalidate_complete (seen : List String) {ids : List String}
    (h : ∀ id ∈ ids, Confirmed s d p id) :
    ∃ cs, revalidate s d p seen ids = .ok cs := by
  induction ids generalizing seen with
  | nil => exact ⟨[], rfl⟩
  | cons id ids ih =>
    have hrest : ∀ id' ∈ ids, Confirmed s d p id' := fun id' hid' =>
      h id' (List.mem_cons_of_mem _ hid')
    rw [revalidate]
    by_cases hseen : id ∈ seen
    · rw [if_pos hseen]
      exact ih seen hrest
    obtain ⟨hvalid, hanswered, name, service, hfields, hservice, hname⟩ := h id List.mem_cons_self
    obtain ⟨cs, hcs⟩ := ih (id :: seen) hrest
    rw [if_neg hseen, hvalid, hanswered, hfields]
    simp only [Bool.not_true, Bool.false_eq_true, if_false, hservice, hcs]
    rw [if_neg]
    · exact ⟨_, rfl⟩
    · rintro (h | h | h | ⟨hne, hdiff⟩)
      · exact h rfl
      · exact h rfl
      · exact h
      · exact hdiff (hname.resolve_left hne)

/-! ### What an inspection prints -/

lemma trimBoth_sublist_head {cs : List Char} (h : ∀ c ∈ cs.head?, isSpace c = false) :
    trimBoth isSpace cs <+: cs := by
  have hleft : cs.dropWhile isSpace = cs := by
    cases cs with
    | nil => rfl
    | cons c cs => rw [List.dropWhile_cons_of_neg (by simp [h c rfl])]
  unfold trimBoth
  rw [hleft, ← List.reverse_suffix, List.reverse_reverse]
  exact List.dropWhile_suffix _

/-- The first of several parts is the identifier that is printed. -/
lemma first_part {text digits rest first second : List Char} {more : List (List Char)}
    (hdigits : '\t' ∉ digits) (h : text <+: digits ++ '\t' :: rest)
    (hsplit : text.splitOn '\t' = first :: second :: more) : first = digits := by
  have hplain : ∀ c ∈ digits, (c == '\t') = false := fun c hc =>
    beq_false_of_ne fun heq => hdigits (heq ▸ hc)
  rcases Nat.lt_or_ge digits.length text.length with hlong | hshort
  · obtain ⟨tail, rfl⟩ := List.prefix_of_prefix_length_le (List.prefix_append digits _) h hlong.le
    obtain ⟨c, tail, rfl⟩ : ∃ c cs, tail = c :: cs := by
      cases tail with
      | nil => simp at hlong
      | cons c cs => exact ⟨c, cs, rfl⟩
    obtain rfl : c = '\t' := by
      have hcons := (List.prefix_append_right_inj digits).mp h
      exact (List.cons_prefix_cons.mp hcons).1
    rw [List.splitOn_eq_splitOnP, List.splitOnP_append_cons_of_forall_mem hplain _ (by simp)]
      at hsplit
    exact (List.cons.inj hsplit).1.symm
  · exfalso
    have hwhole := List.prefix_of_prefix_length_le h (List.prefix_append digits _) hshort
    rw [List.splitOn_eq_splitOnP, List.splitOnP_eq_singleton fun c hc =>
      hplain c (hwhole.subset hc)] at hsplit
    cases hsplit

lemma tab_notMem (id : ContainerID) : '\t' ∉ id.digits := by
  intro hmem
  exact absurd (List.all_eq_true.mp id.hex _ hmem) (by decide)

/-- What is read of an inspection is part of a text that a whole identifier begins. -/
lemma readText_inspected (limit : ℕ) (id : ContainerID) (rest : List Char) :
    ∃ x, readText limit (id.digits ++ '\t' :: rest) <+: id.digits ++ '\t' :: x := by
  have hascii : ∀ c ∈ id.digits, (String.utf8EncodeChar c).length = 1 := fun c hc =>
    (lowerHex_plain (List.all_eq_true.mp id.hex c hc)).2
  rw [readText_append limit _ hascii, id.length_digits]
  rcases Nat.lt_or_ge 64 limit with hlong | hshort
  · have hone : ∀ c ∈ ['\t'], (String.utf8EncodeChar c).length = 1 := by
      intro c hc
      rw [List.mem_singleton.mp hc]
      decide
    have htab := readText_append (limit - 64) rest hone
    rw [List.singleton_append, List.take_of_length_le (by simp; omega)] at htab
    rw [htab, List.take_of_length_le (by rw [id.length_digits]; omega)]
    exact ⟨_, List.prefix_refl _⟩
  · refine ⟨[], ?_⟩
    have hnone : readText (limit - 64) ('\t' :: rest) = [] := by
      rw [show limit - 64 = 0 by omega]
      unfold readText
      rw [fitting_zero]
      rfl
    rw [hnone, List.append_nil]
    exact (List.take_prefix _ _).trans (List.prefix_append _ _)

/-- What is read of an inspection, without the space at its end. -/
lemma trimmed_inspected {id : String} {c : ContainerID} {rest : List Char}
    (h : (d.inspect id).stdout.toList = c.digits ++ '\t' :: rest) :
    ∃ x, trimBoth isSpace (received s.maxOutput (d.inspect id).stdout).toList <+:
      c.digits ++ '\t' :: x := by
  obtain ⟨x, hx⟩ := readText_inspected s.maxOutput c rest
  rw [toList_received, h]
  refine ⟨x, (trimBoth_sublist_head fun first hfirst => ?_).trans hx⟩
  obtain ⟨tail, htail⟩ : ∃ tail, readText s.maxOutput (c.digits ++ '\t' :: rest) =
      first :: tail := by
    cases hread : readText s.maxOutput (c.digits ++ '\t' :: rest) with
    | nil => simp [hread] at hfirst
    | cons first' tail =>
      rw [hread] at hfirst
      exact ⟨tail, by rw [Option.mem_some.mp hfirst]⟩
  have hmem : first ∈ c.digits := by
    rw [htail] at hx
    cases hdigits : c.digits with
    | nil =>
      have hlen := c.length_digits
      rw [hdigits] at hlen
      cases hlen
    | cons digit digits =>
      rw [hdigits, List.cons_append] at hx
      rw [(List.cons_prefix_cons.mp hx).1]
      exact List.mem_cons_self
  exact (lowerHex_plain (List.all_eq_true.mp c.hex first hmem)).1

lemma parts_of_confirmed {id name service : String}
    (h : inspectedFields s d id = [id, name, p.projectName, service]) :
    (trimBoth isSpace (received s.maxOutput (d.inspect id).stdout).toList).splitOn '\t' =
      [id.toList, name.toList, p.projectName.toList, service.toList] := by
  have hparts := congrArg (List.map String.toList) h
  simpa [inspectedFields, Function.comp_def] using hparts

/-- Docker has printed a whole identifier, so that no part of one is confirmed. -/
lemma Confirmed.length {id : String} (h : Confirmed s d p id) : id.toList.length = 64 := by
  obtain ⟨name, service, hfields, -⟩ := h.labels
  obtain ⟨c, rest, hstdout⟩ := d.inspected id h.answered
  obtain ⟨x, hx⟩ := trimmed_inspected (s := s) hstdout
  rw [first_part (tab_notMem c) hx (parts_of_confirmed hfields), c.length_digits]

/-- The output limit leaves room for the labels of a container. -/
def Room (s : Settings) (p : Payload) : Prop :=
  67 + p.projectName.toList.length + max 1 p.serviceName.toList.length ≤ s.maxOutput

lemma length_trimBoth_le (cs : List Char) : (trimBoth isSpace cs).length ≤ cs.length := by
  have hleft := (List.dropWhile_suffix isSpace (l := cs)).length_le
  have hright := (List.dropWhile_suffix isSpace (l := (cs.dropWhile isSpace).reverse)).length_le
  unfold trimBoth
  rw [List.length_reverse]
  rw [List.length_reverse] at hright
  omega

lemma Confirmed.room {id : String} (h : Confirmed s d p id) : Room s p := by
  have hid := h.length
  obtain ⟨name, service, hfields, hservice, hname⟩ := h.labels
  have hparts := parts_of_confirmed hfields
  have hjoin : ['\t'].intercalate [id.toList, name.toList, p.projectName.toList, service.toList] =
      trimBoth isSpace (received s.maxOutput (d.inspect id).stdout).toList := by
    rw [← hparts]
    exact List.intercalate_splitOn '\t'
  have hlen := congrArg List.length hjoin
  have htrim := length_trimBoth_le (received s.maxOutput (d.inspect id).stdout).toList
  have hread := length_received_le s.maxOutput (d.inspect id).stdout
  simp only [List.intercalate_cons_cons, List.intercalate_singleton, List.length_append,
    List.length_singleton, hid] at hlen
  have hone : 1 ≤ service.toList.length := by
    unfold composeServicePattern identifierPattern at hservice
    split at hservice
    · cases hservice
    · next c cs hcs =>
      rw [hcs, List.length_cons]
      omega
  have hsame : p.serviceName.toList.length ≤ service.toList.length := by
    rcases hname with hname | rfl
    · rw [hname]
      exact Nat.zero_le _
    · exact le_refl _
  unfold Room
  omega

/-! ### Which containers are reached -/

structure Exact (s : Settings) (d : Docker) (raw : Except String Payload) : Prop where
  /-- Only containers that were confirmed, of a project that is not protected. -/
  issued : ∀ action ids, (executeRuntimeAction s d raw).issued = some (action, ids) →
    ∃ p, raw = .ok p ∧ p.projectName ∉ s.protectedProjects ∧ action = p.action ∧
      ∀ id ∈ ids, Confirmed s d p id
  /-- All containers that had the labels. -/
  reached : (executeRuntimeAction s d raw).result.success = true →
    ∃ p ids, raw = .ok p ∧ (executeRuntimeAction s d raw).issued = some (p.action, ids) ∧
      (∀ c ∈ d.host.matching p, c.id.text ∈ ids) ∧
      (executeRuntimeAction s d raw).result.matched = (d.host.matching p).length
  /-- Only after a listing that was read as a whole. -/
  whole : (executeRuntimeAction s d raw).result.success = true →
    ∀ p, raw = .ok p → ¬ Truncated s.maxOutput (d.listing p)

def Accepted (s : Settings) (p : Payload) : Prop :=
  validFields p = true ∧ p.projectName ∉ s.protectedProjects

/-- The listing of so many containers is cut at a line, before more than can be acted on. -/
def CutAtLine (limit n : ℕ) : Prop :=
  limit < 65 * n ∧ ∃ k, 1 ≤ k ∧ k ≤ maximumRuntimeContainers ∧ AtLine limit k

/-- A command is refused, or it acts on what it discovers. -/
lemma execute_cases (s : Settings) (d : Docker) (raw : Except String Payload) :
    ((executeRuntimeAction s d raw).issued = none ∧
      (executeRuntimeAction s d raw).result.success = false) ∨
    ∃ p cs, raw = .ok p ∧ Accepted s p ∧ discoverRuntimeContainers s d p = .ok cs ∧ cs ≠ [] ∧
      (executeRuntimeAction s d raw).issued = some (p.action, cs.map (·.id)) ∧
      ((executeRuntimeAction s d raw).result.success = true →
        (executeRuntimeAction s d raw).result.matched = cs.length) := by
  cases raw with
  | error err => exact .inl ⟨rfl, rfl⟩
  | ok p =>
    unfold executeRuntimeAction
    dsimp only
    by_cases hvalid : validFields p = true
    · rw [if_neg (by simp [hvalid])]
      by_cases hprotected : p.projectName ∈ s.protectedProjects
      · rw [if_pos hprotected]
        exact .inl ⟨rfl, rfl⟩
      rw [if_neg hprotected]
      split
      · exact .inl ⟨rfl, rfl⟩
      · exact .inl ⟨rfl, rfl⟩
      · next cs hne hcs =>
        refine .inr ⟨p, cs, rfl, ⟨hvalid, hprotected⟩, hcs, hne, ?_⟩
        split_ifs
        · exact ⟨rfl, fun hok => by cases hok⟩
        · exact ⟨rfl, fun hok => by cases hok⟩
        · exact ⟨rfl, fun _ => rfl⟩
    · rw [if_pos (by simp [hvalid])]
      exact .inl ⟨rfl, rfl⟩

lemma ascii_listing (containers : List Container) :
    ∀ c ∈ LimitedOutput.listing (containers.map fun c => c.id.digits),
      (String.utf8EncodeChar c).length = 1 := by
  intro c hc
  obtain ⟨line, hline, hc⟩ := List.mem_flatMap.mp hc
  obtain ⟨container, -, rfl⟩ := List.mem_map.mp hline
  rcases List.mem_append.mp hc with hc | hc
  · exact (lowerHex_plain (List.all_eq_true.mp container.id.hex c hc)).2
  · rw [List.mem_singleton.mp hc]
    decide

lemma fields_received (d : Docker) (p : Payload) (limit : ℕ) :
    fields (received limit (d.listing p)).toList =
      readIDs limit ((d.host.matching p).map (·.id)) := by
  unfold Docker.listing
  rw [received_ascii (ascii_listing _), ← fields_listing, List.map_map]
  rfl

lemma length_listing (ids : List ContainerID) :
    (LimitedOutput.listing (ids.map ContainerID.digits)).length = 65 * ids.length := by
  induction ids with
  | nil => rfl
  | cons id ids ih =>
    have hcons : LimitedOutput.listing ((id :: ids).map ContainerID.digits) =
        id.digits ++ '\n' :: LimitedOutput.listing (ids.map ContainerID.digits) := by
      simp [LimitedOutput.listing]
    rw [hcons, List.length_append, id.length_digits, List.length_cons, ih, List.length_cons]
    omega

lemma truncated_iff (d : Docker) (p : Payload) (limit : ℕ) :
    Truncated limit (d.listing p) ↔ limit < 65 * (d.host.matching p).length := by
  have hlen := length_listing ((d.host.matching p).map (·.id))
  rw [List.map_map, List.length_map] at hlen
  unfold Truncated Docker.listing
  rw [size_ascii (ascii_listing _)]
  change limit < (LimitedOutput.listing ((d.host.matching p).map
    (ContainerID.digits ∘ fun c => c.id))).length ↔ _
  rw [hlen]

/-- What is discovered are confirmed containers, one to each part of the listing that is read. -/
lemma discover_sound {cs : List RuntimeContainer}
    (h : discoverRuntimeContainers s d p = .ok cs) :
    (cs.map (·.id)).Nodup ∧ (∀ id ∈ cs.map (·.id), Confirmed s d p id) ∧
      (∀ id, id ∈ cs.map (·.id) ↔
        id ∈ (readIDs s.maxOutput ((d.host.matching p).map (·.id))).map String.ofList) ∧
      (readIDs s.maxOutput ((d.host.matching p).map (·.id))).length ≤
        maximumRuntimeContainers := by
  unfold discoverRuntimeContainers at h
  split at h
  · cases h
  dsimp only at h
  rw [fields_received] at h
  split at h
  · cases h
  · next hfew =>
    obtain ⟨hnodup, hconfirmed, hall⟩ := revalidate_sound h
    rw [List.length_map, not_lt] at hfew
    refine ⟨hnodup, fun id hid => (hconfirmed id hid).2.2, fun id => ⟨fun hid => ?_, fun hid => ?_⟩,
      hfew⟩
    · exact (List.mem_insertionSort _).mp (hconfirmed id hid).1
    · exact (hall id ((List.mem_insertionSort _).mpr hid)).resolve_left List.not_mem_nil

lemma discover_complete (hlisted : d.listFailure = none)
    (hfew : (readIDs s.maxOutput ((d.host.matching p).map (·.id))).length ≤
      maximumRuntimeContainers)
    (h : ∀ w ∈ readIDs s.maxOutput ((d.host.matching p).map (·.id)),
      Confirmed s d p (String.ofList w)) :
    ∃ cs, discoverRuntimeContainers s d p = .ok cs := by
  have hsorted : ∀ id ∈ ((readIDs s.maxOutput ((d.host.matching p).map (·.id))).map
      String.ofList).insertionSort (· ≤ ·), Confirmed s d p id := by
    intro id hid
    obtain ⟨w, hw, rfl⟩ := List.mem_map.mp ((List.mem_insertionSort _).mp hid)
    exact h w hw
  obtain ⟨cs, hcs⟩ := revalidate_complete [] hsorted
  refine ⟨cs, ?_⟩
  unfold discoverRuntimeContainers
  rw [hlisted]
  dsimp only
  rw [fields_received, if_neg (by rw [List.length_map]; omega)]
  exact hcs

lemma nodup_texts (h : Host) (p : Payload) : ((h.matching p).map fun c => c.id.text).Nodup := by
  have hdigits : ((h.matching p).map fun c => c.id.digits).Nodup :=
    h.distinct.sublist (List.filter_sublist.map _)
  have htexts := hdigits.map (f := String.ofList) fun _ _ => String.ofList_injective
  rwa [List.map_map] at htexts

/-- Where a listing is cut and its parts are confirmed, it is cut at a line. -/
lemma cutAtLine_of_discover {cs : List RuntimeContainer}
    (h : discoverRuntimeContainers s d p = .ok cs) (hne : cs ≠ [])
    (hcut : s.maxOutput < 65 * (d.host.matching p).length) :
    CutAtLine s.maxOutput (d.host.matching p).length ∧ Room s p := by
  obtain ⟨-, hconfirmed, hread, hfew⟩ := discover_sound h
  obtain ⟨c, hc⟩ := List.exists_mem_of_ne_nil _ hne
  have hid : c.id ∈ cs.map (·.id) := List.mem_map_of_mem hc
  have hroom := (hconfirmed _ hid).room
  rw [← List.length_map (f := fun c : Container => c.id)] at hcut
  rcases readIDs_cut hcut with ⟨k, hk, hline, hkept⟩ | ⟨w, hw, hshort⟩
  · rw [List.length_map] at hcut
    have hlen : (readIDs s.maxOutput ((d.host.matching p).map (·.id))).length = k := by
      rw [hkept, List.length_map, List.length_take, Nat.min_eq_left hk]
    refine ⟨⟨hcut, k, Nat.one_le_iff_ne_zero.mpr ?_, hlen ▸ hfew, hline⟩, hroom⟩
    rintro rfl
    rw [hread, List.eq_nil_of_length_eq_zero hlen] at hid
    cases hid
  · have hpart := (hread (String.ofList w)).mpr (List.mem_map_of_mem hw)
    have hfull := (hconfirmed _ hpart).length
    rw [String.toList_ofList] at hfull
    omega

/-- A project with a listing that is read as a whole is reached as a whole. -/
lemma exact_of_not_cut {raw : Except String Payload}
    (h : ∀ p, raw = .ok p → ¬ (Accepted s p ∧ CutAtLine s.maxOutput (d.host.matching p).length ∧
      Room s p)) : Exact s d raw := by
  rcases execute_cases s d raw with
    ⟨hnone, hfail⟩ | ⟨p, cs, rfl, haccepted, hcs, hne, hissued, hmatched⟩
  · refine ⟨fun action ids hsome => ?_, fun hok => ?_, fun hok => ?_⟩
    · rw [hnone] at hsome
      cases hsome
    · rw [hfail] at hok
      cases hok
    · rw [hfail] at hok
      cases hok
  obtain ⟨hnodup, hconfirmed, hread, -⟩ := discover_sound hcs
  have hwhole : 65 * (d.host.matching p).length ≤ s.maxOutput := by
    by_contra hcut
    exact h p rfl ⟨haccepted, cutAtLine_of_discover hcs hne (Nat.lt_of_not_le hcut)⟩
  have hids : ∀ id, id ∈ cs.map (·.id) ↔ id ∈ (d.host.matching p).map fun c => c.id.text := by
    intro id
    rw [hread id, readIDs_whole (by rw [List.length_map]; exact hwhole), List.map_map,
      List.map_map]
    rfl
  refine ⟨fun action ids hsome => ?_, fun hok => ?_, fun hok p' hp' => ?_⟩
  · rw [hissued] at hsome
    obtain ⟨rfl, rfl⟩ := Prod.mk.inj (Option.some.inj hsome)
    exact ⟨p, rfl, haccepted.2, rfl, hconfirmed⟩
  · refine ⟨p, cs.map (·.id), rfl, hissued, fun c hc => ?_, ?_⟩
    · exact (hids _).mpr (List.mem_map_of_mem hc)
    · have hperm := (List.perm_ext_iff_of_nodup hnodup (nodup_texts d.host p)).mpr hids
      have hlen := hperm.length_eq
      rw [List.length_map, List.length_map] at hlen
      rw [hmatched hok, hlen]
  · obtain rfl := Except.ok.inj hp'
    rw [truncated_iff]
    omega

/-! ### A Docker that confirms every container -/

def serviceShown (p : Payload) : String := if p.serviceName = "" then "a" else p.serviceName

/-- The labels asked for, for every full identifier. -/
def obligingReply (p : Payload) (id : String) : Reply :=
  if id.toList.length = 64 ∧ id.toList.all isLowerHex = true then
    { stdout := String.ofList (id.toList ++ '\t' :: '\t' ::
        (p.projectName.toList ++ '\t' :: (serviceShown p).toList)) }
  else { failed := true }

def obliging (host : Host) (p : Payload) : Docker where
  host := host
  listFailure := none
  inspect := obligingReply p
  inspected := by
    intro id hok
    by_cases hid : id.toList.length = 64 ∧ id.toList.all isLowerHex = true
    · refine ⟨⟨id.toList, hid.1, hid.2⟩,
        '\t' :: (p.projectName.toList ++ '\t' :: (serviceShown p).toList), ?_⟩
      unfold obligingReply
      rw [if_pos hid, String.toList_ofList]
    · unfold obligingReply at hok
      rw [if_neg hid] at hok
      cases hok
  act := fun _ _ => ({}, false)

/-- One byte, and no space. -/
def Plain (c : Char) : Prop := isSpace c = false ∧ (String.utf8EncodeChar c).length = 1

lemma plain_of_alphanum {c : Char} (h : c.isAlphanum = true) : Plain c := by
  have hrange : 48 ≤ c.toNat ∧ c.toNat ≤ 122 := by
    rw [isAlphanum_iff, isUpper_iff, isLower_iff, isDigit_iff] at h
    omega
  constructor
  · unfold isSpace
    dsimp only
    rw [decide_eq_false_iff_not]
    omega
  · rw [String.length_utf8EncodeChar, Char.utf8Size_eq_one_iff]
    change c.toNat ≤ 127
    omega

lemma plain_of_pattern {head tail : Char → Bool} {most : ℕ} {name : String}
    (h : identifierPattern head tail most name = true) (hhead : ∀ c, head c = true → Plain c)
    (htail : ∀ c, tail c = true → Plain c) : ∀ c ∈ name.toList, Plain c := by
  intro c hc
  unfold identifierPattern at h
  cases hname : name.toList with
  | nil =>
    rw [hname] at hc
    cases hc
  | cons first rest =>
    rw [hname] at h hc
    simp only [Bool.and_eq_true, List.all_eq_true] at h
    rcases List.mem_cons.mp hc with rfl | hc
    · exact hhead _ h.1.1
    · exact htail _ (h.1.2 _ hc)

lemma plain_of_service {name : String} (h : composeServicePattern name = true) :
    ∀ c ∈ name.toList, Plain c := by
  refine plain_of_pattern h (fun c hc => plain_of_alphanum hc) fun c hc => ?_
  rcases Bool.or_eq_true _ _ ▸ hc with hc | hc
  · exact plain_of_alphanum hc
  · simp only [List.contains_eq_mem, decide_eq_true_eq, List.mem_cons, List.not_mem_nil,
      or_false] at hc
    rcases hc with rfl | rfl | rfl <;> exact ⟨by decide, by decide⟩

lemma plain_of_project {name : String} (h : composeProjectPattern name = true) :
    ∀ c ∈ name.toList, Plain c := by
  have hlower : ∀ c, isLowerOrDigit c = true → Plain c := by
    intro c hc
    refine plain_of_alphanum (isAlphanum_iff.mpr ?_)
    rcases Bool.or_eq_true _ _ ▸ hc with hc | hc
    · exact .inl (.inr hc)
    · exact .inr hc
  refine plain_of_pattern h hlower fun c hc => ?_
  rcases Bool.or_eq_true _ _ ▸ hc with hc | hc
  · exact hlower c hc
  · simp only [List.contains_eq_mem, decide_eq_true_eq, List.mem_cons, List.not_mem_nil,
      or_false] at hc
    rcases hc with rfl | rfl <;> exact ⟨by decide, by decide⟩

lemma size_id (id : ContainerID) : id.text.utf8ByteSize = 64 := by
  have hplain : ∀ c ∈ id.digits, c.toNat < 128 := by
    intro c hc
    have hone := (lowerHex_plain (List.all_eq_true.mp id.hex c hc)).2
    rw [String.length_utf8EncodeChar, Char.utf8Size_eq_one_iff] at hone
    exact Nat.lt_succ_of_le hone
  unfold ContainerID.text
  rw [LimitedOutput.utf8ByteSize_plain hplain, id.length_digits]

lemma service_accepted (h : validFields p = true) :
    composeServicePattern (serviceShown p) = true ∧
      (p.serviceName = "" ∨ serviceShown p = p.serviceName) := by
  unfold serviceShown
  by_cases hempty : p.serviceName = ""
  · rw [if_pos hempty]
    exact ⟨by decide, .inl hempty⟩
  · rw [if_neg hempty]
    simp only [validFields, Bool.and_eq_true, Bool.or_eq_true, beq_iff_eq] at h
    exact ⟨h.2.resolve_left hempty, .inr rfl⟩

/-- A text of plain characters and tabs is split at its tabs. -/
lemma splitOn_tab {word rest : List Char} (h : ∀ c ∈ word, Plain c) :
    (word ++ '\t' :: rest).splitOn '\t' = word :: rest.splitOn '\t' := by
  have hword : ∀ c ∈ word, (c == '\t') = false := by
    intro c hc
    refine beq_false_of_ne ?_
    rintro rfl
    exact absurd (h _ hc).1 (by decide)
  rw [List.splitOn_eq_splitOnP, List.splitOnP_append_cons_of_forall_mem hword _ (by simp),
    List.splitOn_eq_splitOnP]

lemma splitOn_plain {word : List Char} (h : ∀ c ∈ word, Plain c) : word.splitOn '\t' = [word] := by
  rw [List.splitOn_eq_splitOnP, List.splitOnP_eq_singleton]
  intro c hc
  refine beq_false_of_ne ?_
  rintro rfl
  exact absurd (h _ hc).1 (by decide)

/-- An obliging Docker confirms what the output limit has room for. -/
lemma confirmed_obliging (host : Host) (hvalid : validFields p = true) (hroom : Room s p)
    (id : ContainerID) : Confirmed s (obliging host p) p id.text := by
  obtain ⟨hservice, hname⟩ := service_accepted hvalid
  have hproject : composeProjectPattern p.projectName = true := by
    simp only [validFields, Bool.and_eq_true] at hvalid
    exact hvalid.1.1.1.1.2
  have hdigits : id.text.toList = id.digits := String.toList_ofList
  have hplainID : ∀ c ∈ id.digits, Plain c := fun c hc =>
    lowerHex_plain (List.all_eq_true.mp id.hex c hc)
  have hplainProject := plain_of_project hproject
  have hplainService := plain_of_service hservice
  have hreply : obligingReply p id.text = { stdout := String.ofList (id.digits ++ '\t' :: '\t' ::
      (p.projectName.toList ++ '\t' :: (serviceShown p).toList)) } := by
    unfold obligingReply
    rw [hdigits, if_pos ⟨id.length_digits, id.hex⟩]
  refine ⟨?_, ?_, "", serviceShown p, ?_, hservice, hname⟩
  · unfold validContainerID
    rw [size_id, hdigits, id.hex]
    rfl
  · change (obligingReply p id.text).failed = false
    rw [hreply]
  · have hascii : ∀ c ∈ id.digits ++ '\t' :: '\t' ::
        (p.projectName.toList ++ '\t' :: (serviceShown p).toList),
        (String.utf8EncodeChar c).length = 1 := by
      intro c hc
      simp only [List.mem_append, List.mem_cons] at hc
      rcases hc with hc | rfl | rfl | hc | rfl | hc
      · exact (hplainID c hc).2
      · decide
      · decide
      · exact (hplainProject c hc).2
      · decide
      · exact (hplainService c hc).2
    have hsize : (serviceShown p).toList.length ≤ max 1 p.serviceName.toList.length := by
      unfold serviceShown
      split
      · exact le_max_left _ _
      · exact le_max_right _ _
    obtain ⟨first, digits, hfirst⟩ : ∃ c cs, id.digits = c :: cs := by
      cases hnil : id.digits with
      | nil =>
        have hlen := id.length_digits
        rw [hnil] at hlen
        cases hlen
      | cons c cs => exact ⟨c, cs, rfl⟩
    obtain ⟨shown, last, hlast⟩ : ∃ cs c, (serviceShown p).toList = cs ++ [c] := by
      rcases List.eq_nil_or_concat (serviceShown p).toList with hnil | ⟨cs, c, h⟩
      · unfold composeServicePattern identifierPattern at hservice
        rw [hnil] at hservice
        cases hservice
      · exact ⟨cs, c, by rw [h, List.concat_eq_append]⟩
    unfold inspectedFields
    change ((trimBoth isSpace (received s.maxOutput
      (obligingReply p id.text).stdout).toList).splitOn '\t').map String.ofList = _
    rw [hreply, received_ascii hascii, List.take_of_length_le, trimBoth_of_ends,
      splitOn_tab hplainID, ← List.nil_append ('\t' :: (p.projectName.toList ++ _)),
      splitOn_tab (by simp), splitOn_tab hplainProject, splitOn_plain hplainService]
    · simp only [List.map_cons, List.map_nil, String.ofList_toList]
      rfl
    · intro c hc
      rw [hfirst] at hc
      obtain rfl := Option.some.inj hc
      exact (hplainID _ (hfirst ▸ List.mem_cons_self)).1
    · intro c hc
      have hsnoc : id.digits ++ '\t' :: '\t' ::
          (p.projectName.toList ++ '\t' :: (shown ++ [last])) =
            (id.digits ++ '\t' :: '\t' :: (p.projectName.toList ++ '\t' :: shown)) ++ [last] := by
        simp
      rw [hlast, hsnoc, List.getLast?_concat] at hc
      obtain rfl := Option.some.inj hc
      exact (hplainService _ (by rw [hlast]; simp)).1
    · simp only [List.length_append, List.length_cons, id.length_digits]
      unfold Room at hroom
      omega

/-- Where every container is confirmed, the lines that are read are all that is acted on. -/
lemma succeeds_of_line {host : Host} {k : ℕ} (haccepted : Accepted s p) (hroom : Room s p)
    (hk : k ≤ (host.matching p).length) (hpos : 1 ≤ k) (hfew : k ≤ maximumRuntimeContainers)
    (hline : AtLine s.maxOutput k) :
    (executeRuntimeAction s (obliging host p) (.ok p)).result.success = true ∧
      (executeRuntimeAction s (obliging host p) (.ok p)).result.matched = k := by
  rw [← List.length_map (f := fun c : Container => c.id)] at hk
  have hread := readIDs_atLine hk hline
  have hlen : (readIDs s.maxOutput ((host.matching p).map (·.id))).length = k := by
    rw [hread, List.length_map, List.length_take, Nat.min_eq_left hk]
  have hconfirmed : ∀ w ∈ readIDs s.maxOutput ((host.matching p).map (·.id)),
      Confirmed s (obliging host p) p (String.ofList w) := by
    intro w hw
    rw [hread] at hw
    obtain ⟨id, -, rfl⟩ := List.mem_map.mp hw
    exact confirmed_obliging host haccepted.1 hroom id
  obtain ⟨cs, hcs⟩ := discover_complete (d := obliging host p) rfl (hlen ▸ hfew) hconfirmed
  obtain ⟨hnodup, -, hids, -⟩ := discover_sound hcs
  have hmatched : cs.length = k := by
    have htexts :
        ((readIDs s.maxOutput ((host.matching p).map (·.id))).map String.ofList).Nodup := by
      have hall := (nodup_texts host p).sublist ((List.take_sublist k _).map _)
      rw [hread, ← List.map_take, List.map_map, List.map_map]
      exact hall
    have hperm := (List.perm_ext_iff_of_nodup hnodup htexts).mpr hids
    have hsame := hperm.length_eq
    rwa [List.length_map, List.length_map, hlen] at hsame
  obtain ⟨c, cs, rfl⟩ := List.exists_cons_of_length_pos (hmatched ▸ hpos : 0 < cs.length)
  unfold executeRuntimeAction
  dsimp only
  rw [if_neg (by simp [haccepted.1]), if_neg haccepted.2, hcs]
  exact ⟨rfl, hmatched⟩

lemma not_exact_of_cut {host : Host} (haccepted : Accepted s p)
    (hcut : CutAtLine s.maxOutput (host.matching p).length) (hroom : Room s p) :
    ¬ Exact s (obliging host p) (.ok p) := by
  obtain ⟨hshort, k, hpos, hfew, hline⟩ := hcut
  have hk : k ≤ (host.matching p).length := by
    unfold AtLine at hline
    omega
  obtain ⟨hok, -⟩ := succeeds_of_line haccepted hroom hk hpos hfew hline
  intro hexact
  exact hexact.whole hok p rfl ((truncated_iff (obliging host p) p s.maxOutput).mpr hshort)

/-- A runtime action reaches its targets exactly, whatever Docker answers, if and only if the
listing is not cut at a line before more containers than can be acted on. -/
theorem matched_exactly_iff (s : Settings) (host : Host) (raw : Except String Payload) :
    (∀ d : Docker, d.host = host → Exact s d raw) ↔
      ¬ ∃ p, raw = .ok p ∧ Accepted s p ∧ CutAtLine s.maxOutput (host.matching p).length ∧
        Room s p := by
  constructor
  · rintro h ⟨p, rfl, haccepted, hcut, hroom⟩
    exact not_exact_of_cut haccepted hcut hroom (h _ rfl)
  · rintro h d rfl
    exact exact_of_not_cut fun p hp hcut => h ⟨p, hp, hcut⟩

/-! ### A container that is left out -/

lemma hex_digitChar : ∀ n : Fin 16, isLowerHex (Nat.digitChar n) = true := by decide

def numbered (n : ℕ) : ContainerID where
  digits := Nat.digitChar (Fin.ofNat 16 (n / 16)) :: Nat.digitChar (Fin.ofNat 16 n) ::
    List.replicate 62 '0'
  length_digits := by rw [List.length_cons, List.length_cons, List.length_replicate]
  hex := by
    rw [List.all_cons, List.all_cons, hex_digitChar, hex_digitChar, List.all_replicate]
    rfl

def seventeen : Host where
  containers := (List.range 17).map fun n => ⟨numbered n, "shop", "web"⟩
  distinct := by decide

def restart : Payload :=
  ⟨"3f2504e0-4f89-41d3-9a0c-0305e82c3301", "shop", "", "restart", "project"⟩

def sixteenLines : Settings := ⟨1040, [], id, id⟩

def restarted : Outcome :=
  executeRuntimeAction sixteenLines (obliging seventeen restart) (.ok restart)

/-- Seventeen containers are listed, sixteen are restarted, and the action reports success. -/
theorem seventeenth_missed :
    (seventeen.matching restart).length = 17 ∧
      restarted.result.success = true ∧ restarted.result.matched = 16 ∧
      ¬ Exact sixteenLines (obliging seventeen restart) (.ok restart) := by
  have hcount : (seventeen.matching restart).length = 17 := by decide
  have haccepted : Accepted sixteenLines restart := ⟨by decide, by decide⟩
  have hroom : Room sixteenLines restart := by
    unfold Room
    decide
  have hline : AtLine sixteenLines.maxOutput 16 := .inl rfl
  obtain ⟨hok, hmatched⟩ := succeeds_of_line haccepted hroom
    (by rw [hcount]; decide) (by decide) (by decide) hline
  unfold restarted
  refine ⟨hcount, hok, hmatched, not_exact_of_cut haccepted ?_ hroom⟩
  rw [hcount]
  exact ⟨by decide, 16, by decide, by decide, hline⟩

end GatewayControl.RuntimeTargets
