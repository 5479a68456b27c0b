import GatewayControl.Requests
import Mathlib.Data.List.Infix
import Mathlib.Logic.Relation
import Mathlib.Logic.Function.Basic

/-!
The names a bootstrap operation gives the tunnel it makes: the text its row keeps, and the
name Cloudflare gets, which the lookup of a retry must find again.

The end of the text is the operation's own, and the end is what a cut takes away.
-/

namespace GatewayControl.TunnelNames

open Json Text Requests

/-! ### The names -/

def isLowerHex (c : Char) : Bool := ('0' ≤ c ∧ c ≤ '9') ∨ ('a' ≤ c ∧ c ≤ 'f')

/-- The shape of the identifiers the database makes. -/
def operationIdClasses : List (Char → Bool) :=
  let dash := (· == '-')
  List.replicate 8 isLowerHex ++ [dash] ++ List.replicate 4 isLowerHex ++ [dash] ++
    List.replicate 4 isLowerHex ++ [dash] ++ List.replicate 4 isLowerHex ++ [dash] ++
    List.replicate 12 isLowerHex

structure OperationId where
  text : String
  shape : matchesClasses operationIdClasses text.toList
deriving DecidableEq

/-- `operation.id.slice(0, 8)`. -/
def OperationId.start (id : OperationId) : List Char := id.text.toList.take 8

def tunnelName (connectorName : String) (id : OperationId) : String :=
  connectorName ++ "-" ++ String.ofList id.start

/-- The check on `guided_operations.remote_tunnel_name`. -/
def columnAccepts (name : String) : Bool :=
  !hasNul name && decide (1 ≤ name.length ∧ name.length ≤ 100)

def isTunnelNameChar (c : Char) : Bool := isLowerOrDigit c || c == '-'

/-- `.replace(/[^a-z0-9-]+/g, '-')`, inside such a run or not. -/
def hyphenate : Bool → List Char → List Char
  | _, [] => []
  | inRun, c :: cs =>
      if isTunnelNameChar c then c :: hyphenate false cs
      else if inRun then hyphenate true cs
      else '-' :: hyphenate true cs

variable (m : CaseMapping)

/-- The expression both functions apply; only ASCII is left when the text is cut. -/
def normalized (name : String) : String :=
  String.ofList
    ((trimBoth (· == '-') (hyphenate false (toLowerCase m name).toList)).take 100)

/-- The name a bootstrap looks for. -/
def lookupName (tunnelName : String) : String := normalized m tunnelName

/-- The name `createRemotelyManagedTunnel` asks for, unless it is too short. -/
def createdName (desiredName : String) : Option String :=
  let name := normalized m desiredName
  if name.length < 3 then none else some name

/-! ### Operations at work on one account -/

/-- A tunnel at Cloudflare, with the operation that made it. -/
structure Tunnel where
  id : Nat
  name : String
  creator : OperationId

/-- What the running attempt of an operation has learnt. -/
inductive Attempt where
  | idle
  | absent
  | holds (tunnelId : Nat)

structure Bootstrap where
  remoteTunnelName : Option String := none
  remoteTunnelId : Option Nat := none
  attempt : Attempt := .idle

structure Site where
  operations : OperationId → Bootstrap
  tunnels : List Tunnel

/-- `findActiveTunnelByName`, which refuses two tunnels of one name. -/
def findActiveTunnelByName (tunnels : List Tunnel) (name : String) : Option (Option Nat) :=
  match tunnels.filter (·.name = name) with
  | [] => some none
  | [t] => some (some t.id)
  | _ => none

def Site.update (s : Site) (id : OperationId) (b : Bootstrap) : Site :=
  { s with operations := Function.update s.operations id b }

/-- One call of one attempt; the lock leaves an operation one attempt at a time. -/
inductive SiteStep (request : OperationId → Option String) : Site → Site → Prop where
  | store {s : Site} {id : OperationId} {connectorName : String}
      (asked : request id = some connectorName)
      (unnamed : (s.operations id).remoteTunnelName = none)
      (accepted : columnAccepts (tunnelName connectorName id)) :
      SiteStep request s (s.update id
        { s.operations id with remoteTunnelName := some (tunnelName connectorName id) })
  | find {s : Site} {id : OperationId} {name : String} {found : Option Nat}
      (named : (s.operations id).remoteTunnelName = some name)
      (unknown : (s.operations id).remoteTunnelId = none)
      (answer : findActiveTunnelByName s.tunnels (lookupName m name) = some found) :
      SiteStep request s (s.update id
        { s.operations id with attempt := found.elim .absent .holds })
  | create {s : Site} {id : OperationId} {name created : String} {tunnelId : Nat}
      (received : Bool)
      (named : (s.operations id).remoteTunnelName = some name)
      (absent : (s.operations id).attempt = .absent)
      (answer : createdName m name = some created)
      (fresh : ∀ t ∈ s.tunnels, t.id ≠ tunnelId) :
      SiteStep request s { s.update id
        { s.operations id with attempt := if received then .holds tunnelId else .idle } with
        tunnels := s.tunnels ++ [⟨tunnelId, created, id⟩] }
  | record {s : Site} {id : OperationId} {tunnelId : Nat}
      (holds : (s.operations id).attempt = .holds tunnelId) :
      SiteStep request s (s.update id
        { s.operations id with remoteTunnelId := some tunnelId })
  | crash {s : Site} (id : OperationId) :
      SiteStep request s (s.update id { s.operations id with attempt := .idle })

def SiteReach (request : OperationId → Option String) (s : Site) : Prop :=
  Relation.ReflTransGen (SiteStep m request) ⟨fun _ => {}, []⟩ s

/-! ### What a connector name has to be like -/

/-- A name lower-cased and hyphenated: what the tunnel's name keeps of it. -/
def slug : Bool → List Char → List Char
  | _, [] => []
  | inRun, c :: cs =>
      if c.toNat < 128 then
        if isTunnelNameChar c.toLower then c.toLower :: slug false cs
        else if inRun then slug true cs
        else '-' :: slug true cs
      else if c.toNat = 0x212A then 'k' :: slug false cs
      else if c.toNat = 0x130 then 'i' :: '-' :: slug true cs
      else if inRun then slug true cs
      else '-' :: slug true cs

/-- The name's slug without the hyphens it starts with. -/
def core (connectorName : String) : List Char :=
  (slug false connectorName.toList).dropWhile (· == '-')

/-- Storable, and short enough for the operation's own part to stay. -/
structure Fits (connectorName : String) : Prop where
  storable : hasNul connectorName = false
  short : connectorName.length ≤ 91
  shortSlug : (core connectorName).length ≤ 91

/-- What a bootstrap needs of the names made from a connector name. -/
structure OwnTunnel (connectorName : String) : Prop where
  stored : ∀ id, columnAccepts (tunnelName connectorName id)
  found : ∀ id, createdName m (tunnelName connectorName id) =
    some (lookupName m (tunnelName connectorName id))
  suffix : ∀ id, id.start <:+ (lookupName m (tunnelName connectorName id)).toList
  distinct : ∀ id id', id.start ≠ id'.start →
    lookupName m (tunnelName connectorName id) ≠ lookupName m (tunnelName connectorName id')
  /-- Whatever tunnel an operation holds is the one it made, and the one its lookup finds. -/
  adopts : ∀ request : OperationId → Option String,
    (∀ id name, request id = some name → name = connectorName ∨ Fits name) →
    (∀ id id', (request id).isSome → (request id').isSome → id.start = id'.start → id = id') →
    ∀ s, SiteReach m request s →
      (∀ id tunnelId, (s.operations id).remoteTunnelId = some tunnelId ∨
        (s.operations id).attempt = .holds tunnelId →
        ∃ t ∈ s.tunnels, t.id = tunnelId ∧ t.creator = id) ∧
      ∀ t ∈ s.tunnels, ∀ name, (s.operations t.creator).remoteTunnelName = some name →
        findActiveTunnelByName s.tunnels (lookupName m name) = some (some t.id)

/-! ### The identifiers -/

lemma matchesClasses_replicate {p : Char → Bool} {rest : List (Char → Bool)} {n : Nat}
    {cs : List Char} (h : matchesClasses (List.replicate n p ++ rest) cs) :
    (cs.take n).length = n ∧ ∀ c ∈ cs.take n, p c := by
  induction n generalizing cs with
  | zero => simp
  | succ n ih =>
    cases cs with
    | nil => simp [List.replicate_succ, matchesClasses] at h
    | cons c cs =>
      rw [List.replicate_succ, List.cons_append, matchesClasses, Bool.and_eq_true] at h
      obtain ⟨hlength, hall⟩ := ih h.2
      rw [List.take_succ_cons]
      refine ⟨by rw [List.length_cons, hlength], ?_⟩
      intro d hd
      rcases List.mem_cons.mp hd with rfl | hd
      · exact h.1
      · exact hall d hd

lemma OperationId.start_spec (id : OperationId) :
    id.start.length = 8 ∧ ∀ c ∈ id.start, isLowerHex c := by
  have hshape := id.shape
  unfold operationIdClasses at hshape
  dsimp only at hshape
  simp only [List.append_assoc] at hshape
  exact matchesClasses_replicate hshape

lemma isLowerHex_plain {c : Char} (h : isLowerHex c) : isLowerOrDigit c ∧ c ≠ '-' := by
  have hbounds : 48 ≤ c.toNat ∧ c.toNat ≤ 57 ∨ 97 ≤ c.toNat ∧ c.toNat ≤ 102 := by
    simpa [isLowerHex, Char.le_def, UInt32.le_iff_toNat_le, ← Char.toNat_val] using h
  constructor
  · rw [isLowerOrDigit_iff]
    omega
  · rintro rfl
    simp at hbounds

/-! ### The slug of a tunnel's name -/

lemma isTunnelNameChar_ascii {c : Char} (h : isTunnelNameChar c) : c.toNat < 128 := by
  simp only [isTunnelNameChar, Bool.or_eq_true, beq_iff_eq] at h
  rcases h with h | rfl
  · exact (isLowerOrDigit_plain h).1
  · decide

lemma hyphenate_foreign {xs ys : List Char} (hne : xs ≠ []) (h : ∀ c ∈ xs, 128 ≤ c.toNat)
    (inRun : Bool) :
    hyphenate inRun (xs ++ ys) =
      if inRun then hyphenate true ys else '-' :: hyphenate true ys := by
  induction xs generalizing inRun with
  | nil => exact absurd rfl hne
  | cons c cs ih =>
    have hc : isTunnelNameChar c = false := by
      by_contra hcontra
      have hascii := isTunnelNameChar_ascii (by simpa using hcontra)
      have hforeign := h c (by simp)
      omega
    rw [List.cons_append, hyphenate, hc]
    simp only [Bool.false_eq_true, if_false]
    by_cases hcs : cs = []
    · subst hcs
      rfl
    · rw [ih hcs (fun d hd => h d (by simp [hd]))]
      simp

variable {m}

/-- What is left of a lower-cased text does not depend on the mapping. -/
lemma hyphenate_lowerFrom (before : List Char) (inRun : Bool) (cs : List Char) :
    hyphenate inRun (lowerFrom m before cs) = slug inRun cs := by
  induction cs generalizing before inRun with
  | nil => cases inRun <;> rfl
  | cons c cs ih =>
    rw [lowerFrom, lowerAt, slug]
    by_cases hascii : c.toNat < 128
    · rw [if_pos hascii, if_pos hascii, List.singleton_append, hyphenate, ih, ih]
    · rw [if_neg hascii, if_neg hascii]
      by_cases hkelvin : c.toNat = 0x212A
      · rw [if_pos hkelvin, if_pos hkelvin, List.singleton_append, hyphenate, ih]
        rfl
      · rw [if_neg hkelvin, if_neg hkelvin]
        by_cases hdotted : c.toNat = 0x130
        · rw [if_pos hdotted, if_pos hdotted]
          change 'i' :: '-' :: hyphenate true (lowerFrom m (c :: before) cs) = _
          rw [ih]
        · rw [if_neg hdotted, if_neg hdotted,
            hyphenate_foreign (m.nonempty before c cs) (m.foreign before c cs (by omega)), ih]

lemma slug_append (inRun : Bool) (cs rest : List Char) :
    slug inRun (cs ++ '-' :: rest) = slug inRun cs ++ '-' :: slug false rest := by
  induction cs generalizing inRun with
  | nil => rfl
  | cons c cs ih =>
    rw [List.cons_append, slug, slug, ih, ih]
    split_ifs <;> rfl

lemma slug_plain {cs : List Char} (h : ∀ c ∈ cs, isLowerOrDigit c) : slug false cs = cs := by
  induction cs with
  | nil => rfl
  | cons c cs ih =>
    obtain ⟨hascii, hlower⟩ := isLowerOrDigit_plain (h c (by simp))
    have hname : isTunnelNameChar c.toLower := by
      rw [hlower, isTunnelNameChar, h c (by simp), Bool.true_or]
    rw [slug, if_pos hascii, if_pos hname, hlower, ih fun d hd => h d (by simp [hd])]

/-! ### The name Cloudflare gets -/

lemma dropWhile_of_head {p : Char → Bool} {cs : List Char} (hne : cs ≠ [])
    (h : ∀ c ∈ cs, ¬p c) : cs.dropWhile p = cs := by
  cases cs with
  | nil => exact absurd rfl hne
  | cons c cs => rw [List.dropWhile_cons_of_neg (h c (by simp))]

/-- A tunnel's name before the cut. -/
def uncut (connectorName : String) (id : OperationId) : List Char :=
  if (core connectorName).isEmpty then id.start else core connectorName ++ '-' :: id.start

lemma trimBoth_slug {cs tail : List Char} (hne : tail ≠ []) (h : ∀ c ∈ tail, c ≠ '-') :
    trimBoth (· == '-') (cs ++ '-' :: tail) =
      if (cs.dropWhile (· == '-')).isEmpty then tail
      else cs.dropWhile (· == '-') ++ '-' :: tail := by
  have htail : ∀ c ∈ tail, ¬(c == '-') = true := by simpa using h
  have hback : ∀ before : List Char,
      ((before ++ tail).reverse.dropWhile (· == '-')).reverse = before ++ tail := by
    intro before
    rw [List.reverse_append, List.dropWhile_append,
      dropWhile_of_head (by simpa using hne) (by simpa using h)]
    rw [if_neg (by simpa using hne), List.reverse_append, List.reverse_reverse,
      List.reverse_reverse]
  unfold trimBoth
  rw [List.dropWhile_append]
  have hdrop : ('-' :: tail).dropWhile (· == '-') = tail := by
    rw [List.dropWhile_cons_of_pos (by simp), dropWhile_of_head hne htail]
  rw [hdrop]
  split_ifs with hempty
  · simpa using hback []
  · simpa using hback (cs.dropWhile (· == '-') ++ ['-'])

lemma lookupName_toList (connectorName : String) (id : OperationId) :
    (lookupName m (tunnelName connectorName id)).toList = (uncut connectorName id).take 100 := by
  obtain ⟨hlength, hhex⟩ := id.start_spec
  have hne : id.start ≠ [] := by
    intro hnil
    rw [hnil] at hlength
    cases hlength
  have hname : (tunnelName connectorName id).toList = connectorName.toList ++ '-' :: id.start := by
    simp [tunnelName, String.toList_append]
  unfold lookupName normalized toLowerCase
  rw [String.toList_ofList, String.toList_ofList, hyphenate_lowerFrom, hname, slug_append,
    slug_plain fun c hc => (isLowerHex_plain (hhex c hc)).1,
    trimBoth_slug hne fun c hc => (isLowerHex_plain (hhex c hc)).2]
  rfl

lemma uncut_length (connectorName : String) (id : OperationId) :
    (uncut connectorName id).length =
      if (core connectorName).isEmpty then 8 else (core connectorName).length + 9 := by
  have hlength := id.start_spec.1
  unfold uncut
  split_ifs
  · exact hlength
  · rw [List.length_append, List.length_cons, hlength]

lemma start_suffix (connectorName : String) (id : OperationId) :
    id.start <:+ uncut connectorName id := by
  unfold uncut
  split_ifs
  · exact List.suffix_refl _
  · exact ⟨core connectorName ++ ['-'], by simp⟩

lemma Fits.uncut {connectorName : String} (h : Fits connectorName) (id : OperationId) :
    (lookupName m (tunnelName connectorName id)).toList =
      TunnelNames.uncut connectorName id := by
  rw [lookupName_toList, List.take_of_length_le]
  rw [uncut_length]
  have hshort := h.shortSlug
  split_ifs <;> omega

/-- Two fitting operations with one name at Cloudflare start alike. -/
lemma Fits.start_eq {name name' : String} {id id' : OperationId} (h : Fits name)
    (h' : Fits name')
    (heq : lookupName m (tunnelName name id) = lookupName m (tunnelName name' id')) :
    id.start = id'.start := by
  have hsuffix := start_suffix name id
  have hsuffix' := start_suffix name' id'
  rw [← h.uncut (m := m), heq] at hsuffix
  rw [← h'.uncut (m := m)] at hsuffix'
  obtain ⟨before, hbefore⟩ := hsuffix
  obtain ⟨before', hbefore'⟩ := hsuffix'
  have hlengths : id.start.length = id'.start.length := by
    rw [id.start_spec.1, id'.start_spec.1]
  exact (List.append_inj' (hbefore.trans hbefore'.symm) hlengths).2

lemma createdName_eq (connectorName : String) (id : OperationId) :
    createdName m (tunnelName connectorName id) =
      some (lookupName m (tunnelName connectorName id)) := by
  have hlength : 8 ≤ (lookupName m (tunnelName connectorName id)).length := by
    rw [← String.length_toList, lookupName_toList, List.length_take, uncut_length]
    split_ifs <;> omega
  unfold createdName
  exact if_neg (by unfold lookupName at hlength; omega)

lemma columnAccepts_iff (connectorName : String) (id : OperationId) :
    columnAccepts (tunnelName connectorName id) ↔
      hasNul connectorName = false ∧ connectorName.length ≤ 91 := by
  obtain ⟨hlength, hhex⟩ := id.start_spec
  have hlist : (tunnelName connectorName id).toList =
      connectorName.toList ++ '-' :: id.start := by
    simp [tunnelName, String.toList_append]
  have hchars : (tunnelName connectorName id).length = connectorName.length + 9 := by
    rw [← String.length_toList, hlist, List.length_append, List.length_cons, hlength,
      String.length_toList]
  have hstart : '\x00' ∉ id.start := by
    intro hmem
    have := hhex _ hmem
    simp [isLowerHex] at this
  have hnul : hasNul (tunnelName connectorName id) = hasNul connectorName := by
    unfold hasNul
    rw [hlist]
    simp [hstart]
  unfold columnAccepts
  rw [hnul, hchars]
  simp only [Bool.and_eq_true, Bool.not_eq_true', decide_eq_true_eq]
  exact and_congr_right fun _ => by omega

/-! ### Operations of fitting names -/

/-- What an operation's row and attempt say is so. -/
structure Informed (request : OperationId → Option String) (tunnels : List Tunnel)
    (id : OperationId) (b : Bootstrap) : Prop where
  named : ∀ name, b.remoteTunnelName = some name →
    ∃ connectorName, request id = some connectorName ∧ name = tunnelName connectorName id
  own : ∀ tunnelId, b.remoteTunnelId = some tunnelId ∨ b.attempt = .holds tunnelId →
    ∃ t ∈ tunnels, t.id = tunnelId ∧ t.creator = id
  absent : b.attempt = .absent → ∀ t ∈ tunnels, t.creator ≠ id

variable (m) in
/-- What every attempt can count on. -/
structure Kept (request : OperationId → Option String) (s : Site) : Prop where
  made : ∀ t ∈ s.tunnels, ∃ name, request t.creator = some name ∧
    t.name = lookupName m (tunnelName name t.creator)
  once : (s.tunnels.map (·.creator)).Nodup
  informed : ∀ id, Informed request s.tunnels id (s.operations id)

section Sites

variable {request : OperationId → Option String}

/-- The tunnels of an operation's name are the one it made. -/
lemma Kept.filter {s : Site} (hk : Kept m request s)
    (hfits : ∀ id name, request id = some name → Fits name)
    (hids : ∀ id id', (request id).isSome → (request id').isSome → id.start = id'.start → id = id')
    {id : OperationId} {connectorName : String} (hid : request id = some connectorName) :
    s.tunnels.filter (·.name = lookupName m (tunnelName connectorName id)) =
      s.tunnels.filter (·.creator = id) := by
  apply List.filter_congr
  intro t ht
  obtain ⟨name, hname, htunnel⟩ := hk.made t ht
  have hiff : t.name = lookupName m (tunnelName connectorName id) ↔ t.creator = id := by
    constructor
    · intro heq
      refine hids _ _ (by simp [hname]) (by simp [hid]) ?_
      exact (hfits _ _ hname).start_eq (hfits _ _ hid) (htunnel.symm.trans heq)
    · rintro rfl
      rw [hname] at hid
      rw [← Option.some.inj hid]
      exact htunnel
  simp [hiff]

lemma Kept.find {s : Site} (hk : Kept m request s)
    (hfits : ∀ id name, request id = some name → Fits name)
    (hids : ∀ id id', (request id).isSome → (request id').isSome → id.start = id'.start → id = id')
    {id : OperationId} {connectorName : String} (hid : request id = some connectorName) :
    (∀ t ∈ s.tunnels, t.creator = id →
      findActiveTunnelByName s.tunnels (lookupName m (tunnelName connectorName id)) =
        some (some t.id)) ∧
    ((∀ t ∈ s.tunnels, t.creator ≠ id) →
      findActiveTunnelByName s.tunnels (lookupName m (tunnelName connectorName id)) =
        some none) := by
  unfold findActiveTunnelByName
  rw [hk.filter hfits hids hid]
  constructor
  · intro t ht hcreator
    have honly : s.tunnels.filter (·.creator = id) = [t] := by
      have hnodup := hk.once
      generalize s.tunnels = tunnels at ht hnodup
      induction tunnels with
      | nil => simp at ht
      | cons a tunnels ih =>
        rw [List.map_cons, List.nodup_cons] at hnodup
        rcases List.mem_cons.mp ht with rfl | ht
        · rw [List.filter_cons_of_pos (by simpa using hcreator), List.filter_eq_nil_iff.mpr]
          intro b hb hcontra
          have hcreators : b.creator = t.creator := by
            rw [hcreator]
            simpa using hcontra
          exact hnodup.1 (hcreators ▸ List.mem_map_of_mem hb)
        · rw [List.filter_cons_of_neg, ih ht hnodup.2]
          intro hcontra
          have hcreators : t.creator = a.creator := by
            rw [hcreator]
            simpa using (of_decide_eq_true hcontra).symm
          exact hnodup.1 (hcreators ▸ List.mem_map_of_mem ht)
    rw [honly]
  · intro hnone
    have hempty : s.tunnels.filter (·.creator = id) = [] := by
      rw [List.filter_eq_nil_iff]
      intro t ht
      simpa using hnone t ht
    rw [hempty]

lemma kept_update {s : Site} (hk : Kept m request s) {id : OperationId} {b : Bootstrap}
    (hb : Informed request s.tunnels id b) : Kept m request (s.update id b) := by
  refine ⟨hk.made, hk.once, fun id' => ?_⟩
  by_cases hid : id' = id
  · subst hid
    simpa [Site.update] using hb
  · simpa [Site.update, hid] using hk.informed id'

/-- A new tunnel, for the operation that found none. -/
lemma kept_add {s : Site} (hk : Kept m request s) {id : OperationId} {t : Tunnel}
    {b : Bootstrap} {connectorName : String} (hid : request id = some connectorName)
    (hname : t.name = lookupName m (tunnelName connectorName id)) (hcreator : t.creator = id)
    (habsent : (s.operations id).attempt = .absent)
    (hb : Informed request (s.tunnels ++ [t]) id b) :
    Kept m request { s.update id b with tunnels := s.tunnels ++ [t] } := by
  refine ⟨fun t' ht' => ?_, ?_, fun id' => ?_⟩
  · rcases List.mem_append.mp ht' with ht' | ht'
    · exact hk.made t' ht'
    · rw [List.mem_singleton.mp ht', hcreator]
      exact ⟨connectorName, hid, hname⟩
  · rw [List.map_append, List.nodup_append]
    refine ⟨hk.once, by simp, ?_⟩
    intro creator hmem creator' hmem'
    obtain ⟨t', ht', rfl⟩ := List.mem_map.mp hmem
    have hcreator' : creator' = id := by simpa [hcreator] using hmem'
    rw [hcreator']
    exact (hk.informed id).absent habsent t' ht'
  · by_cases hid' : id' = id
    · subst hid'
      simpa [Site.update] using hb
    · have hold := hk.informed id'
      simp only [Site.update, Function.update_of_ne hid']
      refine ⟨hold.named, fun tunnelId hholds => ?_, fun hnone t' ht' => ?_⟩
      · obtain ⟨t', ht', hspec⟩ := hold.own tunnelId hholds
        exact ⟨t', List.mem_append_left _ ht', hspec⟩
      · rcases List.mem_append.mp ht' with ht' | ht'
        · exact hold.absent hnone t' ht'
        · rw [List.mem_singleton.mp ht', hcreator]
          exact fun hcontra => hid' hcontra.symm

/-- **One call keeps it.** -/
theorem kept_step (hfits : ∀ id name, request id = some name → Fits name)
    (hids : ∀ id id', (request id).isSome → (request id').isSome → id.start = id'.start → id = id')
    {s s' : Site} (hk : Kept m request s) (h : SiteStep m request s s') :
    Kept m request s' := by
  cases h with
  | @store id connectorName asked unnamed accepted =>
    have hold := hk.informed id
    refine kept_update hk ⟨fun name hname => ?_, hold.own, hold.absent⟩
    exact ⟨connectorName, asked, (Option.some.inj hname).symm⟩
  | @find id name found named unknown answer =>
    have hold := hk.informed id
    obtain ⟨connectorName, hid, rfl⟩ := hold.named name named
    have hfind := hk.find hfits hids hid
    refine kept_update hk ⟨hold.named, fun tunnelId hholds => ?_, fun habsent t ht hcreator => ?_⟩
    · rcases hholds with hrecorded | hholds
      · exact hold.own tunnelId (Or.inl hrecorded)
      · by_cases hmade : ∃ t ∈ s.tunnels, t.creator = id
        · obtain ⟨t, ht, hcreator⟩ := hmade
          have hanswer := Option.some.inj (answer.symm.trans (hfind.1 t ht hcreator))
          rw [hanswer] at hholds
          exact ⟨t, ht, by simpa using hholds, hcreator⟩
        · have hanswer := Option.some.inj
            (answer.symm.trans (hfind.2 fun t ht hcreator => hmade ⟨t, ht, hcreator⟩))
          rw [hanswer] at hholds
          simp at hholds
    · have hanswer := Option.some.inj (answer.symm.trans (hfind.1 t ht hcreator))
      rw [hanswer] at habsent
      simp at habsent
  | @create id name created tunnelId received named absent answer fresh =>
    have hold := hk.informed id
    obtain ⟨connectorName, hid, rfl⟩ := hold.named name named
    rw [createdName_eq] at answer
    refine kept_add hk hid (Option.some.inj answer).symm rfl absent
      ⟨hold.named, fun tunnelId' hholds => ?_, fun habsent => ?_⟩
    · rcases hholds with hrecorded | hholds
      · obtain ⟨t, ht, hspec⟩ := hold.own tunnelId' (Or.inl hrecorded)
        exact ⟨t, List.mem_append_left _ ht, hspec⟩
      · refine ⟨_, List.mem_append_right _ (List.mem_singleton_self _), ?_, rfl⟩
        cases received <;> simp_all
    · cases received <;> simp at habsent
  | @record id tunnelId holds =>
    have hold := hk.informed id
    refine kept_update hk ⟨hold.named, fun tunnelId' hholds => ?_, hold.absent⟩
    rcases hholds with hrecorded | hholds
    · rw [← Option.some.inj hrecorded]
      exact hold.own tunnelId (Or.inr holds)
    · exact hold.own tunnelId' (Or.inr hholds)
  | crash id =>
    have hold := hk.informed id
    refine kept_update hk ⟨hold.named, fun tunnelId hholds => ?_, fun habsent => ?_⟩
    · rcases hholds with hrecorded | hholds
      · exact hold.own tunnelId (Or.inl hrecorded)
      · cases hholds
    · cases habsent

lemma kept_reach (hfits : ∀ id name, request id = some name → Fits name)
    (hids : ∀ id id', (request id).isSome → (request id').isSome → id.start = id'.start → id = id')
    {s : Site} (h : SiteReach m request s) : Kept m request s := by
  induction h with
  | refl =>
    refine ⟨by simp, by simp, fun id => ⟨?_, ?_, ?_⟩⟩
    · rintro name ⟨⟩
    · rintro tunnelId (h | h) <;> cases h
    · intro h
      cases h
  | tail _ hs ih => exact kept_step hfits hids ih hs

end Sites

/-! ### The theorem -/

def firstId : OperationId := ⟨"00000000-0000-4000-8000-000000000000", by decide⟩

def secondId : OperationId := ⟨"00000001-0000-4000-8000-000000000000", by decide⟩

/-- A slug that is too long leaves no room for the last digit of an operation's own part. -/
lemma long_slug_collides {connectorName : String} (h : ¬(core connectorName).length ≤ 91) :
    lookupName m (tunnelName connectorName firstId) =
      lookupName m (tunnelName connectorName secondId) := by
  have hne : (core connectorName).isEmpty = false := by
    rw [List.isEmpty_eq_false_iff]
    intro hnil
    rw [hnil] at h
    simp at h
  rw [← String.toList_inj, lookupName_toList, lookupName_toList]
  unfold uncut
  rw [hne]
  simp only [Bool.false_eq_true, if_false]
  have hcut : ∀ tail : List Char, tail.length = 8 →
      (core connectorName ++ '-' :: tail).take 100 =
        (core connectorName ++ '-' :: tail.take 7).take 100 := by
    intro tail htail
    rw [List.take_append, List.take_append]
    congr 1
    rcases hroom : 100 - (core connectorName).length with _ | room
    · rfl
    · rw [List.take_succ_cons, List.take_succ_cons, List.take_take]
      congr 2
      omega
  rw [hcut _ firstId.start_spec.1, hcut _ secondId.start_spec.1]
  have hsame : firstId.start.take 7 = secondId.start.take 7 := by decide
  rw [hsame]

/-- **Each bootstrap has its own tunnel** exactly when the connector's name fits. -/
theorem ownTunnel_iff (connectorName : String) :
    OwnTunnel m connectorName ↔ Fits connectorName := by
  constructor
  · intro h
    obtain ⟨hstorable, hshort⟩ := (columnAccepts_iff connectorName firstId).mp (h.stored firstId)
    refine ⟨hstorable, hshort, ?_⟩
    by_contra hlong
    have hdiffer : firstId.start ≠ secondId.start := by decide
    exact h.distinct firstId secondId hdiffer (long_slug_collides hlong)
  · intro h
    refine ⟨fun id => (columnAccepts_iff connectorName id).mpr ⟨h.storable, h.short⟩,
      createdName_eq connectorName, fun id => ?_, fun id id' hdiffer heq => ?_,
      fun request hnames hids s hs => ?_⟩
    · rw [h.uncut]
      exact start_suffix connectorName id
    · exact hdiffer (h.start_eq h heq)
    · have hfits : ∀ id name, request id = some name → Fits name := by
        intro id name hname
        rcases hnames id name hname with rfl | hfits
        · exact h
        · exact hfits
      have hk := kept_reach hfits hids hs
      refine ⟨fun id => (hk.informed id).own, fun t ht name hname => ?_⟩
      obtain ⟨connectorName', hid, rfl⟩ := (hk.informed t.creator).named name hname
      exact (hk.find hfits hids hid).1 t ht rfl

/-! ### Names that do not fit -/

/-- A plain name of 92 letters, and one of 60 letters that lower-case to two characters. -/
def longName : String := String.ofList (List.replicate 92 'a')

def dottedName : String := String.ofList (List.replicate 60 'İ')

theorem longName_not_own :
    stringField (some (.str longName)) 1 120 = some longName ∧
      stringField (some (.str dottedName)) 1 120 = some dottedName ∧
      ¬OwnTunnel .caseless longName ∧ ¬OwnTunnel .caseless dottedName := by
  refine ⟨by decide +kernel, by decide +kernel, fun h => ?_, fun h => ?_⟩
  · have hshort := ((columnAccepts_iff longName firstId).mp (h.stored firstId)).2
    revert hshort
    decide
  · have hlong : ¬(core dottedName).length ≤ 91 := by decide +kernel
    exact h.distinct firstId secondId (by decide) (long_slug_collides hlong)

end GatewayControl.TunnelNames
