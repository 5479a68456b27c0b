import GatewayControl.Cloudflare
import GatewayControl.ComposePolicy
import GatewayControl.Hosts

/-!
The filter on the targets of routes: `validateBackends` for the routes an operator enters,
`normalizePublishTarget` for guided publishing. Both store the URL as the parser writes it
back, and Traefik proxies to its host.

The filter compares the host's text with a few texts and beginnings of texts. The parser is a
parameter: whatever it does, its hosts are hosts of the URL standard, and what it writes back
it reads again as the same.
-/

namespace GatewayControl.BackendTargets

open Cloudflare Json Publishing Requests Text Hosts

/-! ### URLs -/

structure Url where
  protocol : String
  username : String
  password : String
  host : Option Host
  pathname : String
  search : String
  hash : String
  href : String

def Url.hostname (u : Url) : String := (u.host.map Host.text).getD ""

/-- `.replace(/\/$/, '')`. -/
def withoutSlash (s : String) : String :=
  if s.toList.getLast? = some '/' then String.ofList s.toList.dropLast else s

/-- `new URL(text)`, `none` where it throws. -/
structure UrlParser where
  parse : String → Option Url
  reparse : ∀ text u, parse text = some u → parse u.href = some u
  bare : ∀ text u, parse text = some u → u.pathname = "/" → u.search = "" → u.hash = "" →
    parse (withoutSlash u.href) = some u

/-! ### The filter -/

/-- `.toLowerCase().replace(/^\[|\]$/g, '')`. -/
def bareHostname (hostname : String) : List Char :=
  let text := (lower hostname).toList
  let text := if text.head? = some '[' then text.tail else text
  if text.getLast? = some ']' then text.dropLast else text

def unsafeBackendTarget (hostname : List Char) : Bool :=
  ["localhost", "localhost.localdomain", "metadata.google.internal", "instance-data"].any
      (fun s => s.toList == hostname) ||
    ".localhost".toList.isSuffixOf hostname || hostname == "0.0.0.0".toList ||
    hostname == "::".toList || "127.".toList.isPrefixOf hostname ||
    "169.254.".toList.isPrefixOf hostname || hostname == "::1".toList ||
    "fe80:".toList.isPrefixOf hostname

def badRequest (message : String) : Failure := .api 400 message none

def invalidBackend : Failure := badRequest "Each backend must be a valid HTTP or HTTPS URL."

/-- `/[\u0000-\u001f\u007f]/`. -/
def hasControl (s : String) : Bool := s.toList.any fun c => c.toNat < 0x20 || c.toNat == 0x7f

variable (js : UrlParser)

/-- One backend of `validateBackends`. -/
def validateBackend (backend : Json) : Except Failure String :=
  match backend with
  | .str text =>
      if hasControl text then .error invalidBackend
      else
        match js.parse text with
        | none => .error invalidBackend
        | some url =>
            if !(["http:", "https:"].contains url.protocol) || url.username != "" ||
                url.password != "" || url.hash != "" || url.search != "" ||
                url.hostname == "" then
              .error (badRequest ("Each backend must be an absolute HTTP or HTTPS URL " ++
                "without credentials, query, or fragments."))
            else if unsafeBackendTarget (bareHostname url.hostname) then
              .error (.api 400
                ("Backend loopback, metadata, unspecified, and link-local targets are " ++
                  "not allowed.") (some "unsafe_backend_target"))
            else .ok url.href
  | _ => .error invalidBackend

def validateBackends (value : Json) : Except Failure (List String) :=
  match value with
  | .arr items =>
      if items.length < 1 ∨ items.length > 20 then
        .error (badRequest "backends must contain between 1 and 20 URLs.")
      else items.mapM (validateBackend js)
  | _ => .error (badRequest "backends must contain between 1 and 20 URLs.")

/-! ### Publish targets -/

inductive TargetKind where
  | hostPort
  | url
deriving DecidableEq

/-- `/^\d{1,5}$/`. -/
def isPortText (cs : List Char) : Bool :=
  decide (1 ≤ cs.length) && decide (cs.length ≤ 5) && cs.all Char.isDigit

def invalidTarget (message : String) : Failure :=
  .api 400 message (some "invalid_publish_target")

/-- The URL a target stands for, before it is checked. -/
def publishCandidate (targetKind : TargetKind) (value : String) : Except Failure String :=
  if jsLength value.toList < 1 ∨ jsLength value.toList > 2048 ∨ trim value ≠ value ∨
      hasControl value then .error (invalidTarget "The publish target is invalid.")
  else
    match targetKind with
    | .url => .ok value
    | .hostPort =>
        let candidate := if isPortText value.toList then "localhost:" ++ value else value
        match splitFirst ':' candidate.toList with
        | (host, some portValue) =>
            let hostText := String.ofList (asciiLower (String.ofList host))
            if !(["localhost", "host.docker.internal"].contains hostText) ||
                !isPortText portValue then
              .error (invalidTarget ("Host port targets must use a port, localhost:port, " ++
                "or host.docker.internal:port."))
            else
              let port := ComposePolicy.digits portValue
              if port < 1 ∨ port > 65535 then
                .error (invalidTarget "The host port is out of range.")
              else
                .ok ("http://" ++
                  (if hostText = "localhost" then "host.docker.internal" else hostText) ++ ":" ++
                  toString port)
        | _ => .error (invalidTarget ("Host port targets must use a port, localhost:port, " ++
            "or host.docker.internal:port."))

def normalizePublishTarget (targetKind : TargetKind) (value : String) :
    Except Failure String := do
  let candidate ← publishCandidate targetKind value
  let backends ← validateBackends js (.arr [.str candidate])
  let normalized := backends.headD ""
  match js.parse normalized with
  | none => .error (.other "Invalid URL")
  | some parsed =>
      if parsed.pathname ≠ "/" then
        .error (invalidTarget "Guided publish targets cannot include a path.")
      else .ok (withoutSlash normalized)

/-! ### What the filter misses -/

/-- The hosts of metadata services the filter knows. -/
def isKnownMetadata : Host → Bool
  | .domain d => d.name == "metadata.google.internal" || d.name == "instance-data"
  | .ipv4 a => a.isLinkLocal
  | .ipv6 _ => false

section Targets

variable (metadata : Target → Prop)

/-- What no backend may denote; which targets serve metadata is given. -/
def Forbidden (t : Target) : Prop :=
  t.isLoopback ∨ t.isUnspecified ∨ t.isLinkLocal ∨ metadata t

/-- A forbidden name with a final dot, an IPv4-mapped address of a forbidden one, a link-local
address that does not begin with `fe80`, and a metadata service the filter does not know. -/
inductive Missed : Host → Prop
  | dotted (d : Domain) (hdot : d.name.toList.getLast? = some '.')
      (h : Forbidden metadata (Host.domain d).target) : Missed (.domain d)
  | mapped (p : Ipv6) (a : Ipv4) (hmapped : p.mapped = some a)
      (h : Forbidden metadata (.ipv4 a)) : Missed (.ipv6 p)
  | linkLocal (p : Ipv6) (h : p.isLinkLocal) (hfirst : p.pieces.head? ≠ some 0xfe80) :
      Missed (.ipv6 p)
  | metadata (host : Host) (h : metadata host.target) (hknown : isKnownMetadata host = false) :
      Missed host

/-- The URL's host is nothing forbidden. -/
def Safe (text : String) : Prop :=
  ∀ u host, js.parse text = some u → u.host = some host → ¬ Forbidden metadata host.target

end Targets

variable {js} {metadata : Target → Prop}

/-! ### The host's text in the filter -/

lemma lowerFrom_append {m : CaseMapping} {as rest : List Char} :
    ∀ {before : List Char}, (∀ c ∈ as, c.toNat < 128 ∧ c.toLower = c) →
      lowerFrom m before (as ++ rest) = as ++ lowerFrom m (as.reverse ++ before) rest := by
  induction as with
  | nil => exact fun _ => rfl
  | cons c as ih =>
    intro before h
    have hc := h c List.mem_cons_self
    rw [List.cons_append, lowerFrom, ih fun d hd => h d (List.mem_cons_of_mem _ hd)]
    simp [lowerAt, hc.1, hc.2]

/-- A bracket at the end is not part of what stands before it. -/
lemma prefix_dropLast {as cs : List Char} (h : as <+: cs) (hbracket : ']' ∉ as) :
    as <+: (if cs.getLast? = some ']' then cs.dropLast else cs) := by
  split_ifs with hlast
  · obtain ⟨rest, rfl⟩ := h
    rcases List.eq_nil_or_concat rest with rfl | ⟨front, c, rfl⟩
    · rw [List.append_nil] at hlast
      exact absurd (List.mem_of_getLast? hlast) hbracket
    · rw [List.concat_eq_append, ← List.append_assoc, List.dropLast_concat]
      exact List.prefix_append as front
  · exact h

/-- What the filter reads begins as the host's text does. -/
lemma prefix_bareHostname (as rest : List Char)
    (hplain : (as.all fun c => decide (c.toNat < 128 ∧ c.toLower = c)) = true)
    (hopen : as.head? ≠ some '[') (hne : as ≠ []) (hclose : ']' ∉ as) :
    as <+: bareHostname (String.ofList (as ++ rest)) ∧
      as <+: bareHostname (String.ofList ('[' :: (as ++ rest))) := by
  replace hplain : ∀ c ∈ as, c.toNat < 128 ∧ c.toLower = c := by simpa using hplain
  have hlower : (lower (String.ofList (as ++ rest))).toList =
      as ++ lowerFrom .caseless as.reverse rest := by
    unfold lower toLowerCase
    rw [String.toList_ofList, String.toList_ofList, lowerFrom_append hplain, List.append_nil]
  have hlower' : (lower (String.ofList ('[' :: (as ++ rest)))).toList =
      '[' :: (as ++ lowerFrom .caseless (as.reverse ++ ['[']) rest) := by
    unfold lower toLowerCase
    rw [String.toList_ofList, String.toList_ofList, lowerFrom, lowerFrom_append hplain]
    rfl
  have hhead : ∀ tail : List Char, (as ++ tail).head? ≠ some '[' := by
    intro tail
    rw [List.head?_append_of_ne_nil _ hne]
    exact hopen
  unfold bareHostname
  constructor
  · rw [hlower]
    dsimp only
    rw [if_neg (hhead _)]
    exact prefix_dropLast (List.prefix_append _ _) hclose
  · rw [hlower']
    dsimp only
    rw [List.head?_cons, if_pos rfl, List.tail_cons]
    exact prefix_dropLast (List.prefix_append _ _) hclose

lemma bareHostname_domain (d : Domain) : bareHostname d.name = d.name.toList := by
  have hplain : ∀ c ∈ d.name.toList, (c.toNat < 128 ∧ c.toLower = c) ∧ c ≠ '[' ∧ c ≠ ']' := by
    intro c hc
    have hchar := List.all_eq_true.mp d.plain c hc
    simp only [isDomainChar, Bool.and_eq_true, decide_eq_true_eq, beq_iff_eq, bne_iff_ne] at hchar
    exact ⟨hchar.1.1.1, hchar.1.1.2, hchar.1.2⟩
  have hlower : (lower d.name).toList = d.name.toList := by
    unfold lower toLowerCase
    rw [String.toList_ofList, lowerFrom_plain fun c hc => (hplain c hc).1]
  have hopen : d.name.toList.head? ≠ some '[' :=
    fun h => (hplain _ (List.mem_of_head? h)).2.1 rfl
  have hclose : d.name.toList.getLast? ≠ some ']' :=
    fun h => (hplain _ (List.mem_of_getLast? h)).2.2 rfl
  unfold bareHostname
  rw [hlower]
  dsimp only
  rw [if_neg hopen, if_neg hclose]

/-! ### What the filter refuses -/

lemma refused_of_prefix {w name : List Char} (h : w <+: name)
    (hw : w ∈ ["127.".toList, "169.254.".toList, "fe80:".toList]) :
    unsafeBackendTarget name = true := by
  have hleading := List.isPrefixOf_iff_prefix.mpr h
  unfold unsafeBackendTarget
  rcases List.mem_cons.mp hw with rfl | hw
  · rw [hleading]
    simp
  rcases List.mem_cons.mp hw with rfl | hw
  · rw [hleading]
    simp
  · obtain rfl := List.mem_singleton.mp hw
    rw [hleading]
    simp

lemma refused_localName {name : List Char} (h : isLocalName name) :
    unsafeBackendTarget name = true := by
  simp only [isLocalName, Bool.or_eq_true, beq_iff_eq] at h
  unfold unsafeBackendTarget
  rcases h with (rfl | hsuffix) | rfl
  · decide
  · rw [hsuffix]
    simp
  · decide

/-- The text of an address, from its octets. -/
lemma text_ipv4 (a b c d : BitVec 8) : (Host.ipv4 ⟨a, b, c, d⟩).text =
    String.ofList (decimal a ++ '.' :: (decimal b ++ '.' :: (decimal c ++ '.' :: decimal d))) := by
  simp [Host.text, Ipv4.text]

lemma refused_ipv4 {a : Ipv4} (h : a.isLoopback ∨ a.isUnspecified ∨ a.isLinkLocal) :
    unsafeBackendTarget (bareHostname (Host.ipv4 a).text) = true := by
  obtain ⟨a, b, c, d⟩ := a
  simp only [Ipv4.isLoopback, Ipv4.isUnspecified, Ipv4.isLinkLocal, beq_iff_eq, Bool.and_eq_true,
    Ipv4.mk.injEq] at h
  rw [text_ipv4]
  rcases h with rfl | ⟨rfl, rfl, rfl, rfl⟩ | ⟨rfl, rfl⟩
  · have hstart := prefix_bareHostname "127.".toList
      (decimal b ++ '.' :: (decimal c ++ '.' :: decimal d)) (by decide) (by decide) (by decide)
      (by decide)
    exact refused_of_prefix hstart.1 (by decide)
  · decide
  · have hstart := prefix_bareHostname "169.254.".toList (decimal c ++ '.' :: decimal d)
      (by decide) (by decide) (by decide) (by decide)
    exact refused_of_prefix hstart.1 (by decide)

/-- The text of an address in brackets. -/
lemma text_ipv6 {p : Ipv6} {cs : List Char} (h : p.text = cs) :
    (Host.ipv6 p).text = String.ofList ('[' :: (cs ++ [']'])) := by
  change String.ofList ('[' :: p.text ++ [']']) = _
  rw [h, List.cons_append]

lemma refused_fe80 {p : Ipv6} (h : p.pieces.head? = some 0xfe80) :
    unsafeBackendTarget (bareHostname (Host.ipv6 p).text) = true := by
  obtain ⟨ps, hpieces⟩ := List.head?_eq_some_iff.mp h
  obtain ⟨rest, hrest⟩ := text_of_first_ne_zero hpieces (by decide)
  have hhex : hexadecimal 0xfe80 ++ [':'] = "fe80:".toList := by decide
  rw [hhex] at hrest
  have hstart := prefix_bareHostname "fe80:".toList (rest ++ [']']) (by decide) (by decide)
    (by decide) (by decide)
  rw [text_ipv6 hrest.symm, List.append_assoc]
  exact refused_of_prefix hstart.2 (by decide)

/-- A host that is forbidden and passes the filter is one of those it misses. -/
lemma missed_of_forbidden {host : Host}
    (hpass : unsafeBackendTarget (bareHostname host.text) = false)
    (h : Forbidden metadata host.target) : Missed metadata host := by
  by_cases hknown : metadata host.target ∧ isKnownMetadata host = false
  · exact .metadata host hknown.1 hknown.2
  rw [not_and, Bool.not_eq_false] at hknown
  cases host with
  | domain d =>
    by_cases hdot : d.name.toList.getLast? = some '.'
    · exact .dotted d hdot h
    exfalso
    have htarget : (Host.domain d).target = .name d.name.toList := by
      change Target.name (withoutDot d.name.toList) = _
      unfold withoutDot
      rw [if_neg hdot]
    change unsafeBackendTarget (bareHostname d.name) = false at hpass
    rw [bareHostname_domain] at hpass
    rw [htarget] at h hknown
    rcases h with hlocal | hfalse | hfalse | hmetadata
    · rw [refused_localName hlocal] at hpass
      cases hpass
    · cases hfalse
    · cases hfalse
    · have hname := hknown hmetadata
      simp only [isKnownMetadata, Bool.or_eq_true, beq_iff_eq] at hname
      rcases hname with hname | hname <;> (rw [hname] at hpass; revert hpass; decide)
  | ipv4 a =>
    exfalso
    have hrefused : a.isLoopback ∨ a.isUnspecified ∨ a.isLinkLocal := by
      rcases h with h | h | h | h
      · exact Or.inl h
      · exact Or.inr (Or.inl h)
      · exact Or.inr (Or.inr h)
      · exact Or.inr (Or.inr (hknown h))
    rw [refused_ipv4 hrefused] at hpass
    cases hpass
  | ipv6 p =>
    cases hmapped : p.mapped with
    | some a =>
      have htarget : (Host.ipv6 p).target = .ipv4 a := by
        unfold Host.target
        simp only [hmapped]
      rw [htarget] at h
      exact .mapped p a hmapped h
    | none =>
      have htarget : (Host.ipv6 p).target = .ipv6 p := by
        unfold Host.target
        simp only [hmapped]
      rw [htarget] at h hknown
      rcases h with hloop | hzero | hlink | hmetadata
      · exfalso
        obtain rfl : p = loopbackIpv6 := by simpa [Target.isLoopback] using hloop
        revert hpass
        decide
      · exfalso
        obtain rfl : p = unspecifiedIpv6 := by simpa [Target.isUnspecified] using hzero
        revert hpass
        decide
      · refine .linkLocal p hlink fun hfirst => ?_
        rw [refused_fe80 hfirst] at hpass
        cases hpass
      · cases hknown hmetadata

/-- Those it misses are forbidden. -/
lemma forbidden_of_missed {host : Host} (h : Missed metadata host) :
    Forbidden metadata host.target := by
  cases h with
  | dotted d _ h => exact h
  | mapped p a hmapped h =>
    unfold Host.target
    simp only [hmapped]
    exact h
  | linkLocal p h _ =>
    have hmapped : p.mapped = none := by
      unfold Ipv6.mapped
      split
      · next high low hpieces =>
        simp only [Ipv6.isLinkLocal, hpieces, List.head?_cons, Option.any_some] at h
        exact absurd h (by decide)
      · rfl
    unfold Host.target
    simp only [hmapped]
    exact Or.inr (Or.inr (Or.inl h))
  | metadata host h _ => exact Or.inr (Or.inr (Or.inr h))

/-! ### Accepted targets -/

/-- What an accepted backend was parsed as. -/
lemma validateBackend_ok {backend : Json} {href : String}
    (h : validateBackend js backend = .ok href) :
    ∃ text u host, backend = .str text ∧ js.parse text = some u ∧ u.host = some host ∧
      u.href = href ∧ u.search = "" ∧ u.hash = "" ∧
      unsafeBackendTarget (bareHostname host.text) = false := by
  unfold validateBackend at h
  split at h
  swap
  · cases h
  rename_i text
  split_ifs at h
  split at h
  · cases h
  rename_i u hparse
  split_ifs at h with hurl hfilter
  simp only [Bool.or_eq_true, not_or, bne_iff_ne, ne_eq, not_not, beq_iff_eq] at hurl
  obtain ⟨⟨⟨-, hhash⟩, hsearch⟩, hhost⟩ := hurl
  cases hu : u.host with
  | none =>
    rw [Url.hostname, hu] at hhost
    exact absurd rfl hhost
  | some host =>
    rw [Url.hostname, hu] at hfilter
    exact ⟨text, u, host, rfl, hparse, hu, Except.ok.inj h, hsearch, hhash, by simpa using hfilter⟩

/-- An accepted backend is safe unless the filter misses its host. -/
lemma safe_of_parse {text : String} {u : Url} {host : Host} (hparse : js.parse text = some u)
    (hhost : u.host = some host) (hpass : unsafeBackendTarget (bareHostname host.text) = false) :
    Safe js metadata text ↔ ¬ Missed metadata host := by
  constructor
  · intro h hmissed
    exact h u host hparse hhost (forbidden_of_missed hmissed)
  · intro h u' host' hparse' hhost' hforbidden
    rw [hparse] at hparse'
    obtain rfl := Option.some.inj hparse'
    rw [hhost] at hhost'
    obtain rfl := Option.some.inj hhost'
    exact h (missed_of_forbidden hpass hforbidden)

lemma safe_backends {items : List Json} {backends : List String}
    (h : List.Forall₂ (fun item backend => validateBackend js item = .ok backend) items backends) :
    (∀ backend ∈ backends, Safe js metadata backend) ↔
      ∀ text u host, .str text ∈ items → js.parse text = some u → u.host = some host →
        ¬ Missed metadata host := by
  induction h with
  | nil => simp
  | cons hitem _ ih =>
    obtain ⟨text, u, host, rfl, hparse, hhost, rfl, -, -, hpass⟩ := validateBackend_ok hitem
    rw [List.forall_mem_cons, ih, safe_of_parse (js.reparse text u hparse) hhost hpass]
    constructor
    · rintro ⟨hfirst, hrest⟩ text' u' host' hmem hparse' hhost'
      rcases List.mem_cons.mp hmem with heq | hmem
      · obtain rfl := Json.str.inj heq
        rw [hparse] at hparse'
        obtain rfl := Option.some.inj hparse'
        rw [hhost] at hhost'
        obtain rfl := Option.some.inj hhost'
        exact hfirst
      · exact hrest text' u' host' hmem hparse' hhost'
    · intro hall
      exact ⟨hall text u host List.mem_cons_self hparse hhost, fun text' u' host' hmem =>
        hall text' u' host' (List.mem_cons_of_mem _ hmem)⟩

lemma safe_target {targetKind : TargetKind} {value target : String}
    (h : normalizePublishTarget js targetKind value = .ok target) :
    ∃ candidate, publishCandidate targetKind value = .ok candidate ∧
      (Safe js metadata target ↔ ∀ u host, js.parse candidate = some u → u.host = some host →
        ¬ Missed metadata host) := by
  obtain ⟨candidate, hcandidate, h⟩ := Checks.bind_eq_ok.mp h
  obtain ⟨backends, hbackends, h⟩ := Checks.bind_eq_ok.mp h
  refine ⟨candidate, hcandidate, ?_⟩
  -- the one backend is the candidate as the parser writes it back
  unfold validateBackends at hbackends
  dsimp only at hbackends
  rw [if_neg (by simp)] at hbackends
  obtain ⟨_, href, hitem, hnil, rfl⟩ : ∃ x href, validateBackend js (.str candidate) = .ok href ∧
      x = ([] : List String) ∧ backends = href :: x := by
    cases Checks.mapM_ok hbackends with
    | cons hitem hrest =>
      cases hrest
      exact ⟨[], _, hitem, rfl, rfl⟩
  subst hnil
  obtain ⟨text, u, host, heq, hparse, hhost, rfl, hsearch, hhash, hpass⟩ := validateBackend_ok hitem
  obtain rfl := Json.str.inj heq
  dsimp only [List.headD_cons] at h
  rw [js.reparse _ u hparse] at h
  dsimp only at h
  split_ifs at h with hpath
  obtain rfl := Except.ok.inj h
  have hbare := js.bare _ u hparse (not_not.mp hpath) hsearch hhash
  rw [safe_of_parse hbare hhost hpass]
  constructor
  · intro hmiss u' host' hparse' hhost'
    rw [hparse] at hparse'
    obtain rfl := Option.some.inj hparse'
    rw [hhost] at hhost'
    obtain rfl := Option.some.inj hhost'
    exact hmiss
  · exact fun hall => hall u host hparse hhost

/-- **What backends can be.** The backends of an accepted request, as they are stored, are
safe iff the filter misses the host of none; and so is a publish target, by the host of the
URL it stands for. -/
theorem accepted_safe_iff (js : UrlParser) (metadata : Target → Prop) :
    (∀ items backends, validateBackends js (.arr items) = .ok backends →
      ((∀ backend ∈ backends, Safe js metadata backend) ↔
        ∀ text u host, .str text ∈ items → js.parse text = some u → u.host = some host →
          ¬ Missed metadata host)) ∧
    ∀ targetKind value target, normalizePublishTarget js targetKind value = .ok target →
      ∃ candidate, publishCandidate targetKind value = .ok candidate ∧
        (Safe js metadata target ↔
          ∀ u host, js.parse candidate = some u → u.host = some host →
            ¬ Missed metadata host) := by
  refine ⟨fun items backends h => ?_, fun targetKind value target h => safe_target h⟩
  unfold validateBackends at h
  dsimp only at h
  split_ifs at h
  exact safe_backends (Checks.mapM_ok h)

/-! ### Two small parsers -/

/-- A parser that knows one URL, in three spellings. -/
def knowingUrl (u : Url) (text : String) : UrlParser where
  parse := fun s => if s = text ∨ s = u.href ∨ s = withoutSlash u.href then some u else none
  reparse := by
    intro s v h
    split_ifs at h
    obtain rfl := Option.some.inj h
    simp
  bare := by
    intro s v h _ _ _
    split_ifs at h
    obtain rfl := Option.some.inj h
    simp

def appUrl : Url :=
  ⟨"http:", "", "", some (.domain ⟨"app", by decide⟩), "/", "", "", "http://app:8080/"⟩

def mappedUrl : Url :=
  ⟨"http:", "", "", some (.ipv6 ⟨[0, 0, 0, 0, 0, 0xffff, 0x7f00, 1], rfl⟩), "/", "", "",
    "http://[::ffff:7f00:1]:8080/"⟩

theorem accepted_safe_app :
    validateBackends (knowingUrl appUrl "http://APP:8080") (.arr [.str "http://APP:8080"]) =
      .ok ["http://app:8080/"] ∧
    Safe (knowingUrl appUrl "http://APP:8080") (fun _ => False) "http://app:8080/" ∧
    normalizePublishTarget (knowingUrl appUrl "http://APP:8080") .url "http://APP:8080" =
      .ok "http://app:8080" ∧
    Safe (knowingUrl appUrl "http://APP:8080") (fun _ => False) "http://app:8080" := by
  have hboth := accepted_safe_iff (knowingUrl appUrl "http://APP:8080") fun _ => False
  have hbackends : validateBackends (knowingUrl appUrl "http://APP:8080")
      (.arr [.str "http://APP:8080"]) = .ok ["http://app:8080/"] := rfl
  have htarget : normalizePublishTarget (knowingUrl appUrl "http://APP:8080") .url
      "http://APP:8080" = .ok "http://app:8080" := rfl
  have hmiss : ¬ Missed (fun _ => False) (.domain ⟨"app", by decide⟩) := by
    rintro (⟨_, hdot, -⟩ | _ | _ | ⟨_, h, -⟩)
    · revert hdot
      decide
    · exact h
  have hparsed : ∀ {s u}, (knowingUrl appUrl "http://APP:8080").parse s = some u → u = appUrl := by
    intro s u h
    simp only [knowingUrl] at h
    split_ifs at h
    exact (Option.some.inj h).symm
  have hhost : ∀ {s u host}, (knowingUrl appUrl "http://APP:8080").parse s = some u →
      u.host = some host → ¬ Missed (fun _ => False) host := by
    intro s u host hparse hhost
    rw [hparsed hparse] at hhost
    obtain rfl := Option.some.inj hhost
    exact hmiss
  refine ⟨hbackends, ?_, htarget, ?_⟩
  · exact (hboth.1 _ _ hbackends).mpr (fun _ _ _ _ => hhost) _ List.mem_cons_self
  · obtain ⟨_, -, hsafe⟩ := hboth.2 _ _ _ htarget
    exact hsafe.mpr fun _ _ => hhost

/-- The IPv4-mapped form of a loopback address is accepted, and stored. -/
theorem mapped_accepted :
    validateBackends (knowingUrl mappedUrl "http://[::ffff:127.0.0.1]:8080")
      (.arr [.str "http://[::ffff:127.0.0.1]:8080"]) = .ok ["http://[::ffff:7f00:1]:8080/"] ∧
    ¬ Safe (knowingUrl mappedUrl "http://[::ffff:127.0.0.1]:8080") (fun _ => False)
      "http://[::ffff:7f00:1]:8080/" ∧
    normalizePublishTarget (knowingUrl mappedUrl "http://[::ffff:127.0.0.1]:8080") .url
      "http://[::ffff:127.0.0.1]:8080" = .ok "http://[::ffff:7f00:1]:8080" ∧
    ¬ Safe (knowingUrl mappedUrl "http://[::ffff:127.0.0.1]:8080") (fun _ => False)
      "http://[::ffff:7f00:1]:8080" := by
  have hloop : Forbidden (fun _ => False)
      (Host.ipv6 ⟨[0, 0, 0, 0, 0, 0xffff, 0x7f00, 1], rfl⟩).target :=
    Or.inl (by decide)
  exact ⟨rfl, fun h => h mappedUrl _ rfl rfl hloop, rfl, fun h => h mappedUrl _ rfl rfl hloop⟩

end GatewayControl.BackendTargets
