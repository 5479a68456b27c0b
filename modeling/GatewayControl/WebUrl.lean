import Mathlib.Data.List.TakeWhile
import GatewayControl.Text

/-!
Parsing of absolute `https` URLs, as the URL standard describes it. The path is a list of
segments; dot segments, also percent-encoded ones, are resolved while it is read.
-/

namespace GatewayControl.WebUrl

open Text

/-- The parts of a URL between the scheme and the path. -/
structure Authority where
  username : String := ""
  password : String := ""
  hostname : String
  port : String := ""
deriving DecidableEq

/-- `path` has the segments between the slashes; `rest` is the query and the fragment. -/
structure Url extends Authority where
  protocol : String
  path : List String
  rest : String
deriving DecidableEq

/-! ### Percent-encoding -/

def hexDigit (n : ℕ) : Char := "0123456789ABCDEF".toList.getD n '0'

def percentByte (b : UInt8) : List Char := ['%', hexDigit (b.toNat / 16), hexDigit (b.toNat % 16)]

def percentEncode (encoded : Char → Bool) (c : Char) : List Char :=
  if encoded c then (String.singleton c).toUTF8.toList.flatMap percentByte else [c]

/-- The path percent-encode set. -/
def pathSet (c : Char) : Bool :=
  c.toNat ≤ 0x20 || 0x7e < c.toNat ||
    ['"', '#', '<', '>', '?', '^', '\x60', '\x7b', '\x7d'].contains c

/-! ### Paths -/

def lowered (segment : List Char) : List Char := asciiLower (String.ofList segment)

def isDot (segment : List Char) : Bool := [".".toList, "%2e".toList].contains (lowered segment)

def isDotDot (segment : List Char) : Bool :=
  ["..".toList, ".%2e".toList, "%2e.".toList, "%2e%2e".toList].contains (lowered segment)

/-- What is read next, after the segments of a path. -/
def addSegment (path : List String) (segment : List Char) (last : Bool) : List String :=
  if isDotDot segment then path.dropLast ++ if last then [""] else []
  else if isDot segment then path ++ if last then [""] else []
  else path ++ [String.ofList (segment.flatMap (percentEncode pathSet))]

def addSegments (path : List String) : List (List Char) → List String
  | [] => path
  | [segment] => addSegment path segment true
  | segment :: rest => addSegments (addSegment path segment false) rest

def isSlash (c : Char) : Bool := c = '/' || c = '\\'

def parsePath (text : List Char) : List String := addSegments [] (text.splitOnP isSlash)

/-! ### URLs -/

def isC0OrSpace (c : Char) : Bool := c.toNat ≤ 0x20

def isTabOrNewline (c : Char) : Bool := c = '\t' || c = '\n' || c = '\r'

/-- What ends the authority of a URL. -/
def endsAuthority (c : Char) : Bool := isSlash c || c = '?' || c = '#'

def endsPath (c : Char) : Bool := c = '?' || c = '#'

/-- `authority` parses what stands between the scheme and the path: `none` for a failure. A URL
of another scheme is not parsed here. -/
def parseUrl (authority : String → Option Authority) (input : String) : Option Url :=
  let text := (trimBoth isC0OrSpace input.toList).filter fun c => !isTabOrNewline c
  if lowered (text.take 6) = "https:".toList then
    let special := (text.drop 6).dropWhile isSlash
    let following := special.dropWhile fun c => !endsAuthority c
    (authority (String.ofList (special.takeWhile fun c => !endsAuthority c))).map fun a =>
      { toAuthority := a
        protocol := "https:"
        path := parsePath ((following.takeWhile fun c => !endsPath c).drop 1)
        rest := String.ofList (following.dropWhile fun c => !endsPath c) }
  else none

/-! ### Texts that parsing leaves as they are -/

/-- Characters that stand for themselves and end nothing. -/
def plain (c : Char) : Bool := c.isAlphanum || c = '.' || c = '_' || c = '-'

lemma plain_range {c : Char} (h : plain c = true) : 0x2d ≤ c.toNat ∧ c.toNat ≤ 0x7a ∧
    c.toNat ∉ [0x2f, 0x3a, 0x3c, 0x3e, 0x3f, 0x5c, 0x5e, 0x60] := by
  simp only [plain, Bool.or_eq_true, decide_eq_true_eq] at h
  rcases h with ((h | rfl) | rfl) | rfl
  · rw [isAlphanum_iff, isUpper_iff, isLower_iff, isDigit_iff] at h
    simp only [List.mem_cons, List.not_mem_nil, or_false, not_or]
    omega
  · decide
  · decide
  · decide

lemma plain_ne {c d : Char} (hc : plain c = true) (hd : plain d = false) : c ≠ d := by
  rintro rfl
  rw [hc] at hd
  cases hd

lemma plain_isSlash {c : Char} (h : plain c = true) : isSlash c = false := by
  have hslash : c ≠ '/' := plain_ne h (by decide)
  have hback : c ≠ '\\' := plain_ne h (by decide)
  simp [isSlash, hslash, hback]

lemma plain_endsPath {c : Char} (h : plain c = true) : endsPath c = false := by
  have hquery : c ≠ '?' := plain_ne h (by decide)
  have hhash : c ≠ '#' := plain_ne h (by decide)
  simp [endsPath, hquery, hhash]

lemma plain_endsAuthority {c : Char} (h : plain c = true) : endsAuthority c = false := by
  have hend := plain_endsPath h
  unfold endsPath at hend
  unfold endsAuthority
  rw [plain_isSlash h, Bool.false_or]
  exact hend

lemma plain_visible {c : Char} (h : plain c = true) :
    isC0OrSpace c = false ∧ isTabOrNewline c = false := by
  obtain ⟨hlow, -, -⟩ := plain_range h
  have htab : c ≠ '\t' := plain_ne h (by decide)
  have hline : c ≠ '\n' := plain_ne h (by decide)
  have hreturn : c ≠ '\r' := plain_ne h (by decide)
  refine ⟨?_, by simp [isTabOrNewline, htab, hline, hreturn]⟩
  unfold isC0OrSpace
  rw [decide_eq_false_iff_not]
  omega

lemma plain_pathSet {c : Char} (h : plain c = true) : pathSet c = false := by
  obtain ⟨hlow, hhigh, -⟩ := plain_range h
  have hne : ∀ d, plain d = false → c ≠ d := fun d hd => plain_ne h hd
  simp only [pathSet, Bool.or_eq_false_iff, decide_eq_false_iff_not, List.contains_eq_mem,
    List.mem_cons, List.not_mem_nil, or_false, not_or]
  refine ⟨⟨by omega, by omega⟩, ?_⟩
  exact ⟨hne _ (by decide), hne _ (by decide), hne _ (by decide), hne _ (by decide),
    hne _ (by decide), hne _ (by decide), hne _ (by decide), hne _ (by decide), hne _ (by decide)⟩

lemma encode_plain {segment : List Char} (h : ∀ c ∈ segment, plain c = true) :
    segment.flatMap (percentEncode pathSet) = segment := by
  induction segment with
  | nil => rfl
  | cons c cs ih =>
    have hc : percentEncode pathSet c = [c] := by
      unfold percentEncode
      rw [plain_pathSet (h c List.mem_cons_self)]
      rfl
    rw [List.flatMap_cons, hc, ih fun c' hc' => h c' (List.mem_cons_of_mem _ hc')]
    rfl

lemma toNat_lowered : ∀ n < 91, (Char.ofNat (n + 32)).toNat = n + 32 := by decide

/-- Only capital letters are lowered, and to letters. -/
lemma eq_of_lowered {segment : List Char} {dots : List Char} (hdots : ∀ c ∈ dots, c.toNat < 65)
    (heq : lowered segment = dots) : segment = dots := by
  unfold lowered asciiLower at heq
  rw [String.toList_ofList] at heq
  subst heq
  refine ((List.map_congr_left fun c hc => ?_).trans (List.map_id segment)).symm
  have hsmall := hdots _ (List.mem_map_of_mem hc)
  split at hsmall
  · next hupper =>
    have hlow : 65 ≤ c.toNat := hupper.1
    have hhigh : c.toNat ≤ 90 := hupper.2
    rw [toNat_lowered _ (by omega)] at hsmall
    omega
  · next hupper => exact if_neg hupper

lemma mem_of_mem_lowered {segment : List Char} {c : Char} (hc : c.toNat < 65)
    (h : c ∈ lowered segment) : c ∈ segment := by
  unfold lowered asciiLower at h
  rw [String.toList_ofList] at h
  obtain ⟨d, hd, heq⟩ := List.mem_map.mp h
  split at heq
  · next hupper =>
    have hlow : 65 ≤ d.toNat := hupper.1
    have hhigh : d.toNat ≤ 90 := hupper.2
    rw [← heq, toNat_lowered _ (by omega)] at hc
    omega
  · exact heq ▸ hd

lemma no_percent {segment : List Char} (h : ∀ c ∈ segment, plain c = true) :
    '%' ∉ lowered segment := by
  intro hmem
  exact plain_ne (h _ (mem_of_mem_lowered (by decide) hmem)) (by decide) rfl

lemma isDot_plain {segment : List Char} (h : ∀ c ∈ segment, plain c = true) :
    isDot segment = true ↔ segment = ".".toList := by
  constructor
  · intro hdot
    simp only [isDot, List.contains_eq_mem, List.mem_cons, List.not_mem_nil, or_false,
      decide_eq_true_eq] at hdot
    rcases hdot with hdot | hdot
    · exact eq_of_lowered (forall_of_all (by decide)) hdot
    · exact absurd (by rw [hdot]; decide) (no_percent h)
  · rintro rfl
    decide

lemma isDotDot_plain {segment : List Char} (h : ∀ c ∈ segment, plain c = true) :
    isDotDot segment = true ↔ segment = "..".toList := by
  constructor
  · intro hdots
    simp only [isDotDot, List.contains_eq_mem, List.mem_cons, List.not_mem_nil, or_false,
      decide_eq_true_eq] at hdots
    rcases hdots with hdots | hdots | hdots | hdots
    · exact eq_of_lowered (forall_of_all (by decide)) hdots
    all_goals exact absurd (by rw [hdots]; decide) (no_percent h)
  · rintro rfl
    decide

/-- A segment that is kept. -/
def Kept (segment : List Char) : Prop :=
  (∀ c ∈ segment, plain c = true) ∧ segment ≠ ".".toList ∧ segment ≠ "..".toList

lemma addSegment_kept {segment : List Char} (h : Kept segment) (path : List String) (last : Bool) :
    addSegment path segment last = path ++ [String.ofList segment] := by
  obtain ⟨hplain, hdot, hdots⟩ := h
  unfold addSegment
  rw [if_neg (fun hd => hdots ((isDotDot_plain hplain).mp hd)),
    if_neg (fun hd => hdot ((isDot_plain hplain).mp hd)), encode_plain hplain]

lemma addSegments_cons (path : List String) (segment : List Char) {rest : List (List Char)}
    (h : rest ≠ []) :
    addSegments path (segment :: rest) = addSegments (addSegment path segment false) rest := by
  rw [addSegments]
  exact h

lemma addSegments_kept {segments : List (List Char)} (h : ∀ segment ∈ segments, Kept segment)
    (path : List String) : addSegments path segments = path ++ segments.map String.ofList := by
  induction segments generalizing path with
  | nil => simp [addSegments]
  | cons segment rest ih =>
    have hfirst := addSegment_kept (h segment List.mem_cons_self) path
    cases rest with
    | nil => simp only [addSegments, hfirst, List.map_cons, List.map_nil]
    | cons next rest =>
      rw [addSegments_cons _ _ (by simp), hfirst, ih fun s hs => h s (List.mem_cons_of_mem _ hs),
        List.append_assoc]
      rfl

lemma splitOnP_joined {segments : List (List Char)}
    (h : ∀ segment ∈ segments, ∀ c ∈ segment, isSlash c = false) (hne : segments ≠ []) :
    (['/'].intercalate segments).splitOnP isSlash = segments := by
  induction segments with
  | nil => exact absurd rfl hne
  | cons segment rest ih =>
    have hsegment := h segment List.mem_cons_self
    cases rest with
    | nil =>
      rw [List.intercalate_singleton]
      exact List.splitOnP_eq_singleton hsegment
    | cons next rest =>
      rw [List.intercalate_cons_of_ne_nil (by simp), List.append_assoc]
      change (segment ++ '/' :: ['/'].intercalate (next :: rest)).splitOnP isSlash = _
      rw [List.splitOnP_append_cons_of_forall_mem hsegment _ (by decide),
        ih (fun s hs => h s (List.mem_cons_of_mem _ hs)) (by simp)]

lemma mem_joined {segments : List (List Char)} {c : Char}
    (h : c ∈ ['/'].intercalate segments) : c = '/' ∨ ∃ segment ∈ segments, c ∈ segment := by
  induction segments with
  | nil => simp at h
  | cons segment rest ih =>
    cases rest with
    | nil =>
      rw [List.intercalate_singleton] at h
      exact .inr ⟨segment, List.mem_cons_self, h⟩
    | cons next rest =>
      rw [List.intercalate_cons_of_ne_nil (by simp), List.append_assoc, List.mem_append,
        List.mem_append, List.mem_singleton] at h
      rcases h with h | h | h
      · exact .inr ⟨segment, List.mem_cons_self, h⟩
      · exact .inl h
      · obtain hslash | ⟨s, hs, hc⟩ := ih h
        · exact .inl hslash
        · exact .inr ⟨s, List.mem_cons_of_mem _ hs, hc⟩

lemma mem_joined_of_mem {segments : List (List Char)} {segment : List Char} {c : Char}
    (hsegment : segment ∈ segments) (hc : c ∈ segment) : c ∈ ['/'].intercalate segments := by
  induction segments with
  | nil => cases hsegment
  | cons first rest ih =>
    cases rest with
    | nil =>
      obtain rfl := List.mem_singleton.mp hsegment
      rwa [List.intercalate_singleton]
    | cons next rest =>
      rw [List.intercalate_cons_of_ne_nil (by simp), List.append_assoc, List.mem_append,
        List.mem_append]
      rcases List.mem_cons.mp hsegment with rfl | hsegment
      · exact .inl hc
      · exact .inr (.inr (ih hsegment))

def plainText (host : List Char) (segments : List (List Char)) : String :=
  String.ofList ("https://".toList ++ (host ++ '/' :: ['/'].intercalate segments))

/-- A URL of plain characters is taken apart at its slashes. -/
lemma parseUrl_plain {authority : String → Option Authority} {host : List Char}
    {segments : List (List Char)} (hhost : ∀ c ∈ host, plain c = true) (hne : host ≠ [])
    (hsegments : ∀ segment ∈ segments, ∀ c ∈ segment, plain c = true) (hsome : segments ≠ []) :
    parseUrl authority (plainText host segments) =
      (authority (String.ofList host)).map fun a =>
        { toAuthority := a, protocol := "https:", path := addSegments [] segments, rest := "" } := by
  have htail : ∀ c ∈ ['/'].intercalate segments, plain c = true ∨ c = '/' := by
    intro c hc
    obtain hslash | ⟨segment, hs, hc⟩ := mem_joined hc
    · exact .inr hslash
    · exact .inl (hsegments segment hs c hc)
  have hvisible : ∀ c ∈ "https://".toList ++ (host ++ '/' :: ['/'].intercalate segments),
      isC0OrSpace c = false ∧ isTabOrNewline c = false := by
    have hscheme : ∀ c ∈ "https://".toList, isC0OrSpace c = false ∧ isTabOrNewline c = false :=
      forall_of_all (by decide)
    intro c hc
    rw [List.mem_append, List.mem_append, List.mem_cons] at hc
    rcases hc with hc | hc | rfl | hc
    · exact hscheme c hc
    · exact plain_visible (hhost c hc)
    · decide
    · obtain hc | rfl := htail c hc
      · exact plain_visible hc
      · decide
  have hends : ∀ c ∈ ['/'].intercalate segments, endsPath c = false := by
    intro c hc
    obtain hc | rfl := htail c hc
    · exact plain_endsPath hc
    · decide
  unfold parseUrl plainText
  rw [String.toList_ofList, trimBoth_of_ends
    (fun c hc => (hvisible c (List.mem_of_mem_head? hc)).1)
    (fun c hc => (hvisible c (List.mem_of_mem_getLast? hc)).1),
    List.filter_eq_self.mpr fun c hc => by rw [(hvisible c hc).2]; rfl]
  obtain ⟨first, rest, rfl⟩ := List.exists_cons_of_ne_nil hne
  have hfirst : isSlash first = false := plain_isSlash (hhost first List.mem_cons_self)
  have hauthority : ∀ c ∈ first :: rest, (!endsAuthority c) = true := by
    intro c hc
    rw [plain_endsAuthority (hhost c hc)]
    rfl
  have htaken : ∀ c ∈ '/' :: ['/'].intercalate segments, (!endsPath c) = true := by
    intro c hc
    rcases List.mem_cons.mp hc with rfl | hc
    · decide
    · rw [hends c hc]
      rfl
  have hscheme : lowered (List.take 6 ("https://".toList ++
      (first :: rest ++ '/' :: ['/'].intercalate segments))) = "https:".toList := by
    change lowered "https:".toList = _
    decide
  have hspecial : ((("https://".toList ++ (first :: rest ++ '/' :: ['/'].intercalate segments)).drop
      6).dropWhile isSlash) = first :: rest ++ '/' :: ['/'].intercalate segments := by
    change (('/' :: '/' :: first :: (rest ++ '/' :: ['/'].intercalate segments)).dropWhile
      isSlash) = _
    rw [List.dropWhile_cons_of_pos (by decide), List.dropWhile_cons_of_pos (by decide),
      List.dropWhile_cons_of_neg (by simp [hfirst])]
    rfl
  dsimp only
  rw [if_pos hscheme, hspecial, List.takeWhile_append_of_pos hauthority,
    List.dropWhile_append_of_pos hauthority, List.takeWhile_cons_of_neg (by decide),
    List.dropWhile_cons_of_neg (by decide), List.append_nil, List.takeWhile_eq_self_iff.mpr htaken,
    List.dropWhile_eq_nil_iff.mpr htaken]
  unfold parsePath
  rw [List.drop_one, List.tail_cons, splitOnP_joined (fun s hs c hc =>
    plain_isSlash (hsegments s hs c hc)) hsome]

end GatewayControl.WebUrl
