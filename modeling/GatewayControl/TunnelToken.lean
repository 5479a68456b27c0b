import GatewayControl.Base64
import GatewayControl.JsonText
import GatewayControl.LimitedOutput
import Mathlib.Data.List.Sort

/-!
The connector token of a Cloudflare tunnel and how the control plane reads it.

A JavaScript string is the list of its code units. Every failure is the same error.
-/

namespace GatewayControl.TunnelToken

open Base64 JsonText

abbrev JsString := List ℕ

/-! ### Base 64 -/

def standard : Alphabet ℕ where
  digit n :=
    if n.val < 26 then 65 + n.val
    else if n.val < 52 then 71 + n.val
    else if n.val < 62 then n.val - 4
    else if n.val = 62 then 43 else 47
  value u :=
    if 65 ≤ u ∧ u ≤ 90 then some (Fin.ofNat 64 (u - 65))
    else if 97 ≤ u ∧ u ≤ 122 then some (Fin.ofNat 64 (u - 71))
    else if 48 ≤ u ∧ u ≤ 57 then some (Fin.ofNat 64 (u + 4))
    else if u = 43 then some 62
    else if u = 47 then some 63 else none
  pad := 61
  value_digit := by decide
  value_pad := by decide

/-- `Buffer.from(value, 'base64')` is asked only for texts of the right shape. -/
def decodeCanonicalBase64 (value : JsString) (minBytes maxBytes : ℕ) : Option (List UInt8) :=
  if value.length = 0 ∨ (maxBytes + 2) / 3 * 4 < value.length ∨ !wellPadded standard value then
    none
  else
    let decoded := decode standard value
    if decoded.length < minBytes ∨ maxBytes < decoded.length ∨ encode standard decoded ≠ value then
      none
    else some decoded

/-! ### UTF-8 -/

/-- The values of the byte after a first byte. -/
def secondRange (b : UInt8) : ℕ × ℕ :=
  if b = 0xE0 then (0xA0, 0xBF)
  else if b = 0xED then (0x80, 0x9F)
  else if b = 0xF0 then (0x90, 0xBF)
  else if b = 0xF4 then (0x80, 0x8F) else (0x80, 0xBF)

/-- How many bytes after the first are replaced along with it, where no character begins. -/
def replacedAlong (b : UInt8) (bytes : List UInt8) : ℕ :=
  if b < 0xE0 ∨ 0xF4 < b then 0
  else
    match bytes with
    | [] => 0
    | c :: bytes =>
        if c.toNat < (secondRange b).1 ∨ (secondRange b).2 < c.toNat then 0
        else
          match bytes with
          | [] => 1
          | d :: _ => if 0xF0 ≤ b ∧ 0x80 ≤ d ∧ d ≤ 0xBF then 2 else 1

/-- `decoded.toString('utf8')`. -/
def toUtf8 : List UInt8 → List Char
  | [] => []
  | b :: rest =>
      match (b :: rest).toByteArray.utf8DecodeChar? 0 with
      | some c => c :: toUtf8 (rest.drop (c.utf8Size - 1))
      | none => '\uFFFD' :: toUtf8 (rest.drop (replacedAlong b rest))
  termination_by bytes => bytes.length
  decreasing_by all_goals simp

/-! ### The keys in the text -/

def isLineTerminator (c : Char) : Bool := ['\n', '\r', '\u2028', '\u2029'].contains c

/-- `(?:[^"\\]|\\.)*"`, whose part of a text is unique. -/
def closeQuote : List Char → Option (List Char × List Char)
  | [] => none
  | '"' :: text => some ([], text)
  | ['\\'] => none
  | '\\' :: c :: text =>
      if isLineTerminator c then none
      else (closeQuote text).map fun r => ('\\' :: c :: r.1, r.2)
  | c :: text => (closeQuote text).map fun r => (c :: r.1, r.2)

/-- A match at the front of a text, without its colon and the space before it, and what follows. -/
def keyAt : List Char → Option (List Char × List Char)
  | '"' :: text =>
      (closeQuote text).bind fun r =>
        match r.2.dropWhile Text.isJsSpace with
        | ':' :: rest => some ('"' :: r.1 ++ ['"'], rest)
        | _ => none
  | _ => none

lemma closeQuote_eq {text body rest : List Char} (h : closeQuote text = some (body, rest)) :
    text = body ++ '"' :: rest := by
  fun_induction closeQuote text generalizing body rest with
  | case1 => cases h
  | case2 text =>
    obtain ⟨rfl, rfl⟩ := Prod.mk.inj (Option.some.inj h)
    rfl
  | case3 => cases h
  | case4 c text hterm => cases h
  | case5 c text hterm ih =>
    obtain ⟨⟨body', rest'⟩, hclose, heq⟩ := Option.map_eq_some_iff.mp h
    obtain ⟨rfl, rfl⟩ := Prod.mk.inj heq
    rw [ih hclose]
    rfl
  | case6 c text hquote hlast hback ih =>
    obtain ⟨⟨body', rest'⟩, hclose, heq⟩ := Option.map_eq_some_iff.mp h
    obtain ⟨rfl, rfl⟩ := Prod.mk.inj heq
    rw [ih hclose]
    rfl

lemma keyAt_eq {text key rest : List Char} (h : keyAt text = some (key, rest)) :
    ∃ space, text = key ++ space ++ ':' :: rest ∧ space.all Text.isJsSpace = true := by
  unfold keyAt at h
  split at h
  · next text =>
    obtain ⟨⟨body, after⟩, hclose, h⟩ := Option.bind_eq_some_iff.mp h
    dsimp only at h
    split at h
    · next rest' hcolon =>
      obtain ⟨rfl, rfl⟩ := Prod.mk.inj (Option.some.inj h)
      refine ⟨after.takeWhile Text.isJsSpace, ?_, List.all_takeWhile⟩
      rw [closeQuote_eq hclose, ← hcolon]
      simp
    · cases h
  · cases h

lemma keyAt_length {text key rest : List Char} (h : keyAt text = some (key, rest)) :
    rest.length < text.length := by
  obtain ⟨space, rfl, -⟩ := keyAt_eq h
  simp
  omega

/-- The matches of `"(?:[^"\\]|\\.)*"\s*:` in a text, without the colons. -/
def serializedKeys (text : List Char) : List (List Char) :=
  match text with
  | [] => []
  | c :: text =>
      match _h : keyAt (c :: text) with
      | some (key, rest) => key :: serializedKeys rest
      | none => serializedKeys text
  termination_by text.length
  decreasing_by
    · exact keyAt_length (by assumption)
    · simp

/-! ### The token -/

/-- The value a name has last. -/
def property (members : List (List Item × Tree)) (name : JsString) : Option Tree :=
  (members.reverse.find? fun m => units m.1 = name).map Prod.snd

/-- The value a name has first. -/
def firstProperty (members : List (List Item × Tree)) (name : JsString) : Option Tree :=
  (members.find? fun m => units m.1 = name).map Prod.snd

/-- `Object.keys(record)`. -/
def objectKeys (members : List (List Item × Tree)) : List JsString :=
  (members.map fun m => units m.1).dedup

def isLowerHex (u : ℕ) : Bool := (48 ≤ u && u ≤ 57) || (97 ≤ u && u ≤ 102)

def accountTagPattern (s : JsString) : Bool := s.length == 32 && s.all isLowerHex

def matchesUnits : List (ℕ → Bool) → JsString → Bool
  | [], [] => true
  | class' :: classes, u :: s => class' u && matchesUnits classes s
  | _, _ => false

def uuidPattern (s : JsString) : Bool :=
  let dash := (· == 45)
  matchesUnits (List.replicate 8 isLowerHex ++ [dash] ++ List.replicate 4 isLowerHex ++ [dash] ++
    [fun u => 49 ≤ u && u ≤ 53] ++ List.replicate 3 isLowerHex ++ [dash] ++
    [fun u => [56, 57, 97, 98].contains u] ++ List.replicate 3 isLowerHex ++ [dash] ++
    List.replicate 12 isLowerHex) s

/-- `toLowerCase`, of ASCII. -/
def toLowerCase (s : JsString) : JsString := s.map fun u => if 65 ≤ u ∧ u ≤ 90 then u + 32 else u

structure Parsed where
  accountIdentifier : JsString
  tunnelId : JsString
  secretFingerprint : String
  endpoint : Option JsString
  secretMaterial : List UInt8
  deriving DecidableEq

def stringValue : Tree → Option JsString
  | .string items => some (units items)
  | _ => none

def nameA : JsString := [97]
def nameE : JsString := [101]
def nameS : JsString := [115]
def nameT : JsString := [116]
def fed : JsString := [102, 101, 100]
def us : JsString := [117, 115]

/-- What the checks after the keys read of a record; `sha256` gives the digest in hexadecimal. -/
def readRecord (sha256 : List UInt8 → String) (record : JsString → Option Tree) : Option Parsed :=
  match (record nameA).bind stringValue, (record nameT).bind stringValue,
      (record nameS).bind stringValue with
  | some a, some t, some s =>
      let e := (record nameE).bind stringValue
      if !accountTagPattern a || !uuidPattern t ||
          ((record nameE).isSome && e != some fed && e != some us) then none
      else
        (decodeCanonicalBase64 s 16 1024).map fun secretMaterial =>
          { accountIdentifier := a
            tunnelId := toLowerCase t
            secretFingerprint := sha256 secretMaterial
            endpoint := if e = some fed ∨ e = some us then e else none
            secretMaterial }
  | _, _, _ => none

def quotedNames : List (List Char) :=
  [['"', 'a', '"'], ['"', 'e', '"'], ['"', 's', '"'], ['"', 't', '"']]

def joined (keys : List JsString) : JsString := [44].intercalate keys

def parseCloudflareTunnelToken (sha256 : List UInt8 → String) (token : JsString) : Option Parsed :=
  if token.length < 48 ∨ 4096 < token.length ∨ token.any (Text.isJsSpace ∘ Char.ofNat) then none
  else
    (decodeCanonicalBase64 token 2 3072).bind fun decoded =>
      let json := toUtf8 decoded
      if LimitedOutput.encode json ≠ decoded then none
      else
        match parseJson json with
        | some (.object members) =>
            let keys := (objectKeys members).insertionSort (· ≤ ·)
            if (serializedKeys json).length ≠ keys.length ∨
                (serializedKeys json).any (fun key => !quotedNames.contains key) then none
            else if joined keys ≠ joined [nameA, nameS, nameT] ∧
                joined keys ≠ joined [nameA, nameE, nameS, nameT] then none
            else readRecord sha256 (property members)
        | _ => none

end GatewayControl.TunnelToken
