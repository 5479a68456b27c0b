import GatewayControl.IdentityPrograms
import GatewayControl.Json
import GatewayControl.TokenDocuments

/-!
The connector tokens as texts: what the control plane reads of one, and that a token it can
read has as many bytes as code units.
-/

namespace GatewayControl.ConnectorTokens

open Base64 TunnelToken
open Identity (Endpoint Keys ParsedToken)

/-! ### Code units -/

def codeUnits (c : Char) : List ℕ :=
  if c.toNat < 0x10000 then [c.toNat]
  else [0xD800 + (c.toNat - 0x10000) / 0x400, 0xDC00 + (c.toNat - 0x10000) % 0x400]

def jsString (s : String) : JsString := s.toList.flatMap codeUnits

lemma length_jsString (s : String) : (jsString s).length = Json.jsLength s.toList := by
  unfold jsString Json.jsLength
  rw [List.length_flatMap]
  congr 1
  refine List.map_congr_left fun c _ => ?_
  unfold codeUnits Json.utf16Units
  split_ifs <;> rfl

/-- Of units that are characters. -/
def textOf (s : JsString) : String := String.ofList (s.map Char.ofNat)

lemma codeUnits_plain {c : Char} (h : c.toNat < 128) : codeUnits c = [c.toNat] :=
  if_pos (by omega)

/-- Only characters of ASCII have a unit of ASCII. -/
lemma plain_of_codeUnits {c : Char} (h : ∀ u ∈ codeUnits c, u < 128) : c.toNat < 128 := by
  unfold codeUnits at h
  split_ifs at h
  · exact h _ (List.mem_singleton_self _)
  · have hfirst := h _ (List.mem_cons_self ..)
    omega

/-- A text whose code units are of ASCII has as many bytes. -/
lemma utf8ByteSize_of_units {s : String} (h : ∀ u ∈ jsString s, u < 128) :
    s.utf8ByteSize = (jsString s).length := by
  have hplain : ∀ c ∈ s.toList, c.toNat < 128 := fun c hc =>
    plain_of_codeUnits fun u hu => h u (List.mem_flatMap.mpr ⟨c, hc, hu⟩)
  have hunits : jsString s = s.toList.map Char.toNat := by
    unfold jsString
    rw [List.flatMap_congr fun c hc => codeUnits_plain (hplain c hc)]
    exact List.map_eq_flatMap.symm
  have hsize := LimitedOutput.utf8ByteSize_plain hplain
  rw [String.ofList_toList] at hsize
  rw [hunits, List.length_map, hsize]

/-! ### What is read of a token -/

def endpointOf (s : JsString) : Endpoint := if s = fed then .fed else .us

def parsedToken (p : Parsed) : ParsedToken :=
  { accountIdentifier := textOf p.accountIdentifier
    tunnelId := textOf p.tunnelId
    endpoint := p.endpoint.map endpointOf
    secretMaterial := String.ofList (p.secretMaterial.map fun b => Char.ofNat b.toNat) }

/-- The reading of tokens, with the digest and the decryption of secrets as parameters. -/
def tokenKeys (sha256 : List UInt8 → String) (decrypt : String → Option String) : Keys where
  decrypt := decrypt
  parse token := (parseCloudflareTunnelToken sha256 (jsString token)).map parsedToken

lemma digit_lt (n : Fin 64) : standard.digit n < 128 := by
  revert n
  decide

lemma mem_encode_lt {bytes : List UInt8} {u : ℕ} (h : u ∈ encode standard bytes) : u < 128 := by
  rcases mem_encode h with hdigit | rfl
  · unfold Alphabet.isDigit standard at hdigit
    dsimp only at hdigit
    split_ifs at hdigit <;> first | omega | cases hdigit
  · decide

/-- A token that can be read has from 48 to 4096 bytes. -/
lemma size_of_parse {sha256 : List UInt8 → String} {decrypt : String → Option String}
    {token : String} {parsed : ParsedToken}
    (h : (tokenKeys sha256 decrypt).parse token = some parsed) :
    48 ≤ token.utf8ByteSize ∧ token.utf8ByteSize ≤ 4096 := by
  obtain ⟨p, hp, -⟩ := Option.map_eq_some_iff.mp h
  obtain ⟨hlong, hshort, bytes, text, members, hdocument, -⟩ := TokenDocuments.parse_eq_some.mp hp
  have hunits : ∀ u ∈ jsString token, u < 128 := by
    rw [hdocument.1]
    exact fun u hu => mem_encode_lt hu
  rw [utf8ByteSize_of_units hunits]
  exact ⟨hlong, hshort⟩

end GatewayControl.ConnectorTokens
