import GatewayControl.Ipv6Texts
import GatewayControl.Json

/-!
The public addresses of a domain, as the server reads them from a request.

JavaScript's numbers are integers here, `none` stands for `NaN`; `Number(text)` is the parameter
`number`.
-/

namespace GatewayControl.PublicIp

open Text Ipv6Texts

structure ApiError where
  status : ℕ
  message : String
  code : String
deriving DecidableEq

/-! ### `isIP` -/

def zoneCharacter (c : Char) : Bool := c.isAlphanum || c = '-' || c = '.' || c = ':'

/-- The groups of the address a recognised text denotes, without its zone. -/
def denoted (text : List Char) : Option (List ℕ) := address (splitFirst '%' text).1

def isIPv4 (text : List Char) : Bool := (quad text).isSome

def isIPv6 (text : List Char) : Bool :=
  (denoted text).isSome &&
    (splitFirst '%' text).2.all fun zone => zone ≠ [] && zone.all zoneCharacter

inductive Version where
  | v4
  | v6
deriving DecidableEq

def Version.text : Version → String
  | .v4 => "4"
  | .v6 => "6"

def isIP : Version → List Char → Bool
  | .v4 => isIPv4
  | .v6 => isIPv6

/-! ### Numbers -/

abbrev Number := Option ℤ

/-- `Number.parseInt(text, 16)`. -/
def parseHex (text : List Char) : Number :=
  let trimmed := text.dropWhile isJsSpace
  let negative := trimmed.head? = some '-'
  let unsigned := if negative || trimmed.head? = some '+' then trimmed.tail else trimmed
  let digits :=
    (if ['0', 'x'].isPrefixOf unsigned || ['0', 'X'].isPrefixOf unsigned then unsigned.drop 2
      else unsigned).takeWhile isHex
  if digits = [] then none
  else some (if negative then -(hexValue digits : ℤ) else hexValue digits)

/-- `a * 256 + b`. -/
def pair (a b : Number) : Number := do return (← a) * 256 + (← b)

/-- `a & mask`. -/
def masked (a : Number) (mask : ℕ) : ℕ :=
  match a with
  | none => 0
  | some z => (z % 2 ^ 32).toNat &&& mask

/-- `toString(16)`. -/
def toHex : Number → List Char
  | none => ['N', 'a', 'N']
  | some (.ofNat n) => hexText n
  | some (.negSucc n) => '-' :: hexText (n + 1)

/-- A number in a template or in `join`. -/
def toText : Number → List Char
  | none => ['N', 'a', 'N']
  | some z => (toString z).toList

section

variable (number : List Char → Number)

/-! ### IPv6 -/

/-- The pieces between double colons, `value.split('::')`. -/
def doubleColonPieces : ℕ → List Char → List (List Char)
  | 0, _ => []
  | fuel + 1, value =>
    match (sides value).2 with
    | none => [value]
    | some rest => (sides value).1 :: doubleColonPieces fuel rest

def token (text : List Char) : List Number :=
  if text.contains '.' then
    let octets := (text.splitOn '.').map number
    let octet (i : ℕ) : Number := octets[i]?.getD none
    [pair (octet 0) (octet 1), pair (octet 2) (octet 3)]
  else [parseHex text]

def parsePart (part : List Char) : List Number :=
  if part = [] then [] else (part.splitOn ':').flatMap (token number)

def expandIpv6 (value : List Char) : List Number :=
  let pieces := doubleColonPieces (value.length + 1) value
  let left := parsePart number (pieces.getD 0 [])
  let right := parsePart number (pieces.getD 1 [])
  left ++ List.replicate (8 - left.length - right.length) (some 0) ++ right

/-- `expanded[i]`, an absent element is never used. -/
def element (expanded : List Number) (i : ℕ) : Number := expanded[i]?.getD none

def explicitlyExcluded (expanded : List Number) : Bool :=
  (element expanded 0 = some 0x3fff && masked (element expanded 1) 0xf000 = 0) ||
    ((expanded.take 5).all (· = some 0) && element expanded 5 = some 0xffff) ||
    (element expanded 0 = some 0x0064 && element expanded 1 = some 0xff9b)

def specialIpv6 (expanded : List Number) : Bool :=
  (element expanded 0 = some 0x2001 &&
      (element expanded 1 = some 0 ||
        (element expanded 1 = some 2 && element expanded 2 = some 0) ||
        masked (element expanded 1) 0xfff0 = 0x0010 ||
        masked (element expanded 1) 0xfff0 = 0x0020 || element expanded 1 = some 0x0db8)) ||
    element expanded 0 = some 0x2002

/-- The loop that looks for the longest run of zeros: where the best one begins and its length. -/
def bestRun (expanded : List Number) : ℕ → ℕ → Option ℕ × ℕ → Option ℕ × ℕ
  | 0, _, best => best
  | fuel + 1, index, best =>
    if index < expanded.length then
      if expanded[index]? ≠ some (some 0) then bestRun expanded fuel (index + 1) best
      else
        let end_ := index + ((expanded.drop index).takeWhile (· = some 0)).length
        let better := if best.2 < end_ - index ∧ 2 ≤ end_ - index then (some index, end_ - index)
          else best
        bestRun expanded fuel end_ better
    else best

def joinHex (groups : List Number) : List Char := [':'].intercalate (groups.map toHex)

def compress (expanded : List Number) : List Char :=
  match bestRun expanded expanded.length 0 (none, 0) with
  | (none, _) => joinHex expanded
  | (some start, length) =>
    joinHex (expanded.take start) ++ ':' :: ':' :: joinHex (expanded.drop (start + length))

/-! ### IPv4 -/

def reservedRanges : List (ℕ × ℕ) :=
  [(0x00000000, 8), (0x0a000000, 8), (0x64400000, 10), (0x7f000000, 8), (0xa9fe0000, 16),
    (0xac100000, 12), (0xc0000000, 24), (0xc0000200, 24), (0xc01fc400, 24), (0xc034c100, 24),
    (0xc0586300, 24), (0xc0af3000, 24), (0xc0a80000, 16),
    (0xc6120000, 15), (0xc6336400, 24), (0xcb007100, 24), (0xe0000000, 4), (0xf0000000, 4)]

/-- `NaN` is in no range. -/
def inRange (numeric : Number) (range : ℕ × ℕ) : Bool :=
  numeric.map (· / 2 ^ (32 - range.2)) = some ((range.1 : ℤ) / 2 ^ (32 - range.2))

/-! ### Reading a request -/

def nonGlobal : ApiError where
  status := 400
  message := "Public IP addresses must be globally routable unicast addresses."
  code := "non_global_public_ip"

def canonicalIp (value : Json) (version : Version) : Except ApiError String :=
  match value with
  | .str s =>
    let trimmed := trimBoth isJsSpace s.toList
    if isIP version trimmed then
      let input := asciiLower (String.ofList trimmed)
      match version with
      | .v4 =>
        let octets := (input.splitOn '.').map number
        let numeric := octets.foldl pair (some 0)
        if reservedRanges.any (inRange numeric) then .error nonGlobal
        else .ok (String.ofList (['.'].intercalate (octets.map toText)))
      | .v6 =>
        let expanded := expandIpv6 number input
        if masked (element expanded 0) 0xe000 ≠ 0x2000 || specialIpv6 expanded ||
            explicitlyExcluded expanded then .error nonGlobal
        else .ok (String.ofList (compress expanded))
    else .error (invalidIp version)
  | _ => .error (invalidIp version)
where
  invalidIp (version : Version) : ApiError :=
    { status := 400, message := "Each public IPv" ++ version.text ++ " address must be valid."
      code := "invalid_public_ip" }

def Version.field : Version → String
  | .v4 => "publicIpv4"
  | .v6 => "publicIpv6"

/-- `value` is the field of the body, `none` when it is not there. -/
def publicIpArray (value : Option Json) (version : Version) : Except ApiError (List String) :=
  match (match value with
    | none | some .null => Json.arr []
    | some value => value) with
  | .arr addresses =>
    if 4 < addresses.length then .error tooMany
    else
      match addresses.mapM (canonicalIp number · version) with
      | .error e => .error e
      | .ok canonical =>
        if canonical.Nodup then .ok canonical
        else .error
          { status := 400, message := version.field ++ " must not contain duplicate addresses."
            code := "duplicate_public_ip" }
  | _ => .error tooMany
where
  tooMany : ApiError :=
    { status := 400, message := version.field ++ " must contain at most 4 addresses."
      code := "invalid_public_ip" }

end

end GatewayControl.PublicIp
