import Mathlib.Data.List.Basic

/-!
The host of a URL and its text, as the WHATWG URL standard has them.

A host is a domain, an IPv4 or an IPv6 address. A domain is ASCII in lower case and may end
with a dot. Addresses are written in one way each: octets in decimal, and groups in
hexadecimal with the first longest run of zeros left out.
-/

namespace GatewayControl.Hosts

/-- A domain has none of the forbidden code points; only those matter here that other hosts
are written with. -/
def isDomainChar (c : Char) : Bool :=
  decide (c.toNat < 128) && c.toLower == c && c != '[' && c != ']' && c != ':'

structure Domain where
  name : String
  plain : name.toList.all isDomainChar = true

structure Ipv4 where
  a : BitVec 8
  b : BitVec 8
  c : BitVec 8
  d : BitVec 8
deriving DecidableEq

/-- The eight groups. -/
structure Ipv6 where
  pieces : List (BitVec 16)
  eight : pieces.length = 8
deriving DecidableEq

inductive Host where
  | domain (d : Domain)
  | ipv4 (a : Ipv4)
  | ipv6 (p : Ipv6)

/-! ### Texts -/

def decimal (octet : BitVec 8) : List Char := Nat.toDigits 10 octet.toNat

def Ipv4.text (x : Ipv4) : List Char :=
  decimal x.a ++ '.' :: decimal x.b ++ '.' :: decimal x.c ++ '.' :: decimal x.d

/-- The shortest lower-case hexadecimal text. -/
def hexadecimal (piece : BitVec 16) : List Char := Nat.toDigits 16 piece.toNat

/-- Where the first longest run of more than one zero begins; `found` is where the run
before `index` began. -/
def compressedFrom : List (BitVec 16) → Nat → Option Nat → Nat → Option Nat → Nat → Option Nat
  | [], _, longest, longestSize, found, foundSize =>
      if foundSize > longestSize then found else longest
  | p :: ps, index, longest, longestSize, found, foundSize =>
      if p ≠ 0 then
        if foundSize > longestSize then compressedFrom ps (index + 1) found foundSize none 0
        else compressedFrom ps (index + 1) longest longestSize none 0
      else compressedFrom ps (index + 1) longest longestSize (some (found.getD index))
        (foundSize + 1)

def compressedIndex (pieces : List (BitVec 16)) : Option Nat :=
  compressedFrom pieces 0 none 1 none 0

/-- The groups from `index` on; `ignore0` while the zeros of the run are skipped. -/
def piecesText (compress : Option Nat) : List (BitVec 16) → Nat → Bool → List Char
  | [], _, _ => []
  | p :: ps, index, ignore0 =>
      if ignore0 ∧ p = 0 then piecesText compress ps (index + 1) true
      else if compress = some index then
        (if index = 0 then [':', ':'] else [':']) ++ piecesText compress ps (index + 1) true
      else hexadecimal p ++ (if index = 7 then [] else [':']) ++
        piecesText compress ps (index + 1) false

def Ipv6.text (x : Ipv6) : List Char :=
  piecesText (compressedIndex x.pieces) x.pieces 0 false

/-- `hostname`: an IPv6 address stands in brackets. -/
def Host.text : Host → String
  | .domain d => d.name
  | .ipv4 a => String.ofList a.text
  | .ipv6 p => String.ofList ('[' :: p.text ++ [']'])

/-! ### What an address begins with -/

/-- A run found after the first group does not begin there. -/
lemma compressedFrom_ne_zero {ps : List (BitVec 16)} :
    ∀ {index longestSize foundSize : Nat} {longest found : Option Nat}, 0 < index →
      longest ≠ some 0 → found ≠ some 0 →
      compressedFrom ps index longest longestSize found foundSize ≠ some 0 := by
  induction ps with
  | nil =>
    intro index longestSize foundSize longest found _ hlongest hfound
    unfold compressedFrom
    split_ifs
    · exact hfound
    · exact hlongest
  | cons p ps ih =>
    intro index longestSize foundSize longest found hindex hlongest hfound
    unfold compressedFrom
    split_ifs
    · exact ih (by omega) hfound (by simp)
    · exact ih (by omega) hlongest (by simp)
    · apply ih (by omega) hlongest
      cases found with
      | none => simpa using (Nat.pos_iff_ne_zero.mp hindex)
      | some k => exact hfound

/-- An address whose first group is not zero is written from that group on. -/
theorem text_of_first_ne_zero {x : Ipv6} {p : BitVec 16} {ps : List (BitVec 16)}
    (hpieces : x.pieces = p :: ps) (hp : p ≠ 0) : hexadecimal p ++ [':'] <+: x.text := by
  have hcompress : compressedIndex x.pieces ≠ some 0 := by
    unfold compressedIndex
    rw [hpieces, compressedFrom, if_pos hp]
    split_ifs
    · exact compressedFrom_ne_zero (by omega) (by simp) (by simp)
    · exact compressedFrom_ne_zero (by omega) (by simp) (by simp)
  unfold Ipv6.text
  generalize compressedIndex x.pieces = compress at hcompress
  rw [hpieces, piecesText, if_neg (by simp), if_neg hcompress, if_neg (by decide)]
  exact ⟨_, rfl⟩

example : Ipv6.text ⟨[0x2001, 0xdb8, 0, 0, 1, 0, 0, 1], rfl⟩ = "2001:db8::1:0:0:1".toList := by
  decide

example : Ipv6.text ⟨[0, 0, 0, 0, 0, 0xffff, 0x7f00, 1], rfl⟩ = "::ffff:7f00:1".toList := by
  decide

/-! ### What a host denotes -/

/-- The IPv4 address that an IPv4-mapped one stands for. -/
def Ipv6.mapped (x : Ipv6) : Option Ipv4 :=
  match x.pieces with
  | [0, 0, 0, 0, 0, 0xffff, high, low] =>
      some ⟨high.extractLsb' 8 8, high.extractLsb' 0 8, low.extractLsb' 8 8,
        low.extractLsb' 0 8⟩
  | _ => none

/-- What a host denotes, whatever its form. -/
inductive Target where
  | name (name : List Char)
  | ipv4 (a : Ipv4)
  | ipv6 (p : Ipv6)

/-- Without the dot that may end a domain. -/
def withoutDot (name : List Char) : List Char :=
  if name.getLast? = some '.' then name.dropLast else name

def Host.target : Host → Target
  | .domain d => .name (withoutDot d.name.toList)
  | .ipv4 a => .ipv4 a
  | .ipv6 p => match p.mapped with
      | some a => .ipv4 a
      | none => .ipv6 p

def loopbackIpv6 : Ipv6 := ⟨[0, 0, 0, 0, 0, 0, 0, 1], rfl⟩

def unspecifiedIpv6 : Ipv6 := ⟨[0, 0, 0, 0, 0, 0, 0, 0], rfl⟩

/-- `localhost`, a name under it, or the name hosts files give it. -/
def isLocalName (name : List Char) : Bool :=
  name == "localhost".toList || ".localhost".toList.isSuffixOf name ||
    name == "localhost.localdomain".toList

def Ipv4.isLoopback (x : Ipv4) : Bool := x.a == 127

def Ipv4.isUnspecified (x : Ipv4) : Bool := x == ⟨0, 0, 0, 0⟩

def Ipv4.isLinkLocal (x : Ipv4) : Bool := x.a == 169 && x.b == 254

/-- `fe80::/10`. -/
def Ipv6.isLinkLocal (x : Ipv6) : Bool :=
  x.pieces.head?.any fun p => p.extractLsb' 6 10 == 0x3fa

def Target.isLoopback : Target → Bool
  | .name n => isLocalName n
  | .ipv4 a => a.isLoopback
  | .ipv6 p => p == loopbackIpv6

def Target.isUnspecified : Target → Bool
  | .name _ => false
  | .ipv4 a => a.isUnspecified
  | .ipv6 p => p == unspecifiedIpv6

def Target.isLinkLocal : Target → Bool
  | .name _ => false
  | .ipv4 a => a.isLinkLocal
  | .ipv6 p => p.isLinkLocal

end GatewayControl.Hosts
