import GatewayControl.Json

/-!
JSON on its way from JavaScript into a `jsonb` or `text` column: the text
`JSON.stringify` makes, lengths and cuts in UTF-16 units, and what Postgres refuses.

A cut may fall inside a surrogate pair. The half that stays is escaped in JSON, where
`jsonb` refuses it, and becomes the replacement character in a `text` parameter.
-/

namespace GatewayControl.Json

/-! ### JavaScript strings -/

def utf16Units (c : Char) : Nat := if c.toNat < 0x10000 then 1 else 2

def jsLength (s : List Char) : Nat := (s.map utf16Units).sum

lemma jsLength_cons (c : Char) (cs : List Char) :
    jsLength (c :: cs) = utf16Units c + jsLength cs :=
  rfl

lemma utf16Units_pos (c : Char) : 1 ≤ utf16Units c := by
  unfold utf16Units
  split_ifs <;> omega

lemma length_le_jsLength (cs : List Char) : cs.length ≤ jsLength cs := by
  induction cs with
  | nil => exact Nat.le_refl 0
  | cons c cs ih =>
    have hc := utf16Units_pos c
    rw [List.length_cons, jsLength_cons]
    omega

/-- `s.slice(0, n)`: the characters it keeps whole, and whether it keeps half of one. -/
def sliceUnits : Nat → List Char → List Char × Bool
  | _, [] => ([], false)
  | n, c :: cs =>
      if utf16Units c ≤ n then
        let (kept, half) := sliceUnits (n - utf16Units c) cs
        (c :: kept, half)
      else ([], decide (0 < n))

/-- A cut string as a `text` parameter. -/
def sliceText (n : Nat) (s : String) : String :=
  let (kept, half) := sliceUnits n s.toList
  String.ofList (if half then kept ++ ['\uFFFD'] else kept)

/-- A cut string inside JSON, if it is still one that `jsonb` takes. -/
def sliceJson (n : Nat) (s : String) : Option String :=
  let (kept, half) := sliceUnits n s.toList
  if half then none else some (String.ofList kept)

lemma sliceUnits_of_le {n : Nat} {s : List Char} (h : jsLength s ≤ n) :
    sliceUnits n s = (s, false) := by
  induction s generalizing n with
  | nil => rfl
  | cons c cs ih =>
    rw [jsLength, List.map_cons, List.sum_cons] at h
    have hc : utf16Units c ≤ n := by omega
    have hcs : jsLength cs ≤ n - utf16Units c := by
      change (cs.map utf16Units).sum ≤ _
      omega
    simp [sliceUnits, hc, ih hcs]

/-- `String(value)` of a property, unless `value || other` is the other. -/
def truthyString : Option Json → Option String
  | none | some null | some (bool false) => none
  | some (num value text) => if value = some 0 ∨ text = "NaN" then none else some text
  | some (str s) => if s = "" then none else some s
  | some v => some v.jsString

/-! ### `JSON.stringify` -/

def hexDigit (n : Nat) : Char := "0123456789abcdef".toList.getD n '0'

def escapeChar (c : Char) : List Char :=
  if c = '"' then ['\\', '"']
  else if c = '\\' then ['\\', '\\']
  else if c = '\n' then ['\\', 'n']
  else if c = '\r' then ['\\', 'r']
  else if c = '\t' then ['\\', 't']
  else if c.toNat = 8 then ['\\', 'b']
  else if c.toNat = 12 then ['\\', 'f']
  else if c.toNat < 32 then
    ['\\', 'u', '0', '0', hexDigit (c.toNat / 16), hexDigit (c.toNat % 16)]
  else [c]

def quote (s : String) : List Char := '"' :: s.toList.flatMap escapeChar ++ ['"']

mutual

def stringify : Json → List Char
  | null => "null".toList
  | bool b => if b then "true".toList else "false".toList
  | num value text => if value.isSome then text.toList else "null".toList
  | str s => quote s
  | arr items => '[' :: stringifyItems items ++ [']']
  | obj es => '\x7b' :: stringifyEntries es ++ ['\x7d']
termination_by structural v => v

def stringifyItems : List Json → List Char
  | [] => []
  | v :: vs => stringify v ++ (if vs.isEmpty then [] else ',' :: stringifyItems vs)
termination_by structural vs => vs

def stringifyEntries : List (String × Json) → List Char
  | [] => []
  | e :: es => stringifyEntry e ++ (if es.isEmpty then [] else ',' :: stringifyEntries es)
termination_by structural es => es

def stringifyEntry : String × Json → List Char
  | (k, v) => quote k ++ ':' :: stringify v
termination_by structural e => e

end

/-! ### Postgres -/

mutual

/-- The strings of a value, its keys among them. -/
def strings : Json → List String
  | str s => [s]
  | arr items => itemStrings items
  | obj es => entryStrings es
  | _ => []
termination_by structural v => v

def itemStrings : List Json → List String
  | [] => []
  | v :: vs => strings v ++ itemStrings vs
termination_by structural vs => vs

def entryStrings : List (String × Json) → List String
  | [] => []
  | e :: es => pairStrings e ++ entryStrings es
termination_by structural es => es

def pairStrings : String × Json → List String
  | (k, v) => k :: strings v
termination_by structural e => e

end

/-- `U+0000` is refused in `text` and inside `jsonb`. -/
def hasNul (s : String) : Bool := s.toList.contains '\x00'

/-- `$1::jsonb` succeeds. -/
def jsonbAccepts (v : Json) : Bool := v.strings.all fun s => !hasNul s

/-- `a::jsonb = b::jsonb`: the order of keys does not matter. -/
def jsonbMatches (a b : Json) : Bool :=
  (a.sortObject fun k l => decide (k ≤ l)).stringify ==
    (b.sortObject fun k l => decide (k ≤ l)).stringify

@[simp] lemma jsonbMatches_self (v : Json) : jsonbMatches v v = true := by
  simp [jsonbMatches]

/-- `a - key`. -/
def without (key : String) : Json → Json
  | obj es => obj (es.filter fun e => e.1 ≠ key)
  | v => v

end GatewayControl.Json
