import Mathlib.Tactic

/-!
The text of a JSON document, read as `JSON.parse` reads it, with every string kept as it is written
and every member of an object kept in its place.
-/

namespace GatewayControl.JsonText

/-! ### What is read -/

/-- A piece of a string as it is written. -/
inductive Item
  | plain (c : Char)
  | escape (c : Char)
  | unicode (digits : List Char)
  deriving DecidableEq

def Item.raw : Item → List Char
  | .plain c => [c]
  | .escape c => ['\\', c]
  | .unicode digits => '\\' :: 'u' :: digits

/-- The content of a string between its quotes. -/
def raw (items : List Item) : List Char := items.flatMap Item.raw

/-- A string with its quotes. -/
def written (items : List Item) : List Char := '"' :: raw items ++ ['"']

/-- The UTF-16 code units of a character. -/
def charUnits (c : Char) : List ℕ :=
  if c.toNat < 0x10000 then [c.toNat]
  else [0xD800 + (c.toNat - 0x10000) / 0x400, 0xDC00 + (c.toNat - 0x10000) % 0x400]

def hexValue (c : Char) : ℕ :=
  if c.isDigit then c.toNat - 48 else if c.isLower then c.toNat - 87 else c.toNat - 55

def Item.units : Item → List ℕ
  | .plain c => charUnits c
  | .escape 'b' => [8]
  | .escape 't' => [9]
  | .escape 'n' => [10]
  | .escape 'f' => [12]
  | .escape 'r' => [13]
  | .escape c => [c.toNat]
  | .unicode digits => [digits.foldl (fun n c => n * 16 + hexValue c) 0]

/-- The code units that a string stands for. -/
def units (items : List Item) : List ℕ := items.flatMap Item.units

inductive Tree
  | string (items : List Item)
  | number (text : List Char)
  | word (text : List Char)
  | array (elements : List Tree)
  | object (members : List (List Item × Tree))

mutual

/-- The keys of a document at any depth, as they are written and in their order. -/
def Tree.keys : Tree → List (List Char)
  | .string _ | .number _ | .word _ => []
  | .array elements => elementKeys elements
  | .object members => memberKeys members

def elementKeys : List Tree → List (List Char)
  | [] => []
  | element :: elements => element.keys ++ elementKeys elements

def memberKeys : List (List Item × Tree) → List (List Char)
  | [] => []
  | (key, value) :: members => written key :: (value.keys ++ memberKeys members)

end

/-! ### Tokens -/

def isWs (c : Char) : Bool := [' ', '\t', '\n', '\r'].contains c

def skipWs (text : List Char) : List Char := text.dropWhile isWs

def isHexDigit (c : Char) : Bool :=
  c.isDigit || ('a' ≤ c && c ≤ 'f') || ('A' ≤ c && c ≤ 'F')

def escapes : List Char := ['"', '\\', '/', 'b', 'f', 'n', 'r', 't']

/-- The rest of a string and what follows it. -/
def parseString : List Char → Option (List Item × List Char)
  | [] => none
  | '"' :: text => some ([], text)
  | '\\' :: 'u' :: a :: b :: c :: d :: text =>
      if [a, b, c, d].all isHexDigit then
        (parseString text).map fun r => (.unicode [a, b, c, d] :: r.1, r.2)
      else none
  | '\\' :: c :: text =>
      if c ∈ escapes then (parseString text).map fun r => (.escape c :: r.1, r.2) else none
  | c :: text =>
      if c.toNat < 0x20 ∨ c = '\\' then none
      else (parseString text).map fun r => (.plain c :: r.1, r.2)

/-- Takes a token off the front of a text. -/
abbrev Reader := List Char → Option (List Char × List Char)

def nothing : Reader := fun text => some ([], text)

def followed (first second : Reader) : Reader := fun text =>
  (first text).bind fun (front, text) => (second text).map fun (back, text) => (front ++ back, text)

def digits : Reader := fun text =>
  if (text.takeWhile Char.isDigit).isEmpty then none
  else some (text.takeWhile Char.isDigit, text.dropWhile Char.isDigit)

def character (c : Char) : Reader
  | [] => none
  | c' :: text => if c' = c then some ([c], text) else none

def optional (reader : Reader) (starts : Char → Bool) : Reader := fun text =>
  match text with
  | [] => nothing text
  | c :: _ => if starts c then reader text else nothing text

def integer : Reader
  | '0' :: text => some (['0'], text)
  | text => digits text

def sign : Reader
  | '+' :: text => some (['+'], text)
  | '-' :: text => some (['-'], text)
  | text => some ([], text)

def fraction : Reader := followed (character '.') digits

def exponentMark : Reader
  | 'e' :: text => some (['e'], text)
  | 'E' :: text => some (['E'], text)
  | _ => none

def exponent : Reader := followed exponentMark (followed sign digits)

def parseNumber : Reader :=
  followed (optional (character '-') (· == '-'))
    (followed integer
      (followed (optional fraction (· == '.')) (optional exponent fun c => c == 'e' || c == 'E')))

def parseWord (word : List Char) : Reader := fun text =>
  if word.isPrefixOf text then some (word, text.drop word.length) else none

/-! ### Documents -/

variable (value : List Char → Option (Tree × List Char))

/-- The members from a key on, by a reader of values. -/
def parseMembers : ℕ → List Char → Option (List (List Item × Tree) × List Char)
  | fuel + 1, '"' :: text =>
      (parseString text).bind fun (key, text) =>
        match skipWs text with
        | ':' :: text =>
            (value (skipWs text)).bind fun (tree, text) =>
              match skipWs text with
              | ',' :: text =>
                  (parseMembers fuel (skipWs text)).map fun r => ((key, tree) :: r.1, r.2)
              | '}' :: text => some ([(key, tree)], text)
              | _ => none
        | _ => none
  | _, _ => none

/-- The elements from a value on. -/
def parseElements : ℕ → List Char → Option (List Tree × List Char)
  | 0, _ => none
  | fuel + 1, text =>
      (value text).bind fun (tree, text) =>
        match skipWs text with
        | ',' :: text => (parseElements fuel (skipWs text)).map fun r => (tree :: r.1, r.2)
        | ']' :: text => some ([tree], text)
        | _ => none

def parseScalar (text : List Char) : Option (Tree × List Char) :=
  match text with
  | 't' :: _ => (parseWord ['t', 'r', 'u', 'e'] text).map fun r => (.word r.1, r.2)
  | 'f' :: _ => (parseWord ['f', 'a', 'l', 's', 'e'] text).map fun r => (.word r.1, r.2)
  | 'n' :: _ => (parseWord ['n', 'u', 'l', 'l'] text).map fun r => (.word r.1, r.2)
  | _ => (parseNumber text).map fun r => (.number r.1, r.2)

/-- The value at the front of a text. -/
def parseValue : ℕ → List Char → Option (Tree × List Char)
  | 0, _ => none
  | _ + 1, '"' :: text => (parseString text).map fun r => (.string r.1, r.2)
  | fuel + 1, '{' :: text =>
      match skipWs text with
      | '}' :: text => some (.object [], text)
      | text => (parseMembers (parseValue fuel) fuel text).map fun r => (.object r.1, r.2)
  | fuel + 1, '[' :: text =>
      match skipWs text with
      | ']' :: text => some (.array [], text)
      | text => (parseElements (parseValue fuel) fuel text).map fun r => (.array r.1, r.2)
  | _ + 1, text => parseScalar text

/-- `JSON.parse`. -/
def parseJson (text : List Char) : Option Tree :=
  match parseValue (text.length + 1) (skipWs text) with
  | some (tree, rest) => if (skipWs rest).isEmpty then some tree else none
  | none => none

example : (parseJson ['{', ' ', '"', 'a', '"', ':', '[', '-', '1', '.', '5', ',', '"', '\\', '"',
    '"', ']', '}', ' ']).isSome = true := by decide

example : parseJson ['[', '0', '1', ']'] = none := by rfl

/-! ### What is taken off the front -/

/-- What a reader takes is the front of the text, and no string. -/
def Takes (reader : Reader) : Prop :=
  ∀ text front rest, reader text = some (front, rest) → text = front ++ rest ∧ '"' ∉ front

lemma takes_nothing : Takes nothing := by
  intro text front rest h
  obtain ⟨rfl, rfl⟩ := Prod.mk.inj (Option.some.inj h)
  exact ⟨rfl, List.not_mem_nil⟩

lemma takes_followed {first second : Reader} (hfirst : Takes first) (hsecond : Takes second) :
    Takes (followed first second) := by
  intro text front rest h
  obtain ⟨⟨front₁, text₁⟩, h₁, h⟩ := Option.bind_eq_some_iff.mp h
  obtain ⟨⟨front₂, text₂⟩, h₂, heq⟩ := Option.map_eq_some_iff.mp h
  obtain ⟨rfl, rfl⟩ := Prod.mk.inj heq
  obtain ⟨rfl, hquote₁⟩ := hfirst _ _ _ h₁
  obtain ⟨rfl, hquote₂⟩ := hsecond _ _ _ h₂
  exact ⟨(List.append_assoc _ _ _).symm, by simp [hquote₁, hquote₂]⟩

lemma takes_optional {reader : Reader} (starts : Char → Bool) (h : Takes reader) :
    Takes (optional reader starts) := by
  intro text front rest heq
  unfold optional at heq
  split at heq
  · exact takes_nothing _ _ _ heq
  · split at heq
    · exact h _ _ _ heq
    · exact takes_nothing _ _ _ heq

lemma takes_digits : Takes digits := by
  intro text front rest h
  unfold digits at h
  split at h
  · cases h
  · obtain ⟨rfl, rfl⟩ := Prod.mk.inj (Option.some.inj h)
    refine ⟨List.takeWhile_append_dropWhile.symm, fun hmem => ?_⟩
    exact absurd (List.all_eq_true.mp List.all_takeWhile _ hmem) (by decide)

lemma takes_character {c : Char} (hc : c ≠ '"') : Takes (character c) := by
  intro text front rest h
  unfold character at h
  split at h
  · cases h
  · split at h
    · next heq =>
      obtain ⟨rfl, rfl⟩ := Prod.mk.inj (Option.some.inj h)
      exact ⟨by rw [heq]; rfl, by simpa using hc.symm⟩
    · cases h

lemma takes_integer : Takes integer := by
  intro text front rest h
  unfold integer at h
  split at h
  · obtain ⟨rfl, rfl⟩ := Prod.mk.inj (Option.some.inj h)
    exact ⟨rfl, by decide⟩
  · exact takes_digits _ _ _ h

lemma takes_sign : Takes sign := by
  intro text front rest h
  unfold sign at h
  split at h
  · obtain ⟨rfl, rfl⟩ := Prod.mk.inj (Option.some.inj h)
    exact ⟨rfl, by decide⟩
  · obtain ⟨rfl, rfl⟩ := Prod.mk.inj (Option.some.inj h)
    exact ⟨rfl, by decide⟩
  · exact takes_nothing _ _ _ h

lemma takes_exponentMark : Takes exponentMark := by
  intro text front rest h
  unfold exponentMark at h
  split at h
  · obtain ⟨rfl, rfl⟩ := Prod.mk.inj (Option.some.inj h)
    exact ⟨rfl, by decide⟩
  · obtain ⟨rfl, rfl⟩ := Prod.mk.inj (Option.some.inj h)
    exact ⟨rfl, by decide⟩
  · cases h

lemma takes_parseNumber : Takes parseNumber := by
  have hfraction : Takes fraction := takes_followed (takes_character (by decide)) takes_digits
  have hexponent : Takes exponent :=
    takes_followed takes_exponentMark (takes_followed takes_sign takes_digits)
  exact takes_followed (takes_optional _ (takes_character (by decide)))
    (takes_followed takes_integer
      (takes_followed (takes_optional _ hfraction) (takes_optional _ hexponent)))

lemma takes_parseWord {word : List Char} (h : '"' ∉ word) : Takes (parseWord word) := by
  intro text front rest heq
  unfold parseWord at heq
  split at heq
  · next hword =>
    obtain ⟨rfl, rfl⟩ := Prod.mk.inj (Option.some.inj heq)
    obtain ⟨rest, rfl⟩ := List.isPrefixOf_iff_prefix.mp hword
    exact ⟨by rw [List.drop_left], h⟩
  · cases heq

lemma parseScalar_cases {text rest : List Char} {tree : Tree}
    (h : parseScalar text = some (tree, rest)) :
    ∃ front, text = front ++ rest ∧ '"' ∉ front ∧ (tree = .word front ∨ tree = .number front) := by
  have hword : ∀ {word : List Char}, '"' ∉ word →
      (parseWord word text).map (fun r => (Tree.word r.1, r.2)) = some (tree, rest) →
      ∃ front, text = front ++ rest ∧ '"' ∉ front ∧
        (tree = .word front ∨ tree = .number front) := by
    intro word hquote heq
    obtain ⟨⟨front, rest'⟩, hr, heq⟩ := Option.map_eq_some_iff.mp heq
    obtain ⟨rfl, rfl⟩ := Prod.mk.inj heq
    obtain ⟨htext, hfront⟩ := takes_parseWord hquote _ _ _ hr
    exact ⟨front, htext, hfront, .inl rfl⟩
  unfold parseScalar at h
  split at h
  · exact hword (by decide) h
  · exact hword (by decide) h
  · exact hword (by decide) h
  · obtain ⟨⟨front, rest'⟩, hr, heq⟩ := Option.map_eq_some_iff.mp h
    obtain ⟨rfl, rfl⟩ := Prod.mk.inj heq
    obtain ⟨htext, hfront⟩ := takes_parseNumber _ _ _ hr
    exact ⟨front, htext, hfront, .inr rfl⟩

/-! ### How a document is read -/

variable {value}

lemma parseMembers_cases {fuel : ℕ} {text rest : List Char} {members : List (List Item × Tree)}
    (h : parseMembers value fuel text = some (members, rest)) :
    ∃ fuel' t₁ key t₂ t₃ tree t₄, fuel = fuel' + 1 ∧ text = '"' :: t₁ ∧
      parseString t₁ = some (key, t₂) ∧ skipWs t₂ = ':' :: t₃ ∧
      value (skipWs t₃) = some (tree, t₄) ∧
      ((∃ t₅ more, skipWs t₄ = ',' :: t₅ ∧
          parseMembers value fuel' (skipWs t₅) = some (more, rest) ∧
          members = (key, tree) :: more) ∨
        (skipWs t₄ = '}' :: rest ∧ members = [(key, tree)])) := by
  unfold parseMembers at h
  split at h
  · next fuel' t₁ =>
    obtain ⟨⟨key, t₂⟩, hkey, h⟩ := Option.bind_eq_some_iff.mp h
    dsimp only at h
    split at h
    · next t₃ hcolon =>
      obtain ⟨⟨tree, t₄⟩, hvalue, h⟩ := Option.bind_eq_some_iff.mp h
      refine ⟨fuel', t₁, key, t₂, t₃, tree, t₄, rfl, rfl, hkey, hcolon, hvalue, ?_⟩
      dsimp only at h
      split at h
      · next t₅ hcomma =>
        obtain ⟨⟨more, rest'⟩, hmore, heq⟩ := Option.map_eq_some_iff.mp h
        obtain ⟨rfl, rfl⟩ := Prod.mk.inj heq
        exact .inl ⟨t₅, more, hcomma, hmore, rfl⟩
      · next hbrace =>
        obtain ⟨rfl, rfl⟩ := Prod.mk.inj (Option.some.inj h)
        exact .inr ⟨hbrace, rfl⟩
      · cases h
    · cases h
  · cases h

lemma parseElements_cases {fuel : ℕ} {text rest : List Char} {elements : List Tree}
    (h : parseElements value fuel text = some (elements, rest)) :
    ∃ fuel' tree t₁, fuel = fuel' + 1 ∧ value text = some (tree, t₁) ∧
      ((∃ t₂ more, skipWs t₁ = ',' :: t₂ ∧
          parseElements value fuel' (skipWs t₂) = some (more, rest) ∧ elements = tree :: more) ∨
        (skipWs t₁ = ']' :: rest ∧ elements = [tree])) := by
  unfold parseElements at h
  split at h
  · cases h
  · next fuel' =>
    obtain ⟨⟨tree, t₁⟩, hvalue, h⟩ := Option.bind_eq_some_iff.mp h
    refine ⟨fuel', tree, t₁, rfl, hvalue, ?_⟩
    dsimp only at h
    split at h
    · next t₂ hcomma =>
      obtain ⟨⟨more, rest'⟩, hmore, heq⟩ := Option.map_eq_some_iff.mp h
      obtain ⟨rfl, rfl⟩ := Prod.mk.inj heq
      exact .inl ⟨t₂, more, hcomma, hmore, rfl⟩
    · next hbracket =>
      obtain ⟨rfl, rfl⟩ := Prod.mk.inj (Option.some.inj h)
      exact .inr ⟨hbracket, rfl⟩
    · cases h

/-- The six ways to read a value. -/
inductive Read (fuel : ℕ) : List Char → Tree → List Char → Prop
  | string {text items rest} (h : parseString text = some (items, rest)) :
      Read fuel ('"' :: text) (.string items) rest
  | emptyObject {text rest} (h : skipWs text = '}' :: rest) :
      Read fuel ('{' :: text) (.object []) rest
  | object {text members rest}
      (h : parseMembers (parseValue fuel) fuel (skipWs text) = some (members, rest)) :
      Read fuel ('{' :: text) (.object members) rest
  | emptyArray {text rest} (h : skipWs text = ']' :: rest) :
      Read fuel ('[' :: text) (.array []) rest
  | array {text elements rest}
      (h : parseElements (parseValue fuel) fuel (skipWs text) = some (elements, rest)) :
      Read fuel ('[' :: text) (.array elements) rest
  | scalar {text tree rest} (h : parseScalar text = some (tree, rest)) : Read fuel text tree rest

lemma parseValue_cases {fuel : ℕ} {text rest : List Char} {tree : Tree}
    (h : parseValue fuel text = some (tree, rest)) : ∃ f, fuel = f + 1 ∧ Read f text tree rest := by
  unfold parseValue at h
  split at h
  · cases h
  · next fuel text =>
    obtain ⟨⟨items, rest'⟩, hread, heq⟩ := Option.map_eq_some_iff.mp h
    obtain ⟨rfl, rfl⟩ := Prod.mk.inj heq
    exact ⟨fuel, rfl, .string hread⟩
  · next fuel text =>
    split at h
    · next hbrace =>
      obtain ⟨rfl, rfl⟩ := Prod.mk.inj (Option.some.inj h)
      exact ⟨fuel, rfl, .emptyObject hbrace⟩
    · obtain ⟨⟨members, rest'⟩, hread, heq⟩ := Option.map_eq_some_iff.mp h
      obtain ⟨rfl, rfl⟩ := Prod.mk.inj heq
      exact ⟨fuel, rfl, .object hread⟩
  · next fuel text =>
    split at h
    · next hbracket =>
      obtain ⟨rfl, rfl⟩ := Prod.mk.inj (Option.some.inj h)
      exact ⟨fuel, rfl, .emptyArray hbracket⟩
    · obtain ⟨⟨elements, rest'⟩, hread, heq⟩ := Option.map_eq_some_iff.mp h
      obtain ⟨rfl, rfl⟩ := Prod.mk.inj heq
      exact ⟨fuel, rfl, .array hread⟩
  · exact ⟨_, rfl, .scalar h⟩

/-! ### That the fuel is enough -/

lemma length_skipWs (text : List Char) : (skipWs text).length ≤ text.length :=
  (List.dropWhile_suffix isWs).length_le

lemma parseString_length {text rest : List Char} {items : List Item}
    (h : parseString text = some (items, rest)) : rest.length < text.length := by
  fun_induction parseString text generalizing items rest with
  | case1 => cases h
  | case2 text =>
    obtain ⟨rfl, rfl⟩ := Prod.mk.inj (Option.some.inj h)
    simp
  | case3 a b c d text hhex ih =>
    obtain ⟨⟨items', rest'⟩, hrest, heq⟩ := Option.map_eq_some_iff.mp h
    obtain ⟨rfl, rfl⟩ := Prod.mk.inj heq
    have hlen := ih hrest
    simp only [List.length_cons]
    omega
  | case4 => cases h
  | case5 c text hu hmem ih =>
    obtain ⟨⟨items', rest'⟩, hrest, heq⟩ := Option.map_eq_some_iff.mp h
    obtain ⟨rfl, rfl⟩ := Prod.mk.inj heq
    have hlen := ih hrest
    simp only [List.length_cons]
    omega
  | case6 => cases h
  | case7 => cases h
  | case8 c text hquote hu hback hplain ih =>
    obtain ⟨⟨items', rest'⟩, hrest, heq⟩ := Option.map_eq_some_iff.mp h
    obtain ⟨rfl, rfl⟩ := Prod.mk.inj heq
    have hlen := ih hrest
    simp only [List.length_cons]
    omega

/-- A reader that leaves no more than it was given. -/
def Shrinks (value : List Char → Option (Tree × List Char)) : Prop :=
  ∀ text tree rest, value text = some (tree, rest) → rest.length ≤ text.length

lemma length_of_skipWs {text rest : List Char} {c : Char} (h : skipWs text = c :: rest) :
    rest.length < text.length := by
  have hlen := length_skipWs text
  rw [h, List.length_cons] at hlen
  omega

lemma parseMembers_length (hvalue : Shrinks value) {fuel : ℕ} {text rest : List Char}
    {members : List (List Item × Tree)} (h : parseMembers value fuel text = some (members, rest)) :
    rest.length ≤ text.length := by
  induction fuel generalizing text members with
  | zero =>
    obtain ⟨_, _, _, _, _, _, _, hfuel, -⟩ := parseMembers_cases h
    cases hfuel
  | succ fuel ih =>
    obtain ⟨_, t₁, key, t₂, t₃, tree, t₄, hfuel, rfl, hkey, hcolon, hread, hend⟩ :=
      parseMembers_cases h
    obtain rfl := Nat.succ.inj hfuel
    have hstring := parseString_length hkey
    have hafter := length_of_skipWs hcolon
    have hleft := (hvalue _ _ _ hread).trans (length_skipWs t₃)
    rw [List.length_cons]
    rcases hend with ⟨t₅, more, hcomma, hmore, -⟩ | ⟨hbrace, -⟩
    · have hlast := (ih hmore).trans (length_skipWs t₅)
      have hcomma := length_of_skipWs hcomma
      omega
    · have hbrace := length_of_skipWs hbrace
      omega

lemma parseElements_length (hvalue : Shrinks value) {fuel : ℕ} {text rest : List Char}
    {elements : List Tree} (h : parseElements value fuel text = some (elements, rest)) :
    rest.length ≤ text.length := by
  induction fuel generalizing text elements with
  | zero =>
    obtain ⟨_, _, _, hfuel, -⟩ := parseElements_cases h
    cases hfuel
  | succ fuel ih =>
    obtain ⟨_, tree, t₁, hfuel, hread, hend⟩ := parseElements_cases h
    obtain rfl := Nat.succ.inj hfuel
    have hleft := hvalue _ _ _ hread
    rcases hend with ⟨t₂, more, hcomma, hmore, -⟩ | ⟨hbracket, -⟩
    · have hlast := (ih hmore).trans (length_skipWs t₂)
      have hcomma := length_of_skipWs hcomma
      omega
    · have hbracket := length_of_skipWs hbracket
      omega

lemma shrinks_parseValue (fuel : ℕ) : Shrinks (parseValue fuel) := by
  induction fuel with
  | zero =>
    intro text tree rest h
    cases h
  | succ fuel ih =>
    intro text tree rest h
    obtain ⟨_, hfuel, hread⟩ := parseValue_cases h
    obtain rfl := Nat.succ.inj hfuel
    cases hread with
    | string hstring => exact (parseString_length hstring).le.trans (by simp)
    | emptyObject hbrace => exact (length_of_skipWs hbrace).le.trans (by simp)
    | object hmembers =>
      exact ((parseMembers_length ih hmembers).trans (length_skipWs _)).trans (by simp)
    | emptyArray hbracket => exact (length_of_skipWs hbracket).le.trans (by simp)
    | array helements =>
      exact ((parseElements_length ih helements).trans (length_skipWs _)).trans (by simp)
    | scalar hscalar =>
      obtain ⟨front, rfl, -⟩ := parseScalar_cases hscalar
      simp

lemma parseMembers_of_ne {fuel : ℕ} {c : Char} (text : List Char) (hc : c ≠ '"') :
    parseMembers value fuel (c :: text) = none := by
  unfold parseMembers
  split
  · next heq => exact absurd (List.cons.inj heq).1 hc
  · rfl

lemma parseMembers_congr {other : List Char → Option (Tree × List Char)} {f g : ℕ}
    {text : List Char} (hvalue : Shrinks value)
    (h : ∀ t : List Char, t.length < text.length → value t = other t)
    (hf : text.length ≤ f) (hg : text.length ≤ g) :
    parseMembers value f text = parseMembers other g text := by
  induction f generalizing g text with
  | zero =>
    obtain rfl := List.eq_nil_of_length_eq_zero (Nat.le_zero.mp hf)
    cases g <;> rfl
  | succ f ih =>
    cases text with
    | nil => cases g <;> rfl
    | cons c text =>
      rw [List.length_cons] at hf hg
      obtain ⟨g, rfl⟩ : ∃ g', g = g' + 1 := ⟨g - 1, by omega⟩
      by_cases hc : c = '"'
      · subst hc
        rw [parseMembers, parseMembers]
        refine Option.bind_congr fun ⟨key, t₂⟩ hkey => ?_
        have hstring := parseString_length hkey
        dsimp only
        split
        · next t₃ hcolon =>
          have hafter := length_of_skipWs hcolon
          have hstart := length_skipWs t₃
          rw [← h (skipWs t₃) (by rw [List.length_cons]; omega)]
          refine Option.bind_congr fun ⟨tree, t₄⟩ hread => ?_
          have hleft := hvalue _ _ _ hread
          dsimp only
          split
          · next t₅ hcomma =>
            have hnext := length_of_skipWs hcomma
            have hskip := length_skipWs t₅
            have hmore : parseMembers value f (skipWs t₅) = parseMembers other g (skipWs t₅) :=
              ih (fun t ht => h t (by rw [List.length_cons]; omega)) (by omega) (by omega)
            rw [hmore]
          · rfl
          · rfl
        · rfl
      · rw [parseMembers_of_ne _ hc, parseMembers_of_ne _ hc]

lemma parseElements_congr {other : List Char → Option (Tree × List Char)} {f g : ℕ}
    {text : List Char} (hvalue : Shrinks value)
    (h : ∀ t : List Char, t.length ≤ text.length → value t = other t)
    (hf : text.length < f) (hg : text.length < g) :
    parseElements value f text = parseElements other g text := by
  induction f generalizing g text with
  | zero => omega
  | succ f ih =>
    obtain ⟨g, rfl⟩ : ∃ g', g = g' + 1 := ⟨g - 1, by omega⟩
    rw [parseElements, parseElements, ← h text le_rfl]
    refine Option.bind_congr fun ⟨tree, t₁⟩ hread => ?_
    have hleft := hvalue _ _ _ hread
    dsimp only
    split
    · next t₂ hcomma =>
      have hnext := length_of_skipWs hcomma
      have hskip := length_skipWs t₂
      have hmore : parseElements value f (skipWs t₂) = parseElements other g (skipWs t₂) :=
        ih (fun t ht => h t (by omega)) (by omega) (by omega)
      rw [hmore]
    · rfl
    · rfl

/-- More fuel than a text is long does not change what is read. -/
theorem parseValue_fuel {f g : ℕ} {text : List Char} (hf : text.length < f)
    (hg : text.length < g) : parseValue f text = parseValue g text := by
  induction f generalizing g text with
  | zero => omega
  | succ f ih =>
    obtain ⟨g, rfl⟩ : ∃ g', g = g' + 1 := ⟨g - 1, by omega⟩
    have hinner : ∀ t : List Char, t.length < f → t.length < g →
        parseValue f t = parseValue g t := fun t => ih
    cases text with
    | nil => rfl
    | cons c text =>
      rw [List.length_cons] at hf hg
      have hskip := length_skipWs text
      by_cases hobject : c = '{'
      · subst hobject
        have hmembers : parseMembers (parseValue f) f (skipWs text) =
            parseMembers (parseValue g) g (skipWs text) :=
          parseMembers_congr (shrinks_parseValue f)
            (fun t ht => hinner t (by omega) (by omega)) (by omega) (by omega)
        rw [parseValue, parseValue]
        split
        · rfl
        · rw [hmembers]
      by_cases harray : c = '['
      · subst harray
        have helements : parseElements (parseValue f) f (skipWs text) =
            parseElements (parseValue g) g (skipWs text) :=
          parseElements_congr (shrinks_parseValue f)
            (fun t ht => hinner t (by omega) (by omega)) (by omega) (by omega)
        rw [parseValue, parseValue]
        split
        · rfl
        · rw [helements]
      by_cases hstring : c = '"'
      · subst hstring
        rfl
      · rw [parseValue, parseValue]
        all_goals
          intro text' heq
          obtain rfl := (List.cons.inj heq).1
          contradiction

end GatewayControl.JsonText
