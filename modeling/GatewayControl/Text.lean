import Mathlib.Algebra.GroupWithZero.Nat
import Mathlib.Algebra.Ring.Int.Defs
import Mathlib.Data.List.DropRight
import Mathlib.Data.List.Sort

/-!
The text functions and regular expressions the agent's checks rest on.
-/

namespace GatewayControl.Text

lemma forall_of_all {p : Char → Prop} [DecidablePred p] {cs : List Char}
    (h : cs.all (fun c => decide (p c)) = true) : ∀ c ∈ cs, p c :=
  fun c hc => of_decide_eq_true (List.all_eq_true.mp h c hc)

/-- `unicode.IsSpace`. -/
def isSpace (c : Char) : Bool :=
  let n := c.toNat
  (9 ≤ n ∧ n ≤ 13) ∨ n = 32 ∨ n = 0x85 ∨ n = 0xA0 ∨ n = 0x1680 ∨ (0x2000 ≤ n ∧ n ≤ 0x200A) ∨
    n = 0x2028 ∨ n = 0x2029 ∨ n = 0x202F ∨ n = 0x205F ∨ n = 0x3000

/-- `unicode.IsControl`. -/
def isControl (c : Char) : Bool :=
  let n := c.toNat
  n < 0x20 ∨ (0x7F ≤ n ∧ n ≤ 0x9F)

/-- JavaScript's white space. -/
def isJsSpace (c : Char) : Bool :=
  (isSpace c && c.toNat != 0x85) || c.toNat == 0xFEFF

def trimBoth (space : Char → Bool) (cs : List Char) : List Char :=
  ((cs.dropWhile space).reverse.dropWhile space).reverse

lemma trimBoth_of_ends {space : Char → Bool} {cs : List Char}
    (hfirst : ∀ c ∈ cs.head?, space c = false) (hlast : ∀ c ∈ cs.getLast?, space c = false) :
    trimBoth space cs = cs := by
  have hleft : cs.dropWhile space = cs := by
    cases cs with
    | nil => rfl
    | cons c cs => rw [List.dropWhile_cons_of_neg (by simp [hfirst c rfl])]
  have hright : cs.reverse.dropWhile space = cs.reverse := by
    cases hrev : cs.reverse with
    | nil => rfl
    | cons c rest =>
      have hc : space c = false := by
        apply hlast
        rw [← List.head?_reverse, hrev]
        rfl
      rw [List.dropWhile_cons_of_neg (by simp [hc])]
  unfold trimBoth
  rw [hleft, hright, List.reverse_reverse]

lemma head_trimBoth {space : Char → Bool} {cs : List Char} :
    ∀ c ∈ (trimBoth space cs).head?, space c = false := by
  intro c hc
  have hprefix : trimBoth space cs <+: cs.dropWhile space :=
    List.rdropWhile_prefix space (cs.dropWhile space)
  obtain ⟨rest, hrest⟩ := hprefix
  cases htrim : trimBoth space cs with
  | nil =>
    rw [htrim] at hc
    cases hc
  | cons first more =>
    rw [htrim] at hc hrest
    obtain rfl : first = c := by simpa using hc
    have hhead := List.head?_dropWhile_not space cs
    rw [← hrest] at hhead
    exact hhead

lemma getLast_trimBoth {space : Char → Bool} {cs : List Char} :
    ∀ c ∈ (trimBoth space cs).getLast?, space c = false := by
  intro c hc
  unfold trimBoth at hc
  rw [List.getLast?_reverse] at hc
  have hhead := List.head?_dropWhile_not space (cs.dropWhile space).reverse
  rw [Option.mem_def.mp hc] at hhead
  exact hhead

lemma trimBoth_trimBoth (space : Char → Bool) (cs : List Char) :
    trimBoth space (trimBoth space cs) = trimBoth space cs :=
  trimBoth_of_ends head_trimBoth getLast_trimBoth

def trimSpace (s : String) : String :=
  String.ofList (trimBoth isSpace s.toList)

/-- `unicode.ToLower` on the letters that have an ASCII image. -/
def lowerChar (c : Char) : Char :=
  if 'A' ≤ c ∧ c ≤ 'Z' then Char.ofNat (c.toNat + 32)
  else if c.toNat = 0x212A then 'k'
  else if c.toNat = 0x130 then 'i'
  else c

def toLower (s : String) : String := String.ofList (s.toList.map lowerChar)

/-- `strings.EqualFold` on such strings. -/
def equalFold (s t : String) : Bool := toLower s == toLower t

/-- Lower-case an ASCII letter, as a case-insensitive expression does. -/
def asciiLower (s : String) : List Char :=
  s.toList.map fun c => if 'A' ≤ c ∧ c ≤ 'Z' then Char.ofNat (c.toNat + 32) else c

/-- `strings.Contains` and `includes`, on character lists. -/
def occurs (sub s : List Char) : Bool := s.tails.any sub.isPrefixOf

/-- What precedes and what follows the first `sep`, when there is one. -/
def splitFirst (sep : Char) (s : List Char) : List Char × Option (List Char) :=
  match s.dropWhile (· ≠ sep) with
  | [] => (s, none)
  | _ :: rest => (s.takeWhile (· ≠ sep), some rest)

lemma splitFirst_eq {sep : Char} {s first rest : List Char}
    (h : splitFirst sep s = (first, some rest)) : s = first ++ sep :: rest := by
  unfold splitFirst at h
  split at h
  · cases h
  · next c cs hdrop =>
    obtain ⟨rfl, rfl⟩ : s.takeWhile (· ≠ sep) = first ∧ cs = rest := by simpa using h
    have hc : c = sep := by
      have := List.head?_dropWhile_not (fun c => decide (c ≠ sep)) s
      rw [hdrop] at this
      simpa using this
    subst hc
    rw [← hdrop]
    exact List.takeWhile_append_dropWhile.symm

lemma notMem_of_mem_splitOn {α : Type*} [BEq α] [LawfulBEq α] {a : α} {as part : List α}
    (h : part ∈ as.splitOn a) : a ∉ part := by
  induction as generalizing part with
  | nil =>
    obtain rfl : part = [] := by simpa using h
    exact List.not_mem_nil
  | cons b as ih =>
    rw [List.splitOn_eq_splitOnP, List.splitOnP_cons_eq_if_modifyHead,
      ← List.splitOn_eq_splitOnP] at h
    split at h
    · rcases List.mem_cons.mp h with rfl | h
      · exact List.not_mem_nil
      · exact ih h
    · next hb =>
      obtain ⟨first, rest, hrest⟩ := List.exists_cons_of_ne_nil (List.splitOn_ne_nil a as)
      rw [hrest] at h ih
      rcases List.mem_cons.mp h with rfl | h
      · have hfirst := ih List.mem_cons_self
        have hab : a ≠ b := fun heq => hb (by simp [heq])
        simpa [hab] using hfirst
      · exact ih (List.mem_cons_of_mem _ h)

def splitLines : List Char → List (List Char)
  | [] => [[]]
  | c :: cs =>
      match c == '\n', splitLines cs with
      | true, ls => [] :: ls
      | false, l :: ls => (c :: l) :: ls
      | false, [] => [[c]]

/-- `strings.Fields`. -/
def fields (cs : List Char) : List (List Char) := (cs.splitOnP isSpace).filter (· ≠ [])

lemma fields_append {as bs : List Char} {c : Char} (hc : isSpace c = true) :
    fields (as ++ c :: bs) = fields as ++ fields bs := by
  unfold fields
  rw [List.splitOnP_append_cons as bs hc, List.filter_append]

def nonemptyUniqueLines (value : String) : List String :=
  let lines := (splitLines value.toList).map fun l => trimSpace (String.ofList l)
  (lines.filter (· ≠ "")).dedup.insertionSort (· ≤ ·)

/-! ### Patterns -/

/-- `^[head][tail]{0,most}$`. -/
def identifierPattern (head tail : Char → Bool) (most : Nat) (s : String) : Bool :=
  match s.toList with
  | [] => false
  | c :: cs => head c && cs.all tail && decide (cs.length ≤ most)

def composeServicePattern : String → Bool :=
  identifierPattern (·.isAlphanum) (fun c => c.isAlphanum || ['.', '_', '-'].contains c) 127

def dockerObjectNamePattern : String → Bool := composeServicePattern

lemma isDigit_iff {c : Char} : c.isDigit = true ↔ 48 ≤ c.toNat ∧ c.toNat ≤ 57 :=
  Bool.and_eq_true_iff.trans (and_congr decide_eq_true_iff decide_eq_true_iff)

lemma isUpper_iff {c : Char} : c.isUpper = true ↔ 65 ≤ c.toNat ∧ c.toNat ≤ 90 :=
  decide_eq_true_iff

lemma isLower_iff {c : Char} : c.isLower = true ↔ 97 ≤ c.toNat ∧ c.toNat ≤ 122 :=
  Bool.and_eq_true_iff.trans (and_congr decide_eq_true_iff decide_eq_true_iff)

lemma isAlphanum_iff {c : Char} :
    c.isAlphanum = true ↔ (c.isUpper = true ∨ c.isLower = true) ∨ c.isDigit = true :=
  Bool.or_eq_true_iff.trans (or_congr_left Bool.or_eq_true_iff)

def isLowerOrDigit (c : Char) : Bool := c.isLower || c.isDigit

lemma isLowerOrDigit_iff {c : Char} : isLowerOrDigit c = true ↔
    97 ≤ c.toNat ∧ c.toNat ≤ 122 ∨ 48 ≤ c.toNat ∧ c.toNat ≤ 57 :=
  Bool.or_eq_true_iff.trans (or_congr isLower_iff isDigit_iff)

def composeProjectPattern : String → Bool :=
  identifierPattern isLowerOrDigit (fun c => isLowerOrDigit c || ['_', '-'].contains c) 62

def isHex (c : Char) : Bool :=
  ('0' ≤ c ∧ c ≤ '9') ∨ ('a' ≤ c ∧ c ≤ 'f') ∨ ('A' ≤ c ∧ c ≤ 'F')

lemma isHex_mem {c : Char} (h : isHex c = true) : c ∈ "0123456789abcdefABCDEF".toList := by
  have hall : ∀ n < 103, isHex (Char.ofNat n) = true →
      Char.ofNat n ∈ "0123456789abcdefABCDEF".toList := by
    decide
  have hbound : c.toNat < 103 := by
    simp only [isHex, decide_eq_true_eq] at h
    rcases h with ⟨-, hhigh⟩ | ⟨-, hhigh⟩ | ⟨-, hhigh⟩
    · have : c.toNat ≤ 57 := hhigh
      omega
    · have : c.toNat ≤ 102 := hhigh
      omega
    · have : c.toNat ≤ 70 := hhigh
      omega
  have hmem := hall c.toNat hbound
  rw [Char.ofNat_toNat] at hmem
  exact hmem h

/-- One character class for each place of
`^[0-9a-fA-F]{8}-[0-9a-fA-F]{4}-[1-5][0-9a-fA-F]{3}-[89abAB][0-9a-fA-F]{3}-[0-9a-fA-F]{12}$`. -/
def uuidClasses : List (Char → Bool) :=
  let dash := (· == '-')
  List.replicate 8 isHex ++ [dash] ++ List.replicate 4 isHex ++ [dash] ++
    [fun c => decide ('1' ≤ c ∧ c ≤ '5')] ++ List.replicate 3 isHex ++ [dash] ++
    [fun c => ['8', '9', 'a', 'b', 'A', 'B'].contains c] ++ List.replicate 3 isHex ++
    [dash] ++ List.replicate 12 isHex

def matchesClasses : List (Char → Bool) → List Char → Bool
  | [], [] => true
  | p :: ps, c :: cs => p c && matchesClasses ps cs
  | _, _ => false

/-- `commandIDPattern` and `connectorUUIDPattern` are the same expression. -/
def commandIDPattern (id : String) : Bool := matchesClasses uuidClasses id.toList

def connectorUUIDPattern (id : String) : Bool := commandIDPattern id

example : commandIDPattern "3f2504e0-4f89-41d3-9a0c-0305e82c3301" = true := by decide
example : commandIDPattern "3f2504e0-4f89-41d3-9a0c-0305e82c33" = false := by decide

end GatewayControl.Text
