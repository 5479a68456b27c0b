import GatewayControl.TokenParsing

/-!
What is accepted as a tunnel token: the documents with the three or four names, each written once
and without escapes. For these it makes no difference whether a parser keeps the first or the last
of several values of a name.
-/

namespace GatewayControl.TokenDocuments

open Base64 JsonText TunnelToken TokenParsing

/-- A name as it is written without escapes. -/
def quoted (name : JsString) : List Char := '"' :: name.map Char.ofNat ++ ['"']

/-- The member with that name, if there is one, is a string of that kind. -/
def Holds (members : List (List Item × Tree)) (name : JsString) (kind : JsString → Prop) : Prop :=
  ∀ m ∈ members, written m.1 = quoted name → ∃ items, m.2 = .string items ∧ kind (units items)

structure TokenMembers (members : List (List Item × Tree)) : Prop where
  names : (members.map fun m => written m.1).Perm ([nameA, nameS, nameT].map quoted) ∨
    (members.map fun m => written m.1).Perm ([nameA, nameE, nameS, nameT].map quoted)
  account : Holds members nameA fun a => accountTagPattern a = true
  tunnel : Holds members nameT fun t => uuidPattern t = true
  secret : Holds members nameS fun s =>
    ∃ secret, s = encode standard secret ∧ 16 ≤ secret.length ∧ secret.length ≤ 1024
  endpoint : Holds members nameE fun e => e = fed ∨ e = us

/-- The object that a token is the text of. -/
def Document (token : JsString) (members : List (List Item × Tree)) : Prop :=
  ∃ bytes text, token = encode standard bytes ∧ 2 ≤ bytes.length ∧ bytes.length ≤ 3072 ∧
    bytes = LimitedOutput.encode text ∧ parseJson text = some (.object members)

def WellFormed (token : JsString) : Prop :=
  48 ≤ token.length ∧ token.length ≤ 4096 ∧ ∃ members, Document token members ∧ TokenMembers members

/-! ### Names -/

lemma quoted_of_letter {key : List Item} (h : written key ∈ quotedNames) :
    written key = quoted (units key) ∧ units key ∈ [nameA, nameE, nameS, nameT] := by
  obtain ⟨x, hx, rfl⟩ := letter_of_quoted h
  simp only [List.mem_cons, List.not_mem_nil, or_false] at hx
  rcases hx with rfl | rfl | rfl | rfl <;> exact ⟨by decide, by decide⟩

lemma map_quoted {members : List (List Item × Tree)}
    (h : ∀ m ∈ members, written m.1 ∈ quotedNames) :
    (members.map fun m => written m.1) = (members.map fun m => units m.1).map quoted := by
  rw [List.map_map]
  exact List.map_congr_left fun m hm => (quoted_of_letter (h m hm)).1

/-- The joined names tell the names, if they are some of the four and each is there once. -/
lemma names_of_joined {names : List JsString} (hnodup : names.Nodup)
    (hmem : ∀ n ∈ names, n ∈ [nameA, nameE, nameS, nameT]) {expected : List JsString}
    (hexpected : expected = [nameA, nameS, nameT] ∨ expected = [nameA, nameE, nameS, nameT])
    (h : joined (names.insertionSort (· ≤ ·)) = joined expected) : names.Perm expected := by
  have hperm := List.perm_insertionSort (· ≤ ·) names
  have hsub : (names.insertionSort (· ≤ ·)).Subperm [nameA, nameE, nameS, nameT] :=
    List.subperm_of_subset (hperm.nodup_iff.mpr hnodup) fun n hn => hmem n (hperm.mem_iff.mp hn)
  have hsorted : [nameA, nameE, nameS, nameT].SortedLE := by decide
  have hlist := List.sublist_of_subperm_of_sortedLE hsub List.sortedLE_insertionSort hsorted
  have hall : ∀ l ∈ [nameA, nameE, nameS, nameT].sublists,
      ∀ e ∈ [[nameA, nameS, nameT], [nameA, nameE, nameS, nameT]], joined l = joined e → l = e := by
    decide
  have heq := hall _ (List.mem_sublists.mpr hlist) expected (by simpa using hexpected) h
  exact heq ▸ hperm.symm

/-! ### Lookups -/

variable {members : List (List Item × Tree)}

lemma find_of_mem {list : List (List Item × Tree)} (hnodup : (list.map fun m => units m.1).Nodup)
    {m : List Item × Tree} (hm : m ∈ list) :
    list.find? (fun m' => units m'.1 = units m.1) = some m := by
  induction list with
  | nil => cases hm
  | cons first list ih =>
    rw [List.map_cons, List.nodup_cons] at hnodup
    rcases List.mem_cons.mp hm with rfl | hm
    · rw [List.find?_cons_of_pos (by simp)]
    · have hne : units first.1 ≠ units m.1 := fun heq =>
        hnodup.1 (heq ▸ List.mem_map_of_mem (f := fun m => units m.1) hm)
      rw [List.find?_cons_of_neg (by simpa using hne), ih hnodup.2 hm]

lemma property_of_mem (hnodup : (members.map fun m => units m.1).Nodup) {m : List Item × Tree}
    (hm : m ∈ members) : property members (units m.1) = some m.2 := by
  have hreverse : (members.reverse.map fun m => units m.1).Nodup := by
    rw [List.map_reverse, List.nodup_reverse]
    exact hnodup
  unfold property
  rw [find_of_mem hreverse (List.mem_reverse.mpr hm), Option.map_some]

lemma property_of_notMem {name : JsString} (h : name ∉ members.map fun m => units m.1) :
    property members name = none := by
  unfold property
  rw [Option.map_eq_none_iff, List.find?_eq_none]
  intro m hm heq
  rw [← of_decide_eq_true heq] at h
  exact h (List.mem_map_of_mem (f := fun m => units m.1) (List.mem_reverse.mp hm))

/-- With each name once, the first value of a name is the last. -/
lemma firstProperty_eq (hnodup : (members.map fun m => units m.1).Nodup) :
    firstProperty members = property members := by
  funext name
  by_cases h : name ∈ members.map fun m => units m.1
  · obtain ⟨m, hm, rfl⟩ := List.mem_map.mp h
    rw [property_of_mem hnodup hm]
    unfold firstProperty
    rw [find_of_mem hnodup hm, Option.map_some]
  · rw [property_of_notMem h]
    unfold firstProperty
    rw [Option.map_eq_none_iff, List.find?_eq_none]
    intro m hm heq
    rw [← of_decide_eq_true heq] at h
    exact h (List.mem_map_of_mem (f := fun m => units m.1) hm)

/-! ### The keys of a document -/

lemma parseJson_cases {text : List Char} {tree : Tree} (h : parseJson text = some tree) :
    ∃ rest, parseValue (text.length + 1) (skipWs text) = some (tree, rest) ∧ skipWs rest = [] := by
  unfold parseJson at h
  split at h
  · next tree' rest hread =>
    split at h
    · next hend =>
      obtain rfl := Option.some.inj h
      exact ⟨rest, hread, List.isEmpty_iff.mp hend⟩
    · cases h
  · cases h

lemma written_mem {m : List Item × Tree} (hm : m ∈ members) : written m.1 ∈ memberKeys members := by
  induction members with
  | nil => cases hm
  | cons first members ih =>
    rw [memberKeys]
    rcases List.mem_cons.mp hm with rfl | hm
    · exact List.mem_cons_self
    · exact List.mem_cons_of_mem _ (List.mem_append_right _ (ih hm))

lemma length_memberKeys (members : List (List Item × Tree)) :
    members.length ≤ (memberKeys members).length := by
  induction members with
  | nil => exact Nat.zero_le _
  | cons first members ih =>
    rw [memberKeys, List.length_cons, List.length_cons, List.length_append]
    omega

/-- Where only allowed keys are found, and as many as the object has names, the object has the
keys that are written, each once. -/
lemma names_of_found {text : List Char} (h : parseJson text = some (.object members))
    (hallowed : Allowed text)
    (hcount : (serializedKeys text).length = (objectKeys members).length) :
    (members.map fun m => units m.1).Nodup ∧ ∀ m ∈ members, written m.1 ∈ quotedNames := by
  obtain ⟨rest, hread, hend⟩ := parseJson_cases h
  have hskip : Allowed (skipWs text) := by
    intro key hkey
    rw [serializedKeys_skipWs] at hkey
    exact hallowed key hkey
  have hfound := value_found _ _ _ _ hread (.inl hend) hskip
  rw [serializedKeys_skipWs, ← serializedKeys_skipWs rest, hend, serializedKeys, List.append_nil,
    Tree.keys] at hfound
  constructor
  · have hle := (List.dedup_sublist (members.map fun m => units m.1)).length_le
    have hge := length_memberKeys members
    rw [hfound] at hcount
    unfold objectKeys at hcount
    rw [List.length_map] at hle
    have hdedup := (List.dedup_sublist (members.map fun m => units m.1)).eq_of_length
      (by rw [List.length_map]; omega)
    exact List.dedup_eq_self.mp hdedup
  · intro m hm
    apply hallowed
    rw [hfound]
    exact written_mem hm

/-- The keys of a document whose members are strings with quoted names are found. -/
lemma found_of_strings {text : List Char} (h : parseJson text = some (.object members))
    (hne : members ≠ []) (hstrings : ∀ m ∈ members, ∃ items, m.2 = .string items)
    (hnames : ∀ m ∈ members, written m.1 ∈ quotedNames) :
    serializedKeys text = members.map fun m => written m.1 := by
  obtain ⟨rest, hread, hend⟩ := parseJson_cases h
  rw [← serializedKeys_skipWs]
  obtain ⟨f, -, hread⟩ := parseValue_cases hread
  generalize skipWs text = start at hread ⊢
  cases hread with
  | emptyObject => exact absurd rfl hne
  | object hmembers =>
    rw [serializedKeys_none (keyAt_of_ne _ (by decide)), ← serializedKeys_skipWs]
    exact members_flat hmembers hend hstrings hnames
  | scalar hscalar =>
    obtain ⟨front, -, -, heq | heq⟩ := parseScalar_cases hscalar
    · cases heq
    · cases heq

/-! ### Records -/

lemma holds_iff (hnodup : (members.map fun m => units m.1).Nodup)
    (hnames : ∀ m ∈ members, written m.1 ∈ quotedNames) {name : JsString}
    (hname : name ∈ [nameA, nameE, nameS, nameT]) (kind : JsString → Prop) :
    Holds members name kind ↔
      ∀ tree, property members name = some tree → ∃ s, stringValue tree = some s ∧ kind s := by
  have hquoted : ∀ n ∈ [nameA, nameE, nameS, nameT], ∀ n' ∈ [nameA, nameE, nameS, nameT],
      quoted n = quoted n' → n = n' := by decide
  constructor
  · intro h tree htree
    by_cases hmem : name ∈ members.map fun m => units m.1
    · obtain ⟨m, hm, rfl⟩ := List.mem_map.mp hmem
      rw [property_of_mem hnodup hm] at htree
      obtain rfl := Option.some.inj htree
      obtain ⟨items, heq, hkind⟩ := h m hm (quoted_of_letter (hnames m hm)).1
      exact ⟨units items, by rw [heq]; rfl, hkind⟩
    · rw [property_of_notMem hmem] at htree
      cases htree
  · intro h m hm hwritten
    obtain ⟨hsame, hletter⟩ := quoted_of_letter (hnames m hm)
    have heq : units m.1 = name := hquoted _ hletter _ hname (hsame.symm.trans hwritten)
    obtain ⟨s, hs, hkind⟩ := h m.2 (heq ▸ property_of_mem hnodup hm)
    cases htree : m.2 with
    | string items =>
      rw [htree] at hs
      obtain rfl := Option.some.inj hs
      exact ⟨items, rfl, hkind⟩
    | number text => rw [htree] at hs; cases hs
    | word text => rw [htree] at hs; cases hs
    | array elements => rw [htree] at hs; cases hs
    | object members => rw [htree] at hs; cases hs

lemma readRecord_isSome (sha256 : List UInt8 → String) (record : JsString → Option Tree) :
    (readRecord sha256 record).isSome = true ↔
      (∃ a, (record nameA).bind stringValue = some a ∧ accountTagPattern a = true) ∧
      (∃ t, (record nameT).bind stringValue = some t ∧ uuidPattern t = true) ∧
      (∃ s, (record nameS).bind stringValue = some s ∧
        ∃ secret, s = encode standard secret ∧ 16 ≤ secret.length ∧ secret.length ≤ 1024) ∧
      ∀ tree, record nameE = some tree → ∃ e, stringValue tree = some e ∧ (e = fed ∨ e = us) := by
  have hsecret : ∀ s, (decodeCanonicalBase64 s 16 1024).isSome = true ↔
      ∃ secret, s = encode standard secret ∧ 16 ≤ secret.length ∧ secret.length ≤ 1024 := by
    intro s
    rw [Option.isSome_iff_exists]
    exact exists_congr fun secret => decodeCanonicalBase64_eq (by decide)
  unfold readRecord
  cases ha : (record nameA).bind stringValue with
  | none => simp
  | some a =>
    cases ht : (record nameT).bind stringValue with
    | none => simp
    | some t =>
      cases hs : (record nameS).bind stringValue with
      | none => simp
      | some s =>
        dsimp only
        have hendpoint : ((record nameE).isSome && (record nameE).bind stringValue != some fed &&
            (record nameE).bind stringValue != some us) = false ↔
            ∀ tree, record nameE = some tree →
              ∃ e, stringValue tree = some e ∧ (e = fed ∨ e = us) := by
          cases he : record nameE with
          | none => simp
          | some tree =>
            simp only [Option.isSome_some, Bool.true_and, Option.bind_some, Bool.and_eq_false_iff,
              bne_eq_false_iff_eq, Option.some.injEq, forall_eq']
            constructor
            · rintro (h | h)
              · exact ⟨fed, h, .inl rfl⟩
              · exact ⟨us, h, .inr rfl⟩
            · rintro ⟨e, he, rfl | rfl⟩
              · exact .inl he
              · exact .inr he
        by_cases hpass : (!accountTagPattern a || !uuidPattern t ||
            ((record nameE).isSome && (record nameE).bind stringValue != some fed &&
              (record nameE).bind stringValue != some us)) = true
        · rw [if_pos hpass]
          simp only [Bool.or_eq_true, Bool.not_eq_true'] at hpass
          simp only [Option.isSome_none, Bool.false_eq_true, false_iff, Option.some.injEq,
            exists_eq_left', not_and]
          intro haccount htunnel _ he
          rcases hpass with (h | h) | h
          · rw [haccount] at h
            cases h
          · rw [htunnel] at h
            cases h
          · rw [hendpoint.mpr he] at h
            cases h
        · rw [if_neg hpass, Option.isSome_map, hsecret]
          simp only [Bool.not_eq_true, Bool.or_eq_false_iff, Bool.not_eq_false'] at hpass
          obtain ⟨⟨haccount, htunnel⟩, he⟩ := hpass
          simp only [Option.some.injEq, exists_eq_left', haccount, htunnel, true_and]
          exact ⟨fun h => ⟨h, hendpoint.mp he⟩, fun h => h.1⟩

/-- The checks of the keys. -/
structure KeysPass (text : List Char) (members : List (List Item × Tree)) : Prop where
  count : (serializedKeys text).length = (objectKeys members).length
  allowed : Allowed text
  joined : joined ((objectKeys members).insertionSort (· ≤ ·)) = joined [nameA, nameS, nameT] ∨
    joined ((objectKeys members).insertionSort (· ≤ ·)) = joined [nameA, nameE, nameS, nameT]

lemma space_encode {bytes : List UInt8} :
    (encode standard bytes).any (Text.isJsSpace ∘ Char.ofNat) = false := by
  rw [List.any_eq_false]
  intro u hu
  have hplain : ∀ u < 123, standard.isDigit u = true ∨ u = 61 →
      Text.isJsSpace (Char.ofNat u) = false := by decide
  have hsmall : ∀ u, standard.isDigit u = true → u < 123 := by
    intro u h
    by_contra hbig
    have hnone : standard.value u = none := by
      unfold standard
      dsimp only
      rw [if_neg (by omega), if_neg (by omega), if_neg (by omega), if_neg (by omega),
        if_neg (by omega)]
    unfold Alphabet.isDigit at h
    rw [hnone] at h
    cases h
  rcases mem_encode hu with h | rfl
  · exact Bool.eq_false_iff.mp (hplain u (hsmall u h) (.inl h))
  · exact Bool.eq_false_iff.mp (hplain _ (by decide) (.inr rfl))

lemma keysPass_iff {text : List Char} :
    KeysPass text members ↔
      ¬ ((serializedKeys text).length ≠
          ((objectKeys members).insertionSort (· ≤ ·)).length ∨
        (serializedKeys text).any (fun key => !quotedNames.contains key) = true) ∧
      ¬ (joined ((objectKeys members).insertionSort (· ≤ ·)) ≠ joined [nameA, nameS, nameT] ∧
        joined ((objectKeys members).insertionSort (· ≤ ·)) ≠
          joined [nameA, nameE, nameS, nameT]) := by
  have hallowed : Allowed text ↔
      ¬ (serializedKeys text).any (fun key => !quotedNames.contains key) = true := by
    unfold Allowed
    simp
  rw [List.length_insertionSort, not_or, not_not, ← hallowed, not_and_or, not_not, not_not]
  exact ⟨fun h => ⟨⟨h.count, h.allowed⟩, h.joined⟩, fun h => ⟨h.1.1, h.1.2, h.2⟩⟩

lemma parse_eq_some {sha256 : List UInt8 → String} {token : JsString} {parsed : Parsed} :
    parseCloudflareTunnelToken sha256 token = some parsed ↔
      48 ≤ token.length ∧ token.length ≤ 4096 ∧ ∃ bytes text members,
        (token = encode standard bytes ∧ 2 ≤ bytes.length ∧ bytes.length ≤ 3072 ∧
          bytes = LimitedOutput.encode text ∧ parseJson text = some (.object members)) ∧
        KeysPass text members ∧ readRecord sha256 (property members) = some parsed := by
  unfold parseCloudflareTunnelToken
  constructor
  · intro h
    split at h
    · cases h
    · next hlen =>
      rw [not_or, not_or, not_lt, not_lt] at hlen
      obtain ⟨bytes, hdecode, h⟩ := Option.bind_eq_some_iff.mp h
      obtain ⟨htoken, hfew, hmany⟩ := (decodeCanonicalBase64_eq (by decide)).mp hdecode
      dsimp only at h
      split at h
      · cases h
      · next hutf8 =>
        rw [not_not] at hutf8
        split at h
        · next members hjson =>
          split at h
          · cases h
          · next hfound =>
            split at h
            · cases h
            · next hjoined =>
              exact ⟨hlen.1, hlen.2.1, bytes, toUtf8 bytes, members,
                ⟨htoken, hfew, hmany, hutf8.symm, hjson⟩, keysPass_iff.mpr ⟨hfound, hjoined⟩, h⟩
        · cases h
  · rintro ⟨hlong, hshort, bytes, text, members, ⟨rfl, hfew, hmany, rfl, hjson⟩, hkeys, hread⟩
    obtain ⟨hfound, hjoined⟩ := keysPass_iff.mp hkeys
    rw [if_neg, (decodeCanonicalBase64_eq (by decide)).mpr ⟨rfl, hfew, hmany⟩, Option.bind_some]
    · dsimp only
      rw [toUtf8_encode, if_neg (not_not.mpr rfl), hjson]
      dsimp only
      rw [if_neg hfound, if_neg hjoined, hread]
    · rw [space_encode]
      simp only [not_or, not_lt]
      exact ⟨hlong, hshort, by decide⟩

/-- With the names written once each, the checks of a record are those of its members. -/
lemma tokenMembers_iff (sha256 : List UInt8 → String)
    (hnodup : (members.map fun m => units m.1).Nodup)
    (hquoted : ∀ m ∈ members, written m.1 ∈ quotedNames)
    (hnames : (members.map fun m => units m.1).Perm [nameA, nameS, nameT] ∨
      (members.map fun m => units m.1).Perm [nameA, nameE, nameS, nameT]) :
    (readRecord sha256 (property members)).isSome = true ↔ TokenMembers members := by
  have hwritten : (members.map fun m => written m.1).Perm ([nameA, nameS, nameT].map quoted) ∨
      (members.map fun m => written m.1).Perm ([nameA, nameE, nameS, nameT].map quoted) := by
    rw [map_quoted hquoted]
    exact hnames.imp (·.map _) (·.map _)
  -- the three names are there
  have hpresent : ∀ name ∈ [nameA, nameS, nameT], ∃ tree, property members name = some tree := by
    intro name hname
    have hmem : name ∈ members.map fun m => units m.1 := by
      rcases hnames with h | h
      · exact h.mem_iff.mpr hname
      · exact h.mem_iff.mpr (by
          simp only [List.mem_cons, List.not_mem_nil, or_false] at hname ⊢
          tauto)
    obtain ⟨m, hm, rfl⟩ := List.mem_map.mp hmem
    exact ⟨m.2, property_of_mem hnodup hm⟩
  have hheld : ∀ name ∈ [nameA, nameS, nameT], ∀ kind : JsString → Prop,
      Holds members name kind ↔
        ∃ s, (property members name).bind stringValue = some s ∧ kind s := by
    intro name hname kind
    obtain ⟨tree, htree⟩ := hpresent name hname
    rw [holds_iff hnodup hquoted (by
      simp only [List.mem_cons, List.not_mem_nil, or_false] at hname ⊢
      tauto), htree]
    simp
  rw [readRecord_isSome, ← hheld nameA (by decide) (fun a => accountTagPattern a = true),
    ← hheld nameT (by decide) (fun t => uuidPattern t = true),
    ← hheld nameS (by decide) (fun s =>
      ∃ secret, s = encode standard secret ∧ 16 ≤ secret.length ∧ secret.length ≤ 1024),
    ← holds_iff hnodup hquoted (by decide) (fun e => e = fed ∨ e = us)]
  exact ⟨fun h => ⟨hwritten, h.1, h.2.1, h.2.2.1, h.2.2.2⟩,
    fun h => ⟨h.account, h.tunnel, h.secret, h.endpoint⟩⟩

lemma names_of_keysPass {text : List Char} (hjson : parseJson text = some (.object members))
    (h : KeysPass text members) :
    (members.map fun m => units m.1).Nodup ∧ (∀ m ∈ members, written m.1 ∈ quotedNames) ∧
      ((members.map fun m => units m.1).Perm [nameA, nameS, nameT] ∨
        (members.map fun m => units m.1).Perm [nameA, nameE, nameS, nameT]) := by
  obtain ⟨hnodup, hquoted⟩ := names_of_found hjson h.allowed h.count
  have hmem : ∀ n ∈ members.map fun m => units m.1, n ∈ [nameA, nameE, nameS, nameT] := by
    intro n hn
    obtain ⟨m, hm, rfl⟩ := List.mem_map.mp hn
    exact (quoted_of_letter (hquoted m hm)).2
  have hkeys : objectKeys members = members.map fun m => units m.1 := List.dedup_eq_self.mpr hnodup
  refine ⟨hnodup, hquoted, ?_⟩
  have hjoined := h.joined
  rw [hkeys] at hjoined
  exact hjoined.imp (names_of_joined hnodup hmem (.inl rfl))
    (names_of_joined hnodup hmem (.inr rfl))

/-- The name between the quotes. -/
def unquoted (text : List Char) : JsString := text.tail.dropLast.map Char.toNat

lemma names_of_members (h : TokenMembers members) :
    (members.map fun m => units m.1).Nodup ∧ (∀ m ∈ members, written m.1 ∈ quotedNames) ∧
      ((members.map fun m => units m.1).Perm [nameA, nameS, nameT] ∨
        (members.map fun m => units m.1).Perm [nameA, nameE, nameS, nameT]) := by
  have hquoted : ∀ m ∈ members, written m.1 ∈ quotedNames := by
    intro m hm
    have hthree : ∀ w ∈ [nameA, nameS, nameT].map quoted, w ∈ quotedNames := by decide
    have hfour : ∀ w ∈ [nameA, nameE, nameS, nameT].map quoted, w ∈ quotedNames := by decide
    have hmem := List.mem_map_of_mem (f := fun m : List Item × Tree => written m.1) hm
    rcases h.names with hperm | hperm
    · exact hthree _ (hperm.mem_iff.mp hmem)
    · exact hfour _ (hperm.mem_iff.mp hmem)
  have hback : (members.map fun m => written m.1).map unquoted =
      members.map fun m => units m.1 := by
    have hletter : ∀ n ∈ [nameA, nameE, nameS, nameT], unquoted (quoted n) = n := by decide
    rw [List.map_map]
    refine List.map_congr_left fun m hm => ?_
    obtain ⟨hsame, hname⟩ := quoted_of_letter (hquoted m hm)
    exact (congrArg unquoted hsame).trans (hletter _ hname)
  have hperm : (members.map fun m => units m.1).Perm [nameA, nameS, nameT] ∨
      (members.map fun m => units m.1).Perm [nameA, nameE, nameS, nameT] := by
    rw [← hback]
    exact h.names.imp (·.map unquoted) (·.map unquoted)
  refine ⟨?_, hquoted, hperm⟩
  rcases hperm with hperm | hperm
  · exact hperm.nodup_iff.mpr (by decide)
  · exact hperm.nodup_iff.mpr (by decide)

lemma keysPass_of_members {text : List Char} (hjson : parseJson text = some (.object members))
    (h : TokenMembers members) : KeysPass text members := by
  obtain ⟨hnodup, hquoted, hperm⟩ := names_of_members h
  have hkeys : objectKeys members = members.map fun m => units m.1 := List.dedup_eq_self.mpr hnodup
  have hne : members ≠ [] := by
    rintro rfl
    rcases hperm with hperm | hperm
    · cases hperm.length_eq
    · cases hperm.length_eq
  have hstrings : ∀ m ∈ members, ∃ items, m.2 = .string items := by
    intro m hm
    obtain ⟨hsame, hname⟩ := quoted_of_letter (hquoted m hm)
    simp only [List.mem_cons, List.not_mem_nil, or_false] at hname
    rcases hname with heq | heq | heq | heq
    · obtain ⟨items, htree, -⟩ := h.account m hm (heq ▸ hsame)
      exact ⟨items, htree⟩
    · obtain ⟨items, htree, -⟩ := h.endpoint m hm (heq ▸ hsame)
      exact ⟨items, htree⟩
    · obtain ⟨items, htree, -⟩ := h.secret m hm (heq ▸ hsame)
      exact ⟨items, htree⟩
    · obtain ⟨items, htree, -⟩ := h.tunnel m hm (heq ▸ hsame)
      exact ⟨items, htree⟩
  have hfound := found_of_strings hjson hne hstrings hquoted
  have hsort : ∀ expected : List JsString, expected.SortedLE →
      (members.map fun m => units m.1).Perm expected →
      (members.map fun m => units m.1).insertionSort (· ≤ ·) = expected := by
    intro expected hsorted hp
    have hperm := (List.perm_insertionSort (· ≤ ·) (members.map fun m => units m.1)).trans hp
    exact hperm.eq_of_sortedLE List.sortedLE_insertionSort hsorted
  refine ⟨?_, fun key hkey => ?_, ?_⟩
  · rw [hfound, hkeys, List.length_map, List.length_map]
  · rw [hfound] at hkey
    obtain ⟨m, hm, rfl⟩ := List.mem_map.mp hkey
    exact hquoted m hm
  · rw [hkeys]
    exact hperm.imp (fun hp => by rw [hsort _ (by decide) hp])
      (fun hp => by rw [hsort _ (by decide) hp])

/-- Exactly the well-formed tokens are accepted, and what is read of an accepted one does not
depend on which of several values of a name a parser keeps. -/
theorem parsed_exactly (sha256 : List UInt8 → String) (token : JsString) :
    ((parseCloudflareTunnelToken sha256 token).isSome = true ↔ WellFormed token) ∧
      ∀ parsed members, parseCloudflareTunnelToken sha256 token = some parsed →
        Document token members →
        readRecord sha256 (firstProperty members) = some parsed ∧
          readRecord sha256 (property members) = some parsed := by
  refine ⟨?_, ?_⟩
  · rw [Option.isSome_iff_exists]
    constructor
    · rintro ⟨parsed, h⟩
      obtain ⟨hlong, hshort, bytes, text, members, hdoc, hkeys, hread⟩ := parse_eq_some.mp h
      obtain ⟨hnodup, hquoted, hnames⟩ := names_of_keysPass hdoc.2.2.2.2 hkeys
      have hmembers := (tokenMembers_iff sha256 hnodup hquoted hnames).mp (by rw [hread]; rfl)
      exact ⟨hlong, hshort, members, ⟨bytes, text, hdoc⟩, hmembers⟩
    · rintro ⟨hlong, hshort, members, ⟨bytes, text, hdoc⟩, hmembers⟩
      obtain ⟨hnodup, hquoted, hnames⟩ := names_of_members hmembers
      have hread := (tokenMembers_iff sha256 hnodup hquoted hnames).mpr hmembers
      obtain ⟨parsed, hread⟩ := Option.isSome_iff_exists.mp hread
      exact ⟨parsed, parse_eq_some.mpr ⟨hlong, hshort, bytes, text, members, hdoc,
        keysPass_of_members hdoc.2.2.2.2 hmembers, hread⟩⟩
  · rintro parsed members' h ⟨bytes', text', htoken', -, -, rfl, hjson'⟩
    obtain ⟨-, -, bytes, text, members, ⟨htoken, -, -, rfl, hjson⟩, hkeys, hread⟩ :=
      parse_eq_some.mp h
    have hbytes := congrArg (decode standard) (htoken'.symm.trans htoken)
    rw [decode_encode, decode_encode] at hbytes
    have htext := congrArg toUtf8 hbytes
    rw [toUtf8_encode, toUtf8_encode] at htext
    rw [htext, hjson] at hjson'
    obtain rfl : members = members' := by injection Option.some.inj hjson'
    obtain ⟨hnodup, -, -⟩ := names_of_keysPass hjson hkeys
    rw [firstProperty_eq hnodup]
    exact ⟨hread, hread⟩

/-! ### A token -/

def sampleAccount : List Char := List.replicate 32 '0'

def sampleTunnel : List Char :=
  List.replicate 8 '1' ++ '-' :: List.replicate 4 '2' ++ '-' :: List.replicate 4 '4' ++
    '-' :: List.replicate 4 '8' ++ '-' :: List.replicate 12 '3'

/-- Sixteen bytes. -/
def sampleSecret : List Char := List.replicate 22 'A' ++ ['=', '=']

def textOf (key : Char) (value : List Char) : List Char :=
  '"' :: key :: '"' :: ':' :: '"' :: (value ++ ['"'])

def sampleText : List Char :=
  '{' :: (textOf 'a' sampleAccount ++ ',' :: ' ' :: (textOf 't' sampleTunnel ++
    ',' :: (textOf 's' sampleSecret ++ ['}'])))

def sampleMembers : List (List Item × Tree) :=
  [('a', sampleAccount), ('t', sampleTunnel), ('s', sampleSecret)].map fun m =>
    ([.plain m.1], .string (m.2.map .plain))

def sampleToken : JsString := encode standard (LimitedOutput.encode sampleText)

lemma length_sample : (LimitedOutput.encode sampleText).length = 115 := by rfl

lemma document_sample : Document sampleToken sampleMembers := by
  refine ⟨_, sampleText, rfl, ?_, ?_, rfl, by rfl⟩
  · rw [length_sample]
    decide
  · rw [length_sample]
    decide

lemma members_sample : TokenMembers sampleMembers := by
  refine ⟨.inl (by decide), ?_, ?_, ?_, ?_⟩
  · intro m hm hname
    simp only [sampleMembers, List.map_cons, List.map_nil, List.mem_cons, List.not_mem_nil,
      or_false] at hm
    rcases hm with rfl | rfl | rfl
    · exact ⟨_, rfl, by decide⟩
    · exact absurd hname (by decide)
    · exact absurd hname (by decide)
  · intro m hm hname
    simp only [sampleMembers, List.map_cons, List.map_nil, List.mem_cons, List.not_mem_nil,
      or_false] at hm
    rcases hm with rfl | rfl | rfl
    · exact absurd hname (by decide)
    · exact ⟨_, rfl, by decide⟩
    · exact absurd hname (by decide)
  · intro m hm hname
    simp only [sampleMembers, List.map_cons, List.map_nil, List.mem_cons, List.not_mem_nil,
      or_false] at hm
    rcases hm with rfl | rfl | rfl
    · exact absurd hname (by decide)
    · exact absurd hname (by decide)
    · exact ⟨_, rfl, List.replicate 16 0, by decide, by decide, by decide⟩
  · intro m hm hname
    simp only [sampleMembers, List.map_cons, List.map_nil, List.mem_cons, List.not_mem_nil,
      or_false] at hm
    rcases hm with rfl | rfl | rfl
    · exact absurd hname (by decide)
    · exact absurd hname (by decide)
    · exact absurd hname (by decide)

/-- A token is accepted, and both ways to keep values read the same of it. -/
theorem parsed_exactly_sample : ∃ parsed,
    parseCloudflareTunnelToken (fun _ => "") sampleToken = some parsed ∧
      readRecord (fun _ => "") (firstProperty sampleMembers) = some parsed := by
  obtain ⟨hiff, hread⟩ := parsed_exactly (fun _ => "") sampleToken
  have hlen : sampleToken.length = 156 := by
    unfold sampleToken
    rw [length_encode, length_sample]
  have hformed : WellFormed sampleToken :=
    ⟨by rw [hlen]; decide, by rw [hlen]; decide, sampleMembers, document_sample, members_sample⟩
  obtain ⟨parsed, h⟩ := Option.isSome_iff_exists.mp (hiff.mpr hformed)
  exact ⟨parsed, h, (hread parsed _ h document_sample).1⟩

end GatewayControl.TokenDocuments
