import GatewayControl.LockStep

/-!
What the control plane can store. A result within the limits and free of `U+0000` is
accepted for a command that is claimed, and again once it was stored.
-/

namespace GatewayControl.Acceptance

open AgentTypes AgentRoutes Database Json LockStep Store Text Wire

/-! ### Strings inside a value -/

lemma mem_entryStrings {es : Entries} {k : String} {v : Json} {s : String}
    (hv : (k, v) ∈ es) (hs : s ∈ v.strings) : s ∈ entryStrings es := by
  induction es with
  | nil => cases hv
  | cons e es ih =>
    rw [entryStrings, List.mem_append]
    rcases List.mem_cons.mp hv with rfl | hv
    · left
      rw [pairStrings]
      exact List.mem_cons_of_mem _ hs
    · exact .inr (ih hv)

lemma jsonbAccepts_get? {v w : Json} {k : String} (h : jsonbAccepts v) (hw : v.get? k = some w) :
    jsonbAccepts w := by
  cases v with
  | obj es =>
    have hmem := mem_of_lookup hw
    unfold jsonbAccepts at h ⊢
    rw [List.all_eq_true] at h ⊢
    intro s hs
    apply h
    rw [strings]
    exact mem_entryStrings hmem hs
  | _ => cases hw

lemma hasNul_of_get? {v : Json} {k s : String} (h : jsonbAccepts v)
    (hs : v.get? k = some (.str s)) : hasNul s = false := by
  have hstr := jsonbAccepts_get? h hs
  simpa [jsonbAccepts, strings] using hstr

lemma sliceUnits_isPrefixOf (n : Nat) (cs : List Char) : (sliceUnits n cs).1 <+: cs := by
  induction cs generalizing n with
  | nil => exact List.nil_prefix
  | cons c cs ih =>
    unfold sliceUnits
    by_cases hc : utf16Units c ≤ n
    · rw [if_pos hc]
      exact List.prefix_cons_inj c |>.mpr (ih _)
    · rw [if_neg hc]
      exact List.nil_prefix

lemma hasNul_kept {n : Nat} {s : String} (h : hasNul s = false) :
    '\x00' ∉ (sliceUnits n s.toList).1 := by
  intro hmem
  have hin := (sliceUnits_isPrefixOf n s.toList).subset hmem
  unfold hasNul at h
  rw [← Bool.not_eq_true, List.contains_iff_mem] at h
  exact h hin

lemma hasNul_sliceText {n : Nat} {s : String} (h : hasNul s = false) :
    hasNul (sliceText n s) = false := by
  have hkept := @hasNul_kept n s h
  unfold sliceText hasNul
  dsimp only
  rw [String.toList_ofList, ← Bool.not_eq_true, List.contains_iff_mem]
  by_cases hhalf : (sliceUnits n s.toList).2
  · rw [if_pos hhalf, List.mem_append, List.mem_singleton]
    rintro (hmem | hmem)
    · exact hkept hmem
    · exact absurd hmem (by decide)
  · rwa [if_neg hhalf]

lemma hasNul_sliceJson {n : Nat} {s t : String} (h : hasNul s = false)
    (ht : sliceJson n s = some t) : hasNul t = false := by
  have hkept := @hasNul_kept n s h
  unfold sliceJson at ht
  dsimp only at ht
  split_ifs at ht with hhalf
  obtain rfl := Option.some.inj ht
  unfold hasNul
  rwa [String.toList_ofList, ← Bool.not_eq_true, List.contains_iff_mem]

lemma textParameter_sliceText {n : Nat} {s : String} (h : hasNul s = false) :
    textParameter (sliceText n s) = some (sliceText n s) := by
  simp [textParameter, hasNul_sliceText h]

lemma jsonParameter_of_accepts {v : Json} (h : jsonbAccepts v) : jsonParameter v = some v :=
  if_pos h

/-! ### Lengths -/

lemma jsLength_append (a b : List Char) : jsLength (a ++ b) = jsLength a + jsLength b := by
  simp [jsLength]

/-- Escaping never shortens. -/
lemma utf16Units_le_escapeChar (c : Char) : utf16Units c ≤ jsLength (escapeChar c) := by
  by_cases hplain : escapeChar c = [c]
  · rw [hplain]
    exact Nat.le_refl _
  · have hlong : 2 ≤ (escapeChar c).length := by
      unfold escapeChar at hplain ⊢
      split_ifs at hplain ⊢ <;> first | (exact absurd rfl hplain) | simp
    have hunits : utf16Units c ≤ 2 := by
      unfold utf16Units
      split_ifs <;> omega
    have hlength := length_le_jsLength (escapeChar c)
    omega

lemma jsLength_le_quote (s : String) : jsLength s.toList ≤ jsLength (quote s) := by
  have hbody : ∀ cs : List Char, jsLength cs ≤ jsLength (cs.flatMap escapeChar) := by
    intro cs
    induction cs with
    | nil => exact Nat.le_refl 0
    | cons c cs ih =>
      have hc := utf16Units_le_escapeChar c
      rw [List.flatMap_cons, jsLength_append, jsLength_cons]
      omega
  have h := hbody s.toList
  unfold quote
  rw [List.cons_append, jsLength_cons, jsLength_append]
  omega

lemma jsLength_entry {es : Entries} {k : String} {v : Json} (hv : (k, v) ∈ es) :
    jsLength (stringify v) ≤ jsLength (stringifyEntries es) := by
  induction es with
  | nil => cases hv
  | cons e es ih =>
    rw [stringifyEntries, jsLength_append]
    rcases List.mem_cons.mp hv with rfl | hv
    · rw [stringifyEntry, jsLength_append, jsLength_cons]
      omega
    · have hne : es.isEmpty = false := by
        cases es with
        | nil => cases hv
        | cons _ _ => rfl
      have h := ih hv
      rw [hne, if_neg Bool.false_ne_true, jsLength_cons]
      omega

lemma jsLength_get? {v : Json} {k s : String} (hs : v.get? k = some (.str s)) :
    jsLength s.toList ≤ jsLength (stringify v) := by
  cases v with
  | obj es =>
    have hquote := jsLength_le_quote s
    have hentry := jsLength_entry (mem_of_lookup hs)
    rw [stringify] at hentry
    rw [stringify, List.cons_append, jsLength_cons, jsLength_append]
    omega
  | _ => cases hs

/-! ### What an agent's result holds -/

lemma lookup_single (key k : String) (v : Json) :
    List.lookup key [(k, v)] = if key = k then some v else none := by
  by_cases hk : key = k
  · simp [hk]
  · have hbeq : (key == k) = false := by simpa using hk
    simp [List.lookup_cons, hbeq, hk]

lemma lookup_unlessEmpty (key k s : String) :
    (unlessEmpty k s).lookup key = if key = k ∧ s ≠ "" then some (.str s) else none := by
  unfold unlessEmpty
  by_cases hs : s = ""
  · simp [hs]
  · simp [hs, lookup_single]

lemma lookup_unlessZero (key k : String) (n : Int) :
    (unlessZero k n).lookup key = if key = k ∧ n ≠ 0 then some (number n) else none := by
  unfold unlessZero
  by_cases hn : n = 0
  · simp [hn]
  · simp [hn, lookup_single]

lemma get?_error (r : CommandResult) : (encodeResult r).get? "error" = some (.str r.error) := by
  simp [encodeResult, get?, List.lookup_cons]

lemma get?_stderr (r : CommandResult) :
    (encodeResult r).get? "stderr" = some (.str r.stderr) := by
  simp [encodeResult, get?, List.lookup_cons]

lemma get?_message (r : CommandResult) : (encodeResult r).get? "message" =
    if r.message = "" then none else some (.str r.message) := by
  simp [encodeResult, get?, List.lookup_append, lookup_unlessEmpty, lookup_unlessZero,
    List.lookup_cons]
  cases r.diagnostics <;> by_cases hm : r.message = "" <;> by_cases ha : r.artifacts = [] <;>
    simp [hm, ha, lookup_single]

lemma get?_logs (r : CommandResult) : (encodeResult r).get? "logs" =
    if r.logs = "" then none else some (.str r.logs) := by
  simp [encodeResult, get?, List.lookup_append, lookup_unlessEmpty, lookup_unlessZero,
    List.lookup_cons]
  cases r.diagnostics <;> by_cases hl : r.logs = "" <;> by_cases ha : r.artifacts = [] <;>
    simp [hl, ha, lookup_single]

/-- The three counts are numbers. -/
lemma get?_count (r : CommandResult) (key : String)
    (hkey : key ∈ ["matched", "succeeded", "failed"]) :
    (encodeResult r).get? key = none ∨ ∃ n, (encodeResult r).get? key = some (number n) := by
  simp only [List.mem_cons, List.not_mem_nil, or_false] at hkey
  rcases hkey with rfl | rfl | rfl <;>
    simp [encodeResult, get?, List.lookup_append, lookup_unlessEmpty, lookup_unlessZero,
      List.lookup_cons]
  · by_cases hn : r.matched = 0
    · left
      cases r.diagnostics <;> simp [hn]
    · right
      exact ⟨r.matched, by cases r.diagnostics <;> simp [hn, lookup_single]⟩
  · by_cases hn : r.succeeded = 0
    · left
      cases r.diagnostics <;> simp [hn]
    · right
      exact ⟨r.succeeded, by cases r.diagnostics <;> simp [hn, lookup_single]⟩
  · by_cases hn : r.failed = 0
    · left
      cases r.diagnostics <;> simp [hn]
    · right
      exact ⟨r.failed, by cases r.diagnostics <;> simp [hn, lookup_single]⟩

/-! ### Storable results -/

def ending (r : CommandResult) : Ending := if r.success then .succeeded else .failed

/-- The result fits into a request and into the columns: it is within the two limits, free
of `U+0000`, and the cut of its message leaves no half character. -/
structure Storable (r : CommandResult) : Prop where
  body : goLength (encodeBody r) ≤ bodyLimit
  length : jsLength (stringify (encodeResult r)) ≤ resultLimit
  accepted : jsonbAccepts (encodeResult r)
  message : (sliceJson 500 r.message).isSome

variable {r : CommandResult}

lemma Storable.message_hasNul (h : Storable r) : hasNul r.message = false := by
  by_cases hm : r.message = ""
  · rw [hm]
    rfl
  · exact hasNul_of_get? h.accepted ((get?_message r).trans (if_neg hm))

lemma Storable.error_hasNul (h : Storable r) : hasNul r.error = false :=
  hasNul_of_get? h.accepted (get?_error r)

lemma Storable.kept (h : Storable r) (work : Work) :
    jsonbAccepts (commandResult work (encodeResult r)) := by
  unfold commandResult
  split_ifs
  · rfl
  · exact h.accepted

lemma safeField_count {key : String} (hkey : key ∈ ["matched", "succeeded", "failed"]) :
    ∃ es, safeField (encodeResult r) key = some es ∧ jsonbAccepts (.obj es) := by
  unfold safeField
  have hname : hasNul key = false := by
    simp only [List.mem_cons, List.not_mem_nil, or_false] at hkey
    rcases hkey with rfl | rfl | rfl <;> decide
  rcases get?_count r key hkey with hnone | ⟨n, hnum⟩
  · rw [hnone]
    exact ⟨[], rfl, rfl⟩
  · rw [hnum]
    refine ⟨_, rfl, ?_⟩
    simp [jsonbAccepts, strings, entryStrings, pairStrings, hname]

lemma safeField_message (h : Storable r) :
    ∃ es, safeField (encodeResult r) "message" = some es ∧ jsonbAccepts (.obj es) := by
  unfold safeField
  rw [get?_message]
  by_cases hm : r.message = ""
  · rw [if_pos hm]
    exact ⟨[], rfl, rfl⟩
  · rw [if_neg hm]
    obtain ⟨cut, hcut⟩ := Option.isSome_iff_exists.mp h.message
    have hnul := hasNul_sliceJson h.message_hasNul hcut
    have hname : hasNul "message" = false := by decide
    refine ⟨[("message", .str cut)], ?_, ?_⟩
    · simp [hcut]
    · simp [jsonbAccepts, strings, entryStrings, pairStrings, hnul, hname]

lemma entryStrings_append (es es' : Entries) :
    entryStrings (es ++ es') = entryStrings es ++ entryStrings es' := by
  induction es with
  | nil => rfl
  | cons e es ih => rw [List.cons_append, entryStrings, entryStrings, ih, List.append_assoc]

lemma accepts_append {es es' : Entries} (h : jsonbAccepts (.obj es))
    (h' : jsonbAccepts (.obj es')) : jsonbAccepts (.obj (es ++ es')) := by
  unfold jsonbAccepts at h h' ⊢
  rw [strings] at h h' ⊢
  rw [entryStrings_append, List.all_append, h, h']
  rfl

lemma safeRuntimeResult_accepts (h : Storable r) :
    ∃ v, safeRuntimeResult (encodeResult r) = some v ∧ jsonbAccepts v := by
  obtain ⟨es₁, h₁, ha₁⟩ := @safeField_count r "matched" (by simp)
  obtain ⟨es₂, h₂, ha₂⟩ := @safeField_count r "succeeded" (by simp)
  obtain ⟨es₃, h₃, ha₃⟩ := @safeField_count r "failed" (by simp)
  obtain ⟨es₄, h₄, ha₄⟩ := safeField_message h
  refine ⟨.obj (es₁ ++ (es₂ ++ (es₃ ++ es₄))), ?_, ?_⟩
  · simp [safeRuntimeResult, h₁, h₂, h₃, h₄]
  · exact accepts_append ha₁ (accepts_append ha₂ (accepts_append ha₃ ha₄))

lemma truthyString_str {s : String} : truthyString (some (.str s)) = none ∧ s = "" ∨
    truthyString (some (.str s)) = some s := by
  by_cases hs : s = ""
  · exact .inl ⟨by simp [truthyString, hs], hs⟩
  · exact .inr (by simp [truthyString, hs])

lemma errorText_isSome (h : Storable r) (message : String) (hm : hasNul message = false) :
    ∃ t, errorText (ending r) (encodeResult r) message = some t := by
  unfold errorText
  cases ending r with
  | succeeded => exact ⟨none, rfl⟩
  | failed =>
    dsimp only
    rw [get?_error]
    rcases truthyString_str with ⟨hnone, -⟩ | hsome
    · rw [hnone, Option.getD_none, textParameter_sliceText hm]
      exact ⟨_, rfl⟩
    · rw [hsome, Option.getD_some, textParameter_sliceText h.error_hasNul]
      exact ⟨_, rfl⟩

lemma logsKept_isSome (h : Storable r) : ∃ v, logsKept (ending r) (encodeResult r) = some v := by
  unfold logsKept
  cases ending r with
  | failed => exact ⟨none, rfl⟩
  | succeeded =>
    dsimp only
    have hlogs : ∃ s, (text? "logs" (encodeResult r)).getD "" = s ∧ hasNul s = false ∧
        jsLength s.toList ≤ resultLimit := by
      unfold text?
      by_cases hl : r.logs = ""
      · rw [get?_logs, if_pos hl]
        exact ⟨"", rfl, rfl, by decide⟩
      · have hget := (get?_logs r).trans (if_neg hl)
        rw [hget]
        exact ⟨r.logs, rfl, hasNul_of_get? h.accepted hget,
          le_trans (jsLength_get? hget) h.length⟩
    obtain ⟨s, hs, hnul, hlength⟩ := hlogs
    have hunits : sliceUnits 262144 s.toList = (s.toList, false) := sliceUnits_of_le hlength
    have hcut : sliceJson 262144 s = some s := by
      simp [sliceJson, hunits]
    have hnames : hasNul "logs" = false ∧ hasNul "truncated" = false := by decide
    have hkept : jsonbAccepts (.obj [("logs", .str s),
        ("truncated", .bool (isTrue "truncated" (encodeResult r)))]) := by
      simp [jsonbAccepts, strings, entryStrings, pairStrings, hnul, hnames]
    rw [hs, hcut]
    simp only [Option.bind_eq_bind, Option.bind_some]
    rw [jsonParameter_of_accepts hkept]
    exact ⟨_, rfl⟩

lemma connectorError_isSome (h : Storable r) :
    ∃ t, nullableText (connectorError (ending r) (encodeResult r)) = some t := by
  have hcut : ∀ s, hasNul s = false →
      ∃ t, nullableText (some (sliceText 1000 s)) = some t := by
    intro s hs
    rw [nullableText, textParameter_sliceText hs]
    exact ⟨_, rfl⟩
  unfold connectorError
  cases ending r with
  | failed =>
    dsimp only
    rw [get?_error, get?_stderr]
    rcases truthyString_str with ⟨hnone, -⟩ | hsome
    · rw [hnone, Option.none_or]
      rcases truthyString_str with ⟨hnone', -⟩ | hsome'
      · rw [hnone', Option.getD_none]
        exact hcut _ (by decide)
      · rw [hsome', Option.getD_some]
        exact hcut _ (hasNul_of_get? h.accepted (get?_stderr r))
    · rw [hsome, Option.some_or, Option.getD_some]
      exact hcut _ h.error_hasNul
  | succeeded =>
    dsimp only
    unfold text?
    rw [get?_message]
    by_cases hm : r.message = ""
    · rw [if_pos hm]
      exact ⟨none, rfl⟩
    · rw [if_neg hm]
      exact hcut _ h.message_hasNul

/-- Whatever the command is about, a storable result is recorded. -/
lemma finishWork_isSome (h : Storable r) (db : Db) (now : Database.Time) (agentId : String)
    (c : CommandRow) :
    ∃ db', finishWork db now agentId c (ending r) (encodeResult r) = some db' := by
  have hresult := jsonParameter_of_accepts h.accepted
  obtain ⟨safe, hsafe, haccepts⟩ := safeRuntimeResult_accepts h
  have hkept := jsonParameter_of_accepts haccepts
  unfold finishWork
  cases c.work with
  | operation kind id =>
    cases kind with
    | backup =>
      dsimp only
      unfold finishBackup
      rw [hresult]
      simp only [Option.bind_eq_bind, Option.bind_some]
      split <;> exact ⟨_, rfl⟩
    | restore =>
      dsimp only
      unfold finishRestore
      rw [hresult]
      simp only [Option.bind_eq_bind, Option.bind_some]
      split <;> exact ⟨_, rfl⟩
    | action =>
      obtain ⟨t, ht⟩ := errorText_isSome h "Runtime action failed." (by decide)
      dsimp only
      unfold finishAction
      rw [hsafe, ht]
      simp only [Option.bind_eq_bind, Option.bind_some, hkept]
      split <;> exact ⟨_, rfl⟩
    | logs =>
      obtain ⟨t, ht⟩ := errorText_isSome h "Runtime log request failed." (by decide)
      obtain ⟨kept, hlogs⟩ := logsKept_isSome h
      dsimp only
      unfold finishLogs
      rw [hlogs, ht]
      exact ⟨_, rfl⟩
    | deployment =>
      obtain ⟨t, ht⟩ := errorText_isSome h "Deployment failed." (by decide)
      dsimp only
      unfold finishDeployment
      rw [hsafe, ht]
      simp only [Option.bind_eq_bind, Option.bind_some, hkept]
      split <;> exact ⟨_, rfl⟩
  | connectorSync connectorId revision =>
    obtain ⟨t, ht⟩ := connectorError_isSome h
    dsimp only
    unfold finishConnector
    rw [ht]
    exact ⟨_, rfl⟩
  | _ => exact ⟨_, rfl⟩

/-! ### The agent's commands -/

/-- The command was handed to the agent and is not over. -/
def Claimed (agentId : String) (db : Db) (id : String) : Prop :=
  ∃ c, db.commands.find? id = some c ∧ c.agentId = agentId ∧ c.status = .claimed

/-- The command ended with this result. -/
def Done (agentId : String) (db : Db) (id : String) (r : CommandResult) : Prop :=
  ∃ c, db.commands.find? id = some c ∧ c.agentId = agentId ∧
    c.status = (ending r).command ∧ c.result = some (commandResult c.work (encodeResult r))

def Over (agentId : String) (db : Db) (id : String) : Prop :=
  ∃ c, db.commands.find? id = some c ∧ c.agentId = agentId ∧
    (c.status = .succeeded ∨ c.status = .failed)

variable {agentId id : String} {db db' : Db}

lemma Done.over (h : Done agentId db id r) : Over agentId db id := by
  obtain ⟨c, hc, ha, hs, -⟩ := h
  refine ⟨c, hc, ha, ?_⟩
  rw [hs]
  cases ending r
  · exact .inl rfl
  · exact .inr rfl

lemma Over.not_claimed (h : Over agentId db id) : ¬ Claimed agentId db id := by
  rintro ⟨c', hc', -, hs'⟩
  obtain ⟨c, hc, -, hs⟩ := h
  obtain rfl := Option.some.inj (hc.symm.trans hc')
  rw [hs'] at hs
  rcases hs with hs | hs <;> cases hs

lemma parseStatus_status (r : CommandResult) : parseStatus (status r) = some (ending r) := by
  unfold status ending
  cases r.success <;> decide

lemma resultRoute_eq (h : Storable r) (hid : commandIDPattern r.commandId) (db : Db)
    (now : Database.Time) : resultRoute db now agentId r =
      match completeCommand db now agentId r.commandId (ending r) (encodeResult r) with
      | none => (db, .refused 500 "An internal server error occurred.")
      | some (db, .missing) => (db, .refused 404 "Command not found.")
      | some (db, .conflict) =>
          (db, .refused 409 "The command is not in a claimable completion state.")
      | some (db, .idempotent) => (db, .accepted true)
      | some (db, .updated) => (db, .accepted false) := by
  have hbody : ¬ goLength (encodeBody r) > bodyLimit := Nat.not_lt.mpr h.body
  have hlength : ¬ jsLength (stringify (encodeResult r)) > resultLimit :=
    Nat.not_lt.mpr h.length
  unfold resultRoute resultHandler
  rw [if_neg hbody, parseStatus_status]
  dsimp only
  rw [if_neg hlength, hid]
  rfl

/-- A storable result of a claimed command is recorded, and no other command changes. -/
lemma resultRoute_claimed (h : Storable r) (hid : commandIDPattern r.commandId)
    (hclaimed : Claimed agentId db r.commandId) (now : Database.Time) :
    ∃ db', resultRoute db now agentId r = (db', .accepted false) ∧
      Done agentId db' r.commandId r ∧
      ∀ k, k ≠ r.commandId → db'.commands.find? k = db.commands.find? k := by
  obtain ⟨c, hc, ha, hs⟩ := hclaimed
  have hcid := Table.key_find? hc
  have hkept := jsonParameter_of_accepts (h.kept c.work)
  set kept := commandResult c.work (encodeResult r) with hkept_eq
  set db₁ := db.updateCommands (fun c => c.id = r.commandId && c.agentId = agentId)
    (completeRow now (ending r) kept) fun _ => rfl with hdb₁
  obtain ⟨db', hfinish⟩ := finishWork_isSome h db₁ now agentId c
  have hne : c.status ≠ (ending r).command := by
    rw [hs]
    cases ending r <;> simp [Ending.command]
  have hcomplete : completeCommand db now agentId r.commandId (ending r) (encodeResult r) =
      some (db', .updated) := by
    unfold completeCommand
    rw [hc, Option.filter_some, if_pos (by simp [ha])]
    dsimp only
    rw [if_neg (fun h => hne h.1), if_neg (fun h => hne h.1), if_neg (not_not.mpr hs), hkept]
    simp only [Option.bind_eq_bind, Option.bind_some]
    rw [hfinish]
    rfl
  have hfind := Table.find?_update db.commands
    (fun c => c.id = r.commandId && c.agentId = agentId) (completeRow now (ending r) kept)
    fun _ => rfl
  have hmoves := (moves_finishWork hfinish).commands
  refine ⟨db', ?_, ?_, ?_⟩
  · rw [resultRoute_eq h hid, hcomplete]
  · refine ⟨completeRow now (ending r) kept c, ?_, ha, rfl, rfl⟩
    rw [hmoves]
    refine (hfind _).trans ?_
    rw [hc, Option.map_some, if_pos (by simp [hcid, ha])]
  · intro k hk
    rw [hmoves]
    refine (hfind k).trans ?_
    cases hold : db.commands.find? k with
    | none => rfl
    | some old =>
      have holdId := Table.key_find? hold
      rw [Option.map_some, if_neg (by simp [holdId, hk])]

/-- The same result is accepted again. -/
lemma resultRoute_done (h : Storable r) (hid : commandIDPattern r.commandId)
    (hdone : Done agentId db r.commandId r) (now : Database.Time) :
    resultRoute db now agentId r = (db, .accepted true) := by
  obtain ⟨c, hc, ha, hs, hr⟩ := hdone
  have hcomplete : completeCommand db now agentId r.commandId (ending r) (encodeResult r) =
      some (db, .idempotent) := by
    unfold completeCommand
    rw [hc, Option.filter_some, if_pos (by simp [ha])]
    dsimp only
    rw [if_neg (by simp [h.kept]), if_pos ⟨hs, by simp [hr]⟩]
  rw [resultRoute_eq h hid, hcomplete]

end GatewayControl.Acceptance
