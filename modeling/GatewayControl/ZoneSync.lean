import GatewayControl.Cloudflare
import GatewayControl.UniqueNames
import Mathlib.Tactic.IntervalCases

/-!
The zones of an account: what `listZones` accepts of Cloudflare's pages, the table that
keeps the zones, and the request that brings the second in line with the first.

A zone's row goes by its identifier, but its name is unique in the account as well, and the
rows of zones no longer listed stay. So a listing is taken in only where every listed zone
finds its name free when its turn comes.

The answers come decoded, with what `Number` reads in the numbers of a page. The times of
rows are left out; the table's own identifiers are those `gen_random_uuid` finds.
-/

namespace GatewayControl.ZoneSync

open Cloudflare Database Json Publishing Requests Text UniqueNames

/-! ### Listing -/

structure CloudflareZoneResult where
  id : String
  name : String
  status : String
deriving DecidableEq

/-- The answer to a page: `page` and `total_pages` of `result_info`, where they are present,
are `none` inside if no integer. -/
structure CloudflareEnvelope where
  result : Json
  page : Option (Option Int) := none
  totalPages : Option (Option Int) := none

def maxZonePages : Nat := 10

/-- `/^[a-f0-9]{32}$/i`. -/
def isIdentifier (s : String) : Bool := s.toList.all isHex && s.toList.length == 32

def isHostname (value : String) : Bool :=
  decide (1 ≤ jsLength value.toList) && decide (jsLength value.toList ≤ 253) &&
    (value.toList.splitOn '.').all fun label => hostnameLabel (label.map Char.toLower)

def readZone (item : Json) : Option CloudflareZoneResult :=
  match item.get? "id", item.get? "name", item.get? "status" with
  | some (.str id), some (.str name), some (.str status) =>
      if isIdentifier id && isHostname name && decide (1 ≤ jsLength status.toList) &&
          decide (jsLength status.toList ≤ 64) then some ⟨lower id, name, status⟩
      else none
  | _, _, _ => none

def invalidZone : Failure := .client "Cloudflare returned an invalid zone." 502 none

def duplicateZones : Failure :=
  .client "Cloudflare returned duplicate zone identifiers." 502 none

def invalidZones : Failure := .client "Cloudflare returned an invalid zones response." 502 none

def invalidPagination : Failure :=
  .client "Cloudflare returned invalid zone pagination metadata." 502 none

def tooManyPages : Failure :=
  .client ("Cloudflare zone pagination exceeded the " ++ toString maxZonePages ++
    "-page safety limit.") 502 none

/-- The loop over a page's items; `zones` are those read so far. -/
def readItems : List CloudflareZoneResult → List Json →
    Except Failure (List CloudflareZoneResult)
  | zones, [] => .ok zones
  | zones, item :: items =>
      match readZone item with
      | none => .error invalidZone
      | some zone =>
          if zone.id ∈ zones.map (·.id) then .error duplicateZones
          else readItems (zones ++ [zone]) items

/-- The pages from `page` on, with so many left before the limit. -/
def listPages (request : Nat → Except Failure CloudflareEnvelope) :
    Nat → Nat → Option Int → List CloudflareZoneResult →
      Except Failure (List CloudflareZoneResult)
  | 0, _, _, _ => .error tooManyPages
  | left + 1, page, expectedTotalPages, zones =>
      match request page with
      | .error e => .error e
      | .ok envelope =>
          match envelope.result with
          | .arr items =>
              match readItems zones items with
              | .error e => .error e
              | .ok zones =>
                  if envelope.page.any (· ≠ some (page : Int)) then .error invalidPagination
                  else
                    match envelope.totalPages.getD (some (page : Int)) with
                    | none => .error invalidPagination
                    | some totalPages =>
                        if totalPages < page ∨ expectedTotalPages.any (· ≠ totalPages) then
                          .error invalidPagination
                        else if totalPages = page then .ok zones
                        else listPages request left (page + 1)
                          (some (expectedTotalPages.getD totalPages)) zones
          | _ => .error invalidZones

/-- `listZones`, given what the request for each page comes to. -/
def listZones (request : Nat → Except Failure CloudflareEnvelope) :
    Except Failure (List CloudflareZoneResult) :=
  listPages request maxZonePages 1 none []

/-! ### The table -/

/-- The checks on a row of `cloudflare_zones`, and that no text has a `U+0000`. -/
def Checks (r : ZoneRow) : Prop :=
  r.zoneIdentifier.length = 32 ∧ (1 ≤ r.name.length ∧ r.name.length ≤ 253) ∧
    (1 ≤ r.status.length ∧ r.status.length ≤ 64) ∧
    !hasNul r.zoneIdentifier ∧ !hasNul r.name ∧ !hasNul r.status

instance (r : ZoneRow) : Decidable (Checks r) :=
  inferInstanceAs (Decidable (_ ∧ (_ ∧ _) ∧ (_ ∧ _) ∧ _ ∧ _ ∧ _))

/-- The checks, the primary key and the two unique indexes. -/
def Constraints (rows : List ZoneRow) : Prop :=
  (∀ r ∈ rows, Checks r) ∧ (rows.map ZoneRow.id).Nodup ∧
    (rows.map fun r => lower r.zoneIdentifier).Nodup ∧
    (rows.map fun r => (r.accountId, r.name)).Nodup

instance (rows : List ZoneRow) : Decidable (Constraints rows) :=
  inferInstanceAs (Decidable (_ ∧ _ ∧ _ ∧ _))

structure Zones where
  rows : List ZoneRow
  valid : Constraints rows

/-- The rows under their lower-cased identifiers. -/
def Zones.table (t : Zones) : Table ZoneRow String fun r => lower r.zoneIdentifier :=
  ⟨t.rows, t.valid.2.2.1⟩

/-- The table with these rows, unless the database refuses them. -/
def Zones.write? (rows : List ZoneRow) : Option Zones :=
  if h : Constraints rows then some ⟨rows, h⟩ else none

/-- `gen_random_uuid()`: an identifier that is not taken. -/
structure Uuids where
  next : List String → String
  fresh : ∀ taken, next taken ∉ taken

/-- A row of `cloudflare_accounts`; `apiToken` is what the stored token decrypts to. -/
structure SyncedAccount where
  id : String
  accountIdentifier : String
  apiToken : Option String
  lastSyncedAt : Option Time := none
  lastErrorAt : Option Time := none
  lastError : Option String := none
deriving DecidableEq

structure ZoneDb where
  accounts : Table SyncedAccount String SyncedAccount.id
  zones : Zones

/-! ### Synchronizing -/

/-- A zone as the store takes it. -/
structure ZoneValues where
  zoneIdentifier : String
  name : String
  status : String
deriving DecidableEq

def marked (accountId : String) (zones : List ZoneValues) (r : ZoneRow) : ZoneRow :=
  if r.accountId = accountId ∧ r.zoneIdentifier ∉ zones.map (·.zoneIdentifier) then
    { r with status := "unavailable" }
  else r

/-- `UPDATE cloudflare_zones SET status = 'unavailable'` for the account's unlisted zones. -/
def markUnavailable (t : Zones) (accountId : String) (zones : List ZoneValues) :
    Option Zones :=
  Zones.write? (t.rows.map (marked accountId zones))

/-- The row an insertion proposes. -/
def excluded (uuids : Uuids) (t : Zones) (accountId : String) (zone : ZoneValues) : ZoneRow :=
  ⟨uuids.next (t.rows.map ZoneRow.id), accountId, zone.zoneIdentifier, zone.name, zone.status⟩

/-- `DO UPDATE SET` on the row the insertion conflicts with. -/
def upserted (zone : ZoneValues) (r : ZoneRow) : ZoneRow :=
  if lower r.zoneIdentifier = lower zone.zoneIdentifier then
    { r with name := zone.name, status := zone.status }
  else r

/-- `INSERT ... ON CONFLICT ((lower(zone_identifier))) DO UPDATE`; a row of another account
is left alone. -/
def upsertZone (uuids : Uuids) (accountId : String) (t : Zones) (zone : ZoneValues) :
    Option Zones :=
  let row := excluded uuids t accountId zone
  if Checks row then
    match t.table.find? (lower zone.zoneIdentifier) with
    | none => Zones.write? (t.rows ++ [row])
    | some old =>
        if old.accountId = accountId then Zones.write? (t.rows.map (upserted zone)) else some t
  else none

/-- What a sync sets on the account. -/
def recorded (now : Time) (error : Option String) (a : SyncedAccount) : SyncedAccount :=
  { a with
    lastSyncedAt := if error.isNone then some now else a.lastSyncedAt,
    lastErrorAt := if error.isNone then none else some now,
    lastError := error }

lemma recorded_id (now : Time) (error : Option String) (a : SyncedAccount) :
    (recorded now error a).id = a.id := rfl

/-- `none` where the transaction is rolled back. -/
def syncCloudflareZones (uuids : Uuids) (now : Time) (db : ZoneDb) (accountId : String)
    (zones : List ZoneValues) (error : Option String) :
    Option (Option (List ZoneRow) × ZoneDb) :=
  let accounts := db.accounts.update (·.id = accountId) (recorded now error) (recorded_id now error)
  if (accounts.find? accountId).isNone then some (none, ⟨accounts, db.zones⟩)
  else
    let stored :=
      if error.any (· ≠ "") then some db.zones
      else (markUnavailable db.zones accountId zones).bind fun t =>
        zones.foldlM (upsertZone uuids accountId) t
    stored.map fun t => (some (t.rows.filter (·.accountId = accountId)), ⟨accounts, t⟩)

/-! ### The request -/

inductive AccountOperation where
  | token
  | zones
deriving DecidableEq

def cloudflareAccountApiError (error : Failure) (operation : AccountOperation) : Failure :=
  match error with
  | .client _ status code =>
      if operation = .token ∧
          (status = 401 ∨ status = 403 ∨ code = some 10000 ∨ code = some 9109) then
        .api 502 "The Cloudflare API token is invalid." (some "cloudflare_token_invalid")
      else if operation = .zones ∧ (code = some 1001 ∨ code = some 7003) then
        .api 502 "The Cloudflare API token does not have access to the configured account."
          (some "cloudflare_account_scope_mismatch")
      else if operation = .zones ∧ status = 401 then
        .api 502 "The Cloudflare API token is invalid." (some "cloudflare_token_invalid")
      else if operation = .zones ∧ status = 403 then
        .api 502 "The Cloudflare API token cannot list zones for this account."
          (some "cloudflare_zone_access_denied")
      else if status = 0 ∨ (status ≥ 500 ∧ status ≠ 502) then
        .api 502 "Cloudflare could not be reached." (some "cloudflare_unreachable")
      else
        .api 502 "Cloudflare returned an invalid zones response."
          (some "cloudflare_zone_response_invalid")
  | _ => .api 502 "Cloudflare could not be reached." (some "cloudflare_unreachable")

def accountNotFound : Failure := .api 404 "Cloudflare account not found." none

def undecryptable : Failure :=
  .api 500 "Cloudflare account credentials could not be decrypted." none

/-- What the database's refusal throws. -/
def refused : Failure := .other "duplicate key value violates unique constraint"

def ZoneValues.ofResult (zone : CloudflareZoneResult) : ZoneValues :=
  ⟨zone.id, zone.name, zone.status⟩

/-- The handler's `try` block: what it throws comes with the operation it was at. -/
def trySync (uuids : Uuids) (now : Time) (db : ZoneDb) (id : String)
    (verifyToken : Except Failure Unit)
    (request : Nat → Except Failure CloudflareEnvelope) :
    Except (Failure × AccountOperation) (List ZoneRow × Nat) × ZoneDb :=
  match verifyToken with
  | .error e => (.error (e, .token), db)
  | .ok _ =>
      match listZones request with
      | .error e => (.error (e, .zones), db)
      | .ok zones =>
          match syncCloudflareZones uuids now db id (zones.map .ofResult) none with
          | none => (.error (refused, .zones), db)
          | some (none, db') => (.error (accountNotFound, .zones), db')
          | some (some stored, db') => (.ok (stored, zones.length), db')

/-- `POST /api/cloudflare/accounts/:id/sync`, given what Cloudflare answers. -/
def syncRequest (uuids : Uuids) (now : Time) (db : ZoneDb) (id : String)
    (verifyToken : Except Failure Unit)
    (request : Nat → Except Failure CloudflareEnvelope) :
    Except Failure (List ZoneRow × Nat) × ZoneDb :=
  match db.accounts.find? id with
  | none => (.error accountNotFound, db)
  | some account =>
      match account.apiToken with
      | none => (.error undecryptable, db)
      | some _ =>
          match trySync uuids now db id verifyToken request with
          | (.ok answer, db') => (.ok answer, db')
          | (.error (.api status message code, _), db') =>
              (.error (.api status message code), db')
          | (.error (e, operation), db') =>
              let apiError := cloudflareAccountApiError e operation
              let code := match apiError with
                | .api _ _ (some code) => code
                | _ => "cloudflare_unreachable"
              match syncCloudflareZones uuids now db' id [] (some code) with
              | none => (.error refused, db')
              | some (_, db'') => (.error apiError, db'')

/-! ### What is listed -/

structure Valid (z : CloudflareZoneResult) : Prop where
  length : z.id.length = 32
  plain : lower z.id = z.id
  idText : hasNul z.id = false
  name : 1 ≤ z.name.length ∧ z.name.length ≤ 253
  nameText : hasNul z.name = false
  status : 1 ≤ z.status.length ∧ z.status.length ≤ 64

lemma lowerFrom_ascii {m : CaseMapping} {before cs : List Char}
    (h : ∀ c ∈ cs, c.toNat < 128) : lowerFrom m before cs = cs.map Char.toLower := by
  induction cs generalizing before with
  | nil => rfl
  | cons c cs ih =>
    have hcs := @ih (c :: before) fun d hd => h d (List.mem_cons_of_mem _ hd)
    rw [lowerFrom, lowerAt, if_pos (h c List.mem_cons_self), hcs]
    rfl

/-- A text of some length in UTF-16 units is no longer in characters, and not empty. -/
lemma length_of_jsLength {s : String} {most : Nat} (hleast : 1 ≤ jsLength s.toList)
    (hmost : jsLength s.toList ≤ most) : 1 ≤ s.length ∧ s.length ≤ most := by
  rw [← String.length_toList]
  have hle := length_le_jsLength s.toList
  refine ⟨?_, by omega⟩
  cases hs : s.toList with
  | nil =>
    rw [hs] at hleast
    exact absurd hleast (by decide)
  | cons c cs =>
    rw [List.length_cons]
    omega

lemma isHex_lower {c : Char} (h : isHex c) : c.toNat < 128 ∧ isLowerOrDigit c.toLower := by
  have hall : ("0123456789abcdefABCDEF".toList.all fun c =>
      decide (c.toNat < 128 ∧ isLowerOrDigit c.toLower)) = true := by decide
  exact of_decide_eq_true (List.all_eq_true.mp hall c (isHex_mem h))

lemma lower_identifier {s : String} (h : isIdentifier s) :
    (lower s).toList = s.toList.map Char.toLower := by
  simp only [isIdentifier, Bool.and_eq_true] at h
  unfold lower toLowerCase
  rw [String.toList_ofList, lowerFrom_ascii]
  exact fun c hc => (isHex_lower (List.all_eq_true.mp h.1 c hc)).1

lemma hasNul_of_all {s : String} {p : Char → Bool} (hp : p '\x00' = false)
    (h : ∀ c ∈ s.toList, p c) : hasNul s = false := by
  unfold hasNul
  rw [List.contains_eq_mem, decide_eq_false_iff_not]
  intro hmem
  have htrue := h _ hmem
  rw [hp] at htrue
  cases htrue

lemma valid_identifier {s : String} (h : isIdentifier s) :
    (lower s).length = 32 ∧ lower (lower s) = lower s ∧ hasNul (lower s) = false := by
  have hlower := lower_identifier h
  simp only [isIdentifier, Bool.and_eq_true, beq_iff_eq] at h
  have hall : ∀ c ∈ (lower s).toList, isLowerOrDigit c := by
    intro c hc
    rw [hlower] at hc
    obtain ⟨d, hd, rfl⟩ := List.mem_map.mp hc
    exact (isHex_lower (List.all_eq_true.mp h.1 d hd)).2
  refine ⟨?_, ?_, hasNul_of_all (by decide) hall⟩
  · rw [← String.length_toList, hlower, List.length_map]
    exact h.2
  · unfold lower at hall ⊢
    rw [toLowerCase, lowerFrom_plain fun c hc => isLowerOrDigit_plain (hall c hc),
      String.ofList_toList]

/-- A character of a host name: between the dots, in a label, or a dot. -/
def isHostnameChar (c : Char) : Bool := isLowerOrDigit c.toLower || c.toLower == '-' || c == '.'

lemma isHostname_char {s : String} (h : isHostname s) : ∀ c ∈ s.toList, isHostnameChar c := by
  intro c hc
  simp only [isHostname, Bool.and_eq_true] at h
  by_cases hdot : c = '.'
  · subst hdot
    decide
  · obtain ⟨label, hlabel, hmem⟩ := mem_splitOn hc hdot
    have hall := List.all_eq_true.mp h.2 label hlabel
    simp only [hostnameLabel, Bool.and_eq_true, List.all_eq_true] at hall
    have hchar := hall.1.2 c.toLower (List.mem_map_of_mem hmem)
    unfold isHostnameChar
    rw [hchar, Bool.true_or]

lemma valid_hostname {s : String} (h : isHostname s) :
    (1 ≤ s.length ∧ s.length ≤ 253) ∧ hasNul s = false := by
  refine ⟨?_, hasNul_of_all (by decide) (isHostname_char h)⟩
  simp only [isHostname, Bool.and_eq_true, decide_eq_true_eq] at h
  exact length_of_jsLength h.1.1 h.1.2

lemma readZone_valid {item : Json} {z : CloudflareZoneResult} (h : readZone item = some z) :
    Valid z := by
  unfold readZone at h
  split at h
  · rename_i id name status _ _ _
    split_ifs at h with hvalid
    obtain rfl := Option.some.inj h
    simp only [Bool.and_eq_true, decide_eq_true_eq] at hvalid
    obtain ⟨⟨⟨hid, hname⟩, hleast⟩, hmost⟩ := hvalid
    obtain ⟨hlength, hplain, hidText⟩ := valid_identifier hid
    obtain ⟨hnameLength, hnameText⟩ := valid_hostname hname
    exact ⟨hlength, hplain, hidText, hnameLength, hnameText, length_of_jsLength hleast hmost⟩
  · cases h

/-- Distinct identifiers and texts that the columns take, but perhaps for a `U+0000` in a
status. -/
def Listing (zones : List CloudflareZoneResult) : Prop :=
  (zones.map (·.id)).Nodup ∧ ∀ z ∈ zones, Valid z

lemma readItems_listing {items : List Json} :
    ∀ {zones zones' : List CloudflareZoneResult}, Listing zones →
      readItems zones items = .ok zones' → Listing zones' := by
  induction items with
  | nil =>
    intro zones zones' hzones h
    obtain rfl := Except.ok.inj h
    exact hzones
  | cons item items ih =>
    intro zones zones' hzones h
    unfold readItems at h
    split at h
    · cases h
    · rename_i zone hread
      split_ifs at h with htaken
      refine ih ⟨?_, ?_⟩ h
      · rw [List.map_append, List.map_singleton]
        exact List.concat_eq_append ▸ hzones.1.concat htaken
      · intro z hz
        rcases List.mem_append.mp hz with hz | hz
        · exact hzones.2 z hz
        · rw [List.mem_singleton.mp hz]
          exact readZone_valid hread

lemma listPages_listing {request : Nat → Except Failure CloudflareEnvelope} {left : Nat} :
    ∀ {page : Nat} {expected : Option Int} {zones zones' : List CloudflareZoneResult},
      Listing zones → listPages request left page expected zones = .ok zones' →
        Listing zones' := by
  induction left with
  | zero =>
    intro page expected zones zones' _ h
    cases h
  | succ left ih =>
    intro page expected zones zones' hzones h
    unfold listPages at h
    split at h
    · cases h
    split at h
    swap
    · cases h
    split at h
    · cases h
    rename_i read hread
    have hlisting := readItems_listing hzones hread
    split_ifs at h
    split at h
    · cases h
    split_ifs at h
    · obtain rfl := Except.ok.inj h
      exact hlisting
    · exact ih hlisting h

/-- Whatever the pages say, what is listed has distinct identifiers, in lower case. -/
theorem listZones_listing {request : Nat → Except Failure CloudflareEnvelope}
    {zones : List CloudflareZoneResult} (h : listZones request = .ok zones) : Listing zones :=
  listPages_listing (by simp [Listing]) h

end GatewayControl.ZoneSync
