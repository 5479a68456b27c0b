import GatewayControl.ZoneSync

/-!
When a listing is taken in. The rows of an account hold names as `UniqueNames` has it, and
each upsert takes one: the request goes through iff all of them are free in the order of the
list, and then the rows say what the list says.

A zone made anew under its old name is the plainest listing that is refused: the row of the
old zone, which no sync removes, still holds the name.
-/

namespace GatewayControl.SyncedZones

open Cloudflare Database Json Publishing UniqueNames ZoneSync

variable {uuids : Uuids} {now : Time} {accountId k : String} {t t' : Zones}
  {db db' : ZoneDb}

/-! ### Rows -/

lemma write?_eq_some {rows : List ZoneRow} :
    Zones.write? rows = some t ↔ Constraints rows ∧ t.rows = rows := by
  unfold Zones.write?
  split_ifs with h
  · constructor
    · intro heq
      obtain rfl := Option.some.inj heq
      exact ⟨h, rfl⟩
    · rintro ⟨-, rfl⟩
      rfl
  · simp [h]

lemma isSome_write? {rows : List ZoneRow} : (Zones.write? rows).isSome ↔ Constraints rows := by
  unfold Zones.write?
  split_ifs with h <;> simp [h]

lemma key_find {r : ZoneRow} (h : t.table.find? k = some r) : lower r.zoneIdentifier = k :=
  Table.key_find? (t := t.table) h

/-- Statements that change no identifier leave the rows where they are. -/
lemma find?_map {f : ZoneRow → ZoneRow} (hf : ∀ r, (f r).zoneIdentifier = r.zoneIdentifier)
    (h : t'.rows = t.rows.map f) (k : String) :
    t'.table.find? k = (t.table.find? k).map f := by
  have hupdate := Table.find?_update t.table (fun _ => true) f (fun r => by rw [hf r]) k
  simp only [if_true] at hupdate
  rw [← hupdate]
  unfold Table.find? Table.update
  simp only [if_true]
  change t'.rows.find? _ = (t.rows.map f).find? _
  rw [h]

lemma constraints_map {rows : List ZoneRow} {f : ZoneRow → ZoneRow} (h : Constraints rows)
    (hid : ∀ r, (f r).id = r.id) (hf : ∀ r, (f r).zoneIdentifier = r.zoneIdentifier) :
    Constraints (rows.map f) ↔ (∀ r ∈ rows, Checks (f r)) ∧
      (rows.map fun r => ((f r).accountId, (f r).name)).Nodup := by
  have hids : (rows.map f).map ZoneRow.id = rows.map ZoneRow.id := by
    rw [List.map_map]
    exact List.map_congr_left fun r _ => hid r
  have hidentifiers : ((rows.map f).map fun r => lower r.zoneIdentifier) =
      rows.map fun r => lower r.zoneIdentifier := by
    rw [List.map_map]
    exact List.map_congr_left fun r _ => congrArg lower (hf r)
  unfold Constraints
  rw [hids, hidentifiers, List.map_map]
  simp only [List.forall_mem_map]
  exact ⟨fun h' => ⟨h'.1, h'.2.2.2⟩, fun h' => ⟨h'.1, h.2.1, h.2.2.1, h'.2⟩⟩

lemma constraints_append {row : ZoneRow} (hchecks : Checks row)
    (hid : row.id ∉ t.rows.map ZoneRow.id)
    (hnew : t.table.find? (lower row.zoneIdentifier) = none) :
    Constraints (t.rows ++ [row]) ↔
      ∀ r ∈ t.rows, r.accountId = row.accountId → r.name ≠ row.name := by
  obtain ⟨hall, hids, hidentifiers, hnames⟩ := t.valid
  have hnew' : lower row.zoneIdentifier ∉ t.rows.map fun r => lower r.zoneIdentifier :=
    Table.find?_eq_none.mp hnew
  unfold Constraints
  simp only [List.map_append, List.map_singleton, List.nodup_append, List.forall_mem_append,
    List.mem_singleton, List.forall_mem_map, List.nodup_singleton, forall_eq, Prod.mk.injEq,
    ne_eq, not_and, true_and]
  constructor
  · rintro ⟨-, -, -, -, hfree⟩
    exact hfree
  · intro hfree
    refine ⟨⟨hall, hchecks⟩, ⟨hids, ?_⟩, ⟨hidentifiers, ?_⟩, hnames, hfree⟩
    · exact fun r hr heq => hid (heq ▸ List.mem_map_of_mem hr)
    · exact fun r hr heq => hnew' (List.mem_map.mpr ⟨r, hr, heq⟩)

/-! ### Names held -/

/-- The names the account's rows hold. -/
def held (t : Zones) (accountId : String) (k : String) : Option String :=
  (t.table.find? k).bind fun r => if r.accountId = accountId then some r.name else none

lemma held_eq_some {name : String} : held t accountId k = some name ↔
    ∃ r, t.table.find? k = some r ∧ r.accountId = accountId ∧ r.name = name := by
  unfold held
  rw [Option.bind_eq_some_iff]
  simp only [Option.ite_none_right_eq_some, Option.some.injEq]

lemma held_of_mem {r : ZoneRow} (hr : r ∈ t.rows) (ha : r.accountId = accountId) :
    held t accountId (lower r.zoneIdentifier) = some r.name :=
  held_eq_some.mpr ⟨r, Table.find?_of_mem (t := t.table) hr, ha, rfl⟩

lemma mem_of_held {name : String} (h : held t accountId k = some name) :
    ∃ r ∈ t.rows, lower r.zoneIdentifier = k ∧ r.accountId = accountId ∧ r.name = name := by
  obtain ⟨r, hfind, ha, hname⟩ := held_eq_some.mp h
  exact ⟨r, Table.mem_of_find? hfind, key_find hfind, ha, hname⟩

lemma free_iff {name : String} : Free (held t accountId) k name ↔
    ∀ r ∈ t.rows, r.accountId = accountId → r.name = name → lower r.zoneIdentifier = k := by
  constructor
  · intro h r hr ha hname
    by_contra hne
    exact h _ hne (hname ▸ held_of_mem hr ha)
  · intro h k' hne hheld
    obtain ⟨r, hr, hkey, ha, hname⟩ := mem_of_held hheld
    exact hne (hkey ▸ h r hr ha hname)

/-! ### Marking -/

lemma marked_name (accountId : String) (zones : List ZoneValues) (r : ZoneRow) :
    (marked accountId zones r).id = r.id ∧
      (marked accountId zones r).zoneIdentifier = r.zoneIdentifier ∧
      (marked accountId zones r).accountId = r.accountId ∧
      (marked accountId zones r).name = r.name := by
  unfold marked
  split_ifs <;> exact ⟨rfl, rfl, rfl, rfl⟩

lemma checks_marked {zones : List ZoneValues} {r : ZoneRow} (h : Checks r) :
    Checks (marked accountId zones r) := by
  unfold marked
  split_ifs
  · have hlength : 1 ≤ "unavailable".length ∧ "unavailable".length ≤ 64 := by decide
    exact ⟨h.1, h.2.1, hlength, h.2.2.2.1, h.2.2.2.2.1, by simp [hasNul]⟩
  · exact h

/-- The marking always succeeds. -/
lemma markUnavailable_ok (t : Zones) (accountId : String) (zones : List ZoneValues) :
    ∃ t', markUnavailable t accountId zones = some t' ∧
      t'.rows = t.rows.map (marked accountId zones) := by
  have hnames : (t.rows.map fun r => ((marked accountId zones r).accountId,
      (marked accountId zones r).name)) = t.rows.map fun r => (r.accountId, r.name) := by
    apply List.map_congr_left
    intro r _
    obtain ⟨-, -, ha, hname⟩ := marked_name accountId zones r
    rw [ha, hname]
  have hvalid : Constraints (t.rows.map (marked accountId zones)) := by
    rw [constraints_map t.valid (fun r => (marked_name accountId zones r).1)
      (fun r => (marked_name accountId zones r).2.1), hnames]
    exact ⟨fun r hr => checks_marked (t.valid.1 r hr), t.valid.2.2.2⟩
  exact ⟨⟨_, hvalid⟩, write?_eq_some.mpr ⟨hvalid, rfl⟩, rfl⟩

lemma held_marked {zones : List ZoneValues}
    (h : t'.rows = t.rows.map (marked accountId zones)) : held t' accountId = held t accountId := by
  funext k
  unfold held
  rw [find?_map (fun r => (marked_name accountId zones r).2.1) h]
  cases t.table.find? k with
  | none => rfl
  | some r =>
    obtain ⟨-, -, ha, hname⟩ := marked_name accountId zones r
    simp [ha, hname]

/-! ### Upserting -/

/-- What a zone has to be for its columns. -/
def Storable (zone : ZoneValues) : Prop :=
  Checks ⟨"", "", zone.zoneIdentifier, zone.name, zone.status⟩

lemma upserted_same (zone : ZoneValues) (r : ZoneRow) :
    (upserted zone r).id = r.id ∧ (upserted zone r).zoneIdentifier = r.zoneIdentifier ∧
      (upserted zone r).accountId = r.accountId := by
  unfold upserted
  split_ifs <;> exact ⟨rfl, rfl, rfl⟩

lemma upserted_of_ne {zone : ZoneValues} {r : ZoneRow}
    (h : lower r.zoneIdentifier ≠ lower zone.zoneIdentifier) : upserted zone r = r := if_neg h

lemma upserted_of_eq {zone : ZoneValues} {r : ZoneRow}
    (h : lower r.zoneIdentifier = lower zone.zoneIdentifier) :
    (upserted zone r).name = zone.name ∧ (upserted zone r).status = zone.status := by
  unfold upserted
  rw [if_pos h]
  exact ⟨rfl, rfl⟩

lemma checks_upserted {zone : ZoneValues} {r : ZoneRow} (hzone : Storable zone)
    (h : Checks r) : Checks (upserted zone r) := by
  unfold upserted
  split_ifs
  · exact ⟨h.1, hzone.2.1, hzone.2.2.1, h.2.2.2.1, hzone.2.2.2.2⟩
  · exact h

/-- Two rows under one identifier are the same. -/
lemma row_unique {r s : ZoneRow} (hr : r ∈ t.rows) (hs : s ∈ t.rows)
    (h : lower r.zoneIdentifier = lower s.zoneIdentifier) : r = s :=
  List.inj_on_of_nodup_map t.valid.2.2.1 hr hs h

lemma names_upserted {zone : ZoneValues} {old : ZoneRow} (hold : old ∈ t.rows)
    (hkey : lower old.zoneIdentifier = lower zone.zoneIdentifier)
    (ha : old.accountId = accountId) :
    (t.rows.map fun r => ((upserted zone r).accountId, (upserted zone r).name)).Nodup ↔
      Free (held t accountId) (lower zone.zoneIdentifier) zone.name := by
  rw [free_iff]
  have hrows : t.rows.Nodup := List.Nodup.of_map _ t.valid.2.1
  rw [List.nodup_map_iff_inj_on hrows]
  simp only [Prod.mk.injEq]
  constructor
  · intro hinj r hr hra hname
    by_contra hne
    have heq := hinj r hr old hold ⟨?_, ?_⟩
    · exact hne (heq ▸ hkey)
    · rw [(upserted_same zone r).2.2, (upserted_same zone old).2.2, hra, ha]
    · rw [upserted_of_ne hne, (upserted_of_eq hkey).1, hname]
  · intro hfree r hr s hs hpair
    rw [(upserted_same zone r).2.2, (upserted_same zone s).2.2] at hpair
    by_cases hrk : lower r.zoneIdentifier = lower zone.zoneIdentifier
    · by_cases hsk : lower s.zoneIdentifier = lower zone.zoneIdentifier
      · exact row_unique hr hs (hrk.trans hsk.symm)
      · rw [(upserted_of_eq hrk).1, upserted_of_ne hsk] at hpair
        have hrold := row_unique hr hold (hrk.trans hkey.symm)
        exact absurd (hfree s hs (by rw [← hpair.1, hrold, ha]) hpair.2.symm) hsk
    · by_cases hsk : lower s.zoneIdentifier = lower zone.zoneIdentifier
      · rw [(upserted_of_eq hsk).1, upserted_of_ne hrk] at hpair
        have hsold := row_unique hs hold (hsk.trans hkey.symm)
        exact absurd (hfree r hr (by rw [hpair.1, hsold, ha]) hpair.2) hrk
      · rw [upserted_of_ne hrk, upserted_of_ne hsk] at hpair
        exact List.inj_on_of_nodup_map t.valid.2.2.2 hr hs (Prod.ext hpair.1 hpair.2)

variable {zone : ZoneValues}

/-- An upsert goes through iff the columns take the zone and its name is free. -/
lemma isSome_upsertZone (uuids : Uuids)
    (hown : ∀ r, t.table.find? (lower zone.zoneIdentifier) = some r → r.accountId = accountId) :
    (upsertZone uuids accountId t zone).isSome ↔
      Storable zone ∧ Free (held t accountId) (lower zone.zoneIdentifier) zone.name := by
  have hstorable : Checks (excluded uuids t accountId zone) ↔ Storable zone := Iff.rfl
  unfold upsertZone
  dsimp only
  by_cases hzone : Storable zone
  swap
  · rw [if_neg (hstorable.not.mpr hzone)]
    simp [hzone]
  rw [if_pos (hstorable.mpr hzone)]
  simp only [hzone, true_and]
  cases hfind : t.table.find? (lower zone.zoneIdentifier) with
  | none =>
    rw [isSome_write?, constraints_append (hstorable.mpr hzone)
      (uuids.fresh _) hfind, free_iff]
    refine forall₃_congr fun r hr ha => ?_
    constructor
    · exact fun hne hname => absurd hname hne
    · intro himp hname
      exact Table.find?_eq_none.mp hfind (List.mem_map.mpr ⟨r, hr, himp hname⟩)
  | some old =>
    have hmem : old ∈ t.rows := Table.mem_of_find? hfind
    have hkey : lower old.zoneIdentifier = lower zone.zoneIdentifier := key_find hfind
    dsimp only
    rw [if_pos (hown old hfind), isSome_write?,
      constraints_map t.valid (fun r => (upserted_same zone r).1)
        fun r => (upserted_same zone r).2.1,
      names_upserted hmem hkey (hown old hfind)]
    exact and_iff_right fun r hr => checks_upserted hzone (t.valid.1 r hr)

/-- What the row of an upserted zone says. -/
structure Stands (t : Zones) (accountId : String) (zone : ZoneValues) : Prop where
  row : ∃ r, t.table.find? (lower zone.zoneIdentifier) = some r ∧ r.accountId = accountId ∧
    r.name = zone.name ∧ r.status = zone.status

/-- An upsert sets the row of its zone and leaves the others. -/
lemma upsertZone_rows
    (hown : ∀ r, t.table.find? (lower zone.zoneIdentifier) = some r → r.accountId = accountId)
    (h : upsertZone uuids accountId t zone = some t') :
    Stands t' accountId zone ∧
      ∀ k, k ≠ lower zone.zoneIdentifier → t'.table.find? k = t.table.find? k := by
  unfold upsertZone at h
  dsimp only at h
  split_ifs at h with hchecks
  cases hfind : t.table.find? (lower zone.zoneIdentifier) with
  | none =>
    rw [hfind] at h
    obtain ⟨-, hrows⟩ := write?_eq_some.mp h
    have hnew : ∀ k, t'.table.find? k = (t.table.find? k).or
        (if lower zone.zoneIdentifier = k then some (excluded uuids t accountId zone)
          else none) := by
      intro k
      change t'.rows.find? _ = (t.rows.find? _).or _
      rw [hrows, List.find?_append]
      by_cases hk : lower zone.zoneIdentifier = k <;> simp [hk, excluded]
    constructor
    · refine ⟨excluded uuids t accountId zone, ?_, rfl, rfl, rfl⟩
      rw [hnew, hfind, if_pos rfl]
      rfl
    · intro k hk
      rw [hnew, if_neg (Ne.symm hk), Option.or_none]
  | some old =>
    rw [hfind] at h
    dsimp only at h
    rw [if_pos (hown old hfind)] at h
    obtain ⟨-, hrows⟩ := write?_eq_some.mp h
    have hfound := find?_map (fun r => (upserted_same zone r).2.1) hrows
    constructor
    · have hkey : lower old.zoneIdentifier = lower zone.zoneIdentifier := key_find hfind
      refine ⟨upserted zone old, ?_, ?_, upserted_of_eq hkey⟩
      · rw [hfound, hfind]
        rfl
      · rw [(upserted_same zone old).2.2]
        exact hown old hfind
    · intro k hk
      rw [hfound]
      cases hk' : t.table.find? k with
      | none => rfl
      | some r =>
        have hkey : lower r.zoneIdentifier = k := key_find hk'
        rw [Option.map_some, upserted_of_ne (by rw [hkey]; exact hk)]

/-- So the zone takes its name. -/
lemma held_upsertZone
    (hown : ∀ r, t.table.find? (lower zone.zoneIdentifier) = some r → r.accountId = accountId)
    (h : upsertZone uuids accountId t zone = some t') :
    held t' accountId = take (held t accountId) (lower zone.zoneIdentifier, zone.name) := by
  obtain ⟨⟨r, hfind, ha, hname, -⟩, hothers⟩ := upsertZone_rows hown h
  funext k
  by_cases hk : k = lower zone.zoneIdentifier
  · subst hk
    rw [show (lower zone.zoneIdentifier) =
      (lower zone.zoneIdentifier, zone.name).1 from rfl, take_self]
    exact held_eq_some.mpr ⟨r, hfind, ha, hname⟩
  · rw [take_of_ne _ (lower zone.zoneIdentifier, zone.name) hk]
    unfold held
    rw [hothers k hk]

/-! ### The whole list -/

/-- The keys and names the upserts are about. -/
def takes (zones : List ZoneValues) : List (String × String) :=
  zones.map fun z => (lower z.zoneIdentifier, z.name)

/-- No listed zone is another account's. -/
def Own (t : Zones) (accountId : String) (zones : List ZoneValues) : Prop :=
  ∀ z ∈ zones, ∀ r, t.table.find? (lower z.zoneIdentifier) = some r → r.accountId = accountId

lemma own_upsertZone {zones : List ZoneValues}
    (hkeys : ((takes (zone :: zones)).map Prod.fst).Nodup) (hown : Own t accountId (zone :: zones))
    (h : upsertZone uuids accountId t zone = some t') : Own t' accountId zones := by
  intro z hz r hr
  have hne : lower z.zoneIdentifier ≠ lower zone.zoneIdentifier := by
    intro heq
    simp only [takes, List.map_cons, List.map_map, List.nodup_cons] at hkeys
    exact hkeys.1 (List.mem_map.mpr ⟨z, hz, heq⟩)
  rw [(upsertZone_rows (hown zone List.mem_cons_self) h).2 _ hne] at hr
  exact hown z (List.mem_cons_of_mem _ hz) r hr

/-- The upserts go through iff all zones fit their columns and find their names free. -/
lemma isSome_upserts (uuids : Uuids) {zones : List ZoneValues} :
    ∀ {t : Zones}, ((takes zones).map Prod.fst).Nodup → Own t accountId zones →
      ((zones.foldlM (upsertZone uuids accountId) t).isSome ↔
        (∀ z ∈ zones, Storable z) ∧ AllFree (held t accountId) (takes zones)) := by
  induction zones with
  | nil =>
    intro t _ _
    simp [takes, AllFree]
  | cons zone zones ih =>
    intro t hkeys hown
    have hfirst := isSome_upsertZone uuids (hown zone List.mem_cons_self)
    have hrest : ((takes zones).map Prod.fst).Nodup := by
      simp only [takes, List.map_cons, List.nodup_cons] at hkeys
      exact hkeys.2
    have hall : (∀ z ∈ zone :: zones, Storable z) ∧
          AllFree (held t accountId) (takes (zone :: zones)) ↔
        (Storable zone ∧ Free (held t accountId) (lower zone.zoneIdentifier) zone.name) ∧
          (∀ z ∈ zones, Storable z) ∧
          AllFree (take (held t accountId) (lower zone.zoneIdentifier, zone.name))
            (takes zones) := by
      simp only [List.forall_mem_cons, takes, List.map_cons, AllFree]
      tauto
    rw [List.foldlM_cons, hall, ← hfirst]
    cases hupsert : upsertZone uuids accountId t zone with
    | none => simp
    | some t' =>
      have hheld := held_upsertZone (hown zone List.mem_cons_self) hupsert
      rw [← hheld]
      exact (ih hrest (own_upsertZone hkeys hown hupsert)).trans (by simp)

lemma upserts_rows {zones : List ZoneValues} :
    ∀ {t : Zones}, ((takes zones).map Prod.fst).Nodup → Own t accountId zones →
      zones.foldlM (upsertZone uuids accountId) t = some t' →
      (∀ z ∈ zones, Stands t' accountId z) ∧
        ∀ k, k ∉ (takes zones).map Prod.fst → t'.table.find? k = t.table.find? k := by
  induction zones with
  | nil =>
    intro t _ _ h
    obtain rfl := Option.some.inj h
    exact ⟨by simp, fun _ _ => rfl⟩
  | cons zone zones ih =>
    intro t hkeys hown h
    rw [List.foldlM_cons] at h
    obtain ⟨t₁, hupsert, h⟩ := Option.bind_eq_some_iff.mp h
    obtain ⟨⟨r, hr, hrow⟩, hothers⟩ := upsertZone_rows (hown zone List.mem_cons_self) hupsert
    have hown' := own_upsertZone hkeys hown hupsert
    simp only [takes, List.map_cons, List.nodup_cons] at hkeys
    obtain ⟨hstands, hleft⟩ := ih hkeys.2 hown' h
    constructor
    · intro z hz
      rcases List.mem_cons.mp hz with rfl | hz
      · exact ⟨r, (hleft _ hkeys.1).trans hr, hrow⟩
      · exact hstands z hz
    · intro k hk
      simp only [takes, List.map_cons, List.mem_cons, not_or] at hk
      rw [hleft k hk.2, hothers k hk.1]

/-! ### Requests -/

/-- A row says what the listing says of the zone. -/
structure Describes (r : ZoneRow) (z : CloudflareZoneResult) : Prop where
  identifier : lower r.zoneIdentifier = z.id
  name : r.name = z.name
  status : r.status = z.status

/-- After the listing was taken in, the account's available rows are the listed zones, and
the rows of its other zones are still there, unavailable. -/
structure InSync (db db' : ZoneDb) (accountId : String) (zones : List CloudflareZoneResult) :
    Prop where
  listed : ∀ z ∈ zones, ∃ r ∈ db'.zones.rows, r.accountId = accountId ∧
    r.status ≠ "unavailable" ∧ Describes r z
  only : ∀ r ∈ db'.zones.rows, r.accountId = accountId → r.status ≠ "unavailable" →
    ∃ z ∈ zones, Describes r z
  others : ∀ r ∈ db.zones.rows, r.accountId = accountId →
    lower r.zoneIdentifier ∉ zones.map (·.id) →
    { r with status := "unavailable" } ∈ db'.zones.rows

/-- A listing is taken in, and nothing but a listing changes a row. -/
def Synchronizes (uuids : Uuids) (now : Time) (db : ZoneDb) (id : String)
    (verifyToken : Except Failure Unit)
    (request : Nat → Except Failure CloudflareEnvelope) : Prop :=
  match verifyToken, listZones request with
  | .ok _, .ok zones => ∃ rows db',
      syncCloudflareZones uuids now db id (zones.map .ofResult) none = some (some rows, db') ∧
      syncRequest uuids now db id verifyToken request = (.ok (rows, zones.length), db') ∧
      InSync db db' id zones
  | _, _ => ∃ e db', syncRequest uuids now db id verifyToken request = (.error e, db') ∧
      db'.zones = db.zones

/-- Every name the listing gives is held by no row of another zone, but perhaps by one that
comes earlier in the list and is renamed; and no two listed zones have one name. -/
structure NamesFree (db : ZoneDb) (accountId : String) (zones : List CloudflareZoneResult) :
    Prop where
  holders : ∀ z ∈ zones, ∀ r ∈ db.zones.rows, r.accountId = accountId → r.name = z.name →
    lower r.zoneIdentifier ∈ zones.map (·.id)
  order : zones.Pairwise fun z w => z.name ≠ w.name ∧
    ∀ r ∈ db.zones.rows, r.accountId = accountId → lower r.zoneIdentifier = w.id →
      r.name ≠ z.name

/-- The statuses are texts a row can keep, and none is the one for unlisted zones. -/
def Statuses (zones : List CloudflareZoneResult) : Prop :=
  ∀ z ∈ zones, z.status ≠ "unavailable" ∧ hasNul z.status = false

variable {zones : List CloudflareZoneResult}

lemma takes_results (h : Listing zones) :
    takes (zones.map .ofResult) = zones.map fun z => (z.id, z.name) := by
  unfold takes
  rw [List.map_map]
  apply List.map_congr_left
  intro z hz
  change (lower z.id, z.name) = (z.id, z.name)
  rw [(h.2 z hz).plain]

lemma keys_results (h : Listing zones) :
    (takes (zones.map .ofResult)).map Prod.fst = zones.map (·.id) := by
  rw [takes_results h, List.map_map]
  rfl

lemma storable_result {z : CloudflareZoneResult} (h : Valid z) :
    Storable (.ofResult z) ↔ hasNul z.status = false := by
  unfold Storable Checks ZoneValues.ofResult
  simp [h.length, h.idText, h.name, h.nameText, h.status]

/-- Whether the listed zones find their names free, read off the rows. -/
lemma allFree_results (h : Listing zones) :
    AllFree (held db.zones accountId) (takes (zones.map .ofResult)) ↔
      NamesFree db accountId zones := by
  rw [allFree_iff ((keys_results h).symm ▸ h.1)]
  unfold Listed InOrder
  rw [keys_results h, takes_results h, List.pairwise_map, List.forall_mem_map]
  constructor
  · rintro ⟨hlisted, horder⟩
    refine ⟨fun z hz r hr ha hname => hlisted z hz _ (hname ▸ held_of_mem hr ha), ?_⟩
    refine horder.imp fun hpair => ⟨hpair.1, fun r hr ha hkey hname => ?_⟩
    exact hpair.2 (hkey ▸ hname ▸ held_of_mem hr ha)
  · rintro ⟨hholders, horder⟩
    constructor
    · intro z hz k hk
      obtain ⟨r, hr, rfl, ha, hname⟩ := mem_of_held hk
      exact hholders z hz r hr ha hname
    · refine horder.imp fun hpair => ⟨hpair.1, fun hk => ?_⟩
      obtain ⟨r, hr, hkey, ha, hname⟩ := mem_of_held hk
      exact hpair.2 r hr ha hkey hname

/-! ### What the transaction does -/

lemma accounts_left {account : SyncedAccount}
    (haccount : db.accounts.find? accountId = some account)
    (p : SyncedAccount → Bool) (f : SyncedAccount → SyncedAccount) (hf : ∀ a, (f a).id = a.id) :
    ((db.accounts.update p f hf).find? accountId).isNone = false := by
  rw [Table.find?_update, haccount]
  rfl

/-- Without an error, the transaction is the marking and the upserts. -/
lemma sync_listing (uuids : Uuids) (now : Time) {account : SyncedAccount}
    (haccount : db.accounts.find? accountId = some account)
    (values : List ZoneValues) :
    ∃ accounts, syncCloudflareZones uuids now db accountId values none =
      ((markUnavailable db.zones accountId values).bind fun t =>
        values.foldlM (upsertZone uuids accountId) t).map fun t =>
          (some (t.rows.filter (·.accountId = accountId)), ⟨accounts, t⟩) := by
  unfold syncCloudflareZones
  dsimp only
  rw [accounts_left haccount]
  exact ⟨_, rfl⟩

/-- With an error, it leaves the zones alone. -/
lemma sync_failed (uuids : Uuids) (now : Time) (db : ZoneDb) (accountId code : String)
    (hcode : code ≠ "") (values : List ZoneValues) :
    ∃ rows db', syncCloudflareZones uuids now db accountId values (some code) =
      some (rows, db') ∧ db'.zones = db.zones := by
  unfold syncCloudflareZones
  dsimp only
  have hfailed : (some code).any (· ≠ "") = true := by simpa using hcode
  simp only [hfailed, if_true]
  split_ifs <;> exact ⟨_, _, rfl, rfl⟩

/-- An account that is gone has its zones left alone. -/
lemma sync_none {values : List ZoneValues} {error : Option String}
    (h : syncCloudflareZones uuids now db accountId values error = some (none, db')) :
    db'.zones = db.zones := by
  unfold syncCloudflareZones at h
  dsimp only at h
  split_ifs at h
  · obtain rfl := (Prod.mk.inj (Option.some.inj h)).2
    rfl
  · cases h
  · obtain ⟨t, -, heq⟩ := Option.map_eq_some_iff.mp h
    cases heq

/-- The code recorded with a failure is never the empty text, which would count as none. -/
lemma accountApiError_code (e : Failure) (operation : AccountOperation) :
    ∃ message code, cloudflareAccountApiError e operation = .api 502 message (some code) ∧
      code ≠ "" := by
  unfold cloudflareAccountApiError
  split
  · split_ifs <;> exact ⟨_, _, rfl, by decide⟩
  · exact ⟨_, _, rfl, by decide⟩

variable {verifyToken : Except Failure Unit}
  {request : Nat → Except Failure CloudflareEnvelope}

lemma trySync_error {e : Failure × AccountOperation}
    (h : trySync uuids now db accountId verifyToken request = (.error e, db')) :
    db'.zones = db.zones := by
  unfold trySync at h
  split at h
  · obtain rfl := (Prod.mk.inj h).2
    rfl
  split at h
  · obtain rfl := (Prod.mk.inj h).2
    rfl
  split at h
  · obtain rfl := (Prod.mk.inj h).2
    rfl
  · rename_i hsync
    obtain rfl := (Prod.mk.inj h).2
    exact sync_none hsync
  · cases (Prod.mk.inj h).1

/-- A request that answers with an error has changed no zone's row. -/
theorem syncRequest_error {e : Failure}
    (h : syncRequest uuids now db accountId verifyToken request = (.error e, db')) :
    db'.zones = db.zones := by
  unfold syncRequest at h
  split at h
  · obtain rfl := (Prod.mk.inj h).2
    rfl
  split at h
  · obtain rfl := (Prod.mk.inj h).2
    rfl
  split at h
  · cases (Prod.mk.inj h).1
  · rename_i htry
    obtain rfl := (Prod.mk.inj h).2
    exact trySync_error htry
  · rename_i e' operation db₁ _ htry
    have hkept := trySync_error htry
    obtain ⟨message, code, hcode, hne⟩ := accountApiError_code e' operation
    simp only [hcode] at h
    obtain ⟨rows, db₂, hsync, hzones⟩ := sync_failed uuids now db₁ accountId code hne []
    rw [hsync] at h
    obtain rfl := (Prod.mk.inj h).2
    exact hzones.trans hkept

/-- What the `try` block throws is answered with an error. -/
lemma syncRequest_of_error {account : SyncedAccount} {token : String}
    {e : Failure × AccountOperation} (haccount : db.accounts.find? accountId = some account)
    (htoken : account.apiToken = some token)
    (h : trySync uuids now db accountId verifyToken request = (.error e, db')) :
    ∃ e' db'', syncRequest uuids now db accountId verifyToken request = (.error e', db'') ∧
      db''.zones = db.zones := by
  rcases hrequest : syncRequest uuids now db accountId verifyToken request with
    ⟨e' | answer, db''⟩
  · exact ⟨e', db'', rfl, syncRequest_error hrequest⟩
  · exfalso
    unfold syncRequest at hrequest
    rw [haccount] at hrequest
    simp only [htoken, h] at hrequest
    split at hrequest
    · rename_i heq
      cases (Prod.mk.inj heq).1
    · cases (Prod.mk.inj hrequest).1
    · split at hrequest <;> cases (Prod.mk.inj hrequest).1

/-! ### When a listing is taken in -/

/-- The rows after the upserts are the listing. -/
lemma inSync_of_upserts {accounts : Table SyncedAccount String SyncedAccount.id}
    {marks : Zones} (h : Listing zones)
    (hmarks : marks.rows =
      db.zones.rows.map (marked accountId (zones.map ZoneValues.ofResult)))
    (hown : Own marks accountId (zones.map .ofResult))
    (hstatus : ∀ z ∈ zones, z.status ≠ "unavailable")
    (hupserts : (zones.map ZoneValues.ofResult).foldlM (upsertZone uuids accountId) marks =
      some t') : InSync db ⟨accounts, t'⟩ accountId zones := by
  have hkeys := keys_results h
  obtain ⟨hstands, hleft⟩ := upserts_rows (hkeys.symm ▸ h.1) hown hupserts
  rw [hkeys] at hleft
  have hstands' : ∀ z ∈ zones, ∃ r ∈ t'.rows, r.accountId = accountId ∧ Describes r z := by
    intro z hz
    obtain ⟨r, hfind, ha, hname, hrstatus⟩ := hstands _ (List.mem_map_of_mem hz)
    have hkey : lower r.zoneIdentifier = lower z.id := key_find hfind
    exact ⟨r, Table.mem_of_find? hfind, ha, hkey.trans (h.2 z hz).plain, hname, hrstatus⟩
  have hmarked := find?_map (t := db.zones)
    (fun r => (marked_name accountId (zones.map ZoneValues.ofResult) r).2.1) hmarks
  -- a row that is not listed is found as it was marked
  have hunlisted : ∀ r : ZoneRow, r.accountId = accountId →
      lower r.zoneIdentifier ∉ zones.map (·.id) →
      marked accountId (zones.map ZoneValues.ofResult) r = { r with status := "unavailable" } := by
    intro r ha hnot
    unfold marked
    rw [if_pos]
    refine ⟨ha, fun hmem => hnot ?_⟩
    rw [List.map_map] at hmem
    obtain ⟨z, hz, heq⟩ := List.mem_map.mp hmem
    have hid : z.id = r.zoneIdentifier := heq
    rw [← hid, (h.2 z hz).plain]
    exact List.mem_map_of_mem hz
  refine ⟨?_, ?_, ?_⟩
  · intro z hz
    obtain ⟨r, hr, ha, hdescribes⟩ := hstands' z hz
    exact ⟨r, hr, ha, hdescribes.status ▸ hstatus z hz, hdescribes⟩
  · intro r hr ha hne
    have hfind := Table.find?_of_mem (t := t'.table) hr
    by_cases hlisted : lower r.zoneIdentifier ∈ zones.map (·.id)
    · obtain ⟨z, hz, hkey⟩ := List.mem_map.mp hlisted
      obtain ⟨r', hr', -, hdescribes⟩ := hstands' z hz
      have hsame : r' = r := row_unique hr' hr (hdescribes.identifier.trans hkey)
      exact ⟨z, hz, hsame ▸ hdescribes⟩
    · exfalso
      rw [hleft _ hlisted, hmarked] at hfind
      obtain ⟨old, hold, heq⟩ := Option.map_eq_some_iff.mp hfind
      have hkey : lower old.zoneIdentifier = lower r.zoneIdentifier := key_find hold
      have ha' : old.accountId = accountId := by
        rw [← (marked_name accountId (zones.map ZoneValues.ofResult) old).2.2.1,
          heq, ha]
      rw [hunlisted old ha' (hkey ▸ hlisted)] at heq
      exact hne (heq ▸ rfl)
  · intro r hr ha hnot
    have hfind : t'.table.find? (lower r.zoneIdentifier) =
        some { r with status := "unavailable" } := by
      rw [hleft _ hnot, hmarked, Table.find?_of_mem (t := db.zones.table) hr, Option.map_some,
        hunlisted r ha hnot]
    exact Table.mem_of_find? hfind

/-- **When a listing is taken in.** A sync takes in what Cloudflare lists, and leaves the
rows alone where nothing is listed, iff every listed zone finds its name free and no listed
status is `unavailable` or one that no column takes. -/
theorem synchronizes_iff {account : SyncedAccount} {token : String}
    (haccount : db.accounts.find? accountId = some account)
    (htoken : account.apiToken = some token)
    (hown : ∀ zones, listZones request = .ok zones → ∀ z ∈ zones, ∀ r ∈ db.zones.rows,
      lower r.zoneIdentifier = z.id → r.accountId = accountId) :
    Synchronizes uuids now db accountId verifyToken request ↔
      ∀ zones, verifyToken = .ok () → listZones request = .ok zones →
        NamesFree db accountId zones ∧ Statuses zones := by
  cases verifyToken with
  | error e =>
    obtain ⟨e', db', hrequest, hzones⟩ := syncRequest_of_error haccount htoken
      (show trySync uuids now db accountId (.error e) request = (.error (e, .token), db) from rfl)
    refine iff_of_true ⟨e', db', hrequest, hzones⟩ fun zones hverify => ?_
    cases hverify
  | ok u =>
    unfold Synchronizes
    cases hlist : listZones request with
    | error e =>
      have htry : trySync uuids now db accountId (.ok u) request = (.error (e, .zones), db) := by
        unfold trySync
        simp only [hlist]
      obtain ⟨e', db', hrequest, hzones⟩ := syncRequest_of_error haccount htoken htry
      refine iff_of_true ⟨e', db', hrequest, hzones⟩ fun zones _ hok => ?_
      cases hok
    | ok zones =>
      have hlisting := listZones_listing hlist
      obtain ⟨marks, hmark, hmarks⟩ :=
        markUnavailable_ok db.zones accountId (zones.map ZoneValues.ofResult)
      obtain ⟨accounts, hsync⟩ := sync_listing uuids now haccount (zones.map ZoneValues.ofResult)
      rw [hmark, Option.bind_some] at hsync
      have howns : Own marks accountId (zones.map ZoneValues.ofResult) := by
        intro value hvalue r hfind
        obtain ⟨z, hz, rfl⟩ := List.mem_map.mp hvalue
        rw [find?_map (fun r => (marked_name accountId _ r).2.1) hmarks] at hfind
        obtain ⟨old, hold, rfl⟩ := Option.map_eq_some_iff.mp hfind
        have hkey : lower old.zoneIdentifier = lower z.id := key_find hold
        rw [(marked_name accountId _ old).2.2.1]
        exact hown zones hlist z hz old (Table.mem_of_find? hold)
          (hkey.trans (hlisting.2 z hz).plain)
      have hsome := isSome_upserts uuids ((keys_results hlisting).symm ▸ hlisting.1)
        howns
      rw [held_marked hmarks, allFree_results hlisting] at hsome
      have hstorable : (∀ z ∈ zones.map ZoneValues.ofResult, Storable z) ↔
          ∀ z ∈ zones, hasNul z.status = false := by
        rw [List.forall_mem_map]
        exact forall₂_congr fun z hz => storable_result (hlisting.2 z hz)
      rw [hstorable] at hsome
      constructor
      · rintro ⟨rows, db', hcommit, -, hin⟩ _ - heq
        obtain rfl := Except.ok.inj heq
        rw [hsync] at hcommit
        obtain ⟨t', hupserts, -⟩ := Option.map_eq_some_iff.mp hcommit
        obtain ⟨htexts, hfree⟩ := hsome.mp (hupserts ▸ rfl)
        refine ⟨hfree, fun z hz => ⟨?_, htexts z hz⟩⟩
        obtain ⟨r, -, -, hne, hdescribes⟩ := hin.listed z hz
        exact hdescribes.status ▸ hne
      · intro h
        obtain ⟨hfree, hstatuses⟩ := h zones rfl rfl
        obtain ⟨t', hupserts⟩ := Option.isSome_iff_exists.mp
          (hsome.mpr ⟨fun z hz => (hstatuses z hz).2, hfree⟩)
        rw [hupserts, Option.map_some] at hsync
        refine ⟨_, _, hsync, ?_, inSync_of_upserts hlisting hmarks howns
          (fun z hz => (hstatuses z hz).1) hupserts⟩
        unfold syncRequest trySync
        simp only [haccount, htoken, hlist, hsync]

/-! ### A zone made anew -/

/-- Identifiers longer than all those taken. -/
def sampleUuids : Uuids where
  next := fun taken =>
    String.ofList (List.replicate ((taken.map String.toList).flatten.length + 1) 'u')
  fresh := by
    intro taken hmem
    have hle := (List.sublist_flatten_of_mem
      (List.mem_map_of_mem (f := String.toList) hmem)).length_le
    rw [String.toList_ofList, List.length_replicate] at hle
    omega

def sampleAccount : SyncedAccount := ⟨"a", "0123456789abcdef0123456789abcdef", some "token",
  none, none, none⟩

def identifierB : String := "bbbbbbbbbbbbbbbbbbbbbbbbbbbbbbbb"

def identifierC : String := "cccccccccccccccccccccccccccccccc"

/-- One account, with a zone. -/
def sampleDb : ZoneDb where
  accounts := .single sampleAccount
  zones := ⟨[⟨"1", "a", identifierB, "example.com", "active"⟩], by decide⟩

/-- A single page that lists the zones. -/
def pageOf (zones : List (String × String)) : Nat → Except Failure CloudflareEnvelope :=
  fun _ => .ok ⟨.arr (zones.map fun z =>
    .obj [("id", .str z.1), ("name", .str z.2), ("status", .str "active")]), none, none⟩

lemma sampleDb_own {request : Nat → Except Failure CloudflareEnvelope} :
    ∀ zones, listZones request = .ok zones → ∀ z ∈ zones, ∀ r ∈ sampleDb.zones.rows,
      lower r.zoneIdentifier = z.id → r.accountId = "a" := by
  intro _ _ _ _ r hr _
  rw [List.mem_singleton.mp hr]

/-- The old zone is renamed, and stands before the new one in the list. -/
theorem synchronizes_renamed :
    listZones (pageOf [(identifierB, "example.net"), (identifierC, "example.com")]) =
      .ok [⟨identifierB, "example.net", "active"⟩, ⟨identifierC, "example.com", "active"⟩] ∧
    Synchronizes sampleUuids 0 sampleDb "a" (.ok ())
      (pageOf [(identifierB, "example.net"), (identifierC, "example.com")]) := by
  have hlist : listZones (pageOf [(identifierB, "example.net"), (identifierC, "example.com")]) =
      .ok [⟨identifierB, "example.net", "active"⟩, ⟨identifierC, "example.com", "active"⟩] := rfl
  refine ⟨hlist, (@synchronizes_iff sampleUuids 0 "a" sampleDb _ _ sampleAccount "token" rfl rfl
    sampleDb_own).mpr ?_⟩
  intro zones _ h
  obtain rfl := Except.ok.inj (hlist.symm.trans h)
  exact ⟨⟨by decide, by decide⟩, by unfold Statuses; decide⟩

/-- The old zone is gone, and a new one has its name. -/
theorem recreated_refused :
    sampleDb.accounts.find? "a" = some sampleAccount ∧
    listZones (pageOf [(identifierC, "example.com")]) =
      .ok [⟨identifierC, "example.com", "active"⟩] ∧
    (∀ r ∈ sampleDb.zones.rows, r.accountId = "a") ∧
    syncCloudflareZones sampleUuids 0 sampleDb "a" [⟨identifierC, "example.com", "active"⟩] none =
      none ∧
    ¬ Synchronizes sampleUuids 0 sampleDb "a" (.ok ())
      (pageOf [(identifierC, "example.com")]) := by
  have hlist : listZones (pageOf [(identifierC, "example.com")]) =
      .ok [⟨identifierC, "example.com", "active"⟩] := rfl
  have hsync : syncCloudflareZones sampleUuids 0 sampleDb "a"
      [⟨identifierC, "example.com", "active"⟩] none = none :=
    Option.isNone_iff_eq_none.mp (by decide)
  refine ⟨rfl, hlist, by decide, hsync, ?_⟩
  unfold Synchronizes
  rw [hlist]
  rintro ⟨rows, db', hcommit, -⟩
  change syncCloudflareZones sampleUuids 0 sampleDb "a"
    [⟨identifierC, "example.com", "active"⟩] none = _ at hcommit
  rw [hsync] at hcommit
  cases hcommit

end GatewayControl.SyncedZones
