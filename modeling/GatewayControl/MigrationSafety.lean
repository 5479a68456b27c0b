import GatewayControl.MigrationRuns

/-!
Migrations resume after any failure or kill, as long as no migration is committed with a time
before those recorded. When one is, the next run refuses what the last one recorded.
-/

namespace GatewayControl.MigrationSafety

open Checks Programs MigrationRunner MigrationRuns

variable {sha256 : String → String} {d d' : Database} {n k : ℕ} {ms : List Migration}

/-! ### Reading the record back -/

lemma find_named {m : Migration} (hnodup : (ms.map Migration.name).Nodup) (hm : m ∈ ms)
    {name : String} (hname : m.name = name) : ms.find? (·.name = name) = some m := by
  induction ms with
  | nil => cases hm
  | cons x ms ih =>
    rw [List.map_cons, List.nodup_cons] at hnodup
    rcases List.mem_cons.1 hm with rfl | hm
    · exact List.find?_cons_of_pos (by simpa using hname)
    · rw [List.find?_cons_of_neg]
      · exact ih hnodup.2 hm
      · intro hx
        refine hnodup.1 ?_
        rw [of_decide_eq_true hx, ← hname]
        exact List.mem_map_of_mem hm

/-- The check passes when every row is that of the migration at its place. -/
lemma validateFrom_ok (hnodup : (ms.map Migration.name).Nodup) {index : ℕ}
    {rows : List AppliedMigration} : validateFrom ms index rows = .ok () ↔
      ∀ j row, rows[j]? = some row → ∃ m, ms[index + j]? = some m ∧ m.name = row.name ∧
        checkChecksum m row = .ok () := by
  induction rows generalizing index with
  | nil => simp [validateFrom]
  | cons row rows ih =>
    have hfirst : (∃ m, ms[index]? = some m ∧ m.name = row.name ∧
        checkChecksum m row = .ok ()) ↔ ∃ m, ms.find? (·.name = row.name) = some m ∧
          (ms[index]?).map Migration.name = some row.name ∧ checkChecksum m row = .ok () := by
      constructor
      · rintro ⟨m, hm, hname, hcheck⟩
        exact ⟨m, find_named hnodup (List.mem_of_getElem? hm) hname, by rw [hm, ← hname]; rfl,
          hcheck⟩
      · rintro ⟨m, hm, hindex, hcheck⟩
        obtain ⟨m', hm', hname'⟩ := Option.map_eq_some_iff.1 hindex
        have hsame := find_named hnodup (List.mem_of_getElem? hm') hname'
        rw [hm] at hsame
        obtain rfl := Option.some.inj hsame
        exact ⟨m, hm', hname', hcheck⟩
    have hcons : (∀ j r, (row :: rows)[j]? = some r → ∃ m, ms[index + j]? = some m ∧
        m.name = r.name ∧ checkChecksum m r = .ok ()) ↔
        (∃ m, ms[index]? = some m ∧ m.name = row.name ∧ checkChecksum m row = .ok ()) ∧
          ∀ j r, rows[j]? = some r → ∃ m, ms[index + 1 + j]? = some m ∧ m.name = r.name ∧
            checkChecksum m r = .ok () := by
      constructor
      · intro h
        refine ⟨h 0 row rfl, fun j r hr => ?_⟩
        have hj := h (j + 1) r hr
        rwa [show index + (j + 1) = index + 1 + j by omega] at hj
      · rintro ⟨hrow, hrows⟩ j r hr
        cases j with
        | zero =>
            obtain rfl := Option.some.inj hr
            exact hrow
        | succ j =>
            rw [show index + (j + 1) = index + 1 + j by omega]
            exact hrows j r hr
    rw [hcons, hfirst, ← ih, validateFrom]
    cases hfind : ms.find? (·.name = row.name) with
    | none => simp [throw, throwThe, MonadExceptOf.throw]
    | some m => simp [and_assoc, Unique.exists_iff]

lemma checkChecksum_matches {m : Migration} {r : SchemaMigration} (h : Matches m r) :
    checkChecksum m r.applied = .ok () := by
  obtain ⟨hname, hsum | ⟨hnone, hsum⟩⟩ := h
  · simp [checkChecksum, SchemaMigration.applied, hsum]
  · simp [checkChecksum, SchemaMigration.applied, hnone, hname, hsum]

lemma selectApplied_ordered (h : Ordered d) :
    d.selectApplied = d.rows.rows.map SchemaMigration.applied := by
  unfold Database.selectApplied
  rw [h.insertionSort_eq]

lemma recorded_get {j : ℕ} {r : SchemaMigration} (h : Recorded d n)
    (hr : d.rows.rows[j]? = some r) : ∃ m, d.release[j]? = some m ∧ Matches m r := by
  obtain ⟨hlt, rfl⟩ := List.getElem?_eq_some_iff.1 hr
  have hj : j < n := h.length ▸ hlt
  have hbound : j < d.release.length := hj.trans_le h.bound
  have hmatch := (List.forall₂_iff_get.1 h.rows).2 j (by simp [hj, hbound]) hlt
  refine ⟨d.release[j], List.getElem?_eq_getElem _, ?_⟩
  simpa using hmatch

/-- What is recorded in order is accepted. -/
lemma accepts_ordered (hrelease : Release sha256 d.release) (h : Recorded d n) (ho : Ordered d) :
    validateAppliedMigrations d.release d.selectApplied = .ok () := by
  rw [validateAppliedMigrations, validateFrom_ok (release_sorted hrelease).2,
    selectApplied_ordered ho]
  intro j row hrow
  rw [List.getElem?_map] at hrow
  obtain ⟨r, hr, rfl⟩ := Option.map_eq_some_iff.1 hrow
  obtain ⟨m, hm, hmatch⟩ := recorded_get h hr
  exact ⟨m, by rwa [Nat.zero_add], hmatch.1.symm, checkChecksum_matches hmatch⟩

lemma before_total (r r' : SchemaMigration) : r.before r' ∨ r'.before r := by
  unfold SchemaMigration.before
  rcases lt_trichotomy r.appliedAt r'.appliedAt with hlt | heq | hlt
  · exact .inl (.inl hlt)
  · rcases String.le_total r.name r'.name with hle | hle
    · exact .inl (.inr ⟨heq, hle⟩)
    · exact .inr (.inr ⟨heq.symm, hle⟩)
  · exact .inr (.inl hlt)

lemma before_trans (r r' r'' : SchemaMigration) (h : r.before r') (h' : r'.before r'') :
    r.before r'' := by
  unfold SchemaMigration.before at h h' ⊢
  rcases h with hlt | ⟨heq, hle⟩ <;> rcases h' with hlt' | ⟨heq', hle'⟩
  · exact .inl (hlt.trans hlt')
  · exact .inl (heq' ▸ hlt)
  · exact .inl (heq.symm ▸ hlt')
  · exact .inr ⟨heq.trans heq', String.le_trans hle hle'⟩

/-- What is recorded is accepted only if it is in order. -/
lemma ordered_accepts (hrelease : Release sha256 d.release) (h : Recorded d n)
    (hok : validateAppliedMigrations d.release d.selectApplied = .ok ()) : Ordered d := by
  have htotal : Std.Total SchemaMigration.before := ⟨before_total⟩
  have htrans : IsTrans _ SchemaMigration.before := ⟨before_trans⟩
  have hnodup := (release_sorted hrelease).2
  rw [validateAppliedMigrations, validateFrom_ok hnodup] at hok
  have hperm := List.perm_insertionSort SchemaMigration.before d.rows.rows
  have hlength : (d.rows.rows.insertionSort SchemaMigration.before).length =
      d.rows.rows.length := hperm.length_eq
  -- each place of the sorted rows has the name that the record has there
  have hsorted : d.rows.rows.insertionSort SchemaMigration.before = d.rows.rows := by
    refine List.ext_getElem hlength fun j hj hj' => ?_
    have hrow := hok j _ (by
      rw [Database.selectApplied, List.getElem?_map, List.getElem?_eq_getElem hj]
      rfl)
    obtain ⟨m, hm, hname, -⟩ := hrow
    obtain ⟨m', hm', hmatch⟩ := recorded_get h (List.getElem?_eq_getElem hj')
    rw [Nat.zero_add, hm'] at hm
    obtain rfl := Option.some.inj hm
    have hkey : SchemaMigration.name (d.rows.rows.insertionSort SchemaMigration.before)[j] =
        SchemaMigration.name d.rows.rows[j] := by
      rw [hmatch.1, hname]
      rfl
    have hmem := Table.find?_of_mem (hperm.mem_iff.1 (List.getElem_mem hj))
    rw [hkey, Table.find?_of_mem (List.getElem_mem hj')] at hmem
    exact (Option.some.inj hmem).symm
  unfold Ordered
  rw [← hsorted]
  exact List.pairwise_insertionSort _ _

/-! ### Every step keeps the record -/

structure Inv (sha256 : String → String) (d : Database) : Prop where
  release : Release sha256 d.release
  recorded : ∃ n, Recorded d n
  ordered : Ordered d

def contract (sha256 : String → String) : Contract client Database Unit where
  exec := fun _ => migrationEffect True
  inv := Inv sha256
  rely := fun _ d d' => d' = { d with clock := d'.clock }
  allowed := fun _ _ _ => True

lemma contract_lawful : (contract sha256).Lawful where
  refl := fun _ _ => rfl
  trans := by
    intro _ s t u hst htu
    change u = { s with clock := u.clock }
    rw [htu, hst]

/-- The first `n` migrations of the release `ms` are recorded. -/
def At (ms : List Migration) (n : ℕ) (d : Database) : Prop := d.release = ms ∧ Recorded d n

lemma stable_at : Stable (contract sha256) () (At ms n) := by
  rintro s t - - hst ⟨hms, h⟩
  rw [hst]
  exact ⟨hms, h.bound, h.rows, h.executed⟩

lemma stable_open {P : Option Transaction → Prop} :
    Stable (contract sha256) () fun d => P d.transaction := by
  rintro s t - - hst h
  rw [hst]
  exact h

lemma query_tri {P : Database → Prop} {o : MigrationOp} {K : o.Res → Database → Prop}
    (hP : Stable (contract sha256) () P) (hK : ∀ r, Stable (contract sha256) () (K r))
    (h : ∀ d r d', Inv sha256 d → P d → migrationEffect True d o r d' →
      Inv sha256 d' ∧ K r d') : Tri (contract sha256) () P (query o) K := by
  refine tri_lift contract_lawful hK (triple_perform hP hK (fun _ _ _ => trivial) ?_)
  intro s r t hi hs hexec
  obtain ⟨ht, hr⟩ := h s r t hi hs hexec
  exact ⟨ht, fun j hj => absurd rfl hj, hr⟩

lemma must_tri {P : Database → Prop} {K : Bool → Database → Prop} {p : Runner Bool}
    (hK : ∀ b, Stable (contract sha256) () (K b)) (hp : Tri (contract sha256) () P p K) :
    Tri (contract sha256) () P (must p) fun _ => K true := by
  refine tri_bind contract_lawful hp fun b => ?_
  cases b with
  | true => exact tri_pure (hK true) fun _ _ h => h
  | false => exact tri_throw (hK false)

/-- A step that leaves the record alone. -/
lemma same_record {e : Database} (hi : Inv sha256 d) (hrelease : e.release = d.release)
    (hrows : e.rows = d.rows) (hexecuted : e.executed = d.executed) :
    Inv sha256 e ∧ ∀ ms n, At ms n d → At ms n e := by
  have hrecorded : ∀ n, Recorded d n → Recorded e n := by
    intro n h
    refine ⟨?_, ?_, ?_⟩
    · rw [hrelease]
      exact h.bound
    · rw [hrelease, hrows]
      exact h.rows
    · rw [hrelease, hexecuted]
      exact h.executed
  refine ⟨⟨hrelease ▸ hi.release, hi.recorded.imp hrecorded, ?_⟩, ?_⟩
  · unfold Ordered
    rw [hrows]
    exact hi.ordered
  · rintro ms n ⟨hms, h⟩
    exact ⟨hrelease.trans hms, hrecorded n h⟩

lemma applied_names (h : Recorded d n) (ho : Ordered d) :
    d.selectApplied.map AppliedMigration.name = (d.release.take n).map Migration.name := by
  rw [selectApplied_ordered ho, ← h.names]
  simp [SchemaMigration.applied]

lemma select_tri : Tri (contract sha256) () (At ms n) (query .select) fun r d => At ms n d ∧
    ∀ applied, r = some applied →
      applied.map AppliedMigration.name = (ms.take n).map Migration.name := by
  refine query_tri stable_at (fun r => stable_at.and (stable_const _)) fun d r d' hi hd hexec => ?_
  obtain ⟨rfl, hr⟩ := hexec
  refine ⟨hi, hd, ?_⟩
  rintro applied rfl
  rcases hr with hr | hr
  · cases hr
  · rw [Option.some.inj hr, applied_names hd.2 hi.ordered, hd.1]

/-- A query that changes nothing. -/
lemma still_tri {o : MigrationOp} (ho : ∀ d r d', migrationEffect True d o r d' → d' = d) :
    Tri (contract sha256) () (At ms n) (query o) fun _ => At ms n := by
  refine query_tri stable_at (fun _ => stable_at) fun d r d' hi hd hexec => ?_
  obtain rfl := ho d r d' hexec
  exact ⟨hi, hd⟩

lemma baselineRows_tri (applied : List AppliedMigration) :
    Tri (contract sha256) () (At ms n) (baselineRows applied) fun _ => At ms n := by
  induction applied with
  | nil => exact tri_pure stable_at fun _ _ h => h
  | cons row rows ih =>
    unfold baselineRows
    split
    · rename_i checksum _ hchecksum
      refine tri_bind contract_lawful (K := fun _ => At ms n) ?_ fun r => ?_
      · refine query_tri stable_at (fun _ => stable_at) fun d r d' hi hd hexec => ?_
        rcases hexec with ⟨-, rfl⟩ | ⟨rfl, -⟩
        · exact ⟨hi, hd⟩
        · obtain ⟨k, hk⟩ := hi.recorded
          exact ⟨⟨hi.release, ⟨k, recorded_baseline hk hchecksum⟩, ordered_baseline hi.ordered⟩,
            hd.1, recorded_baseline hd.2 hchecksum⟩
      · split
        · exact ih
        · exact tri_throw stable_at
        · exact tri_throw stable_at
    · exact ih

/-- What the transaction of one migration holds after each of its queries. -/
def InTransaction (ms : List Migration) (n : ℕ) (P : Option Transaction → Prop)
    (d : Database) : Prop :=
  At ms n d ∧ P d.transaction

lemma stable_inTransaction {P : Option Transaction → Prop} :
    Stable (contract sha256) () (InTransaction ms n P) := stable_at.and stable_open

lemma begin_tri : Tri (contract sha256) () (At ms n) (query .begin) fun r =>
    InTransaction ms n fun t => r = true → ∃ time, t = some ⟨time, [], []⟩ := by
  refine query_tri stable_at (fun _ => stable_inTransaction) fun d r d' hi hd hexec => ?_
  rcases hexec with ⟨rfl, rfl⟩ | rfl
  · exact ⟨hi, hd, nofun⟩
  · obtain ⟨hi', hat⟩ := same_record (e := { d with transaction := some ⟨d.clock, [], []⟩ })
      hi rfl rfl rfl
    exact ⟨hi', hat ms n hd, fun _ => ⟨_, rfl⟩⟩

lemma execute_tri {sql : String} : Tri (contract sha256) ()
    (InTransaction ms n fun t => ∃ time, t = some ⟨time, [], []⟩) (query (.execute sql)) fun r =>
      InTransaction ms n fun t => r = true → ∃ time, t = some ⟨time, [sql], []⟩ := by
  refine query_tri stable_inTransaction (fun _ => stable_inTransaction) ?_
  rintro d r d' hi ⟨hd, time, ht⟩ hexec
  rcases hexec with ⟨rfl, rfl⟩ | ⟨t, ht', rfl⟩
  · exact ⟨hi, hd, nofun⟩
  · rw [ht] at ht'
    obtain rfl := Option.some.inj ht'
    obtain ⟨hi', hat⟩ := same_record
      (e := { d with transaction := some ⟨time, [] ++ [sql], []⟩ }) hi rfl rfl rfl
    exact ⟨hi', hat ms n hd, fun _ => ⟨time, rfl⟩⟩

lemma insert_tri {m : Migration} : Tri (contract sha256) ()
    (InTransaction ms n fun t => ∃ time, t = some ⟨time, [m.sql], []⟩)
    (query (.insert m.name m.checksum)) fun r => InTransaction ms n fun t => r = true →
      ∃ time, t = some ⟨time, [m.sql], [⟨m.name, time, some m.checksum⟩]⟩ := by
  refine query_tri stable_inTransaction (fun _ => stable_inTransaction) ?_
  rintro d r d' hi ⟨hd, time, ht⟩ hexec
  rcases hexec with ⟨rfl, rfl⟩ | ⟨t, ht', -, rfl⟩
  · exact ⟨hi, hd, nofun⟩
  · rw [ht] at ht'
    obtain rfl := Option.some.inj ht'
    obtain ⟨hi', hat⟩ := same_record (e := { d with transaction := some ⟨time, [m.sql],
      [] ++ [⟨m.name, time, some m.checksum⟩]⟩ }) hi rfl rfl rfl
    exact ⟨hi', hat ms n hd, fun _ => ⟨time, rfl⟩⟩

/-- A commit records the migration, or leaves the record as it was. -/
lemma commit_tri {m : Migration} (hm : ms[n]? = some m) : Tri (contract sha256) ()
    (InTransaction ms n fun t =>
      ∃ time, t = some ⟨time, [m.sql], [⟨m.name, time, some m.checksum⟩]⟩)
    (query .commit) fun r d => r = true → At ms (n + 1) d := by
  refine query_tri stable_inTransaction (fun _ => stable_at.imp) ?_
  rintro d r d' hi ⟨⟨hms, hd⟩, hready⟩ hexec
  rcases hexec with ⟨rfl, rfl⟩ | ⟨hc, htime⟩
  · exact ⟨(same_record (e := { d with transaction := none }) hi rfl rfl rfl).1, nofun⟩
  · have hm' : d.release[n]? = some m := hms ▸ hm
    have hrec : Recorded d' (n + 1) := recorded_commit hd hm' hready hc
    have hrelease : d'.release = d.release := by
      obtain ⟨_, _, -, -, rfl⟩ := commit_ready hready hc
      rfl
    have hord : Ordered d' :=
      ordered_commit hi.release hd hm' hready hc hi.ordered (htime trivial)
    exact ⟨⟨hrelease ▸ hi.release, ⟨n + 1, hrec⟩, hord⟩, fun _ => ⟨hrelease.trans hms, hrec⟩⟩

lemma applyMigration_tri {m : Migration} (hm : ms[n]? = some m) :
    Tri (contract sha256) () (At ms n) (applyMigration m) fun _ => At ms (n + 1) := by
  have hsql : Tri (contract sha256) ()
      (InTransaction ms n fun t => ∃ time, t = some ⟨time, [], []⟩) (applySql m)
      fun _ => At ms (n + 1) := by
    refine tri_bind contract_lawful (K := fun _ => InTransaction ms n fun t =>
      ∃ time, t = some ⟨time, [m.sql], []⟩) ?_ fun _ => ?_
    · exact tri_conseq (must_tri (fun _ => stable_inTransaction) execute_tri) (fun _ _ h => h)
        fun _ _ _ h => ⟨h.1, h.2 rfl⟩
    refine tri_bind contract_lawful (K := fun _ => InTransaction ms n fun t =>
      ∃ time, t = some ⟨time, [m.sql], [⟨m.name, time, some m.checksum⟩]⟩) ?_ fun _ => ?_
    · exact tri_conseq (must_tri (fun _ => stable_inTransaction) insert_tri) (fun _ _ h => h)
        fun _ _ _ h => ⟨h.1, h.2 rfl⟩
    · exact tri_conseq (must_tri (fun _ => stable_at.imp) (commit_tri hm)) (fun _ _ h => h)
        fun _ _ _ h => h rfl
  refine tri_bind contract_lawful (K := fun _ => InTransaction ms n fun t =>
    ∃ time, t = some ⟨time, [], []⟩) ?_ fun _ => ?_
  · exact tri_conseq (must_tri (fun _ => stable_inTransaction) begin_tri) (fun _ _ h => h)
      fun _ _ _ h => ⟨h.1, h.2 rfl⟩
  refine tri_catch contract_lawful (fun _ => stable_at) hsql (fun _ => ?_) fun e => ?_
  · exact tri_pure stable_at fun _ _ h => h
  · refine tri_bind contract_lawful (K := fun _ _ => True)
      (must_tri (K := fun _ _ => True) (fun _ => stable_true) ?_) fun _ => tri_throw stable_true
    refine query_tri stable_true (fun _ => stable_true) fun d r d' hi _ hexec => ⟨?_, trivial⟩
    rcases hexec with ⟨-, rfl⟩ | rfl
    · exact hi
    · exact (same_record (e := { d with transaction := none }) hi rfl rfl rfl).1

/-- The next migration is among the recorded ones only if it comes before their end. -/
lemma mem_recorded {m : Migration} {done rest : List Migration}
    (hnodup : ((done ++ m :: rest).map Migration.name).Nodup) :
    m.name ∈ ((done ++ m :: rest).take k).map Migration.name ↔ done.length < k := by
  constructor
  · intro hmem
    by_contra hle
    rw [List.take_append_of_le_length (by omega)] at hmem
    rw [List.map_append, List.map_cons] at hnodup
    refine (List.nodup_append.1 hnodup).2.2 m.name ?_ m.name List.mem_cons_self rfl
    exact List.map_subset _ (List.take_subset k done) hmem
  · intro hlt
    refine List.mem_map_of_mem ?_
    rw [List.mem_take_iff_getElem]
    exact ⟨done.length, by simp; omega, by simp⟩

/-- The loop goes on from what is recorded. -/
lemma applyMissing_tri (hrelease : Release sha256 ms) {names : List String}
    (hnames : names = (ms.take k).map Migration.name) (done rest : List Migration)
    (hms : ms = done ++ rest) : Tri (contract sha256) () (At ms (max k done.length))
      (applyMissing names rest) fun _ => At ms (max k ms.length) := by
  induction rest generalizing done with
  | nil =>
      rw [List.append_nil] at hms
      rw [hms]
      exact tri_pure stable_at fun _ _ h => h
  | cons m rest ih =>
    have hnext := ih (done ++ [m]) (by rw [hms, List.append_assoc]; rfl)
    rw [List.length_append, List.length_singleton] at hnext
    have hnodup := (release_sorted hrelease).2
    rw [hms] at hnodup
    have hmem : m.name ∈ names ↔ done.length < k := by
      rw [hnames, hms]
      exact mem_recorded hnodup
    unfold applyMissing
    by_cases hk : done.length < k
    · rw [if_pos (hmem.2 hk)]
      rwa [show max k (done.length + 1) = max k done.length by omega] at hnext
    · rw [if_neg (fun h => hk (hmem.1 h))]
      have hget : ms[max k done.length]? = some m := by
        rw [show max k done.length = done.length by omega, hms]
        simp
      refine tri_bind contract_lawful (applyMigration_tri hget) fun _ => ?_
      rwa [show max k (done.length + 1) = max k done.length + 1 by omega] at hnext

lemma runMigrations_tri (hrelease : Release sha256 ms) : Tri (contract sha256) () (At ms n)
    (runMigrations ms) fun _ _ => True := by
  refine tri_bind contract_lawful (K := fun _ => At ms n)
    (must_tri (fun _ => stable_at) (still_tri fun _ _ _ h => h)) fun _ => ?_
  refine tri_bind contract_lawful (K := fun _ => At ms n)
    (must_tri (fun _ => stable_at) (still_tri fun _ _ _ h => h)) fun _ => ?_
  refine tri_bind contract_lawful select_tri fun r => ?_
  cases r with
  | none => exact tri_throw (stable_at.and (stable_const _))
  | some applied =>
    refine tri_bind contract_lawful
      (K := fun _ d => applied.map AppliedMigration.name = (ms.take n).map Migration.name ∧
        At ms n d) ?_ fun _ => triple_pre fun hnames => ?_
    · cases validateAppliedMigrations ms applied with
      | error e => exact tri_throw (stable_at.and (stable_const _))
      | ok u => exact tri_pure (stable_at.and (stable_const _)) fun _ _ h => ⟨h.2 applied rfl, h.1⟩
    refine tri_bind contract_lawful (baselineRows_tri applied) fun _ => ?_
    refine tri_bind contract_lawful (K := fun _ => At ms (max n ms.length)) ?_ fun _ => ?_
    · have hrun := applyMissing_tri hrelease hnames [] ms rfl
      rwa [List.length_nil, Nat.max_zero] at hrun
    · exact tri_conseq (must_tri (fun _ => stable_at) (still_tri fun _ _ _ h => h.1))
        (fun _ _ h => h) fun _ _ _ _ => trivial

lemma opened_inv (h : Inv sha256 d) (hrelease : Release sha256 ms) (hms : d.release <+: ms) :
    Inv sha256 (opened ms d) :=
  ⟨hrelease, h.recorded.imp fun _ hn => hn.opened hms, h.ordered⟩

lemma keeps : Keeps (system sha256 True) (contract sha256) fun _ _ _ => True where
  lawful := contract_lawful
  exec := fun _ _ _ _ _ h => h
  start := by
    rintro _ _ d p d' ⟨ms, hrelease, hms, rfl, rfl⟩ hi -
    have hi' := opened_inv hi hrelease hms
    obtain ⟨n, hn⟩ := hi'.recorded
    refine ⟨hi', fun j hj => absurd rfl hj, ?_⟩
    refine safe_bind contract_lawful (runMigrations_tri hrelease _ hi' ⟨rfl, hn⟩)
      fun r t _ _ => ?_
    exact fun _ _ _ => trivial
  environment := by
    rintro time d d' rfl hi
    exact ⟨(same_record (e := { d with clock := time }) hi rfl rfl rfl).1, fun _ => rfl⟩
  crash := by
    rintro _ d d' p ⟨rfl, rfl⟩ hi
    exact ⟨(same_record (e := { d with transaction := none }) hi rfl rfl rfl).1,
      fun j hj => absurd rfl hj, fun _ _ _ => trivial⟩

lemma initial_sound {c : Config client Database Unit Unit} (h : initial sha256 c) :
    Sound (contract sha256) (fun _ _ _ => True) c := by
  obtain ⟨hthread, hrelease, hrecorded, hordered⟩ := h
  refine ⟨⟨hrelease, hrecorded, hordered⟩, fun i => ?_⟩
  rw [hthread]
  exact fun _ _ _ => trivial

/-! ### A run with no failing query -/

variable {clock : Database → ℤ}

/-- What a run keeps beside the record: every row has a checksum. -/
def Filled (d : Database) : Prop := ∀ r ∈ d.rows.rows, r.checksum ≠ none

lemma outcome_query (o : MigrationOp) : (query o).run.outcome (works clock) d =
    (.ok (works clock d o).1, (works clock d o).2) := rfl

lemma outcome_must {p : Runner Bool} {e : Database} (hp : p.run.outcome (works clock) d = (.ok true, e)) :
    (must p).run.outcome (works clock) d = (.ok (), e) := by
  unfold must
  rw [outcome_bind_ok hp]
  rfl

lemma next_fresh {m : Migration} (hrelease : Release sha256 d.release) (h : Recorded d n)
    (hm : d.release[n]? = some m) : m.name ∉ d.rows.rows.map SchemaMigration.name := by
  obtain ⟨hlt, rfl⟩ := List.getElem?_eq_some_iff.1 hm
  have hsplit : d.release = d.release.take n ++ d.release[n] :: d.release.drop (n + 1) := by
    rw [List.getElem_cons_drop, List.take_append_drop]
  have hnodup := (release_sorted hrelease).2
  rw [hsplit] at hnodup
  have hlength : (d.release.take n).length = n := by simp [hlt.le]
  rw [h.names]
  intro hmem
  have hmem' : (d.release[n]).name ∈
      ((d.release.take n ++ d.release[n] :: d.release.drop (n + 1)).take n).map
        Migration.name := by
    rwa [← hsplit]
  rw [mem_recorded hnodup, hlength] at hmem'
  exact lt_irrefl n hmem'

variable (clock) in
lemma applyMigration_outcome {m : Migration} (hrelease : Release sha256 d.release)
    (h : Recorded d n) (hm : d.release[n]? = some m) (hfilled : Filled d) : ∃ d',
      (applyMigration m).run.outcome (works clock) d = (.ok (), d') ∧
      d'.release = d.release ∧ Recorded d' (n + 1) ∧ Filled d' := by
  have hfresh := next_fresh hrelease h hm
  let t : Transaction := ⟨clock d, [m.sql], [⟨m.name, clock d, some m.checksum⟩]⟩
  let ready : Database := { d with transaction := some t }
  obtain ⟨rows, hrows⟩ : ∃ rows, d.rows.insert? ⟨m.name, clock d, some m.checksum⟩ = some rows := by
    unfold Table.insert?
    rw [dif_neg hfresh]
    exact ⟨_, rfl⟩
  obtain ⟨d', hd'⟩ : ∃ d', ready.commit = some d' := by
    refine ⟨{ d with rows := rows, executed := d.executed ++ [m.sql], transaction := none }, ?_⟩
    simp [ready, t, Database.commit, hrows]
  have hready : Ready m ready := ⟨clock d, rfl⟩
  have hsql : (applySql m).run.outcome (works clock)
      { d with transaction := some ⟨clock d, [], []⟩ } = (.ok (), d') := by
    unfold applySql
    rw [outcome_bind_ok (outcome_must (e := { d with transaction := some ⟨clock d, [m.sql], []⟩ })
      rfl)]
    rw [outcome_bind_ok (outcome_must (e := ready) ?_)]
    · refine outcome_must ?_
      rw [outcome_query]
      simp only [works, hd']
    · rw [outcome_query]
      simp [works, hfresh, ready, t]
  refine ⟨d', ?_, ?_, ?_, ?_⟩
  · unfold applyMigration
    rw [outcome_bind_ok (outcome_must (outcome_query _))]
    refine (outcome_bind_ok (a := .ok ()) (t := d') ?_).trans rfl
    rw [outcome_lift]
    simp only [works, hsql]
  · obtain ⟨_, _, -, -, rfl⟩ := commit_ready hready hd'
    rfl
  · exact recorded_commit (d := ready) ⟨h.bound, h.rows, h.executed⟩ hm hready hd'
  · obtain ⟨time, rows', -, hrows', rfl⟩ := commit_ready hready hd'
    intro r hr
    change r ∈ rows'.rows at hr
    rw [hrows'] at hr
    rcases List.mem_append.1 hr with hr | hr
    · exact hfilled r hr
    · rw [List.mem_singleton.1 hr]
      exact Option.some_ne_none _

variable (clock) in
lemma applyMissing_outcome {names : List String} (hnames : names = (ms.take k).map Migration.name)
    (hrelease : Release sha256 ms) (done rest : List Migration) (hms : ms = done ++ rest)
    (hd : d.release = ms) (h : Recorded d (max k done.length)) (hfilled : Filled d) : ∃ d',
      (applyMissing names rest).run.outcome (works clock) d = (.ok (), d') ∧
      d'.release = ms ∧ Recorded d' (max k ms.length) ∧ Filled d' := by
  induction rest generalizing done d with
  | nil =>
      rw [List.append_nil] at hms
      rw [hms]
      rw [hms] at hd
      exact ⟨d, rfl, hd, h, hfilled⟩
  | cons m rest ih =>
    have hnodup := (release_sorted hrelease).2
    rw [hms] at hnodup
    have hmem : m.name ∈ names ↔ done.length < k := by
      rw [hnames, hms]
      exact mem_recorded hnodup
    have hnext : ms = (done ++ [m]) ++ rest := by rw [hms, List.append_assoc]; rfl
    have hlength : (done ++ [m]).length = done.length + 1 := by simp
    unfold applyMissing
    by_cases hk : done.length < k
    · rw [if_pos (hmem.2 hk)]
      refine ih (done ++ [m]) hnext hd ?_ hfilled
      rwa [hlength, show max k (done.length + 1) = max k done.length by omega]
    · rw [if_neg (fun hin => hk (hmem.1 hin))]
      have hget : d.release[max k done.length]? = some m := by
        rw [show max k done.length = done.length by omega, hd, hms]
        simp
      obtain ⟨d₁, hrun, hrelease₁, hrec₁, hfilled₁⟩ :=
        applyMigration_outcome clock (hd ▸ hrelease) h hget hfilled
      rw [outcome_bind_ok hrun]
      refine ih (done ++ [m]) hnext (hrelease₁.trans hd) ?_ hfilled₁
      rwa [hlength, show max k (done.length + 1) = max k done.length + 1 by omega]

/-- A row without a checksum, and the reviewed one for it. -/
def Missing (d : Database) (a : AppliedMigration) : Prop :=
  (∃ r ∈ d.rows.rows, r.name = a.name ∧ r.checksum = none) ∧
    ∃ checksum, historical a.name = some checksum

lemma baseline_count {a : AppliedMigration} (h : Missing d a) :
    d.rows.rows.countP (needsBaseline a.name) = 1 := by
  obtain ⟨⟨r, hr, hname, hnone⟩, -⟩ := h
  rw [List.countP_eq_length_filter, Table.filter_unique (r := r) hr]
  · rfl
  · simp [needsBaseline, hname, hnone]
  · intro r' hr' hneeds
    have hsame := Table.find?_of_mem hr
    have hname' : r'.name = r.name := by
      simp only [needsBaseline, decide_eq_true_eq] at hneeds
      exact hneeds.1.trans hname.symm
    rw [← hname', Table.find?_of_mem hr'] at hsame
    exact Option.some.inj hsame

lemma mem_baseline {name checksum : String} {r : SchemaMigration} :
    r ∈ (d.baseline name checksum).rows.rows ↔ ∃ r₀ ∈ d.rows.rows,
      (if needsBaseline name r₀ then r₀.fill checksum else r₀) = r := by
  simp [Database.baseline, Table.update, List.mem_map]

variable (clock) in
/-- Every row that has no checksum gets the reviewed one. -/
lemma baselineRows_outcome (applied : List AppliedMigration) (h : Recorded d n)
    (hnodup : (applied.map AppliedMigration.name).Nodup)
    (hmissing : ∀ a ∈ applied, a.checksum = none → Missing d a)
    (hcover : ∀ r ∈ d.rows.rows, r.checksum = none → ∃ a ∈ applied, a.name = r.name ∧
      a.checksum = none) : ∃ d',
      (baselineRows applied).run.outcome (works clock) d = (.ok (), d') ∧
      d'.release = d.release ∧ Recorded d' n ∧ Filled d' := by
  induction applied generalizing d with
  | nil =>
      refine ⟨d, rfl, rfl, h, fun r hr hnone => ?_⟩
      obtain ⟨a, ha, -⟩ := hcover r hr hnone
      cases ha
  | cons a rest ih =>
    rw [List.map_cons, List.nodup_cons] at hnodup
    unfold baselineRows
    by_cases hnone : a.checksum = none
    · have hrow := hmissing a List.mem_cons_self hnone
      obtain ⟨checksum, hchecksum⟩ := hrow.2
      have hcount := baseline_count hrow
      simp only [hnone, hchecksum]
      refine Exists.imp (fun d' hd' => ?_) (ih (d := d.baseline a.name checksum)
        (recorded_baseline h hchecksum) hnodup.2 (fun b hb hbnone => ?_) fun r hr hrnone => ?_)
      · refine ⟨?_, hd'.2⟩
        rw [outcome_bind_ok (outcome_query _)]
        simp only [works, hcount]
        exact hd'.1
      · obtain ⟨⟨r, hr, hname, hrnone⟩, hb'⟩ := hmissing b (.tail _ hb) hbnone
        refine ⟨⟨r, mem_baseline.2 ⟨r, hr, if_neg ?_⟩, hname, hrnone⟩, hb'⟩
        simp only [needsBaseline, decide_eq_true_eq, not_and]
        intro heq
        refine absurd ?_ hnodup.1
        rw [← heq, hname]
        exact List.mem_map_of_mem hb
      · obtain ⟨r₀, hr₀, rfl⟩ := mem_baseline.1 hr
        by_cases hneeds : needsBaseline a.name r₀
        · rw [if_pos hneeds] at hrnone
          cases hrnone
        · rw [if_neg hneeds] at hrnone ⊢
          obtain ⟨b, hb, hname, hbnone⟩ := hcover r₀ hr₀ hrnone
          rcases List.mem_cons.1 hb with rfl | hb
          · exact absurd (by simp [needsBaseline, hname, hrnone]) hneeds
          · exact ⟨b, hb, hname, hbnone⟩
    · obtain ⟨checksum, hchecksum⟩ := Option.ne_none_iff_exists'.1 hnone
      simp only [hchecksum]
      refine ih h hnodup.2 (fun b hb => hmissing b (.tail _ hb)) fun r hr hrnone => ?_
      obtain ⟨b, hb, hname, hbnone⟩ := hcover r hr hrnone
      rcases List.mem_cons.1 hb with rfl | hb
      · exact absurd hbnone hnone
      · exact ⟨b, hb, hname, hbnone⟩

/-- The reviewed checksum of a recorded row that has none is known. -/
lemma recorded_missing (h : Recorded d n) {r : SchemaMigration} (hr : r ∈ d.rows.rows)
    (hnone : r.checksum = none) : Missing d r.applied := by
  obtain ⟨j, hj, rfl⟩ := List.getElem_of_mem hr
  obtain ⟨m, -, hname, hsum | ⟨-, hsum⟩⟩ := recorded_get h (List.getElem?_eq_getElem hj)
  · rw [hnone] at hsum
    cases hsum
  · rw [← hname] at hsum
    exact ⟨⟨_, hr, rfl, hnone⟩, m.checksum, hsum⟩

variable (clock) in
/-- A run over a record in order completes. -/
lemma runMigrations_outcome (hrelease : Release sha256 d.release) (h : Recorded d n)
    (ho : Ordered d) : ∃ d', (runMigrations d.release).run.outcome (works clock) d =
      (.ok (), d') ∧ Recorded d' d.release.length := by
  have hvalid := accepts_ordered hrelease h ho
  have hselect := selectApplied_ordered ho
  have hnames := applied_names h ho
  obtain ⟨d₁, hbaseline, hrelease₁, hrec₁, hfilled₁⟩ :=
    baselineRows_outcome clock d.selectApplied h
      (by
        rw [hnames]
        exact (release_sorted hrelease).2.sublist ((List.take_sublist n _).map _))
      (fun a ha hnone => by
        rw [hselect] at ha
        obtain ⟨r, hr, rfl⟩ := List.mem_map.1 ha
        exact recorded_missing h hr hnone)
      (fun r hr hnone => by
        rw [hselect]
        exact ⟨r.applied, List.mem_map_of_mem hr, rfl, hnone⟩)
  have hbound := h.bound
  obtain ⟨d₂, hmissing, -, hrec₂, hfilled₂⟩ := applyMissing_outcome clock hnames
    hrelease [] d.release rfl hrelease₁ (by simpa using hrec₁) hfilled₁
  refine ⟨d₂, ?_, by rwa [Nat.max_eq_right hbound] at hrec₂⟩
  unfold runMigrations
  rw [outcome_bind_ok (outcome_must (outcome_query _)),
    outcome_bind_ok (outcome_must (outcome_query _)), outcome_bind_ok (outcome_query _)]
  simp only [works]
  rw [outcome_bind_ok (a := ()) (t := d) (by rw [hvalid]; rfl), outcome_bind_ok hbaseline,
    outcome_bind_ok hmissing]
  refine outcome_must ?_
  rw [outcome_query]
  have hall : (d₂.rows.rows.all fun row => row.checksum.isSome) = true := by
    rw [List.all_eq_true]
    exact fun r hr => Option.isSome_iff_ne_none.2 (hfilled₂ r hr)
  simp only [works, hall]

/-! ### Resuming -/

lemma opened_release : (opened ms d).release = ms := rfl

lemma opened_selectApplied : (opened ms d).selectApplied = d.selectApplied := rfl

lemma ordered_resumes (h : Inv sha256 d) : Resumes sha256 d where
  recorded := h.recorded
  accepts := by
    intro ms hms hextends
    have hi := opened_inv h hms hextends
    obtain ⟨n, hn⟩ := hi.recorded
    have hok := accepts_ordered hi.release hn hi.ordered
    rwa [opened_release, opened_selectApplied] at hok
  completes := by
    intro ms hms hextends clock
    have hi := opened_inv h hms hextends
    obtain ⟨n, hn⟩ := hi.recorded
    have hrun := runMigrations_outcome clock hi.release hn hi.ordered
    rwa [opened_release] at hrun

/-- As long as no migration is committed with a time before those of the migrations recorded
by then, migrations resume. -/
theorem migrations_resume {c : Config client Database Unit Unit}
    (h : Reach (system sha256 True) (initial sha256) c) : Resumes sha256 c.state :=
  ordered_resumes (reach_sound keeps (fun _ => initial_sound) h).1

/-- Whatever the clock has done, migrations resume exactly where the record reads back in
order. -/
theorem resumes_iff {n : ℕ} (hrelease : Release sha256 d.release) (h : Recorded d n) :
    Resumes sha256 d ↔ Ordered d := by
  constructor
  · intro hresumes
    exact ordered_accepts hrelease h (hresumes.accepts d.release hrelease List.prefix_rfl)
  · intro ho
    exact ordered_resumes ⟨hrelease, ⟨n, h⟩, ho⟩

/-! ### Single runs -/

lemma works_effect {steady : Prop} (d : Database) (o : MigrationOp)
    (hcommit : steady → o = .commit → NotBefore d) :
    migrationEffect steady d o (works Database.clock d o).1 (works Database.clock d o).2 := by
  cases o with
  | createTable | addColumn => rfl
  | select => exact ⟨rfl, .inr rfl⟩
  | baseline name checksum => exact .inr ⟨rfl, .inr rfl⟩
  | begin => exact .inr rfl
  | execute sql =>
      simp only [works]
      split
      · rename_i t ht
        exact .inr ⟨t, ht, rfl⟩
      · exact .inl ⟨rfl, rfl⟩
  | insert name checksum =>
      simp only [works]
      split
      · rename_i t ht
        split_ifs with hname
        · exact .inl ⟨rfl, rfl⟩
        · exact .inr ⟨t, ht, hname, rfl⟩
      · exact .inl ⟨rfl, rfl⟩
  | commit =>
      simp only [works]
      split
      · rename_i d' hd'
        exact .inr ⟨hd', fun hsteady => hcommit hsteady rfl⟩
      · exact .inl ⟨rfl, rfl⟩
  | rollback => exact .inr rfl
  | setNotNull =>
      refine ⟨rfl, fun hall r hr => ?_⟩
      exact Option.isSome_iff_ne_none.1 (List.all_eq_true.1 hall r hr)

/-- The check for a steady clock. -/
def steadyCheck (d : Database) : MigrationOp → Bool
  | .commit => d.transaction.all fun t => d.rows.rows.all fun r => r.appliedAt ≤ t.startedAt
  | _ => true

lemma steadyCheck_notBefore (h : steadyCheck d .commit) : NotBefore d := by
  intro t ht r hr
  rw [steadyCheck, ht, Option.all_some, List.all_eq_true] at h
  exact of_decide_eq_true (h r hr)

/-- Begin a run, and let it perform up to `n` queries, none of which fails. -/
def letRun (n : ℕ) (ms : List Migration) (c : Config client Database Unit Unit) :
    Config client Database Unit Unit :=
  let (p, d) := (runToEnd (runMigrations ms)).runFor (works Database.clock) n (opened ms c.state)
  ⟨d, Function.update (Function.update c.thread () (runToEnd (runMigrations ms))) () p⟩

def letClock (time : ℤ) (c : Config client Database Unit Unit) :
    Config client Database Unit Unit :=
  ⟨{ c.state with clock := time }, c.thread⟩

lemma reach_letClock {steady : Prop} {c : Config client Database Unit Unit} (time : ℤ)
    (h : Reach (system sha256 steady) (initial sha256) c) :
    Reach (system sha256 steady) (initial sha256) (letClock time c) :=
  h.step (Step.environment (S := system sha256 steady) time rfl)

lemma reach_letRun {steady : Prop} {c : Config client Database Unit Unit} (n : ℕ)
    (h : Reach (system sha256 steady) (initial sha256) c) (hend : (c.thread ()).next = none)
    (hms : Release sha256 ms) (hextends : c.state.release <+: ms)
    (hsteady : steady → (runToEnd (runMigrations ms)).checkFor steadyCheck
      (works Database.clock) n (opened ms c.state)) :
    Reach (system sha256 steady) (initial sha256) (letRun n ms c) := by
  obtain ⟨a, ha⟩ : ∃ a, c.thread () = .pure a := by
    cases hp : c.thread () with
    | pure a => exact ⟨a, rfl⟩
    | op o k =>
        rw [hp] at hend
        cases hend
  have hstart := h.step (Step.start (S := system sha256 steady) () ha ⟨ms, hms, hextends, rfl, rfl⟩)
  by_cases hs : steady
  · have hrun := reach_checked (S := system sha256 steady) (i := ()) (c := steadyCheck)
      (fun d o ho => works_effect d o fun _ heq => steadyCheck_notBefore (heq ▸ ho)) n hstart
      (by simpa using hsteady hs)
    simpa [letRun] using hrun
  · have hrun := reach_runFor (S := system sha256 steady) (i := ())
      (fun d o => works_effect d o fun h => absurd h hs) n hstart
    simpa [letRun] using hrun

def sampleHash (sql : String) : String := "sha256 of " ++ sql

def sampleFiles : List (String × String) :=
  [("001_initial.sql", "CREATE TABLE users (id uuid PRIMARY KEY);"),
    ("002_assign_connectors_to_agents.sql", "ALTER TABLE users ADD COLUMN email text;")]

def sampleRelease (n : ℕ) : List Migration := (sampleFiles.take n).map (migrationOf sampleHash)

lemma sampleRelease_release (n : ℕ) (hn : n ≤ 2) : Release sampleHash (sampleRelease n) := by
  refine ⟨sampleFiles.take n, ?_⟩
  obtain rfl | rfl | rfl : n = 0 ∨ n = 1 ∨ n = 2 := by omega
  all_goals decide

/-- A database without migrations. -/
def sampleEmpty : Config client Database Unit Unit := ⟨⟨0, ∅, [], none, []⟩, fun _ => .pure ()⟩

lemma sampleEmpty_reach (steady : Prop) :
    Reach (system sampleHash steady) (initial sampleHash) sampleEmpty :=
  .init ⟨rfl, sampleRelease_release 0 (by decide), ⟨0, le_rfl, .nil, rfl⟩, .nil⟩

/-- The first release has been run, at time 10. -/
def sampleFirst : Config client Database Unit Unit :=
  letRun 20 (sampleRelease 1) (letClock 10 sampleEmpty)

lemma sampleFirst_reach (steady : Prop) :
    Reach (system sampleHash steady) (initial sampleHash) sampleFirst :=
  reach_letRun 20 (reach_letClock 10 (sampleEmpty_reach steady)) rfl
    (sampleRelease_release 1 (by decide)) List.nil_prefix fun _ => by decide

theorem migrations_resume_sample : sampleFirst.state.rows.rows.length = 1 ∧
    Resumes sampleHash sampleFirst.state :=
  ⟨by decide, migrations_resume (sampleFirst_reach True)⟩

/-- The second release has been run after the clock was put back to 5. -/
def samplePutBack : Config client Database Unit Unit :=
  letRun 20 (sampleRelease 2) (letClock 5 sampleFirst)

lemma samplePutBack_reach :
    Reach (system sampleHash False) (initial sampleHash) samplePutBack :=
  reach_letRun 20 (reach_letClock 5 (sampleFirst_reach False)) (by decide)
    (sampleRelease_release 2 le_rfl) (by decide) (fun h => absurd h id)

/-- Both migrations are recorded, and the next run refuses them. -/
theorem putBack_refused : ∃ c, Reach (system sampleHash False) (initial sampleHash) c ∧
    ¬ Resumes sampleHash c.state := by
  refine ⟨samplePutBack, samplePutBack_reach, fun h => ?_⟩
  have hrefused : validateAppliedMigrations (sampleRelease 2) samplePutBack.state.selectApplied =
      .error ("Applied migrations must form a contiguous prefix; found a gap before " ++
        "002_assign_connectors_to_agents.sql.") := by decide
  have hok := h.accepts (sampleRelease 2) (sampleRelease_release 2 le_rfl) (by decide)
  rw [hrefused] at hok
  cases hok

end GatewayControl.MigrationSafety
