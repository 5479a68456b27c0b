import GatewayControl.MigrationRunner

/-!
Runs of the migration runner, one after another, each with a release that extends the last.
A query can fail, its answer can be lost, and a run can be killed before any of them; the
database's clock may do what it likes.

What is recorded is always a prefix of the release. It is read back in that order as long as
no migration is committed with a time before those of the migrations recorded by then.
-/

namespace GatewayControl.MigrationRuns

open Checks Programs MigrationRunner

/-! ### The system -/

variable {sha256 : String → String} {d d' : Database} {n : ℕ} {ms : List Migration}

/-- The migrations of some directory. -/
def Release (sha256 : String → String) (ms : List Migration) : Prop :=
  ∃ directory, discoverMigrations sha256 directory = .ok ms

/-- The open transaction began no earlier than those that have been recorded. -/
def NotBefore (d : Database) : Prop :=
  ∀ t, d.transaction = some t → ∀ r ∈ d.rows.rows, r.appliedAt ≤ t.startedAt

/-- What each query does. Under `steady` every migration that is committed is `NotBefore`. -/
def migrationEffect (steady : Prop) (d : Database) : (o : MigrationOp) → o.Res → Database → Prop
  | .select, r, d' => d' = d ∧ (r = none ∨ r = some d.selectApplied)
  | .baseline name checksum, r, d' =>
      r = none ∧ d' = d ∨ d' = d.baseline name checksum ∧
        (r = none ∨ r = some (d.rows.rows.countP (needsBaseline name)))
  | .begin, r, d' =>
      r = false ∧ d' = d ∨ d' = { d with transaction := some ⟨d.clock, [], []⟩ }
  | .execute sql, r, d' =>
      r = false ∧ d' = d ∨ ∃ t, d.transaction = some t ∧
        d' = { d with transaction := some { t with executed := t.executed ++ [sql] } }
  | .insert name checksum, r, d' =>
      r = false ∧ d' = d ∨ ∃ t, d.transaction = some t ∧ name ∉ d.rows.rows.map (·.name) ∧
        d' = { d with transaction := some ⟨t.startedAt, t.executed,
          t.inserted ++ [⟨name, t.startedAt, some checksum⟩]⟩ }
  | .commit, r, d' =>
      r = false ∧ d' = { d with transaction := none } ∨
        d.commit = some d' ∧ (steady → NotBefore d)
  | .rollback, r, d' => r = false ∧ d' = d ∨ d' = { d with transaction := none }
  | .setNotNull, r, d' => d' = d ∧ (r = true → ∀ row ∈ d.rows.rows, row.checksum ≠ none)
  | _, _, d' => d' = d

/-- A run for its effects. -/
def runToEnd (p : Runner Unit) : Prog client Unit := p.run >>= fun _ => .pure ()

/-- The database as a run with that release finds it. -/
def opened (ms : List Migration) (d : Database) : Database :=
  { d with transaction := none, release := ms }

/-- After a run has returned or been killed, another begins. -/
def Starts (sha256 : String → String) (d : Database) (p : Prog client Unit) (d' : Database) :
    Prop :=
  ∃ ms, Release sha256 ms ∧ d.release <+: ms ∧ p = runToEnd (runMigrations ms) ∧
    d' = opened ms d

def system (sha256 : String → String) (steady : Prop) :
    System client Database Unit Unit ℤ where
  exec := fun _ => migrationEffect steady
  start := fun _ _ d p d' => Starts sha256 d p d'
  environment := fun time d d' => d' = { d with clock := time }
  crash := fun _ d d' p => p = .pure () ∧ d' = { d with transaction := none }

/-! ### What is recorded -/

/-- A row has the checksum of its migration, or none where the reviewed one is that. -/
def Matches (m : Migration) (r : SchemaMigration) : Prop :=
  r.name = m.name ∧
    (r.checksum = some m.checksum ∨ r.checksum = none ∧ historical m.name = some m.checksum)

/-- The first `n` migrations of the release are recorded, in order, and the SQL of each has
been committed once. -/
structure Recorded (d : Database) (n : ℕ) : Prop where
  bound : n ≤ d.release.length
  rows : List.Forall₂ Matches (d.release.take n) d.rows.rows
  executed : d.executed = (d.release.take n).map Migration.sql

/-- The rows are read back in the order of the release. -/
def Ordered (d : Database) : Prop := d.rows.rows.Pairwise SchemaMigration.before

/-- Every query answered as it is when nothing fails; transactions begin at the times of the
clock. -/
def works (clock : Database → ℤ) (d : Database) : (o : MigrationOp) → o.Res × Database
  | .createTable | .addColumn => (true, d)
  | .select => (some d.selectApplied, d)
  | .baseline name checksum =>
      (some (d.rows.rows.countP (needsBaseline name)), d.baseline name checksum)
  | .begin => (true, { d with transaction := some ⟨clock d, [], []⟩ })
  | .execute sql =>
      match d.transaction with
      | some t => (true, { d with transaction := some { t with executed := t.executed ++ [sql] } })
      | none => (false, d)
  | .insert name checksum =>
      match d.transaction with
      | some t =>
          if name ∈ d.rows.rows.map (·.name) then (false, d)
          else (true, { d with transaction := some ⟨t.startedAt, t.executed,
            t.inserted ++ [⟨name, t.startedAt, some checksum⟩]⟩ })
      | none => (false, d)
  | .commit =>
      match d.commit with
      | some d' => (true, d')
      | none => (false, { d with transaction := none })
  | .rollback => (true, { d with transaction := none })
  | .setNotNull => (d.rows.rows.all fun row => row.checksum.isSome, d)

/-- What is recorded is a prefix of the release, every further release accepts it, and a run
with that release and no failing query records all of it. -/
structure Resumes (sha256 : String → String) (d : Database) : Prop where
  recorded : ∃ n, Recorded d n
  accepts : ∀ ms, Release sha256 ms → d.release <+: ms →
    validateAppliedMigrations ms d.selectApplied = .ok ()
  completes : ∀ ms, Release sha256 ms → d.release <+: ms → ∀ clock, ∃ d',
    (runMigrations ms).run.outcome (works clock) (opened ms d) = (.ok (), d') ∧
      Recorded d' ms.length

/-- No run so far; what earlier releases have recorded is in order. -/
def initial (sha256 : String → String) (c : Config client Database Unit Unit) : Prop :=
  c.thread = (fun _ => .pure ()) ∧ Release sha256 c.state.release ∧ (∃ n, Recorded c.state n) ∧
    Ordered c.state

/-! ### Releases -/

lemma checkNames_ok {index : ℕ} {seen : List (List Char)} {names : List String} {u : Unit}
    (h : checkNames index seen names = .ok u) :
    names.Nodup ∧ ∀ name ∈ names, ∀ digits ∈ seen, sequenceOf name ≠ some digits := by
  induction names generalizing index seen with
  | nil => exact ⟨List.nodup_nil, fun _ h => absurd h List.not_mem_nil⟩
  | cons name names ih =>
    unfold checkNames at h
    split at h
    · rename_i digits hdigits
      simp only [bind_eq_ok, require_eq_ok, decide_eq_true_eq] at h
      obtain ⟨-, hseen, -, -, hrest⟩ := h
      obtain ⟨hnodup, hfresh⟩ := ih hrest
      refine ⟨List.nodup_cons.2 ⟨fun hmem => ?_, hnodup⟩, fun x hx e he => ?_⟩
      · exact hfresh name hmem digits List.mem_cons_self hdigits
      · rcases List.mem_cons.1 hx with rfl | hx
        · rw [hdigits]
          rintro heq
          obtain rfl := Option.some.inj heq
          exact hseen he
        · exact hfresh x hx e (.tail _ he)
    · cases h

/-- The migrations of a release are in the order of their names, none twice. -/
lemma release_sorted (h : Release sha256 ms) :
    (ms.map Migration.name).Pairwise (· ≤ ·) ∧ (ms.map Migration.name).Nodup := by
  obtain ⟨directory, h⟩ := h
  unfold discoverMigrations at h
  obtain ⟨u, hnames, hms⟩ := bind_eq_ok.1 h
  obtain rfl := Except.ok.inj hms
  have hmap : ∀ files : List (String × String),
      (files.map (migrationOf sha256)).map Migration.name = files.map (·.1) := by
    intro files
    simp [migrationOf]
  rw [hmap]
  refine ⟨?_, (checkNames_ok hnames).1⟩
  rw [List.pairwise_map]
  exact List.pairwise_insertionSort (fun a b : String × String => a.1 ≤ b.1) _

/-! ### What keeps the record -/

lemma Recorded.length (h : Recorded d n) : d.rows.rows.length = n := by
  rw [← h.rows.length_eq, List.length_take, Nat.min_eq_left h.bound]

lemma matches_names {ms : List Migration} {rows : List SchemaMigration}
    (h : List.Forall₂ Matches ms rows) :
    rows.map SchemaMigration.name = ms.map Migration.name := by
  induction h with
  | nil => rfl
  | cons hmatch _ ih => rw [List.map_cons, List.map_cons, hmatch.1, ih]

lemma Recorded.names (h : Recorded d n) :
    d.rows.rows.map SchemaMigration.name = (d.release.take n).map Migration.name :=
  matches_names h.rows

/-- A release that extends the last one has the same migrations recorded. -/
lemma Recorded.opened (h : Recorded d n) (hms : d.release <+: ms) :
    Recorded (MigrationRuns.opened ms d) n := by
  obtain ⟨rest, rfl⟩ := hms
  have htake : (d.release ++ rest).take n = d.release.take n :=
    List.take_append_of_le_length h.bound
  refine ⟨?_, ?_, ?_⟩
  · change n ≤ (d.release ++ rest).length
    rw [List.length_append]
    exact Nat.le_add_right_of_le h.bound
  · change List.Forall₂ Matches ((d.release ++ rest).take n) d.rows.rows
    rw [htake]
    exact h.rows
  · change d.executed = ((d.release ++ rest).take n).map Migration.sql
    rw [htake]
    exact h.executed

/-- Filling in a reviewed checksum changes nothing that is recorded. -/
lemma recorded_baseline {name checksum : String} (h : Recorded d n)
    (hname : historical name = some checksum) : Recorded (d.baseline name checksum) n := by
  refine ⟨h.bound, ?_, h.executed⟩
  have hfill : ∀ m r, Matches m r →
      Matches m (if needsBaseline name r then r.fill checksum else r) := by
    rintro m r ⟨hr, hmatch⟩
    by_cases hneeds : needsBaseline name r
    · rw [if_pos hneeds]
      simp only [needsBaseline, decide_eq_true_eq] at hneeds
      rcases hmatch with hsome | ⟨-, hm⟩
      · rw [hneeds.2] at hsome
        cases hsome
      · rw [← hr, hneeds.1, hname] at hm
        exact ⟨hr, .inl hm⟩
    · rw [if_neg hneeds]
      exact ⟨hr, hmatch⟩
  have hrows := h.rows
  change List.Forall₂ Matches (d.release.take n) (d.rows.rows.map _)
  rw [List.forall₂_map_right_iff]
  exact hrows.imp hfill

lemma ordered_baseline {name checksum : String} (h : Ordered d) :
    Ordered (d.baseline name checksum) := by
  have hbefore : ∀ r r', SchemaMigration.before r r' →
      SchemaMigration.before (if needsBaseline name r then r.fill checksum else r)
        (if needsBaseline name r' then r'.fill checksum else r') := by
    intro r r' hr
    split_ifs <;> exact hr
  change (d.rows.rows.map _).Pairwise SchemaMigration.before
  exact List.pairwise_map.2 (h.imp fun {r r'} hr => hbefore r r' hr)

/-- The transaction of one migration, about to be committed. -/
def Ready (m : Migration) (d : Database) : Prop :=
  ∃ time, d.transaction = some ⟨time, [m.sql], [⟨m.name, time, some m.checksum⟩]⟩

lemma commit_ready {m : Migration} (h : Ready m d) (hc : d.commit = some d') :
    ∃ time rows, d.transaction = some ⟨time, [m.sql], [⟨m.name, time, some m.checksum⟩]⟩ ∧
      rows.rows = d.rows.rows ++ [⟨m.name, time, some m.checksum⟩] ∧
      d' = { d with rows := rows, executed := d.executed ++ [m.sql], transaction := none } := by
  obtain ⟨time, ht⟩ := h
  simp only [Database.commit, ht, Option.bind_eq_bind, Option.bind_some, List.foldlM_cons,
    List.foldlM_nil, Option.pure_def, Option.bind_eq_some_iff] at hc
  obtain ⟨rows, ⟨rows', hinsert, hrows⟩, hd⟩ := hc
  obtain rfl := Option.some.inj hrows
  refine ⟨time, rows', ht, ?_, (Option.some.inj hd).symm⟩
  unfold Table.insert? at hinsert
  split_ifs at hinsert
  rw [← Option.some.inj hinsert]

/-- Committing the next migration of the release records it. -/
lemma recorded_commit {m : Migration} (h : Recorded d n) (hm : d.release[n]? = some m)
    (hready : Ready m d) (hc : d.commit = some d') : Recorded d' (n + 1) := by
  obtain ⟨time, rows, -, hrows, rfl⟩ := commit_ready hready hc
  obtain ⟨hlt, rfl⟩ := List.getElem?_eq_some_iff.1 hm
  have htake : d.release.take (n + 1) = d.release.take n ++ [d.release[n]] :=
    List.take_succ_eq_append_getElem hlt
  refine ⟨hlt, ?_, ?_⟩
  · change List.Forall₂ Matches (d.release.take (n + 1)) rows.rows
    rw [htake, hrows]
    exact List.rel_append h.rows (.cons ⟨rfl, .inl rfl⟩ .nil)
  · change d.executed ++ [_] = (d.release.take (n + 1)).map Migration.sql
    rw [htake, List.map_append, h.executed]
    rfl

/-- It is read back last, unless its time is before another's. -/
lemma ordered_commit {m : Migration} (hrelease : Release sha256 d.release) (h : Recorded d n)
    (hm : d.release[n]? = some m) (hready : Ready m d) (hc : d.commit = some d')
    (ho : Ordered d) (htime : NotBefore d) : Ordered d' := by
  obtain ⟨time, rows, ht, hrows, rfl⟩ := commit_ready hready hc
  obtain ⟨hlt, rfl⟩ := List.getElem?_eq_some_iff.1 hm
  change rows.rows.Pairwise SchemaMigration.before
  rw [hrows]
  refine List.pairwise_append.2 ⟨ho, List.pairwise_singleton _ _, fun r hr x hx => ?_⟩
  obtain rfl := List.mem_singleton.1 hx
  have hle : r.appliedAt ≤ time := htime _ ht r hr
  rcases hle.lt_or_eq with hlt' | heq
  · exact .inl hlt'
  · refine .inr ⟨heq, ?_⟩
    have hname : r.name ∈ (d.release.take n).map Migration.name := by
      rw [← h.names]
      exact List.mem_map_of_mem hr
    obtain ⟨x, hx, hxname⟩ := List.mem_map.1 hname
    have hsorted := List.pairwise_map.1 (release_sorted hrelease).1
    have hsplit : d.release = d.release.take n ++ d.release.drop n :=
      (List.take_append_drop n d.release).symm
    rw [hsplit] at hsorted
    rw [← hxname]
    refine (List.pairwise_append.1 hsorted).2.2 x hx _ ?_
    rw [List.mem_drop_iff_getElem]
    exact ⟨0, by simpa using hlt, by simp⟩

end GatewayControl.MigrationRuns
