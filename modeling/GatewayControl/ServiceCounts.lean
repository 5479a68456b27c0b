import GatewayControl.Collector
import Mathlib.Data.List.Induction

/-!
What the counts of a node's services say of its containers.

They are exact while the list of services has room, and where each listed service has one line.
Otherwise the service that fills the list ends the loop, and it depends on the order of the
lines what was counted before: `exact_iff`.
-/

namespace GatewayControl.ServiceCounts

open Text Tally Collector

/-- The services of an output, in the order of their first lines. -/
def serviceNames (output : String) : List (String × String) :=
  serviceCounter.names (lines output)

def linesOf (output : String) (identity : String × String) : List Line :=
  (lines output).filter fun l => l.identity = identity

/-- The container runs, whatever its health. -/
def runs (l : Line) : Bool :=
  l.status = .healthy || l.status = .unhealthy || l.status = .starting || l.status = .running

structure Counts (service : TelemetryService) (ls : List Line) : Prop where
  total : service.total = ls.length
  running : service.running = ls.countP runs
  healthy : service.healthy = ls.countP (·.status = .healthy)
  unhealthy : service.unhealthy = ls.countP (·.status = .unhealthy)
  starting : service.starting = ls.countP (·.status = .starting)
  stopped : service.stopped = ls.countP (·.status = .stopped)
  completed : service.completed = ls.countP (·.status = .completed)
  status : service.status = aggregateStatus service

structure Exact (output : String) (services : List TelemetryService) : Prop where
  bounded : services.length ≤ maximumServices
  once : (services.map TelemetryService.identity).Nodup
  counted : ∀ s ∈ services, Counts s (linesOf output s.identity)
  complete : (serviceNames output).length ≤ maximumServices →
    ∀ n ∈ serviceNames output, n ∈ services.map TelemetryService.identity
  /-- The same lines in another order give the same counts. -/
  ordered : ∀ other services', (lines other).Perm (lines output) →
    collectServices (some other) = .ok services' →
    (serviceNames other = serviceNames output → services' = services) ∧
      ((serviceNames output).length ≤ maximumServices → services'.Perm services)

/-! ### What a record counts -/

lemma normalizeStatus_ne_unknown (state detail : String) :
    normalizeStatus state detail ≠ .unknown := by
  unfold normalizeStatus
  dsimp only
  split_ifs <;> decide

lemma counts_observe {s : TelemetryService} {ls : List Line} (h : Counts s ls) (l : Line) :
    Counts (observe l s) (ls ++ [l]) := by
  obtain ⟨h₁, h₂, h₃, h₄, h₅, h₆, h₇, -⟩ := h
  have hknown : l.status ≠ .unknown := normalizeStatus_ne_unknown l.state l.detail
  constructor
  case status => rfl
  all_goals
    unfold observe TelemetryService.tallied
    cases hs : l.status <;> first
      | exact absurd hs hknown
      | simp [runs, hs, h₁, h₂, h₃, h₄, h₅, h₆, h₇]

lemma counts_empty (n : String × String) : Counts (emptyService n) [] :=
  ⟨rfl, rfl, rfl, rfl, rfl, rfl, rfl, rfl⟩

lemma counts_foldl (ls : List Line) (n : String × String) :
    Counts (ls.foldl (fun s l => observe l s) (emptyService n)) ls := by
  induction ls using List.reverseRecOn with
  | nil => exact counts_empty n
  | append_singleton ls l ih =>
    rw [List.foldl_append]
    exact counts_observe ih l

lemma counts_record (output : String) (n : String × String) :
    Counts (serviceCounter.record (lines output) n) (linesOf output n) :=
  counts_foldl _ n

/-! ### Any order of lines is an output's -/

def rawLine (l : Line) : List Char :=
  ['\t'].intercalate [l.project.toList, l.service.toList, l.state.toList, l.detail.toList]

/-- An output with these lines and one without labels at the end. -/
def printed (ls : List Line) : String :=
  String.ofList (ls.flatMap (fun l => rawLine l ++ ['\n']) ++ ['-'])

structure Printable (l : Line) : Prop where
  parsed : parseLine (rawLine l) = some l
  oneLine : '\n' ∉ rawLine l

lemma rawLine_of_parsed {raw : List Char} {l : Line} (h : parseLine raw = some l) :
    rawLine l = raw := by
  unfold parseLine at h
  split at h
  · next project service state detail hsplit =>
    split at h
    · obtain rfl := Option.some.inj h
      have hjoin : ['\t'].intercalate (raw.splitOn '\t') = raw := List.intercalate_splitOn '\t'
      have hfields : raw.splitOn '\t' =
          [project.toList, service.toList, state.toList, detail.toList] := by
        have hback := congrArg (List.map String.toList) hsplit
        simpa [Function.comp_def] using hback
      rw [hfields] at hjoin
      exact hjoin
    · cases h
  · cases h

lemma printable_of_mem {output : String} {l : Line} (h : l ∈ lines output) : Printable l := by
  obtain ⟨raw, hraw, hline⟩ := List.mem_filterMap.mp h
  have heq := rawLine_of_parsed hline
  exact ⟨heq ▸ hline, heq ▸ notMem_of_mem_splitOn hraw⟩

lemma isSpace_of_isLowerOrDigit {c : Char} (h : isLowerOrDigit c = true) : isSpace c = false := by
  have hn := isLowerOrDigit_iff.mp h
  unfold isSpace
  dsimp only
  rw [decide_eq_false_iff_not]
  omega

/-- A valid name comes first in a line. -/
lemma head_rawLine {l : Line} (h : Printable l) :
    ∃ c cs, rawLine l = c :: cs ∧ isSpace c = false := by
  have hvalid : validComposeProjectName l.project = true := by
    have hparsed := h.parsed
    unfold parseLine at hparsed
    split at hparsed
    · next project service state detail hsplit =>
      split at hparsed
      · next hnames =>
        obtain rfl := Option.some.inj hparsed
        exact (Bool.and_eq_true_iff.mp hnames).1
      · cases hparsed
    · cases hparsed
  unfold validComposeProjectName identifierPattern at hvalid
  split at hvalid
  · cases hvalid
  · next c cs hcs =>
    simp only [Bool.and_eq_true] at hvalid
    rw [rawLine, List.intercalate_cons_cons, hcs]
    exact ⟨c, _, rfl, isSpace_of_isLowerOrDigit hvalid.1.1⟩

lemma outputLines_printed {ls : List Line} (h : ∀ l ∈ ls, Printable l) :
    outputLines (printed ls) = ls.map rawLine ++ [['-']] := by
  have hsplit : ∀ ls : List Line, (∀ l ∈ ls, Printable l) →
      (ls.flatMap (fun l => rawLine l ++ ['\n']) ++ ['-']).splitOn '\n' =
        ls.map rawLine ++ [['-']] := by
    intro ls h
    induction ls with
    | nil => rfl
    | cons l ls ih =>
      have hraw := (h l List.mem_cons_self).oneLine
      rw [List.flatMap_cons, List.append_assoc, List.append_assoc, List.singleton_append,
        List.splitOn_eq_splitOnP, List.splitOnP_append_cons_of_forall_mem _ _ (by simp),
        ← List.splitOn_eq_splitOnP, ih fun l' hl' => h l' (List.mem_cons_of_mem _ hl')]
      · rfl
      · intro c hc
        exact beq_false_of_ne fun heq => hraw (heq ▸ hc)
  unfold outputLines printed
  rw [String.toList_ofList, trimBoth_of_ends, hsplit ls h]
  · cases ls with
    | nil => simp; decide
    | cons l ls =>
      obtain ⟨c, cs, hcs, hc⟩ := head_rawLine (h l List.mem_cons_self)
      simp [hcs, hc]
  · rw [List.getLast?_append]
    simp; decide

lemma lines_printed {ls : List Line} (h : ∀ l ∈ ls, Printable l) : lines (printed ls) = ls := by
  unfold lines
  rw [outputLines_printed h, List.filterMap_append]
  have hlast : [['-']].filterMap parseLine = [] := by decide
  have hsame : (ls.map rawLine).filterMap parseLine = ls := by
    rw [List.filterMap_map]
    calc ls.filterMap (parseLine ∘ rawLine) = ls.filterMap some :=
          List.filterMap_congr fun l hl => (h l hl).parsed
      _ = ls := List.filterMap_some
  rw [hlast, hsame, List.append_nil]

/-! ### When the counts are exact -/

/-- There is room left, or each listed service has one line. -/
def Undisturbed (output : String) : Prop :=
  (serviceNames output).length < maximumServices ∨
    ∀ n ∈ (serviceNames output).take maximumServices, (linesOf output n).length = 1

lemma collected_of_undisturbed {output : String} (h : Undisturbed output) :
    collectServices (some output) = .ok (((serviceNames output).take maximumServices).map
      (serviceCounter.record (lines output))) := by
  rw [collectServices_eq, serviceCounter.run_of_once (by decide) h]
  rfl

/-- Lines in another order leave room as these do. -/
lemma undisturbed_perm {output other : String} (hperm : (lines other).Perm (lines output))
    (h : Undisturbed output) (hsame : serviceNames other = serviceNames output ∨
      (serviceNames output).length ≤ maximumServices) : Undisturbed other := by
  have hnames : (serviceNames other).Perm (serviceNames output) := serviceCounter.names_perm hperm
  rcases h with h | h
  · exact .inl (hnames.length_eq ▸ h)
  · refine .inr fun n hn => ?_
    have hmem : n ∈ (serviceNames output).take maximumServices := by
      rcases hsame with heq | hle
      · rwa [heq] at hn
      · rw [List.take_of_length_le hle]
        exact hnames.mem_iff.mp (List.mem_of_mem_take hn)
    rw [← h n hmem]
    exact (hperm.filter _).length_eq

lemma exact_of_undisturbed {output : String} (h : Undisturbed output) :
    Exact output (((serviceNames output).take maximumServices).map
      (serviceCounter.record (lines output))) := by
  have hidentity : (((serviceNames output).take maximumServices).map
      (serviceCounter.record (lines output))).map TelemetryService.identity =
        (serviceNames output).take maximumServices := by
    rw [List.map_map]
    calc _ = ((serviceNames output).take maximumServices).map id :=
          List.map_congr_left fun n _ => serviceCounter.key_record (lines output) n
      _ = _ := List.map_id _
  constructor
  case bounded => simp
  case once =>
    rw [hidentity]
    exact (serviceCounter.nodup_names _).sublist (List.take_sublist ..)
  case counted =>
    intro s hs
    obtain ⟨n, -, rfl⟩ := List.mem_map.mp hs
    have hkey : (serviceCounter.record (lines output) n).identity = n :=
      serviceCounter.key_record (lines output) n
    rw [hkey]
    exact counts_record output n
  case complete =>
    intro hle n hn
    rwa [hidentity, List.take_of_length_le hle]
  case ordered =>
    intro other services' hperm hother
    have hrecord := serviceCounter.record_perm observe_comm hperm
    constructor
    · intro hsame
      rw [collected_of_undisturbed (undisturbed_perm hperm h (.inl hsame)), hsame, hrecord]
        at hother
      exact (Except.ok.inj hother).symm
    · intro hle
      have hnames : (serviceNames other).Perm (serviceNames output) :=
        serviceCounter.names_perm hperm
      rw [collected_of_undisturbed (undisturbed_perm hperm h (.inr hle)), hrecord,
        List.take_of_length_le (hnames.length_eq ▸ hle)] at hother
      rw [← Except.ok.inj hother, List.take_of_length_le hle]
      exact hnames.map _

/-- The same lines, the first one of every service at the start. -/
def rearranged (output : String) : String :=
  printed (serviceCounter.leading (lines output) ++ serviceCounter.following (lines output))

lemma lines_rearranged (output : String) : lines (rearranged output) =
    serviceCounter.leading (lines output) ++ serviceCounter.following (lines output) :=
  lines_printed fun _ hl =>
    printable_of_mem ((serviceCounter.perm_leading (lines output)).mem_iff.mp hl)

lemma serviceNames_rearranged (output : String) :
    serviceNames (rearranged output) = serviceNames output := by
  rw [serviceNames, lines_rearranged]
  exact serviceCounter.names_leading _

lemma collected_rearranged {output : String}
    (h : maximumServices ≤ (serviceNames output).length) :
    collectServices (some (rearranged output)) =
      .ok (((serviceCounter.leading (lines output)).take maximumServices).map
        fun l => observe l (emptyService l.identity)) := by
  have hroom : 0 < maximumServices := by decide
  rw [collectServices_eq, lines_rearranged, serviceCounter.run_leading hroom h]
  exact congrArg Except.ok (List.map_congr_left fun _ _ => rfl)

/-- With the list full, that order counts one line of each service. -/
lemma total_of_exact {output : String} {services : List TelemetryService}
    (h : Exact output services) (hfull : maximumServices ≤ (serviceNames output).length)
    {n : String × String} (hn : n ∈ (serviceNames output).take maximumServices) :
    (linesOf output n).length = 1 := by
  have hperm : (lines (rearranged output)).Perm (lines output) := by
    rw [lines_rearranged]
    exact serviceCounter.perm_leading _
  have hservices := (h.ordered _ _ hperm (collected_rearranged hfull)).1
    (serviceNames_rearranged output)
  rw [serviceNames, ← serviceCounter.map_leading, ← List.map_take] at hn
  obtain ⟨l, hl, rfl⟩ := List.mem_map.mp hn
  have hs : observe l (emptyService l.identity) ∈ services := by
    rw [← hservices]
    exact List.mem_map_of_mem hl
  have htotal := (h.counted _ hs).total
  have hone := (counts_observe (counts_empty l.identity) l).total
  rw [identity_observe, hone] at htotal
  exact htotal.symm

/-- The services of an output are counted exactly, in whatever order its lines come, if and only
if the list has room left or each listed service has one line. -/
theorem exact_iff (output : String) :
    (∃ services, collectServices (some output) = .ok services ∧ Exact output services) ↔
      (serviceNames output).length < maximumServices ∨
        ∀ n ∈ (serviceNames output).take maximumServices, (linesOf output n).length = 1 := by
  constructor
  · rintro ⟨services, -, hexact⟩
    rcases Nat.lt_or_ge (serviceNames output).length maximumServices with hless | hfull
    · exact .inl hless
    · exact .inr fun n hn => total_of_exact hexact hfull hn
  · intro h
    exact ⟨_, collected_of_undisturbed h, exact_of_undisturbed h⟩

/-! ### A replica that is not counted -/

def serviceLine (n : ℕ) (detail : String) : Line :=
  ⟨"p", String.ofList [Char.ofNat (97 + n / 16), Char.ofNat (97 + n % 16)], "running", detail⟩

def healthyLines : List Line := (List.range 250).map fun n => serviceLine n "Up (healthy)"

/-- After the healthy lines of 250 services, another line of the first one. -/
def crowded : String := printed (healthyLines ++ [serviceLine 0 "Up (unhealthy)"])

lemma printable_serviceLine {n : ℕ} (hn : n ∈ List.range 250) {detail : String}
    (hdetail : (detail.toList.all fun c => c != '\t' && c != '\n') = true) :
    Printable (serviceLine n detail) := by
  have hnames : ((List.range 250).all fun n =>
      validComposeServiceName (serviceLine n "").service &&
        (serviceLine n "").service.toList.all fun c => c != '\t' && c != '\n') = true := by
    decide +kernel
  have hname := List.all_eq_true.mp hnames n hn
  rw [Bool.and_eq_true] at hname
  have hfields : ∀ field ∈ [(serviceLine n detail).project.toList,
      (serviceLine n detail).service.toList, (serviceLine n detail).state.toList,
      (serviceLine n detail).detail.toList], '\t' ∉ field ∧ '\n' ∉ field := by
    have hplain : ∀ cs : List Char, (cs.all fun c => c != '\t' && c != '\n') = true →
        '\t' ∉ cs ∧ '\n' ∉ cs := by
      intro cs hcs
      rw [List.all_eq_true] at hcs
      exact ⟨fun hmem => by simpa using hcs _ hmem, fun hmem => by simpa using hcs _ hmem⟩
    simp only [List.forall_mem_cons, List.not_mem_nil, false_implies, implies_true, and_true]
    exact ⟨hplain "p".toList (by decide), hplain _ hname.2, hplain "running".toList (by decide),
      hplain _ hdetail⟩
  constructor
  · unfold parseLine rawLine
    rw [List.splitOn_intercalate '\t' (fun field hfield => (hfields field hfield).1) (by simp)]
    simp only [List.map_cons, List.map_nil, String.ofList_toList]
    have hproject : validComposeProjectName "p" = true := by decide
    exact if_pos (Bool.and_eq_true_iff.mpr ⟨hproject, hname.1⟩)
  · simp only [List.forall_mem_cons] at hfields
    simp [rawLine, List.intercalate_cons_cons, hfields]

lemma lines_crowded : lines crowded = healthyLines ++ [serviceLine 0 "Up (unhealthy)"] := by
  refine lines_printed fun l hl => ?_
  rcases List.mem_append.mp hl with hl | hl
  · obtain ⟨n, hn, rfl⟩ := List.mem_map.mp hl
    exact printable_serviceLine hn (by decide)
  · obtain rfl := List.mem_singleton.mp hl
    exact printable_serviceLine (List.mem_range.mpr (by decide)) (by decide)

lemma nodup_healthyLines : (healthyLines.map serviceCounter.row).Nodup := by
  apply List.Nodup.of_map fun n : String × String =>
    (n.2.toList.map Char.toNat).foldl (fun m k => 16 * m + (k - 97)) 0
  have hrange : (healthyLines.map serviceCounter.row).map (fun n : String × String =>
      (n.2.toList.map Char.toNat).foldl (fun m k => 16 * m + (k - 97)) 0) = List.range 250 := by
    decide +kernel
  rw [hrange]
  exact List.nodup_range

lemma collected_crowded : collectServices (some crowded) =
    .ok (healthyLines.map fun l => observe l (emptyService l.identity)) := by
  have hlen : healthyLines.length = maximumServices := by simp [healthyLines, maximumServices]
  have hsome : healthyLines ≠ [] := by simp [healthyLines]
  rw [collectServices_eq, lines_crowded, ← hlen, serviceCounter.run_full _ hsome nodup_healthyLines]
  exact congrArg Except.ok (List.map_congr_left fun _ _ => rfl)

/-- The unhealthy container of a service is not among its counts, and it reads healthy. -/
theorem replica_missed : ∃ services, collectServices (some crowded) = .ok services ∧
    (∃ s ∈ services, s.identity = ("p", "aa") ∧ s.status = .healthy ∧ s.total = 1 ∧
      (linesOf crowded s.identity).map Line.status = [.healthy, .unhealthy]) ∧
    ¬ Exact crowded services := by
  have hmem : serviceLine 0 "Up (healthy)" ∈ healthyLines := by
    exact List.mem_map_of_mem (List.mem_range.mpr (by decide))
  have hs : observe (serviceLine 0 "Up (healthy)") (emptyService ("p", "aa")) ∈
      healthyLines.map fun l => observe l (emptyService l.identity) :=
    List.mem_map_of_mem hmem
  have hlines : (linesOf crowded ("p", "aa")).map Line.status = [.healthy, .unhealthy] := by
    rw [linesOf, lines_crowded]
    decide
  refine ⟨_, collected_crowded, ⟨_, hs, by decide, by decide, by decide, hlines⟩, fun hexact => ?_⟩
  have htotal := (hexact.counted _ hs).total
  have hlen := congrArg List.length hlines
  rw [List.length_map] at hlen
  change 1 = (linesOf crowded ("p", "aa")).length at htotal
  rw [hlen] at htotal
  cases htotal

end GatewayControl.ServiceCounts
