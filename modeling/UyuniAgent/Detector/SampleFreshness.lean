import UyuniAgent.Detector.PrometheusResponse

/-!
# Old samples among fresh ones

The age of a response is that of its newest sample.  So an old sample is used
when another one is fresh, or when the timestamps say nothing; it is not when
all timestamps are too old.
-/

namespace UyuniAgent.Prometheus

open Raising

/-! ## Fresh samples -/

/-- The time is at most so long before the evaluation. -/
def Recent (maxSampleAgeSeconds now : ℚ) : PyFloat → Prop
  | .finite time => now - time ≤ maxSampleAgeSeconds
  | .infinite negative => negative = false
  | .nan => False

/-- `float(sample["value"][0])`, the time of the value that is used. -/
def valueTime (sample : PyValue) : Except PyException PyFloat := do
  let pair ← sample.key "value"
  let raw ← pair.index 0
  raw.toFloat

/-- The sample carries a numeric timestamp that is not too old. -/
def Fresh (maxSampleAgeSeconds now : ℚ) (sample : PyValue) : Prop :=
  ∃ time, valueTime sample = .ok time ∧ Recent maxSampleAgeSeconds now time

/-- The numeric timestamps of the samples, in their order. -/
def numericTimestamps (samples : List PyValue) : List PyFloat :=
  samples.filterMap fun sample =>
    match timestamp sample with
    | .ok time => time
    | .error _ => none

/-- There are numeric timestamps, the first one is no NaN, and all that are no
NaN are too old. -/
structure AllOld (maxSampleAgeSeconds now : ℚ) (samples : List PyValue) :
    Prop where
  nonempty : numericTimestamps samples ≠ []
  head : (numericTimestamps samples).head? ≠ some .nan
  old : ∀ time ∈ numericTimestamps samples,
    time = .nan ∨ ¬Recent maxSampleAgeSeconds now time

section Ages

variable {maxAge now : ℚ} {samples : List PyValue}

theorem olderThan_eq_true_iff {time : PyFloat} :
    olderThan maxAge now time = true ↔
      time ≠ .nan ∧ ¬Recent maxAge now time := by
  rcases time with value | negative | _
  · simp only [olderThan, Recent, decide_eq_true_eq, not_le, ne_eq,
      reduceCtorEq, not_false_eq_true, true_and]
  · simp [olderThan, Recent]
  · simp [olderThan]

/-- The maximum of some timestamps is too old when they all are. -/
theorem olderThan_maximum_iff {first : PyFloat} {rest : List PyFloat} :
    (∃ newest, PyFloat.maximum (first :: rest) = some newest ∧
        olderThan maxAge now newest = true) ↔
      olderThan maxAge now first = true ∧
        ∀ time ∈ rest, time = .nan ∨ olderThan maxAge now time = true := by
  rw [PyFloat.maximum, ← PyFloat.foldl_maximum_iff
    (P := fun time => olderThan maxAge now time = true)]
  · simp
  · intro a b hlt hold
    rcases a with a | a | _
    all_goals rcases b with b | b | _
    all_goals simp_all [PyFloat.lt, olderThan]
    linarith
  · intro a b hlt hold
    rcases a with a | a | _
    all_goals rcases b with b | b | _
    all_goals simp_all [PyFloat.lt, olderThan]
    linarith
  · simp [olderThan]

theorem filterMap_of_timestamps {timestamps : List (Option PyFloat)}
    (h : samples.mapM timestamp = .ok timestamps) :
    timestamps.filterMap id = numericTimestamps samples := by
  refine filterMap_of_mapM ?_ h
  intro sample time hround
  rw [hround]

/-- Samples are too old together when all of them are. -/
theorem tooOld_iff (hshaped : ∀ sample ∈ samples, TimestampShaped sample) :
    TooOld maxAge now samples ↔ AllOld maxAge now samples := by
  obtain ⟨timestamps, htimestamps⟩ := returns_mapM_iff.mpr fun sample hmem =>
    timestamp_returns_iff.mpr (hshaped sample hmem)
  have hlatest : latestSampleTimestamp samples =
      .ok (PyFloat.maximum (numericTimestamps samples)) := by
    rw [← filterMap_of_timestamps htimestamps, latestSampleTimestamp,
      htimestamps]
    rfl
  rw [TooOld, hlatest]
  rcases htimes : numericTimestamps samples with _ | ⟨first, rest⟩
  · refine iff_of_false ?_ fun hold => hold.nonempty htimes
    rintro ⟨newest, hnewest, -⟩
    cases hnewest
  · have hmaximum := @olderThan_maximum_iff maxAge now first rest
    simp only [Except.ok.injEq]
    rw [hmaximum]
    constructor
    · rintro ⟨hfirst, hrest⟩
      obtain ⟨hnumber, hold⟩ := olderThan_eq_true_iff.mp hfirst
      refine ⟨by simp [htimes], by simpa [htimes] using hnumber, ?_⟩
      rw [htimes, List.forall_mem_cons]
      refine ⟨Or.inr hold, ?_⟩
      intro time hmem
      refine (hrest time hmem).imp_right fun hlate => ?_
      exact (olderThan_eq_true_iff.mp hlate).2
    · rintro ⟨-, hhead, hold⟩
      rw [htimes] at hhead hold
      have hnumber : first ≠ .nan := by simpa using hhead
      obtain ⟨hfirst, hrest⟩ := List.forall_mem_cons.mp hold
      refine ⟨olderThan_eq_true_iff.mpr
        ⟨hnumber, hfirst.resolve_left hnumber⟩, ?_⟩
      intro time hmem
      by_cases hnan : time = .nan
      · exact Or.inl hnan
      · exact Or.inr (olderThan_eq_true_iff.mpr
          ⟨hnan, (hrest time hmem).resolve_left hnan⟩)

end Ages

/-! ## Used samples -/

/-- `_reading_from_first_sample` takes the value of this sample. -/
def ReadFirst (py : Interpreter) (response : Response) (sample : PyValue) :
    Prop :=
  ∃ rest, HoldsSamples py response (sample :: rest)

/-- `get_filesystem_usage_percent` takes the value of this sample. -/
def ReadFilesystem (py : Interpreter) (response : Response)
    (sample : PyValue) : Prop :=
  ∃ samples, HoldsSamples py response samples ∧ sample ∈ samples ∧
    ∃ filesystem, filesystemOf sample = .ok (some filesystem)

/-- A good reading takes the values of fresh samples only. -/
def UsesFresh {V : Type} (maxSampleAgeSeconds now : ℚ)
    (used : Response → PyValue → Prop) (answer : Except String Response)
    (computation : Except PyException (Reading V)) : Prop :=
  ∀ reading, computation = .ok reading → reading.status = .ok →
    ∀ response sample, answer = .ok response → used response sample →
      Fresh maxSampleAgeSeconds now sample

/-- The samples of the response have timestamps that can be read, and these are
not all too old. -/
structure LetThrough (py : Interpreter) (maxSampleAgeSeconds now : ℚ)
    (response : Response) (samples : List PyValue) : Prop where
  holds : HoldsSamples py response samples
  shaped : ∀ sample ∈ samples, TimestampShaped sample
  recent : ¬AllOld maxSampleAgeSeconds now samples

/-- Of the samples that are let through, the first one is fresh if it has a
finite number, and where all filesystems can be read, those of them that are
valid come from fresh samples. -/
structure NoOldLetThrough (py : Interpreter) (sort : MountpointSort)
    (maxSampleAgeSeconds now : ℚ) (response : Response) : Prop where
  first : ∀ first rest value,
    LetThrough py maxSampleAgeSeconds now response (first :: rest) →
    sampleValue first = .ok value → value.isFinite = true →
    Fresh maxSampleAgeSeconds now first
  filesystems : ∀ samples,
    LetThrough py maxSampleAgeSeconds now response samples →
    (∀ sample ∈ samples, MetricShaped sample) →
    (sort.sorted (validFilesystems samples)).isSome = true →
    ∀ sample ∈ samples, ∀ filesystem,
      filesystemOf sample = .ok (some filesystem) →
      Fresh maxSampleAgeSeconds now sample

section Freshness

variable {py : Interpreter} {texts : ExceptionTexts} {sort : MountpointSort}
  {response : Response} {maxAge now : ℚ} {name target exporter : String}
  {samples : List PyValue}

theorem accepts_iff_letThrough :
    Accepts py maxAge now response samples ↔
      LetThrough py maxAge now response samples := by
  constructor
  · rintro ⟨hholds, hshaped, hrecent⟩
    exact ⟨hholds, hshaped, fun hold => hrecent ((tooOld_iff hshaped).mpr hold)⟩
  · rintro ⟨hholds, hshaped, hrecent⟩
    exact ⟨hholds, hshaped, fun hold => hrecent ((tooOld_iff hshaped).mp hold)⟩

theorem parseResponse_of_letThrough
    (h : LetThrough py maxAge now response samples) :
    ∃ observedAt, parseResponse py texts response (some maxAge) now =
      .ok ⟨.ok, samples, observedAt, none⟩ := by
  have haccepts := accepts_iff_letThrough.mpr h
  obtain ⟨observedAt, hlatest⟩ :=
    latestSampleTimestamp_returns_iff.mpr haccepts.shaped
  refine ⟨observedAt, ?_⟩
  rw [parseResponse_of_holds haccepts.holds]
  exact acceptSamples_eq_ok_iff.mpr
    ⟨observedAt, hlatest, Or.inr ⟨haccepts.recent, rfl⟩⟩

/-- A scalar reading is good when the first of the samples that are let through
has a finite number. -/
theorem scalarReading_of_letThrough {first : PyValue} {rest : List PyValue}
    {value : PyFloat}
    (hthrough : LetThrough py maxAge now response (first :: rest))
    (hvalue : sampleValue first = .ok value)
    (hfinite : value.isFinite = true) :
    ∃ reading, scalarReading py texts (.ok response) maxAge now name target
        exporter = .ok reading ∧ reading.status = .ok := by
  obtain ⟨observedAt, hparse⟩ :=
    @parseResponse_of_letThrough py texts response maxAge now _ hthrough
  refine ⟨⟨name, target, exporter, .ok, some value, observedAt, none⟩, ?_, rfl⟩
  rw [scalarReading, queryPrometheus, hparse]
  simp [bind, Except.bind, readingFromFirstSample, hvalue, hfinite]

/-- The filesystem reading is good when all of the samples that are let through
can be read, and one of them is valid. -/
theorem getFilesystemUsagePercent_of_letThrough
    (hthrough : LetThrough py maxAge now response samples)
    (hshaped : ∀ sample ∈ samples, MetricShaped sample)
    (hsorted : (sort.sorted (validFilesystems samples)).isSome = true)
    (hvalid : validFilesystems samples ≠ []) :
    ∃ reading, getFilesystemUsagePercent py texts sort (.ok response) maxAge
        now target = .ok reading ∧ reading.status = .ok := by
  obtain ⟨observedAt, hparse⟩ :=
    @parseResponse_of_letThrough py texts response maxAge now _ hthrough
  obtain ⟨value, hvalue⟩ := Option.isSome_iff_exists.mp hsorted
  obtain ⟨rounds, hrounds⟩ : Returns (samples.mapM filesystemOf) := by
    rw [returns_mapM_iff]
    intro sample hmem
    obtain ⟨members, rfl⟩ := (hthrough.shaped sample hmem).members
    exact filesystemOf_returns_iff.mpr (hshaped _ hmem)
  refine ⟨⟨"filesystems", target, "node_exporter", .ok, some value, observedAt,
    none⟩, ?_, rfl⟩
  rw [getFilesystemUsagePercent, queryPrometheus, hparse]
  simp only [bind, Except.bind, hrounds, filterMap_of_rounds hrounds, hvalue,
    ne_eq, not_true_eq_false, if_false, List.isEmpty_iff, hvalid]
  rfl

theorem scalarReading_usesFresh_iff :
    UsesFresh maxAge now (ReadFirst py) (.ok response)
        (scalarReading py texts (.ok response) maxAge now name target
          exporter) ↔
      ∀ first rest value,
        LetThrough py maxAge now response (first :: rest) →
        sampleValue first = .ok value → value.isFinite = true →
        Fresh maxAge now first := by
  constructor
  · intro hfresh first rest value hthrough hvalue hfinite
    obtain ⟨reading, hreading, hok⟩ :=
      scalarReading_of_letThrough hthrough hvalue hfinite
    exact hfresh reading hreading hok response first rfl
      ⟨rest, hthrough.holds⟩
  · intro hfirst reading hreading hok response' sample heq hread
    obtain rfl := Except.ok.inj heq
    obtain ⟨rest, hholds⟩ := hread
    rcases scalarReading_spec hreading with
      ⟨first, rest', value, haccepts, hvalue, hfinite, -⟩ | hfailed
    · have hsamples := haccepts.holds.unique hholds
      obtain ⟨rfl, rfl⟩ := List.cons.inj hsamples
      exact hfirst _ _ value (accepts_iff_letThrough.mp haccepts) hvalue
        hfinite
    · exact absurd hok hfailed.not_ok

theorem getFilesystemUsagePercent_usesFresh_iff :
    UsesFresh maxAge now (ReadFilesystem py) (.ok response)
        (getFilesystemUsagePercent py texts sort (.ok response) maxAge now
          target) ↔
      ∀ samples, LetThrough py maxAge now response samples →
        (∀ sample ∈ samples, MetricShaped sample) →
        (sort.sorted (validFilesystems samples)).isSome = true →
        ∀ sample ∈ samples, ∀ filesystem,
          filesystemOf sample = .ok (some filesystem) →
          Fresh maxAge now sample := by
  constructor
  · intro hfresh samples hthrough hshaped hsorted sample hmem filesystem hvalid
    have hne : validFilesystems samples ≠ [] :=
      List.ne_nil_of_mem (mem_validFilesystems.mpr ⟨sample, hmem, hvalid⟩)
    obtain ⟨reading, hreading, hok⟩ :=
      getFilesystemUsagePercent_of_letThrough hthrough hshaped hsorted hne
    exact hfresh reading hreading hok response sample rfl
      ⟨samples, hthrough.holds, hmem, filesystem, hvalid⟩
  · intro hvalid reading hreading hok response' sample heq hread
    obtain rfl := Except.ok.inj heq
    obtain ⟨samples, hholds, hmem, filesystem, hsample⟩ := hread
    have hsafe := getFilesystemUsagePercent_returns_iff.mp ⟨reading, hreading⟩
    rcases getFilesystemUsagePercent_spec hreading with
      ⟨samples', value, haccepts, -, hsorted, -⟩ | hfailed
    · obtain rfl := haccepts.holds.unique hholds
      obtain ⟨hshaped, hsorts⟩ := hsafe.2 _ haccepts
      exact hvalid _ (accepts_iff_letThrough.mp haccepts) hshaped hsorts sample
        hmem filesystem hsample
    · exact absurd hok hfailed.not_ok

/-- Both kinds of readings take the values of fresh samples only exactly when no
old sample is let through in the place of one of these. -/
theorem usesFresh_iff (py : Interpreter) (texts : ExceptionTexts)
    (sort : MountpointSort) (answer : Except String Response) (maxAge now : ℚ)
    (name target exporter : String) :
    (UsesFresh maxAge now (ReadFirst py) answer
        (scalarReading py texts answer maxAge now name target exporter) ∧
      UsesFresh maxAge now (ReadFilesystem py) answer
        (getFilesystemUsagePercent py texts sort answer maxAge now target)) ↔
      ∀ response, answer = .ok response →
        NoOldLetThrough py sort maxAge now response := by
  rcases answer with text | response
  · refine iff_of_true ⟨?_, ?_⟩ fun response heq => by cases heq
    · intro _ _ _ _ _ heq
      cases heq
    · intro _ _ _ _ _ heq
      cases heq
  · rw [scalarReading_usesFresh_iff, getFilesystemUsagePercent_usesFresh_iff]
    constructor
    · rintro ⟨hfirst, hfilesystems⟩ response' heq
      obtain rfl := Except.ok.inj heq
      exact ⟨hfirst, hfilesystems⟩
    · intro hall
      obtain ⟨hfirst, hfilesystems⟩ := hall response rfl
      exact ⟨hfirst, hfilesystems⟩

/-! ## Instants -/

/-- The sample is one of an instant query, with this time. -/
structure IsInstant (time : PyFloat) (sample : PyValue) : Prop where
  pair : ∃ members raw rest, sample = .dict members ∧
    members.lookup "values" = none ∧
    members.lookup "value" = some (.list (raw :: rest)) ∧
    raw.toFloat = .ok time

theorem IsInstant.timestamp {time : PyFloat} {sample : PyValue}
    (h : IsInstant time sample) :
    timestamp sample = .ok (some time) ∧ valueTime sample = .ok time := by
  obtain ⟨members, raw, rest, rfl, hvalues, hvalue, htime⟩ := h.pair
  constructor
  · simp [Prometheus.timestamp, rawTimestamp, PyValue.members, PyValue.get,
      hvalues, hvalue, htime, bind, Except.bind, pure, Except.pure]
  · simp [valueTime, PyValue.key, PyValue.item, hvalue, PyValue.index, htime,
      bind, Except.bind]

/-- Samples that all have the same time are used only if they are fresh. -/
theorem noOldLetThrough_of_same_time {time : PyFloat} (hnumber : time ≠ .nan)
    (h : ∀ samples, HoldsSamples py response samples →
      ∀ sample ∈ samples, IsInstant time sample) :
    NoOldLetThrough py sort maxAge now response := by
  have hfresh : ∀ samples, LetThrough py maxAge now response samples →
      ∀ sample ∈ samples, Fresh maxAge now sample := by
    intro samples hthrough sample hmem
    have hinstants := h samples hthrough.holds
    refine ⟨time, (hinstants sample hmem).timestamp.2, ?_⟩
    by_contra hold
    have htimes : ∀ other ∈ numericTimestamps samples, other = time := by
      intro other hother
      obtain ⟨sample', hmem', hsample'⟩ := List.mem_filterMap.mp hother
      rw [(hinstants sample' hmem').timestamp.1] at hsample'
      exact (Option.some.inj hsample').symm
    have htime : time ∈ numericTimestamps samples := by
      refine List.mem_filterMap.mpr ⟨sample, hmem, ?_⟩
      rw [(hinstants sample hmem).timestamp.1]
    have hne := List.ne_nil_of_mem htime
    refine hthrough.recent ⟨hne, ?_, ?_⟩
    · intro hhead
      exact hnumber (htimes _ (List.mem_of_head? hhead)).symm
    · intro other hother
      rw [htimes other hother]
      exact Or.inr hold
  constructor
  · intro first rest _ hthrough _ _
    exact hfresh _ hthrough first List.mem_cons_self
  · intro samples hthrough _ _ sample hmem _ _
    exact hfresh samples hthrough sample hmem

end Freshness

/-- An old sample before a fresh one. -/
def oldSample : PyValue := .dict [("value", .list [.int 0, .int 7])]

def freshSample : PyValue := .dict [("value", .list [.int 1000, .int 8])]

/-- A server that answers with both. -/
def twoSamples : Response :=
  let body := "\x7b\"data\":\x7b\"result\":[\x7b\"value\":[0,7]\x7d," ++
    "\x7b\"value\":[1000,8]\x7d]\x7d\x7d"
  ⟨200, body, some body⟩

theorem twoSamples_holds :
    HoldsSamples plainInterpreter twoSamples [oldSample, freshSample] where
  statusCode := rfl
  payload := ⟨[("data", .dict [("result", .list [oldSample, freshSample])])],
    rfl, rfl, rfl⟩
  nonempty := by simp

/-- The value of an old sample is used when a later sample is fresh. -/
theorem old_first_sample_is_used :
    ¬∀ (py : Interpreter) (texts : ExceptionTexts) (sort : MountpointSort)
      (answer : Except String Response) (maxAge now : ℚ)
      (name target exporter : String),
      UsesFresh maxAge now (ReadFirst py) answer
          (scalarReading py texts answer maxAge now name target exporter) ∧
        UsesFresh maxAge now (ReadFilesystem py) answer
          (getFilesystemUsagePercent py texts sort answer maxAge now
            target) := by
  intro hall
  obtain ⟨hscalar, -⟩ := hall plainInterpreter ⟨fun _ => "", fun _ => ""⟩
    textSort (.ok twoSamples) 300 1000 "cpu_percent" "web:9100" "node_exporter"
  obtain ⟨time, htime, hrecent⟩ := hscalar
    ⟨"cpu_percent", "web:9100", "node_exporter", .ok, some (.finite 7),
      some (.finite 1000), none⟩ (by decide +kernel) rfl twoSamples oldSample rfl
    ⟨[freshSample], twoSamples_holds⟩
  have hold : valueTime oldSample = .ok (.finite 0) := by decide +kernel
  obtain rfl := Except.ok.inj (hold.symm.trans htime)
  norm_num [Recent] at hrecent

end UyuniAgent.Prometheus
