import UyuniAgent.Detector.Prometheus
import UyuniAgent.Support.PyFloat

/-!
# Responses of Prometheus

`query_prometheus`, `_reading_from_first_sample` and
`get_filesystem_usage_percent` on responses of any status with any body.  What
they index is guarded in some places only, so a response of the wrong shape is
an error reading or an exception.
-/

namespace UyuniAgent.Prometheus

open Raising

/-! ## Queries -/

/-- A response of the server: its rendered text, and its body as a text, which
there may be none of. -/
structure Response where
  statusCode : ℕ
  text : String
  content : Option String

/-- What the standard library says of a body that is no JSON, and of a sample
without a number. -/
structure ExceptionTexts where
  invalidJson : Option String → String
  invalidSample : PyValue → String

structure QueryResult where
  status : EvidenceStatus
  samples : List PyValue
  observedAt : Option PyFloat
  error : Option String

def QueryResult.failed (status : EvidenceStatus) (error : String) :
    QueryResult :=
  ⟨status, [], none, some error⟩

def boundedError (rendered : String) : String :=
  PyText.take 500
    (String.ofList ((PyText.strip rendered).toList.filter (· ≠ Char.ofNat 0)))

/-- The part of a sample that its timestamp is read from. -/
def rawTimestamp (sample : PyValue) : Except PyException (Option PyValue) := do
  let members ← sample.members
  match PyValue.get members "values" with
  | .list (first :: rest) =>
      let raw ← ((first :: rest).getLastD first).index 0
      return some raw
  | _ =>
      match PyValue.get members "value" with
      | .list (raw :: _) => return some raw
      | _ => return none

/-- One round of the loop of `_latest_sample_timestamp`. -/
def timestamp (sample : PyValue) : Except PyException (Option PyFloat) := do
  match ← rawTimestamp sample with
  | none => return none
  | some raw =>
      match raw.toFloat with
      | .ok time => return some time
      | .error exception =>
          if exception = .typeError ∨ exception = .valueError then return none
          else .error exception

def latestSampleTimestamp (samples : List PyValue) :
    Except PyException (Option PyFloat) := do
  let timestamps ← samples.mapM timestamp
  return PyFloat.maximum (timestamps.filterMap id)

/-- `now - observed_at > max_sample_age_seconds`. -/
def olderThan (maxSampleAgeSeconds now : ℚ) : PyFloat → Bool
  | .finite observedAt => maxSampleAgeSeconds < now - observedAt
  | .infinite negative => negative
  | .nan => false

/-- `response.json()`. -/
def Response.json (py : Interpreter) (response : Response) :
    Except PyException PyValue :=
  match response.content with
  | none => .error .valueError
  | some text => Json.loads py text

/-- `value == text`. -/
def isText (text : String) : PyValue → Bool
  | .str other => other = text
  | _ => false

/-- `data.get("result") if isinstance(data, dict) else None`, when it is a
list. -/
def resultList (payload : List (String × PyValue)) : Option (List PyValue) :=
  match PyValue.get payload "data" with
  | .dict data =>
      match PyValue.get data "result" with
      | .list samples => some samples
      | _ => none
  | _ => none

section Parse

variable (py : Interpreter) (texts : ExceptionTexts)

/-- The last part of `_parse_response`, for samples that there are. -/
def acceptSamples (samples : List PyValue) (maxSampleAgeSeconds : Option ℚ)
    (now : ℚ) : Except PyException QueryResult := do
  let observedAt ← latestSampleTimestamp samples
  match maxSampleAgeSeconds, observedAt with
  | some maxAge, some newest =>
      if olderThan maxAge now newest then
        return ⟨.stale, samples, observedAt,
          some ("newest sample is older than " ++ Decimal.fixed 0 maxAge ++
            "s")⟩
      else return ⟨.ok, samples, observedAt, none⟩
  | _, _ => return ⟨.ok, samples, observedAt, none⟩

def parseResponse (response : Response) (maxSampleAgeSeconds : Option ℚ)
    (now : ℚ) : Except PyException QueryResult :=
  if response.statusCode ≠ 200 then
    .ok (.failed .error ("HTTP " ++ toString response.statusCode ++ ": " ++
      boundedError response.text))
  else
    match response.json py with
    | .error exception =>
        if exception = .typeError ∨ exception = .valueError then
          .ok (.failed .error ("invalid JSON: " ++
            boundedError (texts.invalidJson response.content)))
        else .error exception
    | .ok payload => do
        let members ← payload.members
        let status := PyValue.getOr members "status" (.str "success")
        if !isText "success" status then
          return .failed .error (boundedError
            ((PyValue.getOr members "error" (.str "query failed")).toStr py))
        else
          match resultList members with
          | none =>
              return .failed .error "response data.result is not a list"
          | some [] => return .failed .missing "query returned no series"
          | some samples => acceptSamples samples maxSampleAgeSeconds now

/-- `query_prometheus` with what `client.get` returns, or the text of the
exception that it raises. -/
def queryPrometheus (answer : Except String Response)
    (maxSampleAgeSeconds now : ℚ) : Except PyException QueryResult :=
  match answer with
  | .error text =>
      .ok (.failed .error ("connection failed: " ++ boundedError text))
  | .ok response =>
      parseResponse py texts response (some maxSampleAgeSeconds) now

/-! ## Readings -/

/-- A reading with a value of unknown shape. -/
structure Reading (V : Type) where
  name : String
  target : String
  exporter : String
  status : EvidenceStatus
  value : Option V
  observedAt : Option PyFloat
  error : Option String
  deriving DecidableEq

/-- `float(sample["value"][1])`. -/
def sampleValue (sample : PyValue) : Except PyException PyFloat := do
  let pair ← sample.key "value"
  let raw ← pair.index 1
  raw.toFloat

/-- The exceptions of `except (KeyError, IndexError, TypeError,
ValueError)`. -/
def isSampleError (exception : PyException) : Bool :=
  exception = .keyError || exception = .indexError || exception = .typeError ||
    exception = .valueError

/-- The text of a float that is not finite. -/
def nonFiniteText : PyFloat → String
  | .infinite false => "inf"
  | .infinite true => "-inf"
  | _ => "nan"

def readingFromFirstSample (result : QueryResult)
    (name target exporter : String) : Except PyException (Reading PyFloat) :=
  if result.status ≠ .ok then
    .ok ⟨name, target, exporter, result.status, none, result.observedAt,
      result.error⟩
  else
    let first : Except PyException PyFloat :=
      match result.samples with
      | [] => .error .indexError
      | sample :: _ => sampleValue sample
    match first with
    | .error exception =>
        if isSampleError exception then
          .ok ⟨name, target, exporter, .error, none, result.observedAt,
            some ("invalid sample: " ++ boundedError
              (texts.invalidSample (result.samples.headD .none)))⟩
        else .error exception
    | .ok value =>
        if !value.isFinite then
          .ok ⟨name, target, exporter, .error, none, result.observedAt,
            some ("non-finite sample value: " ++ nonFiniteText value)⟩
        else
          .ok ⟨name, target, exporter, .ok, some value, result.observedAt,
            none⟩

/-- `_scalar_reading`. -/
def scalarReading (answer : Except String Response)
    (maxSampleAgeSeconds now : ℚ) (name target exporter : String) :
    Except PyException (Reading PyFloat) := do
  let result ← queryPrometheus py texts answer maxSampleAgeSeconds now
  readingFromFirstSample texts result name target exporter

/-! ## Filesystems -/

structure SampleFilesystem where
  mountpoint : PyValue
  device : PyValue
  fstype : PyValue
  usagePercent : PyFloat

def SampleFilesystem.hasTextMountpoint (filesystem : SampleFilesystem) : Prop :=
  ∃ text, filesystem.mountpoint = .str text

/-- The mountpoint of a filesystem that has a text for one. -/
def SampleFilesystem.mountpointText (filesystem : SampleFilesystem) : String :=
  match filesystem.mountpoint with
  | .str text => text
  | _ => ""

/-- `sorted(filesystems, key=lambda item: item["mountpoint"])`, `none` when a
comparison raises a `TypeError`.  Which mountpoints are compared is up to the
interpreter. -/
structure MountpointSort where
  sorted : List SampleFilesystem → Option (List SampleFilesystem)
  perm : ∀ ⦃filesystems result⦄, sorted filesystems = some result →
    result.Perm filesystems
  texts : ∀ ⦃filesystems⦄,
    (∀ filesystem ∈ filesystems, filesystem.hasTextMountpoint) →
    sorted filesystems = some (filesystems.insertionSort fun a b =>
      a.mountpointText ≤ b.mountpointText)

/-- One round of the loop of `get_filesystem_usage_percent`; `none` is an
invalid sample. -/
def filesystemOf (sample : PyValue) :
    Except PyException (Option SampleFilesystem) := do
  let members ← sample.members
  let metric := PyValue.getOr members "metric" (.dict [])
  match sampleValue sample with
  | .error exception =>
      if isSampleError exception then return none else .error exception
  | .ok usage =>
      let labels ← metric.members
      let mountpoint := PyValue.get labels "mountpoint"
      if !mountpoint.truthy || !usage.isFinite || usage.lt (.finite 0) ||
          PyFloat.lt (.finite 100) usage then
        return none
      else
        let device := PyValue.getOr labels "device" (.str "unknown")
        let fstype := PyValue.getOr labels "fstype" (.str "unknown")
        return some ⟨mountpoint, device, fstype, usage⟩

def getFilesystemUsagePercent (sort : MountpointSort)
    (answer : Except String Response) (maxSampleAgeSeconds now : ℚ)
    (target : String) :
    Except PyException (Reading (List SampleFilesystem)) := do
  let result ← queryPrometheus py texts answer maxSampleAgeSeconds now
  if result.status ≠ .ok then
    return ⟨"filesystems", target, "node_exporter", result.status, none,
      result.observedAt, result.error⟩
  else
    let rounds ← result.samples.mapM filesystemOf
    let filesystems := rounds.filterMap id
    if filesystems.isEmpty then
      return ⟨"filesystems", target, "node_exporter", .error, none,
        result.observedAt, some ("no valid filesystem samples (" ++
          toString (rounds.length - filesystems.length) ++ " invalid)")⟩
    else
      match sort.sorted filesystems with
      | none => .error .typeError
      | some value =>
          return ⟨"filesystems", target, "node_exporter", .ok, some value,
            result.observedAt, none⟩

end Parse

/-! ## Shapes of samples -/

/-- The timestamp of the sample can be looked up and is no integer that is too
large for a float. -/
structure TimestampShaped (sample : PyValue) : Prop where
  members : ∃ members, sample = .dict members
  lookup : ∀ members first rest, sample = .dict members →
    PyValue.get members "values" = .list (first :: rest) →
    Returns (((first :: rest).getLastD first).index 0)
  small : ∀ raw, rawTimestamp sample = .ok (some raw) → ¬raw.Overflows

/-- The value of the sample is an integer that is too large for a float. -/
def ValueOverflows (sample : PyValue) : Prop :=
  ∃ pair raw, sample.key "value" = .ok pair ∧ pair.index 1 = .ok raw ∧
    raw.Overflows

theorem rawTimestamp_returns_iff {sample : PyValue} :
    Returns (rawTimestamp sample) ↔
      (∃ members, sample = .dict members) ∧
        ∀ members first rest, sample = .dict members →
          PyValue.get members "values" = .list (first :: rest) →
          Returns (((first :: rest).getLastD first).index 0) := by
  rw [rawTimestamp, returns_bind_iff]
  constructor
  · rintro ⟨members, hmembers, hrest⟩
    obtain rfl := PyValue.members_eq_ok_iff.mp hmembers
    refine ⟨⟨members, rfl⟩, ?_⟩
    intro members' first rest heq hvalues
    obtain rfl := PyValue.dict.inj heq
    rw [hvalues] at hrest
    obtain ⟨raw, hraw, -⟩ := returns_bind_iff.mp hrest
    exact ⟨raw, hraw⟩
  · rintro ⟨⟨members, rfl⟩, hlookup⟩
    refine ⟨members, rfl, ?_⟩
    split
    next first rest hvalues =>
      obtain ⟨raw, hraw⟩ := hlookup members first rest rfl hvalues
      exact returns_bind_iff.mpr ⟨raw, hraw, returns_ok _⟩
    next =>
      split
      · exact returns_ok _
      · exact returns_ok _

theorem timestamp_returns_iff {sample : PyValue} :
    Returns (timestamp sample) ↔ TimestampShaped sample := by
  rw [timestamp, returns_bind_iff]
  constructor
  · rintro ⟨raw, hraw, hrest⟩
    obtain ⟨hmembers, hlookup⟩ := rawTimestamp_returns_iff.mp ⟨raw, hraw⟩
    refine ⟨hmembers, hlookup, ?_⟩
    intro value hvalue hlarge
    obtain rfl := Except.ok.inj (hraw.symm.trans hvalue)
    rcases value.toFloat_cases with ⟨_, -, hsmall⟩ | ⟨-, hsmall⟩ |
      ⟨-, hsmall⟩ | ⟨herror, -⟩
    · exact hsmall hlarge
    · exact hsmall hlarge
    · exact hsmall hlarge
    · simp only [herror] at hrest
      exact not_returns_error _ hrest
  · rintro ⟨hmembers, hlookup, hsmall⟩
    obtain ⟨raw, hraw⟩ := rawTimestamp_returns_iff.mpr ⟨hmembers, hlookup⟩
    refine ⟨raw, hraw, ?_⟩
    rcases raw with _ | value
    · exact returns_ok _
    · rcases value.toFloat_cases with ⟨time, hok, -⟩ | ⟨herror, -⟩ |
        ⟨herror, -⟩ | ⟨-, hlarge⟩
      · simp only [hok]
        exact returns_ok _
      · simp only [herror]
        exact returns_ok _
      · simp only [herror]
        exact returns_ok _
      · exact absurd hlarge (hsmall value hraw)

theorem latestSampleTimestamp_returns_iff {samples : List PyValue} :
    Returns (latestSampleTimestamp samples) ↔
      ∀ sample ∈ samples, TimestampShaped sample := by
  rw [latestSampleTimestamp, returns_bind_iff]
  simp only [← timestamp_returns_iff, ← returns_mapM_iff]
  constructor
  · rintro ⟨timestamps, htimestamps, -⟩
    exact ⟨timestamps, htimestamps⟩
  · rintro ⟨timestamps, htimestamps⟩
    exact ⟨timestamps, htimestamps, returns_ok _⟩

/-- The number of a sample, or an error that is caught, unless its value is too
large. -/
theorem sampleValue_cases (sample : PyValue) :
    (∃ value, sampleValue sample = .ok value ∧ ¬ValueOverflows sample) ∨
      (∃ exception, sampleValue sample = .error exception ∧
        isSampleError exception = true ∧ ¬ValueOverflows sample) ∨
      (sampleValue sample = .error .overflowError ∧ ValueOverflows sample) := by
  have hlookup {e : PyException} (h : PyValue.IsLookupError e) :
      isSampleError e = true := by
    rcases h with rfl | rfl | rfl
    · rfl
    · rfl
    · rfl
  rcases hpair : sample.key "value" with exception | pair
  · refine Or.inr (Or.inl ⟨exception, ?_, hlookup (PyValue.key_raises _ _ _
      hpair), ?_⟩)
    · simp [sampleValue, hpair, bind, Except.bind]
    · rintro ⟨pair, raw, hok, -⟩
      rw [hpair] at hok
      cases hok
  rcases hraw : pair.index 1 with exception | raw
  · refine Or.inr (Or.inl ⟨exception, ?_, hlookup (PyValue.index_raises _ _ _
      hraw), ?_⟩)
    · simp [sampleValue, hpair, hraw, bind, Except.bind]
    · rintro ⟨pair', raw, hok, hindex, -⟩
      obtain rfl := Except.ok.inj (hpair.symm.trans hok)
      rw [hraw] at hindex
      cases hindex
  have hvalue : sampleValue sample = raw.toFloat := by
    simp [sampleValue, hpair, hraw, bind, Except.bind]
  have hoverflows : ValueOverflows sample ↔ raw.Overflows := by
    constructor
    · rintro ⟨pair', raw', hok, hindex, hlarge⟩
      obtain rfl := Except.ok.inj (hpair.symm.trans hok)
      obtain rfl := Except.ok.inj (hraw.symm.trans hindex)
      exact hlarge
    · intro hlarge
      exact ⟨pair, raw, hpair, hraw, hlarge⟩
  rw [hvalue, hoverflows]
  rcases raw.toFloat_cases with ⟨value, hok, hsmall⟩ | ⟨herror, hsmall⟩ |
    ⟨herror, hsmall⟩ | ⟨herror, hlarge⟩
  · exact Or.inl ⟨value, hok, hsmall⟩
  · exact Or.inr (Or.inl ⟨_, herror, rfl, hsmall⟩)
  · exact Or.inr (Or.inl ⟨_, herror, rfl, hsmall⟩)
  · exact Or.inr (Or.inr ⟨herror, hlarge⟩)

/-! ## What a response is read as -/

/-- The response reports success and has these samples. -/
structure HoldsSamples (py : Interpreter) (response : Response)
    (samples : List PyValue) : Prop where
  statusCode : response.statusCode = 200
  payload : ∃ members, response.json py = .ok (.dict members) ∧
    isText "success" (PyValue.getOr members "status" (.str "success")) =
      true ∧
    resultList members = some samples
  nonempty : samples ≠ []

/-- The newest timestamp of the samples is too old. -/
def TooOld (maxSampleAgeSeconds now : ℚ) (samples : List PyValue) : Prop :=
  ∃ newest, latestSampleTimestamp samples = .ok (some newest) ∧
    olderThan maxSampleAgeSeconds now newest = true

/-- The response has another status than 200, its body is no JSON, or it is an
object whose samples have timestamps that can be read. -/
def Readable (py : Interpreter) (response : Response) : Prop :=
  response.statusCode ≠ 200 ∨ response.json py = .error .valueError ∨
    ∃ members, response.json py = .ok (.dict members) ∧
      ∀ samples, HoldsSamples py response samples →
        ∀ sample ∈ samples, TimestampShaped sample

section Responses

variable {py : Interpreter} {texts : ExceptionTexts} {response : Response}
  {samples : List PyValue} {maxAge now : ℚ} {result : QueryResult}

theorem HoldsSamples.unique {samples' : List PyValue}
    (h : HoldsSamples py response samples)
    (h' : HoldsSamples py response samples') : samples' = samples := by
  obtain ⟨members, hjson, -, hsamples⟩ := h.payload
  obtain ⟨members', hjson', -, hsamples'⟩ := h'.payload
  obtain rfl := PyValue.dict.inj (Except.ok.inj (hjson.symm.trans hjson'))
  exact Option.some.inj (hsamples'.symm.trans hsamples)

theorem parseResponse_of_holds (h : HoldsSamples py response samples) :
    parseResponse py texts response (some maxAge) now =
      acceptSamples samples (some maxAge) now := by
  obtain ⟨members, hjson, hstatus, hsamples⟩ := h.payload
  obtain ⟨first, rest, rfl⟩ := List.exists_cons_of_ne_nil h.nonempty
  rw [parseResponse, if_neg (not_not.mpr h.statusCode), hjson]
  simp only [PyValue.members, bind, Except.bind, hstatus, hsamples,
    Bool.not_true, Bool.false_eq_true, if_false]

theorem json_raises :
    RaisesOnly Json.IsReaderError (response.json py) := by
  simp only [Response.json]
  split
  · exact RaisesOnly.error (Or.inl rfl)
  · exact Json.loads_raises py _

/-- Without samples, the response is a failed query or an exception. -/
theorem parseResponse_of_not_holds
    (h : ¬∃ samples, HoldsSamples py response samples) :
    (Readable py response ∧ ∃ status error,
        (status = EvidenceStatus.error ∨ status = .missing) ∧
        parseResponse py texts response (some maxAge) now =
          .ok (.failed status error)) ∨
      (¬Readable py response ∧
        ¬Returns (parseResponse py texts response (some maxAge) now)) := by
  by_cases hcode : response.statusCode = 200
  · rcases hjson : response.json py with exception | payload
    · have hparse : parseResponse py texts response (some maxAge) now =
          if exception = .typeError ∨ exception = .valueError then
            .ok (.failed .error ("invalid JSON: " ++
              boundedError (texts.invalidJson response.content)))
          else .error exception := by
        rw [parseResponse, if_neg (not_not.mpr hcode), hjson]
      rcases json_raises exception hjson with rfl | rfl
      · exact Or.inl ⟨Or.inr (Or.inl hjson), .error, _, Or.inl rfl, hparse⟩
      · refine Or.inr ⟨?_, ?_⟩
        · rintro (hother | hinvalid | ⟨members, hok, -⟩)
          · exact hother hcode
          · rw [hjson] at hinvalid
            cases hinvalid
          · rw [hjson] at hok
            cases hok
        · rw [hparse]
          exact not_returns_error _
    · rcases hmembers : payload.members with exception | members
      · refine Or.inr ⟨?_, ?_⟩
        · rintro (hother | hinvalid | ⟨members, hok, -⟩)
          · exact hother hcode
          · rw [hjson] at hinvalid
            cases hinvalid
          · obtain rfl := Except.ok.inj (hjson.symm.trans hok)
            cases hmembers
        · rw [parseResponse, if_neg (not_not.mpr hcode), hjson]
          simp only [hmembers, bind, Except.bind]
          exact not_returns_error _
      · obtain rfl := PyValue.members_eq_ok_iff.mp hmembers
        refine Or.inl ⟨Or.inr (Or.inr ⟨members, hjson, ?_⟩), ?_⟩
        · intro samples hsamples
          exact absurd ⟨samples, hsamples⟩ h
        · rw [parseResponse, if_neg (not_not.mpr hcode), hjson]
          simp only [PyValue.members, bind, Except.bind]
          split
          · exact ⟨.error, _, Or.inl rfl, rfl⟩
          next hstatus =>
            split
            · exact ⟨.error, _, Or.inl rfl, rfl⟩
            · exact ⟨.missing, _, Or.inr rfl, rfl⟩
            next samples hnonempty hsamples =>
              refine absurd ⟨samples, hcode, ⟨members, hjson, ?_, hsamples⟩,
                ?_⟩ h
              · simpa using hstatus
              · rintro rfl
                exact hnonempty rfl
  · have hparse : parseResponse py texts response (some maxAge) now =
        .ok (.failed .error ("HTTP " ++ toString response.statusCode ++ ": " ++
          boundedError response.text)) := if_pos hcode
    exact Or.inl ⟨Or.inl hcode, .error, _, Or.inl rfl, hparse⟩

theorem acceptSamples_eq_ok_iff :
    acceptSamples samples (some maxAge) now = .ok result ↔
      ∃ observedAt, latestSampleTimestamp samples = .ok observedAt ∧
        ((TooOld maxAge now samples ∧ result = ⟨.stale, samples, observedAt,
            some ("newest sample is older than " ++ Decimal.fixed 0 maxAge ++
              "s")⟩) ∨
          (¬TooOld maxAge now samples ∧
            result = ⟨.ok, samples, observedAt, none⟩)) := by
  rw [acceptSamples, bind_eq_ok_iff]
  refine exists_congr fun observedAt => and_congr_right fun hlatest => ?_
  rcases observedAt with _ | newest
  · have hold : ¬TooOld maxAge now samples := by
      rintro ⟨newest, hnewest, -⟩
      rw [hlatest] at hnewest
      cases hnewest
    simp [hold, pure, Except.pure, eq_comm]
  · have hold : TooOld maxAge now samples ↔
        olderThan maxAge now newest = true := by
      constructor
      · rintro ⟨newest', hnewest, hlate⟩
        obtain rfl := Option.some.inj (Except.ok.inj
          (hlatest.symm.trans hnewest))
        exact hlate
      · intro hlate
        exact ⟨newest, hlatest, hlate⟩
    rw [hold]
    by_cases hlate : olderThan maxAge now newest = true
    · simp only [hlate, if_true, pure, Except.pure]
      constructor
      · intro hok
        exact Or.inl ⟨trivial, (Except.ok.inj hok).symm⟩
      · rintro (⟨-, rfl⟩ | ⟨hnever, -⟩)
        · rfl
        · exact absurd trivial hnever
    · simp only [hlate, Bool.false_eq_true, if_false, pure, Except.pure]
      constructor
      · intro hok
        exact Or.inr ⟨not_false, (Except.ok.inj hok).symm⟩
      · rintro (⟨hnever, -⟩ | ⟨-, rfl⟩)
        · cases hnever
        · rfl

theorem parseResponse_returns_iff :
    Returns (parseResponse py texts response (some maxAge) now) ↔
      Readable py response := by
  by_cases hholds : ∃ samples, HoldsSamples py response samples
  · obtain ⟨samples, hsamples⟩ := hholds
    have hreadable : Readable py response ↔
        ∀ sample ∈ samples, TimestampShaped sample := by
      obtain ⟨members, hjson, -⟩ := hsamples.payload
      constructor
      · rintro (hother | hinvalid | ⟨-, -, hshaped⟩)
        · exact absurd hsamples.statusCode hother
        · rw [hjson] at hinvalid
          cases hinvalid
        · exact hshaped samples hsamples
      · intro hshaped
        refine Or.inr (Or.inr ⟨members, hjson, ?_⟩)
        intro samples' hsamples'
        rwa [hsamples.unique hsamples']
    rw [parseResponse_of_holds hsamples, hreadable,
      ← latestSampleTimestamp_returns_iff]
    constructor
    · rintro ⟨result, hresult⟩
      obtain ⟨observedAt, hlatest, -⟩ := acceptSamples_eq_ok_iff.mp hresult
      exact ⟨observedAt, hlatest⟩
    · rintro ⟨observedAt, hlatest⟩
      by_cases hold : TooOld maxAge now samples
      · exact ⟨_, acceptSamples_eq_ok_iff.mpr
          ⟨observedAt, hlatest, Or.inl ⟨hold, rfl⟩⟩⟩
      · exact ⟨_, acceptSamples_eq_ok_iff.mpr
          ⟨observedAt, hlatest, Or.inr ⟨hold, rfl⟩⟩⟩
  · rcases @parseResponse_of_not_holds py texts response maxAge now hholds with
      ⟨hreadable, status, error, -, hparse⟩ | ⟨hreadable, hraises⟩
    · exact iff_of_true ⟨_, hparse⟩ hreadable
    · exact iff_of_false hraises hreadable

/-- The response is accepted with these samples: they can be read, and their
newest timestamp is not too old. -/
structure Accepts (py : Interpreter) (maxSampleAgeSeconds now : ℚ)
    (response : Response) (samples : List PyValue) : Prop where
  holds : HoldsSamples py response samples
  shaped : ∀ sample ∈ samples, TimestampShaped sample
  recent : ¬TooOld maxSampleAgeSeconds now samples

theorem QueryFailure.status_ne_ok (failure : QueryFailure) :
    failure.status ≠ .ok := by
  rcases failure with _ | _ | _
  · decide
  · decide
  · decide

/-- What a response that returns is read as. -/
theorem parseResponse_spec
    (h : parseResponse py texts response (some maxAge) now = .ok result) :
    (result.status = .ok ∧ Accepts py maxAge now response result.samples) ∨
      ((∃ failure : QueryFailure, result.status = failure.status) ∧
        ¬∃ samples, Accepts py maxAge now response samples) := by
  by_cases hholds : ∃ samples, HoldsSamples py response samples
  · obtain ⟨samples, hsamples⟩ := hholds
    rw [parseResponse_of_holds hsamples] at h
    obtain ⟨observedAt, hlatest, hcases⟩ := acceptSamples_eq_ok_iff.mp h
    have hshaped := latestSampleTimestamp_returns_iff.mp ⟨observedAt, hlatest⟩
    rcases hcases with ⟨hold, rfl⟩ | ⟨hrecent, rfl⟩
    · refine Or.inr ⟨⟨.stale, rfl⟩, ?_⟩
      rintro ⟨samples', haccepts⟩
      rw [hsamples.unique haccepts.holds] at haccepts
      exact haccepts.recent hold
    · exact Or.inl ⟨rfl, hsamples, hshaped, hrecent⟩
  · rcases @parseResponse_of_not_holds py texts response maxAge now hholds with
      ⟨-, status, error, hstatus, hparse⟩ | ⟨-, hraises⟩
    · obtain rfl := Except.ok.inj (hparse.symm.trans h)
      refine Or.inr ⟨?_, ?_⟩
      · rcases hstatus with rfl | rfl
        · exact ⟨.error, rfl⟩
        · exact ⟨.missing, rfl⟩
      · rintro ⟨samples, haccepts⟩
        exact hholds ⟨samples, haccepts.holds⟩
    · exact absurd ⟨result, h⟩ hraises

/-- A reading of a query that failed. -/
def IsFailed {V : Type} (name target exporter : String)
    (reading : Reading V) : Prop :=
  ∃ failure : QueryFailure, ∃ observedAt error, reading =
    ⟨name, target, exporter, failure.status, none, observedAt, error⟩

/-- A reading with a value. -/
def IsGood {V : Type} (name target exporter : String) (value : V)
    (reading : Reading V) : Prop :=
  ∃ observedAt, reading =
    ⟨name, target, exporter, .ok, some value, observedAt, none⟩

/-- A reading that is good has a valid value, and another one has none. -/
def Sound {V : Type} (valid : V → Prop) (reading : Reading V) : Prop :=
  (reading.status = .ok → ∃ value ∈ reading.value, valid value) ∧
    (reading.status ≠ .ok → reading.value = none)

theorem IsFailed.sound {V : Type} {valid : V → Prop}
    {name target exporter : String} {reading : Reading V}
    (h : IsFailed name target exporter reading) : Sound valid reading := by
  obtain ⟨failure, observedAt, error, rfl⟩ := h
  exact And.intro (fun hok => absurd hok (QueryFailure.status_ne_ok failure))
    fun _ => rfl

theorem IsGood.sound {V : Type} {valid : V → Prop}
    {name target exporter : String} {value : V} {reading : Reading V}
    (h : IsGood name target exporter value reading) (hvalid : valid value) :
    Sound valid reading := by
  obtain ⟨observedAt, rfl⟩ := h
  exact And.intro (fun _ => ⟨value, rfl, hvalid⟩) fun hne => absurd rfl hne

theorem IsFailed.not_ok {V : Type} {name target exporter : String}
    {reading : Reading V} (h : IsFailed name target exporter reading) :
    reading.status ≠ .ok := by
  obtain ⟨failure, observedAt, error, rfl⟩ := h
  exact QueryFailure.status_ne_ok failure

/-! ## Scalar readings -/

variable {name target exporter : String}

/-- A query that does not return a good result is read as it is. -/
theorem readingFromFirstSample_of_failed {failure : QueryFailure}
    (h : result.status = failure.status) :
    ∃ reading, readingFromFirstSample texts result name target exporter =
        .ok reading ∧
      IsFailed name target exporter reading := by
  have hfailed : result.status ≠ .ok := by
    rw [h]
    exact QueryFailure.status_ne_ok failure
  rw [readingFromFirstSample, if_pos hfailed, h]
  exact ⟨_, rfl, failure, _, _, rfl⟩

theorem readingFromFirstSample_of_ok (h : result.status = .ok)
    {sample : PyValue} {rest : List PyValue}
    (hsamples : result.samples = sample :: rest) :
    (ValueOverflows sample ∧
        ¬Returns (readingFromFirstSample texts result name target exporter)) ∨
      (¬ValueOverflows sample ∧ ∃ reading,
        readingFromFirstSample texts result name target exporter =
          .ok reading ∧
        ((∃ value, sampleValue sample = .ok value ∧ value.isFinite = true ∧
            IsGood name target exporter value reading) ∨
          IsFailed name target exporter reading)) := by
  rw [readingFromFirstSample, if_neg (not_not.mpr h), hsamples]
  simp only
  rcases sampleValue_cases sample with ⟨value, hvalue, hsmall⟩ |
    ⟨exception, herror, hcaught, hsmall⟩ | ⟨herror, hlarge⟩
  · refine Or.inr ⟨hsmall, ?_⟩
    rw [hvalue]
    by_cases hfinite : value.isFinite = true
    · simp only [hfinite, Bool.not_true, Bool.false_eq_true, if_false]
      exact ⟨_, rfl, Or.inl ⟨value, rfl, hfinite, _, rfl⟩⟩
    · simp only [hfinite, Bool.not_false, if_true]
      exact ⟨_, rfl, Or.inr ⟨.error, _, _, rfl⟩⟩
  · refine Or.inr ⟨hsmall, ?_⟩
    rw [herror]
    simp only [hcaught, if_true]
    exact ⟨_, rfl, Or.inr ⟨.error, _, _, rfl⟩⟩
  · refine Or.inl ⟨hlarge, ?_⟩
    rw [herror]
    exact not_returns_error _

theorem scalarReading_returns_iff :
    Returns (scalarReading py texts (.ok response) maxAge now name target
        exporter) ↔
      Readable py response ∧ ∀ first rest,
        Accepts py maxAge now response (first :: rest) →
        ¬ValueOverflows first := by
  have hquery : queryPrometheus py texts (.ok response) maxAge now =
      parseResponse py texts response (some maxAge) now := rfl
  rw [scalarReading, hquery, returns_bind_iff,
    ← @parseResponse_returns_iff py texts response maxAge now]
  constructor
  · rintro ⟨result, hresult, hreading⟩
    refine ⟨⟨result, hresult⟩, ?_⟩
    intro first rest haccepts hlarge
    rcases parseResponse_spec hresult with ⟨hok, haccepts'⟩ | ⟨-, hnone⟩
    · have hsamples := haccepts.holds.unique haccepts'.holds
      rcases readingFromFirstSample_of_ok hok hsamples with
        ⟨-, hraises⟩ | ⟨hsmall, -⟩
      · exact hraises hreading
      · exact hsmall hlarge
    · exact hnone ⟨_, haccepts⟩
  · rintro ⟨⟨result, hresult⟩, hsmall⟩
    refine ⟨result, hresult, ?_⟩
    rcases parseResponse_spec hresult with ⟨hok, haccepts⟩ |
      ⟨⟨failure, hfailure⟩, -⟩
    · obtain ⟨first, rest, hsamples⟩ :=
        List.exists_cons_of_ne_nil haccepts.holds.nonempty
      rw [hsamples] at haccepts
      rcases readingFromFirstSample_of_ok hok hsamples with
        ⟨hlarge, -⟩ | ⟨-, reading, hreading, -⟩
      · exact absurd hlarge (hsmall first rest haccepts)
      · exact ⟨reading, hreading⟩
    · obtain ⟨reading, hreading, -⟩ :=
        readingFromFirstSample_of_failed hfailure
      exact ⟨reading, hreading⟩

/-- What a scalar reading has read. -/
theorem scalarReading_spec {reading : Reading PyFloat}
    (h : scalarReading py texts (.ok response) maxAge now name target exporter =
      .ok reading) :
    (∃ first rest value, Accepts py maxAge now response (first :: rest) ∧
        sampleValue first = .ok value ∧ value.isFinite = true ∧
        IsGood name target exporter value reading) ∨
      IsFailed name target exporter reading := by
  obtain ⟨result, hresult, hreading⟩ := bind_eq_ok_iff.mp h
  rcases parseResponse_spec hresult with ⟨hok, haccepts⟩ |
    ⟨⟨failure, hfailure⟩, -⟩
  · obtain ⟨first, rest, hsamples⟩ :=
      List.exists_cons_of_ne_nil haccepts.holds.nonempty
    rw [hsamples] at haccepts
    rcases readingFromFirstSample_of_ok hok hsamples with
      ⟨-, hraises⟩ | ⟨-, reading', hreading', hcases⟩
    · exact absurd ⟨reading, hreading⟩ hraises
    · obtain rfl := Except.ok.inj (hreading'.symm.trans hreading)
      rcases hcases with ⟨value, hvalue, hfinite, hgood⟩ | hfailed
      · exact Or.inl ⟨first, rest, value, haccepts, hvalue, hfinite, hgood⟩
      · exact Or.inr hfailed
  · obtain ⟨reading', hreading', hfailed⟩ :=
      readingFromFirstSample_of_failed hfailure
    obtain rfl := Except.ok.inj (hreading'.symm.trans hreading)
    exact Or.inr hfailed

/-! ## Filesystem readings -/

/-- The value of the sample is not too large, and a sample with a number has an
object of labels, if any. -/
structure MetricShaped (sample : PyValue) : Prop where
  small : ¬ValueOverflows sample
  labels : Returns (sampleValue sample) → ∀ members, sample = .dict members →
    ∃ labels, PyValue.getOr members "metric" (.dict []) = .dict labels

def SampleFilesystem.usageIsValid (filesystem : SampleFilesystem) : Prop :=
  ∃ usage, filesystem.usagePercent = .finite usage ∧ 0 ≤ usage ∧ usage ≤ 100

/-- The filesystems of the valid samples. -/
def validFilesystems (samples : List PyValue) : List SampleFilesystem :=
  samples.filterMap fun sample =>
    match filesystemOf sample with
    | .ok filesystem => filesystem
    | .error _ => none

theorem filesystemOf_returns_iff {members : List (String × PyValue)} :
    Returns (filesystemOf (.dict members)) ↔ MetricShaped (.dict members) := by
  have hmembers : (PyValue.dict members).members = .ok members := rfl
  simp only [filesystemOf, hmembers, bind, Except.bind]
  rcases sampleValue_cases (.dict members) with ⟨value, hvalue, hsmall⟩ |
    ⟨exception, herror, hcaught, hsmall⟩ | ⟨herror, hlarge⟩
  · rw [hvalue]
    rcases hlabels : (PyValue.getOr members "metric" (.dict [])).members with
      exception | labels
    · simp only
      refine iff_of_false (not_returns_error _) fun hshaped => ?_
      obtain ⟨labels, hdict⟩ := hshaped.labels ⟨value, hvalue⟩ members rfl
      rw [hdict] at hlabels
      cases hlabels
    · simp only
      refine iff_of_true ?_ ⟨hsmall, ?_⟩
      · split
        · exact returns_ok _
        · exact returns_ok _
      · intro _ members' heq
        obtain rfl := PyValue.dict.inj heq
        exact ⟨labels, PyValue.members_eq_ok_iff.mp hlabels⟩
  · rw [herror]
    simp only [hcaught, if_true]
    refine iff_of_true (returns_ok _) ⟨hsmall, ?_⟩
    rintro ⟨value, hvalue⟩
    rw [herror] at hvalue
    cases hvalue
  · rw [herror]
    exact iff_of_false (not_returns_error _) fun hshaped =>
      hshaped.small hlarge

/-- What a valid sample has. -/
theorem filesystemOf_spec {sample : PyValue} {filesystem : SampleFilesystem}
    (h : filesystemOf sample = .ok (some filesystem)) :
    filesystem.usageIsValid ∧ filesystem.mountpoint.truthy = true ∧
      sampleValue sample = .ok filesystem.usagePercent := by
  obtain ⟨members, hmembers, hrest⟩ := bind_eq_ok_iff.mp h
  simp only at hrest
  split at hrest
  next exception herror =>
    split at hrest
    · cases hrest
    · cases hrest
  next usage hvalue =>
    obtain ⟨labels, -, hlast⟩ := bind_eq_ok_iff.mp hrest
    split at hlast
    · cases hlast
    next hvalid =>
      obtain rfl := Option.some.inj (Except.ok.inj hlast)
      simp only [Bool.or_eq_true, not_or, Bool.not_eq_true', Bool.not_eq_true,
        Bool.not_eq_false] at hvalid
      obtain ⟨⟨⟨hmountpoint, hfinite⟩, hlow⟩, hhigh⟩ := hvalid
      refine ⟨?_, hmountpoint, hvalue⟩
      rcases usage with value | negative | _
      · simp only [PyFloat.lt, decide_eq_false_iff_not, not_lt] at hlow hhigh
        exact ⟨value, rfl, hlow, hhigh⟩
      · cases hfinite
      · cases hfinite

theorem filterMap_of_rounds {rounds : List (Option SampleFilesystem)}
    (h : samples.mapM filesystemOf = .ok rounds) :
    rounds.filterMap id = validFilesystems samples := by
  refine filterMap_of_mapM ?_ h
  intro sample filesystem hround
  rw [hround]

variable {sort : MountpointSort} {reading : Reading (List SampleFilesystem)}

theorem getFilesystemUsagePercent_returns_iff :
    Returns (getFilesystemUsagePercent py texts sort (.ok response) maxAge now
        target) ↔
      Readable py response ∧ ∀ samples, Accepts py maxAge now response samples →
        (∀ sample ∈ samples, MetricShaped sample) ∧
          (sort.sorted (validFilesystems samples)).isSome = true := by
  have hquery : queryPrometheus py texts (.ok response) maxAge now =
      parseResponse py texts response (some maxAge) now := rfl
  have hloop {samples : List PyValue}
      (haccepts : Accepts py maxAge now response samples) :
      Returns (samples.mapM filesystemOf) ↔
        ∀ sample ∈ samples, MetricShaped sample := by
    rw [returns_mapM_iff]
    refine forall₂_congr fun sample hmem => ?_
    obtain ⟨members, rfl⟩ := (haccepts.shaped sample hmem).members
    exact filesystemOf_returns_iff
  rw [getFilesystemUsagePercent, hquery, returns_bind_iff,
    ← @parseResponse_returns_iff py texts response maxAge now]
  constructor
  · rintro ⟨result, hresult, hreading⟩
    refine ⟨⟨result, hresult⟩, ?_⟩
    intro samples haccepts
    rcases parseResponse_spec hresult with ⟨hok, haccepts'⟩ | ⟨-, hnone⟩
    · obtain rfl := haccepts'.holds.unique haccepts.holds
      rw [if_neg (not_not.mpr hok)] at hreading
      obtain ⟨rounds, hrounds, hlast⟩ := returns_bind_iff.mp hreading
      refine ⟨(hloop haccepts).mp ⟨rounds, hrounds⟩, ?_⟩
      rw [filterMap_of_rounds hrounds] at hlast
      rcases hsorted : sort.sorted (validFilesystems result.samples) with
        _ | value
      · dsimp only at hlast
        split at hlast
        next hempty =>
          have hnil := List.isEmpty_iff.mp hempty
          have hnone := @MountpointSort.texts sort [] (by simp)
          rw [hnil, hnone] at hsorted
          cases hsorted
        next =>
          simp only [hsorted] at hlast
          exact absurd hlast (not_returns_error _)
      · rfl
    · exact absurd ⟨samples, haccepts⟩ hnone
  · rintro ⟨⟨result, hresult⟩, hshaped⟩
    refine ⟨result, hresult, ?_⟩
    rcases parseResponse_spec hresult with ⟨hok, haccepts⟩ |
      ⟨⟨failure, hfailure⟩, -⟩
    · obtain ⟨hmetrics, hsorts⟩ := hshaped _ haccepts
      obtain ⟨value, hvalue⟩ := Option.isSome_iff_exists.mp hsorts
      obtain ⟨rounds, hrounds⟩ := (hloop haccepts).mpr hmetrics
      rw [if_neg (not_not.mpr hok)]
      refine returns_bind_iff.mpr ⟨rounds, hrounds, ?_⟩
      simp only [filterMap_of_rounds hrounds, hvalue]
      split
      · exact returns_ok _
      · exact returns_ok _
    · rw [if_pos (hfailure ▸ QueryFailure.status_ne_ok failure)]
      exact returns_ok _

/-- What a filesystem reading has read. -/
theorem getFilesystemUsagePercent_spec
    (h : getFilesystemUsagePercent py texts sort (.ok response) maxAge now
      target = .ok reading) :
    (∃ samples value, Accepts py maxAge now response samples ∧
        validFilesystems samples ≠ [] ∧
        sort.sorted (validFilesystems samples) = some value ∧
        IsGood "filesystems" target "node_exporter" value reading) ∨
      IsFailed "filesystems" target "node_exporter" reading := by
  obtain ⟨result, hresult, hreading⟩ := bind_eq_ok_iff.mp h
  rcases parseResponse_spec hresult with ⟨hok, haccepts⟩ |
    ⟨⟨failure, hfailure⟩, -⟩
  · rw [if_neg (not_not.mpr hok)] at hreading
    obtain ⟨rounds, hrounds, hlast⟩ := bind_eq_ok_iff.mp hreading
    rw [filterMap_of_rounds hrounds] at hlast
    dsimp only at hlast
    split at hlast
    · obtain rfl := Except.ok.inj hlast
      exact Or.inr ⟨.error, _, _, rfl⟩
    next hempty =>
      have hne : validFilesystems result.samples ≠ [] := by
        intro hnil
        exact hempty (List.isEmpty_iff.mpr hnil)
      rcases hsorted : sort.sorted (validFilesystems result.samples) with
        _ | value
      · simp only [hsorted] at hlast
        cases hlast
      · simp only [hsorted] at hlast
        obtain rfl := Except.ok.inj hlast
        exact Or.inl ⟨result.samples, value, haccepts, hne, hsorted, _, rfl⟩
  · rw [if_pos (hfailure ▸ QueryFailure.status_ne_ok failure)] at hreading
    obtain rfl := Except.ok.inj hreading
    exact Or.inr ⟨failure, _, _, by rw [hfailure]⟩

theorem mem_validFilesystems {filesystem : SampleFilesystem} :
    filesystem ∈ validFilesystems samples ↔
      ∃ sample ∈ samples, filesystemOf sample = .ok (some filesystem) := by
  rw [validFilesystems, List.mem_filterMap]
  refine exists_congr fun sample => and_congr_right fun _ => ?_
  rcases filesystemOf sample with exception | found
  · simp
  · simp

/-! ## Readings of the detector -/

/-- A time or a number, when it is finite. -/
def finite? : PyFloat → Option ℚ
  | .finite value => some value
  | _ => none

/-- The reading as the detector has it. -/
def Reading.metricReading {V : Type} (carried : V → Option ReadingValue)
    (reading : Reading V) : MetricReading :=
  ⟨reading.name, reading.target, reading.exporter, reading.status,
    reading.value.bind carried, reading.observedAt.bind finite?,
    reading.error⟩

/-- The detector's scalar readings are outcomes of queries. -/
theorem scalarReading_metricReading {reading : Reading PyFloat}
    (h : scalarReading py texts (.ok response) maxAge now name target exporter =
      .ok reading) :
    ∃ outcome : QueryOutcome ℚ,
      reading.metricReading (fun value => (finite? value).map .number) =
        UyuniAgent.scalarReading name target exporter outcome := by
  rcases scalarReading_spec h with
    ⟨-, -, value, -, -, hfinite, observedAt, rfl⟩ |
    ⟨failure, observedAt, error, rfl⟩
  · rcases value with number | negative | _
    · exact ⟨.value number (observedAt.bind finite?), rfl⟩
    · cases hfinite
    · cases hfinite
  · exact ⟨.failed failure (observedAt.bind finite?) error, rfl⟩

/-- The text of a label. -/
def labelText : PyValue → String
  | .str text => text
  | _ => ""

/-- The filesystem as the detector has it. -/
def SampleFilesystem.filesystem (filesystem : SampleFilesystem) : Filesystem :=
  ⟨filesystem.mountpointText, labelText filesystem.device,
    labelText filesystem.fstype, (finite? filesystem.usagePercent).getD 0⟩

/-- The sample that the detector has the filesystem from. -/
def SampleFilesystem.sample (filesystem : SampleFilesystem) :
    FilesystemSample :=
  ⟨some filesystem.mountpointText, some (labelText filesystem.device),
    some (labelText filesystem.fstype), some filesystem.usagePercent⟩

theorem SampleFilesystem.filesystem?_sample {filesystem : SampleFilesystem}
    (husage : filesystem.usageIsValid) (htext : filesystem.hasTextMountpoint)
    (hmountpoint : filesystem.mountpoint.truthy = true) :
    filesystem.sample.filesystem? = some filesystem.filesystem := by
  obtain ⟨usage, husage, hlow, hhigh⟩ := husage
  obtain ⟨mountpoint, htext⟩ := htext
  rw [htext] at hmountpoint
  have hname : mountpoint ≠ "" := by
    rintro rfl
    cases hmountpoint
  simp [FilesystemSample.filesystem?, SampleFilesystem.sample,
    SampleFilesystem.filesystem, mountpointText, htext, husage, finite?, hname,
    not_lt.mpr hlow, not_lt.mpr hhigh]

/-- Where the mountpoints are texts, the detector's filesystems are the outcome
of the query. -/
theorem getFilesystemUsagePercent_metricReading
    (h : getFilesystemUsagePercent py texts sort (.ok response) maxAge now
      target = .ok reading)
    (htexts : ∀ samples, Accepts py maxAge now response samples →
      ∀ filesystem ∈ validFilesystems samples,
        filesystem.hasTextMountpoint) :
    ∃ outcome, reading.metricReading
        (fun value => some (.filesystems (value.map (·.filesystem)))) =
      UyuniAgent.getFilesystemUsagePercent target outcome := by
  rcases getFilesystemUsagePercent_spec h with
    ⟨samples, value, haccepts, hne, hsorted, observedAt, rfl⟩ |
    ⟨failure, observedAt, error, rfl⟩
  · have htexts := htexts samples haccepts
    have hvalid : ((validFilesystems samples).map (·.sample)).filterMap
          FilesystemSample.filesystem? =
        (validFilesystems samples).map (·.filesystem) := by
      rw [List.filterMap_map]
      refine List.filterMap_eq_map_iff_forall_eq_some.mpr ?_
      intro filesystem hmem
      obtain ⟨sample, -, hsample⟩ := mem_validFilesystems.mp hmem
      obtain ⟨husage, hmountpoint, -⟩ := filesystemOf_spec hsample
      exact SampleFilesystem.filesystem?_sample husage (htexts _ hmem)
        hmountpoint
    have hvalue := Option.some.inj ((sort.texts htexts).symm.trans hsorted)
    have hsort : value.map (·.filesystem) =
        ((validFilesystems samples).map (·.filesystem)).insertionSort
          fun a b => a.mountpoint ≤ b.mountpoint := by
      rw [← hvalue]
      exact List.map_insertionSort _ _ _ _ fun _ _ _ _ => Iff.rfl
    refine ⟨.value ((validFilesystems samples).map (·.sample))
      (observedAt.bind finite?), ?_⟩
    simp only [UyuniAgent.getFilesystemUsagePercent, hvalid, ← hsort,
      List.isEmpty_map, List.isEmpty_iff, hne, if_false]
    rfl
  · exact ⟨.failed failure (observedAt.bind finite?) error, rfl⟩

end Responses

/-! ## Typed errors -/

/-- The computation returns a reading, which is sound. -/
def ReturnsReading {V : Type} (valid : V → Prop)
    (computation : Except PyException (Reading V)) : Prop :=
  ∃ reading, computation = .ok reading ∧ Sound valid reading

/-- No part of the response that is looked up without a guard is missing or too
large, and the mountpoints can be sorted. -/
def LookedUpSafely (py : Interpreter) (sort : MountpointSort)
    (maxSampleAgeSeconds now : ℚ) (response : Response) : Prop :=
  Readable py response ∧
    ∀ samples, Accepts py maxSampleAgeSeconds now response samples →
      (∀ sample ∈ samples, MetricShaped sample) ∧
        (sort.sorted (validFilesystems samples)).isSome = true

section Typed

variable {py : Interpreter} {texts : ExceptionTexts} {response : Response}
  {maxAge now : ℚ} {name target exporter : String} {sort : MountpointSort}

theorem scalarReading_returnsReading_iff :
    ReturnsReading (·.isFinite = true)
        (scalarReading py texts (.ok response) maxAge now name target
          exporter) ↔
      Returns (scalarReading py texts (.ok response) maxAge now name target
        exporter) := by
  constructor
  · rintro ⟨reading, hreading, -⟩
    exact ⟨reading, hreading⟩
  · rintro ⟨reading, hreading⟩
    refine ⟨reading, hreading, ?_⟩
    rcases scalarReading_spec hreading with
      ⟨first, rest, value, -, -, hfinite, hgood⟩ | hfailed
    · exact hgood.sound hfinite
    · exact hfailed.sound

theorem getFilesystemUsagePercent_returnsReading_iff :
    ReturnsReading (fun filesystems => ∀ filesystem ∈ filesystems,
          filesystem.usageIsValid)
        (getFilesystemUsagePercent py texts sort (.ok response) maxAge now
          target) ↔
      Returns (getFilesystemUsagePercent py texts sort (.ok response) maxAge now
        target) := by
  constructor
  · rintro ⟨reading, hreading, -⟩
    exact ⟨reading, hreading⟩
  · rintro ⟨reading, hreading⟩
    refine ⟨reading, hreading, ?_⟩
    rcases getFilesystemUsagePercent_spec hreading with
      ⟨samples, value, -, -, hsorted, hgood⟩ | hfailed
    · apply hgood.sound
      intro filesystem hmem
      obtain ⟨sample, -, hsample⟩ :=
        mem_validFilesystems.mp ((sort.perm hsorted).mem_iff.mp hmem)
      exact (filesystemOf_spec hsample).1
    · exact hfailed.sound

end Typed

/-- A query whose connection fails gives sound readings. -/
theorem returnsReading_of_connection_failed (py : Interpreter)
    (texts : ExceptionTexts) (sort : MountpointSort) (text : String)
    (maxAge now : ℚ) (name target exporter : String) :
    ReturnsReading (·.isFinite = true)
        (scalarReading py texts (.error text) maxAge now name target
          exporter) ∧
      ReturnsReading (fun filesystems => ∀ filesystem ∈ filesystems,
          filesystem.usageIsValid)
        (getFilesystemUsagePercent py texts sort (.error text) maxAge now
          target) :=
  ⟨⟨_, rfl, And.intro (fun h => by cases h) fun _ => rfl⟩,
    ⟨_, rfl, And.intro (fun h => by cases h) fun _ => rfl⟩⟩

/-- Both kinds of readings are typed, whatever the response, exactly when it
has no unguarded part of the wrong shape. -/
theorem typed_readings_iff (py : Interpreter) (texts : ExceptionTexts)
    (sort : MountpointSort) (answer : Except String Response) (maxAge now : ℚ)
    (name target exporter : String) :
    (ReturnsReading (·.isFinite = true)
        (scalarReading py texts answer maxAge now name target exporter) ∧
      ReturnsReading (fun filesystems => ∀ filesystem ∈ filesystems,
          filesystem.usageIsValid)
        (getFilesystemUsagePercent py texts sort answer maxAge now target)) ↔
      ∀ response, answer = .ok response →
        LookedUpSafely py sort maxAge now response := by
  rcases answer with text | response
  · refine iff_of_true ?_ (fun response h => by cases h)
    exact returnsReading_of_connection_failed py texts sort text maxAge now
      name target exporter
  · rw [scalarReading_returnsReading_iff,
      getFilesystemUsagePercent_returnsReading_iff, scalarReading_returns_iff,
      getFilesystemUsagePercent_returns_iff]
    constructor
    · rintro ⟨-, hsafe⟩ response' heq
      obtain rfl := Except.ok.inj heq
      exact hsafe
    · intro hall
      have hsafe := hall response rfl
      refine ⟨⟨hsafe.1, ?_⟩, hsafe⟩
      intro first rest haccepts
      exact ((hsafe.2 _ haccepts).1 first List.mem_cons_self).small

/-- Sorts mountpoints that are texts. -/
def textSort : MountpointSort where
  sorted filesystems :=
    if filesystems.all fun filesystem =>
        isText filesystem.mountpointText filesystem.mountpoint then
      some (filesystems.insertionSort fun a b =>
        a.mountpointText ≤ b.mountpointText)
    else none
  perm := by
    intro filesystems result h
    split at h
    · obtain rfl := Option.some.inj h
      exact List.perm_insertionSort _ _
    · cases h
  texts := by
    intro filesystems htexts
    rw [if_pos]
    rw [List.all_eq_true]
    intro filesystem hmem
    obtain ⟨text, htext⟩ := htexts filesystem hmem
    simp [isText, SampleFilesystem.mountpointText, htext]

/-- An interpreter with the usual depth, and a server that answers with an empty
array. -/
def plainInterpreter : Interpreter := ⟨1000, fun _ => ""⟩

def emptyArray : Response := ⟨200, "[]", some "[]"⟩

/-- A body that is an array raises an exception. -/
theorem array_body_raises :
    ¬∀ (py : Interpreter) (texts : ExceptionTexts) (sort : MountpointSort)
      (answer : Except String Response) (maxAge now : ℚ)
      (name target exporter : String),
      ReturnsReading (·.isFinite = true)
          (scalarReading py texts answer maxAge now name target exporter) ∧
        ReturnsReading (fun filesystems => ∀ filesystem ∈ filesystems,
            filesystem.usageIsValid)
          (getFilesystemUsagePercent py texts sort answer maxAge now
            target) := by
  intro hall
  obtain ⟨⟨reading, hreading, -⟩, -⟩ := hall plainInterpreter
    ⟨fun _ => "", fun _ => ""⟩ textSort (.ok emptyArray) 300 1000 "cpu_percent"
    "web:9100" "node_exporter"
  have hraises : scalarReading plainInterpreter ⟨fun _ => "", fun _ => ""⟩
      (.ok emptyArray) 300 1000 "cpu_percent" "web:9100" "node_exporter" =
        .error .attributeError := rfl
  rw [hraises] at hreading
  cases hreading

end UyuniAgent.Prometheus
