import Mathlib.Data.Finset.Card
import UyuniAgent.Investigation.Evidence
import UyuniAgent.Investigation.Remediation

/-!
# Grounding an analysis in the ledger

`ground_analysis`: a conclusion stays confirmed when it cites supporting
records that pass the gate.  The gate looks at the citations that name records
of the ledger, while the text of the conclusion is passed on as it is.
-/

namespace UyuniAgent.Investigation

variable (unicode : UnicodeData)

/-! ## Citations -/

/-- `E[1-9][0-9]*`. -/
def isEvidenceId : List Char → Bool
  | 'E' :: first :: digits =>
      ('1' ≤ first && first ≤ '9') &&
        digits.all fun c => '0' ≤ c && c ≤ '9'
  | _ => false

/-- The matches of `_EVIDENCE_ID_RE`, each of which is a whole run of word
characters. -/
def citedEvidenceIds (text : String) : List String :=
  ((text.toList.splitOnP fun c => !unicode.isWord c).filter isEvidenceId).map
    String.ofList

def EvidenceLedger.ids (ledger : EvidenceLedger) : List String :=
  ledger.records.map (·.id)

def EvidenceLedger.get (ledger : EvidenceLedger) (id : String) :
    Option EvidenceRecord :=
  ledger.records.find? (·.id = id)

theorem EvidenceLedger.get_of_mem_ids {ledger : EvidenceLedger} {id : String}
    (h : id ∈ ledger.ids) : ∃ record, ledger.get id = some record := by
  obtain ⟨record, hrecord, rfl⟩ := List.mem_map.mp h
  have hsome : (ledger.get record.id).isSome = true :=
    List.find?_isSome.mpr ⟨record, hrecord, by simp⟩
  exact Option.isSome_iff_exists.mp hsome

/-! ## `ground_analysis` -/

/-- The keyword options of `ground_analysis`. -/
structure GroundingOptions where
  allowFailedEvidence : Bool
  maxEvidenceAgeSeconds : ℚ
  minimumSupportingRecords : ℤ

variable (options : GroundingOptions) (analysis : RootCauseAnalysis)
  (ledger : EvidenceLedger) (now : ℚ)

def supporting : List String :=
  analysis.supportingEvidenceIds.eraseDups.filter (· ∈ ledger.ids)

def rootRefs : List String :=
  (citedEvidenceIds unicode analysis.rootCause).filter (· ∈ ledger.ids)

def groundedBullets : List String :=
  analysis.keyEvidence.filter fun item =>
    (citedEvidenceIds unicode item).any (· ∈ supporting analysis ledger)

def supportingRecords : List EvidenceRecord :=
  (supporting analysis ledger).filterMap ledger.get

def staleSupport : List String :=
  ((supportingRecords analysis ledger).filter fun record =>
    now - record.observedAt < 0 ∨
      options.maxEvidenceAgeSeconds < now - record.observedAt).map (·.id)

def contradictedSupport : List String :=
  (ledger.records.flatMap (·.contradicts)).filter
    (· ∈ supporting analysis ledger)

def statusesAreUsable : Bool :=
  options.allowFailedEvidence ||
    (supporting analysis ledger).all fun id =>
      (ledger.get id).any (·.status = .ok)

def tooFewSupporting : Bool :=
  ((supporting analysis ledger).length : ℤ) <
    max 1 options.minimumSupportingRecords

/-- The variable `confirmed` of `ground_analysis`. -/
def confirmable : Bool :=
  analysis.conclusion = .confirmed &&
    !(supporting analysis ledger).isEmpty &&
    (rootRefs unicode analysis ledger).any (· ∈ supporting analysis ledger) &&
    (rootRefs unicode analysis ledger).all (· ∈ supporting analysis ledger) &&
    !(groundedBullets unicode analysis ledger).isEmpty &&
    statusesAreUsable options analysis ledger &&
    !tooFewSupporting options analysis ledger &&
    (staleSupport options analysis ledger now).isEmpty &&
    (contradictedSupport analysis ledger).isEmpty

def failedRecords : List EvidenceRecord :=
  ledger.records.filter (·.status ≠ .ok)

/-- `f"[{record.id}] {record.summary}"`. -/
def citedSummary (record : EvidenceRecord) : String :=
  "[" ++ record.id ++ "] " ++ record.summary

/-- `", ".join(f"[{item}]" for item in ids)`. -/
def bracketed (ids : List String) : String :=
  ", ".intercalate (ids.map fun id => "[" ++ id ++ "]")

/-- Why a conclusion is not confirmed. -/
def inconclusiveReasons : List String :=
  let stale := staleSupport options analysis ledger now
  let contradicted := contradictedSupport analysis ledger
  ((failedRecords ledger).take 3).map citedSummary ++
    (if stale.isEmpty then []
      else ["supporting evidence is stale: " ++ bracketed stale]) ++
    (if contradicted.isEmpty then []
      else ["collected evidence contradicts " ++
        bracketed (contradicted.eraseDups.mergeSort (decide <| · ≤ ·))]) ++
    (if tooFewSupporting options analysis ledger then
      ["too few independent supporting records were cited"]
      else [])

/-- The records that an inconclusive analysis falls back to. -/
def fallbackRecords : List EvidenceRecord :=
  (if (failedRecords ledger).isEmpty then ledger.records
    else failedRecords ledger).take 3

def groundAnalysis : RootCauseAnalysis :=
  if confirmable unicode options analysis ledger now then
    { analysis with
      supportingEvidenceIds := supporting analysis ledger
      keyEvidence := (groundedBullets unicode analysis ledger).take 3
      remediation := sanitizeRemediation unicode analysis.remediation false }
  else
    let reason := orText
      ("; ".intercalate (inconclusiveReasons options analysis ledger now))
      "the proposed cause did not cite the collected evidence"
    { analysis with
      conclusion := .inconclusive
      affectedComponent := "unknown"
      rootCause :=
        "The investigation is inconclusive because " ++ reason ++ "."
      supportingEvidenceIds := (fallbackRecords ledger).map (·.id)
      keyEvidence := (fallbackRecords ledger).map citedSummary
      remediation := sanitizeRemediation unicode analysis.remediation true
      confidence := min analysis.confidence (3 / 10) }

/-! ## The gate -/

variable {unicode options analysis ledger now}

theorem mem_supporting {id : String} :
    id ∈ supporting analysis ledger ↔
      id ∈ analysis.supportingEvidenceIds ∧ id ∈ ledger.ids := by
  simp [supporting]

/-- The tests of the gate that concern single records. -/
structure PassesGate (unicode : UnicodeData) (options : GroundingOptions)
    (analysis : RootCauseAnalysis) (ledger : EvidenceLedger) (now : ℚ) :
    Prop where
  refs_supporting : ∀ id ∈ rootRefs unicode analysis ledger,
    id ∈ supporting analysis ledger
  usable : statusesAreUsable options analysis ledger = true
  fresh : staleSupport options analysis ledger now = []
  uncontradicted : contradictedSupport analysis ledger = []

theorem passesGate
    (h : confirmable unicode options analysis ledger now = true) :
    PassesGate unicode options analysis ledger now := by
  simp only [confirmable, Bool.and_eq_true, List.all_eq_true,
    decide_eq_true_eq, List.isEmpty_iff] at h
  obtain ⟨⟨⟨⟨⟨⟨-, hrefs⟩, -⟩, husable⟩, -⟩, hfresh⟩, hcontradicted⟩ := h
  exact ⟨hrefs, husable, hfresh, hcontradicted⟩

/-- All tests of the gate. -/
structure Confirms (unicode : UnicodeData) (options : GroundingOptions)
    (analysis : RootCauseAnalysis) (ledger : EvidenceLedger) (now : ℚ) :
    Prop extends PassesGate unicode options analysis ledger now where
  conclusion : analysis.conclusion = .confirmed
  supported : supporting analysis ledger ≠ []
  cited : ∃ id ∈ rootRefs unicode analysis ledger,
    id ∈ supporting analysis ledger
  bulleted : groundedBullets unicode analysis ledger ≠ []
  enough : tooFewSupporting options analysis ledger = false

theorem confirmable_iff :
    confirmable unicode options analysis ledger now = true ↔
      Confirms unicode options analysis ledger now := by
  constructor
  · intro h
    have hgate := passesGate h
    simp only [confirmable, Bool.and_eq_true, decide_eq_true_eq,
      Bool.not_eq_true', List.isEmpty_eq_false_iff, List.any_eq_true] at h
    obtain ⟨⟨⟨⟨⟨⟨⟨⟨hconclusion, hsupported⟩, hcited⟩, -⟩, hbulleted⟩, -⟩,
      henough⟩, -⟩, -⟩ := h
    exact ⟨hgate, hconclusion, hsupported, hcited, hbulleted, henough⟩
  · rintro ⟨⟨hrefs, husable, hfresh, hcontradicted⟩, hconclusion, hsupported,
      hcited, hbulleted, henough⟩
    simp only [confirmable, Bool.and_eq_true, decide_eq_true_eq,
      Bool.not_eq_true', List.isEmpty_eq_false_iff, List.any_eq_true,
      List.all_eq_true, List.isEmpty_iff]
    exact ⟨⟨⟨⟨⟨⟨⟨⟨hconclusion, hsupported⟩, hcited⟩, hrefs⟩, hbulleted⟩,
      husable⟩, henough⟩, hfresh⟩, hcontradicted⟩

theorem conclusion_groundAnalysis :
    (groundAnalysis unicode options analysis ledger now).conclusion =
        .confirmed ↔
      confirmable unicode options analysis ledger now = true := by
  rw [groundAnalysis]
  split
  next h =>
    have hconclusion : analysis.conclusion = .confirmed := by
      simp only [confirmable, Bool.and_eq_true, decide_eq_true_eq] at h
      exact h.1.1.1.1.1.1.1.1
    simp [h, hconclusion]
  next h => simp [h]

/-- What a cited record of a confirmed conclusion has to be. -/
def IsGoodSupport (options : GroundingOptions) (ledger : EvidenceLedger)
    (now : ℚ) (supportingIds : List String) (id : String) : Prop :=
  id ∈ supportingIds ∧ ∃ record, ledger.get id = some record ∧
    (record.status = .ok ∨ options.allowFailedEvidence = true) ∧
    0 ≤ now - record.observedAt ∧
    now - record.observedAt ≤ options.maxEvidenceAgeSeconds ∧
    ∀ other ∈ ledger.records, id ∉ other.contradicts

theorem PassesGate.status
    (hgate : PassesGate unicode options analysis ledger now) {id : String}
    (hid : id ∈ supporting analysis ledger) {record : EvidenceRecord}
    (hrecord : ledger.get id = some record) :
    record.status = .ok ∨ options.allowFailedEvidence = true := by
  have husable := hgate.usable
  rw [statusesAreUsable, Bool.or_eq_true, List.all_eq_true] at husable
  rcases husable with hallowed | hall
  · exact Or.inr hallowed
  · have hok := hall id hid
    rw [hrecord] at hok
    exact Or.inl (by simpa using hok)

theorem PassesGate.age
    (hgate : PassesGate unicode options analysis ledger now) {id : String}
    (hid : id ∈ supporting analysis ledger) {record : EvidenceRecord}
    (hrecord : ledger.get id = some record) :
    0 ≤ now - record.observedAt ∧
      now - record.observedAt ≤ options.maxEvidenceAgeSeconds := by
  have hmem : record ∈ supportingRecords analysis ledger :=
    List.mem_filterMap.mpr ⟨id, hid, hrecord⟩
  have hnone := List.filter_eq_nil_iff.mp
    (List.map_eq_nil_iff.mp hgate.fresh) record hmem
  simp only [decide_eq_true_eq, not_or, not_lt] at hnone
  exact hnone

/-- Every supporting record of a confirmed conclusion is good support. -/
theorem PassesGate.isGoodSupport
    (hgate : PassesGate unicode options analysis ledger now) {id : String}
    (hid : id ∈ supporting analysis ledger) :
    IsGoodSupport options ledger now (supporting analysis ledger) id := by
  obtain ⟨record, hrecord⟩ := EvidenceLedger.get_of_mem_ids
    (mem_supporting.mp hid).2
  obtain ⟨hborn, hage⟩ := hgate.age hid hrecord
  refine ⟨hid, record, hrecord, hgate.status hid hrecord, hborn, hage, ?_⟩
  intro other hother hcontradicts
  have hnone := List.filter_eq_nil_iff.mp hgate.uncontradicted id
    (List.mem_flatMap.mpr ⟨other, hother, hcontradicts⟩)
  exact hnone (decide_eq_true hid)

/-! ## Closure under citation -/

/-- The identifiers cited in the conclusion and in its bullets. -/
def Cites (unicode : UnicodeData) (analysis : RootCauseAnalysis)
    (id : String) : Prop :=
  id ∈ citedEvidenceIds unicode analysis.rootCause ∨
    ∃ item ∈ analysis.keyEvidence, id ∈ citedEvidenceIds unicode item

/-- A confirmed result cites good support only. -/
def ClosedUnderCitation (unicode : UnicodeData) (options : GroundingOptions)
    (ledger : EvidenceLedger) (now : ℚ) (result : RootCauseAnalysis) : Prop :=
  result.conclusion = .confirmed →
    ∀ id, Cites unicode result id →
      IsGoodSupport options ledger now result.supportingEvidenceIds id

section Proposal

variable (unicode : UnicodeData) (options : GroundingOptions)
  (analysis : RootCauseAnalysis) (ledger : EvidenceLedger) (now : ℚ)

def EvidenceLedger.Names (id : String) : Prop :=
  ∃ record ∈ ledger.records, record.id = id

/-- The identifier is listed as support and names a record. -/
def Lists (id : String) : Prop :=
  id ∈ analysis.supportingEvidenceIds ∧ ledger.Names id

instance (id : String) : Decidable (ledger.Names id) :=
  inferInstanceAs (Decidable (∃ record ∈ ledger.records, record.id = id))

instance (id : String) : Decidable (Lists analysis ledger id) :=
  inferInstanceAs (Decidable (_ ∧ _))

def CitesListed (text : String) : Prop :=
  ∃ id ∈ citedEvidenceIds unicode text, Lists analysis ledger id

instance (text : String) :
    Decidable (CitesListed unicode analysis ledger text) :=
  inferInstanceAs (Decidable (∃ id ∈ citedEvidenceIds unicode text,
    Lists analysis ledger id))

/-- What the gate asks of a proposal: citations of listed records, and enough
of these, each usable, fresh and uncontradicted. -/
structure MeetsGate : Prop where
  conclusion : analysis.conclusion = .confirmed
  cited : CitesListed unicode analysis ledger analysis.rootCause
  listed : ∀ id ∈ citedEvidenceIds unicode analysis.rootCause,
    ledger.Names id → id ∈ analysis.supportingEvidenceIds
  bulleted : ∃ item ∈ analysis.keyEvidence,
    CitesListed unicode analysis ledger item
  enough : max 1 options.minimumSupportingRecords ≤
    ((analysis.supportingEvidenceIds.toFinset.filter ledger.Names).card : ℤ)
  usable : ∀ id ∈ analysis.supportingEvidenceIds, ∀ record,
    ledger.get id = some record →
      record.status = .ok ∨ options.allowFailedEvidence = true
  fresh : ∀ id ∈ analysis.supportingEvidenceIds, ∀ record,
    ledger.get id = some record → 0 ≤ now - record.observedAt ∧
      now - record.observedAt ≤ options.maxEvidenceAgeSeconds
  uncontradicted : ∀ record ∈ ledger.records, ∀ id ∈ record.contradicts,
    ¬Lists analysis ledger id

/-- A citation that the gate does not look at. -/
inductive CitesUnchecked : Prop
  /-- The root cause cites an identifier that no record has. -/
  | invented (id : String)
      (hcited : id ∈ citedEvidenceIds unicode analysis.rootCause)
      (hmissing : ¬ledger.Names id)
  /-- One of the first three bullets that cite a listed record cites something
  else, too. -/
  | beside (before : List String) (item : String) (after : List String)
      (id : String) (hitems : analysis.keyEvidence = before ++ item :: after)
      (hearlier : (before.countP fun earlier =>
        CitesListed unicode analysis ledger earlier) < 3)
      (hlisted : CitesListed unicode analysis ledger item)
      (hcited : id ∈ citedEvidenceIds unicode item)
      (hother : ¬Lists analysis ledger id)

end Proposal

theorem mem_ids_iff {id : String} : id ∈ ledger.ids ↔ ledger.Names id := by
  rw [EvidenceLedger.ids, List.mem_map, EvidenceLedger.Names]

theorem mem_supporting_iff {id : String} :
    id ∈ supporting analysis ledger ↔ Lists analysis ledger id := by
  rw [mem_supporting, mem_ids_iff, Lists]

theorem nodup_eraseDups (ids : List String) : ids.eraseDups.Nodup := by
  generalize hlength : ids.length = n
  induction n using Nat.strong_induction_on generalizing ids with
  | _ n ih =>
      cases ids with
      | nil => exact List.nodup_nil
      | cons id ids =>
          have hshorter :
              (ids.filter fun other => !other == id).length < n := by
            rw [← hlength, List.length_cons]
            exact Nat.lt_succ_of_le (List.length_filter_le _ ids)
          rw [List.eraseDups_cons, List.nodup_cons, List.mem_eraseDups]
          refine ⟨?_, ih _ hshorter _ rfl⟩
          simp

theorem nodup_supporting : (supporting analysis ledger).Nodup :=
  (nodup_eraseDups _).filter _

theorem length_supporting :
    (supporting analysis ledger).length =
      (analysis.supportingEvidenceIds.toFinset.filter ledger.Names).card := by
  have hsame : (supporting analysis ledger).toFinset =
      analysis.supportingEvidenceIds.toFinset.filter ledger.Names := by
    ext id
    rw [List.mem_toFinset, mem_supporting_iff, Finset.mem_filter,
      List.mem_toFinset, Lists]
  rw [← hsame, List.toFinset_card_of_nodup nodup_supporting]

theorem any_supporting_iff {text : String} :
    ((citedEvidenceIds unicode text).any (· ∈ supporting analysis ledger)) =
        true ↔
      CitesListed unicode analysis ledger text := by
  simp only [List.any_eq_true, decide_eq_true_eq, mem_supporting_iff,
    CitesListed]

/-- What the gate asks of a proposal is what the function computes. -/
theorem confirms_iff :
    Confirms unicode options analysis ledger now ↔
      MeetsGate unicode options analysis ledger now := by
  constructor
  · intro h
    have hrecord {id : String} (hid : id ∈ analysis.supportingEvidenceIds)
        {record : EvidenceRecord} (hget : ledger.get id = some record) :
        id ∈ supporting analysis ledger :=
      mem_supporting.mpr ⟨hid, List.mem_map.mpr ⟨record,
        List.mem_of_find?_eq_some hget,
        by simpa using List.find?_some hget⟩⟩
    refine ⟨h.conclusion, ?_, ?_, ?_, ?_, ?_, ?_, ?_⟩
    · obtain ⟨id, href, hid⟩ := h.cited
      exact ⟨id, (List.mem_filter.mp href).1, mem_supporting_iff.mp hid⟩
    · intro id hcited hnames
      have href : id ∈ rootRefs unicode analysis ledger :=
        List.mem_filter.mpr
          ⟨hcited, decide_eq_true (mem_ids_iff.mpr hnames)⟩
      exact (mem_supporting.mp (h.refs_supporting id href)).1
    · obtain ⟨item, hitem⟩ := List.exists_mem_of_ne_nil _ h.bulleted
      obtain ⟨hmem, hcites⟩ := List.mem_filter.mp hitem
      exact ⟨item, hmem, any_supporting_iff.mp hcites⟩
    · have henough := h.enough
      rwa [tooFewSupporting, decide_eq_false_iff_not, not_lt,
        length_supporting] at henough
    · intro id hid record hget
      exact h.status (hrecord hid hget) hget
    · intro id hid record hget
      exact h.age (hrecord hid hget) hget
    · intro record hmem id hcontradicts hlists
      have hnone := List.filter_eq_nil_iff.mp h.uncontradicted id
        (List.mem_flatMap.mpr ⟨record, hmem, hcontradicts⟩)
      exact hnone (decide_eq_true (mem_supporting_iff.mpr hlists))
  · intro h
    obtain ⟨cited, hcited, hlists⟩ := h.cited
    have hsupporting := mem_supporting_iff.mpr hlists
    refine ⟨⟨?_, ?_, ?_, ?_⟩, h.conclusion, List.ne_nil_of_mem hsupporting,
      ⟨cited, ?_, hsupporting⟩, ?_, ?_⟩
    · intro id href
      obtain ⟨hid, hnames⟩ := List.mem_filter.mp href
      have hnames := of_decide_eq_true hnames
      exact mem_supporting.mpr
        ⟨h.listed id hid (mem_ids_iff.mp hnames), hnames⟩
    · rw [statusesAreUsable, Bool.or_eq_true, List.all_eq_true]
      by_cases hallowed : options.allowFailedEvidence = true
      · exact Or.inl hallowed
      · refine Or.inr fun id hid => ?_
        obtain ⟨hmem, hnames⟩ := mem_supporting.mp hid
        obtain ⟨record, hget⟩ := EvidenceLedger.get_of_mem_ids hnames
        have hok := (h.usable id hmem record hget).resolve_right hallowed
        simp [hget, hok]
    · rw [staleSupport, List.map_eq_nil_iff, List.filter_eq_nil_iff]
      intro record hrecord
      obtain ⟨id, hid, hget⟩ := List.mem_filterMap.mp hrecord
      obtain ⟨hborn, hage⟩ :=
        h.fresh id (mem_supporting.mp hid).1 record hget
      simp only [decide_eq_true_eq, not_or, not_lt]
      exact ⟨hborn, hage⟩
    · rw [contradictedSupport, List.filter_eq_nil_iff]
      intro id hcontradicts hid
      obtain ⟨record, hrecord, hmem⟩ := List.mem_flatMap.mp hcontradicts
      exact h.uncontradicted record hrecord id hmem
        (mem_supporting_iff.mp (of_decide_eq_true hid))
    · exact List.mem_filter.mpr
        ⟨hcited, decide_eq_true (mem_ids_iff.mpr hlists.2)⟩
    · obtain ⟨item, hitem, hcites⟩ := h.bulleted
      exact List.ne_nil_of_mem
        (List.mem_filter.mpr ⟨hitem, any_supporting_iff.mpr hcites⟩)
    · have henough := h.enough
      rwa [tooFewSupporting, decide_eq_false_iff_not, not_lt,
        length_supporting]

/-- The first elements of a filtered list, by their places in the list. -/
theorem mem_take_filter_iff {α : Type} {p : α → Bool} {items : List α}
    {item : α} {count : ℕ} :
    item ∈ (items.filter p).take count ↔
      ∃ before after, items = before ++ item :: after ∧ p item = true ∧
        before.countP p < count := by
  induction items generalizing count with
  | nil => simp
  | cons first items ih =>
      have hsplit : (∃ before after, first :: items = before ++ item :: after ∧
            p item = true ∧ before.countP p < count) ↔
          (first = item ∧ p item = true ∧ 0 < count) ∨
            ∃ before after, items = before ++ item :: after ∧
              p item = true ∧ (first :: before).countP p < count := by
        constructor
        · rintro ⟨before, after, hitems, hitem, hcount⟩
          rcases before with _ | ⟨other, before⟩
          · obtain ⟨rfl, -⟩ := List.cons.inj hitems
            exact Or.inl ⟨rfl, hitem, hcount⟩
          · obtain ⟨rfl, hrest⟩ := List.cons.inj hitems
            exact Or.inr ⟨before, after, hrest, hitem, hcount⟩
        · rintro (⟨rfl, hitem, hcount⟩ | ⟨before, after, rfl, hitem, hcount⟩)
          · exact ⟨[], items, rfl, hitem, hcount⟩
          · exact ⟨first :: before, after, rfl, hitem, hcount⟩
      rw [hsplit]
      by_cases hfirst : p first = true
      · rcases count with _ | count
        · simp
        · simp only [List.filter_cons_of_pos hfirst, List.take_succ_cons,
            List.mem_cons, ih, List.countP_cons_of_pos hfirst,
            Nat.add_lt_add_iff_right]
          constructor
          · rintro (rfl | h)
            · exact Or.inl ⟨rfl, hfirst, Nat.succ_pos count⟩
            · exact Or.inr h
          · rintro (⟨rfl, -, -⟩ | h)
            · exact Or.inl rfl
            · exact Or.inr h
      · simp only [List.filter_cons_of_neg hfirst, ih,
          List.countP_cons_of_neg hfirst]
        constructor
        · exact Or.inr
        · rintro (⟨rfl, hitem, -⟩ | h)
          · exact absurd hitem hfirst
          · exact h

/-- A confirmed conclusion is closed under citation unless a proposal that
meets the gate cites something that the gate does not look at. -/
theorem confirmed_closed_iff (unicode : UnicodeData)
    (options : GroundingOptions) (analysis : RootCauseAnalysis)
    (ledger : EvidenceLedger) (now : ℚ) :
    ClosedUnderCitation unicode options ledger now
        (groundAnalysis unicode options analysis ledger now) ↔
      ¬(MeetsGate unicode options analysis ledger now ∧
        CitesUnchecked unicode analysis ledger) := by
  have hresult (hconfirmed :
      confirmable unicode options analysis ledger now = true) :
      groundAnalysis unicode options analysis ledger now =
        { analysis with
          supportingEvidenceIds := supporting analysis ledger
          keyEvidence := (groundedBullets unicode analysis ledger).take 3
          remediation :=
            sanitizeRemediation unicode analysis.remediation false } := by
    rw [groundAnalysis, if_pos hconfirmed]
  -- The bullets that are kept, by their places among the proposed ones.
  have hkept {item : String} :
      item ∈ (groundedBullets unicode analysis ledger).take 3 ↔
        ∃ before after, analysis.keyEvidence = before ++ item :: after ∧
          CitesListed unicode analysis ledger item ∧
          (before.countP fun earlier =>
            CitesListed unicode analysis ledger earlier) < 3 := by
    have hsame : (fun item => (citedEvidenceIds unicode item).any
          (· ∈ supporting analysis ledger)) =
        fun item => decide (CitesListed unicode analysis ledger item) := by
      funext item
      rw [Bool.eq_iff_iff, any_supporting_iff, decide_eq_true_iff]
    rw [groundedBullets, hsame, mem_take_filter_iff]
    simp only [decide_eq_true_eq]
  constructor
  · rintro hclosed ⟨hgate, hunchecked⟩
    have hconfirmed := confirmable_iff.mpr (confirms_iff.mpr hgate)
    have hgood := hclosed (conclusion_groundAnalysis.mpr hconfirmed)
    rw [hresult hconfirmed] at hgood
    cases hunchecked with
    | invented id hcited hmissing =>
        have hlists := mem_supporting_iff.mp (hgood id (Or.inl hcited)).1
        exact hmissing hlists.2
    | beside before item after id hitems hearlier hlisted hcited hother =>
        have hitem := hkept.mpr ⟨before, after, hitems, hlisted, hearlier⟩
        exact hother (mem_supporting_iff.mp
          (hgood id (Or.inr ⟨item, hitem, hcited⟩)).1)
  · intro hnot hconclusion id hcites
    have hconfirmed := conclusion_groundAnalysis.mp hconclusion
    have hgate := confirms_iff.mp (confirmable_iff.mp hconfirmed)
    have hchecked : ¬CitesUnchecked unicode analysis ledger :=
      fun hunchecked => hnot ⟨hgate, hunchecked⟩
    rw [hresult hconfirmed] at hcites ⊢
    apply (passesGate hconfirmed).isGoodSupport
    rw [mem_supporting_iff]
    rcases hcites with hcited | ⟨item, hitem, hcited⟩
    · by_cases hnames : ledger.Names id
      · exact ⟨hgate.listed id hcited hnames, hnames⟩
      · exact absurd (.invented id hcited hnames) hchecked
    · by_contra hother
      obtain ⟨before, after, hitems, hlisted, hearlier⟩ := hkept.mp hitem
      exact hchecked
        (.beside before item after id hitems hearlier hlisted hcited hother)

/-! ## A citation of nothing -/

def crashLoopAnalysis : RootCauseAnalysis where
  summary := "Disk incident"
  conclusion := .confirmed
  affectedComponent := "/var"
  rootCause := "A crash loop filled the disk [E1], see [E9]."
  supportingEvidenceIds := ["E1"]
  keyEvidence := ["[E1] /var is full"]
  remediation := []
  urgency := .critical
  confidence := 9 / 10

def fullDiskLedger : EvidenceLedger :=
  EvidenceLedger.add ⟨"client", []⟩ "salt" "disk_usage" .ok
    "Filesystem /var is full" (.text "") none 12000 0

/-- A confirmed root cause cites a record that does not exist. -/
theorem confirmed_cites_missing_record :
    ¬∀ (unicode : UnicodeData) (options : GroundingOptions)
      (analysis : RootCauseAnalysis) (ledger : EvidenceLedger) (now : ℚ),
      ClosedUnderCitation unicode options ledger now
        (groundAnalysis unicode options analysis ledger now) := by
  intro hall
  let unicode : UnicodeData := ⟨Char.isAlphanum, fun _ _ => rfl⟩
  let options : GroundingOptions := ⟨false, 300, 1⟩
  have hconfirmed :
      (groundAnalysis unicode options crashLoopAnalysis fullDiskLedger
        10).conclusion = .confirmed := by
    decide +kernel
  have hcites : Cites unicode (groundAnalysis unicode options crashLoopAnalysis
      fullDiskLedger 10) "E9" := Or.inl (by decide +kernel)
  obtain ⟨hlisted, -⟩ := hall unicode options crashLoopAnalysis fullDiskLedger
    10 hconfirmed "E9" hcites
  exact absurd hlisted (by decide +kernel)

end UyuniAgent.Investigation
