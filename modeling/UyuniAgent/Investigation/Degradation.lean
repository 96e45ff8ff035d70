import UyuniAgent.Investigation.Grounding
import Mathlib.Data.List.Forall2

/-!
# Degraded evidence

Records that fail, contradictions that turn up and failed records that are
appended never make the gate confirm more.  Appended records add identifiers
that can be cited, but whatever a confirmed conclusion cites is a record that
succeeded, and those were in the ledger before.
-/

namespace UyuniAgent.Investigation

/-! ## Worse ledgers -/

/-- A record that may have failed, and that may contradict more. -/
structure DegradedRecord (record degraded : EvidenceRecord) : Prop where
  same : degraded = { record with
    status := degraded.status
    contradicts := degraded.contradicts }
  status : degraded.status = record.status ∨ degraded.status ≠ .ok
  contradicts : record.contradicts ⊆ degraded.contradicts

/-- The records are degraded, and others that failed come after them. -/
def Degraded (ledger degraded : EvidenceLedger) : Prop :=
  ∃ kept appended, degraded.records = kept ++ appended ∧
    List.Forall₂ DegradedRecord ledger.records kept ∧
    ∀ record ∈ appended, record.status ≠ .ok

theorem DegradedRecord.id_eq {record degraded : EvidenceRecord}
    (h : DegradedRecord record degraded) : degraded.id = record.id := by
  rw [h.same]

theorem DegradedRecord.observedAt_eq {record degraded : EvidenceRecord}
    (h : DegradedRecord record degraded) :
    degraded.observedAt = record.observedAt := by
  rw [h.same]

namespace Degraded

variable {ledger degraded : EvidenceLedger} {id : String}

theorem ids_subset (h : Degraded ledger degraded) :
    ledger.ids ⊆ degraded.ids := by
  obtain ⟨kept, appended, hrecords, hkept, -⟩ := h
  rw [EvidenceLedger.ids, EvidenceLedger.ids, hrecords, List.map_append]
  have hsame : kept.map (·.id) = ledger.records.map (·.id) := by
    clear hrecords
    generalize ledger.records = records at hkept
    induction hkept with
    | nil => rfl
    | cons hrecord _ ih =>
        rw [List.map_cons, List.map_cons, hrecord.id_eq, ih]
  rw [hsame]
  exact List.subset_append_left _ _

theorem contradicts_subset (h : Degraded ledger degraded) :
    ledger.records.flatMap (·.contradicts) ⊆
      degraded.records.flatMap (·.contradicts) := by
  obtain ⟨kept, appended, hrecords, hkept, -⟩ := h
  rw [hrecords, List.flatMap_append]
  refine List.Subset.trans ?_ (List.subset_append_left _ _)
  clear hrecords
  generalize ledger.records = records at hkept
  induction hkept with
  | nil => exact List.Subset.refl _
  | cons hrecord _ ih =>
      rw [List.flatMap_cons, List.flatMap_cons]
      exact List.append_subset.mpr
        ⟨List.subset_append_of_subset_left _ hrecord.contradicts,
          List.subset_append_of_subset_right _ ih⟩

/-- A record that succeeded was there before, and had succeeded. -/
theorem get_of_ok (h : Degraded ledger degraded) {record : EvidenceRecord}
    (hget : degraded.get id = some record) (hok : record.status = .ok) :
    ∃ before, ledger.get id = some before ∧ before.status = .ok ∧
      before.observedAt = record.observedAt := by
  obtain ⟨kept, appended, hrecords, hkept, happended⟩ := h
  rw [EvidenceLedger.get, hrecords, List.find?_append] at hget
  rcases hfound : kept.find? (·.id = id) with _ | found
  · rw [hfound, Option.none_or] at hget
    exact absurd hok (happended record (List.mem_of_find?_eq_some hget))
  · rw [hfound, Option.some_or] at hget
    obtain rfl := Option.some.inj hget
    rw [EvidenceLedger.get]
    clear hrecords
    generalize ledger.records = records at hkept
    induction hkept with
    | nil => cases hfound
    | @cons before after _ _ hrecord _ ih =>
        by_cases hid : before.id = id
        · rw [List.find?_cons_of_pos
            (by simp [hrecord.id_eq, hid])] at hfound
          obtain rfl := Option.some.inj hfound
          refine ⟨before, List.find?_cons_of_pos (by simp [hid]), ?_,
            hrecord.observedAt_eq.symm⟩
          rcases hrecord.status with hsame | hfailed
          · rw [← hsame, hok]
          · exact absurd hok hfailed
        · rw [List.find?_cons_of_neg
            (by simp [hrecord.id_eq, hid])] at hfound
          rw [List.find?_cons_of_neg (by simp [hid])]
          exact ih hfound

end Degraded

/-! ## The gate on a worse ledger -/

section Gate

variable {unicode : UnicodeData} {options : GroundingOptions}
  {analysis : RootCauseAnalysis} {ledger degraded : EvidenceLedger} {now : ℚ}

/-- What supports a conclusion that is confirmed on the worse ledger. -/
theorem Degraded.get_of_supporting (h : Degraded ledger degraded)
    (hgate : PassesGate unicode options analysis degraded now)
    (hstrict : options.allowFailedEvidence = false) {id : String}
    (hid : id ∈ supporting analysis degraded) :
    ∃ before, ledger.get id = some before ∧ before.status = .ok ∧
      ∃ record, degraded.get id = some record ∧
        before.observedAt = record.observedAt := by
  obtain ⟨record, hrecord⟩ :=
    EvidenceLedger.get_of_mem_ids (mem_supporting.mp hid).2
  have hok : record.status = .ok := by
    rcases hgate.status hid hrecord with hok | hallowed
    · exact hok
    · rw [hstrict] at hallowed
      cases hallowed
  obtain ⟨before, hbefore, hstatus, hobserved⟩ := h.get_of_ok hrecord hok
  exact ⟨before, hbefore, hstatus, record, hrecord, hobserved⟩

theorem EvidenceLedger.mem_ids_of_get {id : String} {record : EvidenceRecord}
    (h : ledger.get id = some record) : id ∈ ledger.ids := by
  have hid : record.id = id := by simpa using List.find?_some h
  exact List.mem_map.mpr ⟨record, List.mem_of_find?_eq_some h, hid⟩

/-- The same records support the conclusion. -/
theorem Degraded.supporting_eq (h : Degraded ledger degraded)
    (hgate : PassesGate unicode options analysis degraded now)
    (hstrict : options.allowFailedEvidence = false) :
    supporting analysis ledger = supporting analysis degraded := by
  apply List.filter_congr
  intro id hlisted
  rw [decide_eq_decide]
  constructor
  · intro hid
    exact h.ids_subset hid
  · intro hid
    have hsupports : id ∈ supporting analysis degraded :=
      List.mem_filter.mpr ⟨hlisted, decide_eq_true hid⟩
    obtain ⟨before, hbefore, -⟩ := h.get_of_supporting hgate hstrict hsupports
    exact EvidenceLedger.mem_ids_of_get hbefore

theorem Degraded.rootRefs_subset (h : Degraded ledger degraded) :
    rootRefs unicode analysis ledger ⊆ rootRefs unicode analysis degraded := by
  intro id hid
  obtain ⟨hcited, hlisted⟩ := List.mem_filter.mp hid
  exact List.mem_filter.mpr
    ⟨hcited, decide_eq_true (h.ids_subset (of_decide_eq_true hlisted))⟩

/-- The tests that concern single records. -/
theorem Degraded.passesGate (h : Degraded ledger degraded)
    (hgate : PassesGate unicode options analysis degraded now)
    (hstrict : options.allowFailedEvidence = false) :
    PassesGate unicode options analysis ledger now := by
  have hsame := h.supporting_eq hgate hstrict
  refine ⟨?_, ?_, ?_, ?_⟩
  · intro id hid
    rw [hsame]
    exact hgate.refs_supporting id (h.rootRefs_subset hid)
  · rw [statusesAreUsable, hstrict, Bool.false_or, List.all_eq_true, hsame]
    intro id hid
    obtain ⟨before, hbefore, hok, -⟩ := h.get_of_supporting hgate hstrict hid
    rw [hbefore]
    simpa using hok
  · rw [staleSupport, List.map_eq_nil_iff, List.filter_eq_nil_iff]
    intro before hmem
    obtain ⟨id, hid, hbefore⟩ := List.mem_filterMap.mp hmem
    rw [hsame] at hid
    obtain ⟨before', hbefore', -, record, hrecord, hobserved⟩ :=
      h.get_of_supporting hgate hstrict hid
    obtain rfl := Option.some.inj (hbefore.symm.trans hbefore')
    have hage := hgate.age hid hrecord
    rw [← hobserved] at hage
    simpa using hage
  · have hnone := List.filter_eq_nil_iff.mp hgate.uncontradicted
    rw [contradictedSupport, List.filter_eq_nil_iff, hsame]
    intro id hid
    exact hnone id (h.contradicts_subset hid)

theorem Degraded.confirms (h : Degraded ledger degraded)
    (hconfirms : Confirms unicode options analysis degraded now)
    (hstrict : options.allowFailedEvidence = false) :
    Confirms unicode options analysis ledger now := by
  have hgate := hconfirms.toPassesGate
  have hsame := h.supporting_eq hgate hstrict
  refine ⟨h.passesGate hgate hstrict, hconfirms.conclusion, ?_, ?_, ?_, ?_⟩
  · rw [hsame]
    exact hconfirms.supported
  · obtain ⟨id, hid, hsupports⟩ := hconfirms.cited
    obtain ⟨before, hbefore, -⟩ := h.get_of_supporting hgate hstrict hsupports
    refine ⟨id, List.mem_filter.mpr ⟨(List.mem_filter.mp hid).1, ?_⟩,
      hsame ▸ hsupports⟩
    exact decide_eq_true (EvidenceLedger.mem_ids_of_get hbefore)
  · rw [groundedBullets, hsame]
    exact hconfirms.bulleted
  · rw [tooFewSupporting, hsame]
    exact hconfirms.enough

/-- What is confirmed on degraded evidence is confirmed, with the same result,
on the evidence before. -/
theorem confirmed_of_degraded (unicode : UnicodeData)
    (options : GroundingOptions) (analysis : RootCauseAnalysis)
    (ledger degraded : EvidenceLedger) (now : ℚ)
    (hstrict : options.allowFailedEvidence = false)
    (hdegraded : Degraded ledger degraded)
    (hconfirmed : (groundAnalysis unicode options analysis degraded
      now).conclusion = .confirmed) :
    (groundAnalysis unicode options analysis ledger now).conclusion =
        .confirmed ∧
      groundAnalysis unicode options analysis ledger now =
        groundAnalysis unicode options analysis degraded now := by
  have hafter := conclusion_groundAnalysis.mp hconfirmed
  have hconfirms := confirmable_iff.mp hafter
  have hbefore := confirmable_iff.mpr (hdegraded.confirms hconfirms hstrict)
  refine ⟨conclusion_groundAnalysis.mpr hbefore, ?_⟩
  have hsame := hdegraded.supporting_eq hconfirms.toPassesGate hstrict
  rw [groundAnalysis, groundAnalysis, if_pos hbefore, if_pos hafter,
    groundedBullets, groundedBullets, hsame]

end Gate

/-- An inspection that failed afterwards does not touch the conclusion. -/
theorem confirmed_of_degraded_fullDisk :
    let unicode : UnicodeData := ⟨Char.isAlphanum, fun _ _ => rfl⟩
    groundAnalysis unicode ⟨false, 300, 1⟩ crashLoopAnalysis fullDiskLedger
        10 =
      groundAnalysis unicode ⟨false, 300, 1⟩ crashLoopAnalysis
        (fullDiskLedger.add "salt" "largest_files" .error
          "Salt largest-file inspection failed" (.text "") none 12000 0)
        10 := by
  have hdegraded : Degraded fullDiskLedger
      (fullDiskLedger.add "salt" "largest_files" .error
        "Salt largest-file inspection failed" (.text "") none 12000 0) := by
    refine ⟨fullDiskLedger.records, _, rfl, ?_, ?_⟩
    · exact List.forall₂_same.mpr fun record _ =>
        ⟨rfl, Or.inl rfl, List.Subset.refl _⟩
    · simp
  exact (confirmed_of_degraded ⟨Char.isAlphanum, fun _ _ => rfl⟩
    ⟨false, 300, 1⟩ crashLoopAnalysis fullDiskLedger _ 10 rfl hdegraded
    (by decide +kernel)).2

end UyuniAgent.Investigation
