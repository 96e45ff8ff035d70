import UyuniAgent.Investigation.Collectors

/-!
# Failed inspections in the ledger

A failed Salt call reaches the ledger as text, and `evidence_status_for` has to
recognise it there.  Two paths lose the mark: `disk_usage` renders the value
`False` or `None` as a word, and a two-ended inspection puts the failure of an
end behind its own header.
-/

namespace UyuniAgent.Investigation

open Raising Salt

variable {py : Interpreter} {client : SaltClient}

/-! ## The status of a text -/

theorem evidenceStatusFor_str_eq_ok_iff {text : String} :
    evidenceStatusFor py (.str text) = .ok ↔
      PyText.strip text ≠ "" ∧
        PyText.startsWith (PyText.strip text) callFailed = false ∧
        remoteFailureMarkers.any
          (PyText.contains (PyText.lower (PyText.strip text))) = false := by
  simp only [evidenceStatusFor, PyValue.toStr]
  by_cases hempty : PyText.strip text = ""
  · simp [hempty]
  · by_cases hfailed : PyText.startsWith (PyText.strip text) callFailed = true
    · simp [hempty, hfailed]
    · simp [hempty, hfailed]

/-- A text that begins with the mark of a failed call is no good evidence. -/
theorem evidenceStatusFor_ne_ok_of_failed {text : String}
    (h : PyText.startsWith text callFailed = true) :
    evidenceStatusFor py (.str text) ≠ .ok := by
  intro hok
  have hmark : callFailed.toList =
      'S' :: "alt API call failed".toList ++ [':'] := by decide +kernel
  have hstrip : PyText.startsWith (PyText.strip text) callFailed = true :=
    PyText.startsWith_strip hmark (by decide) (by decide) h
  rw [(evidenceStatusFor_str_eq_ok_iff.mp hok).2.1] at hstrip
  cases hstrip

/-! ## One inspection -/

/-- Some Salt call of the inspection failed. -/
def HasFailedCall (py : Interpreter) (client : SaltClient)
    (inspection : Inspection) : Prop :=
  ∃ call ∈ inspection.calls py, ∃ value,
    client.safeCall py call = .ok value ∧ IsFailure value

/-- The failure of a call can be seen in what the inspection returns. -/
def ShowsFailure (py : Interpreter) (client : SaltClient) :
    Inspection → Prop
  | .diskUsage minion =>
      client.safeCall py ⟨minion, .diskUsage⟩ ≠ .ok (.bool false) ∧
        client.safeCall py ⟨minion, .diskUsage⟩ ≠ .ok .none
  | .command _ _ => True
  | .dependency edge =>
      HasFailedCall py client (.dependency edge) →
        ∀ output, client.inspectDependency py edge.id edge.kind = .ok output →
          remoteFailureMarkers.any
            (PyText.contains (PyText.lower (PyText.strip output))) = true

/-- `run_command` marks every failed call. -/
theorem runCommand_of_failed {allowedMinions : List String} {minionId : String}
    {operation : Operation} {value : PyValue} {output : String}
    (hvalue : Salt.safeCall py allowedMinions minionId operation = .ok value)
    (hfailed : IsFailure value)
    (hrun : runCommand py allowedMinions minionId operation = .ok output) :
    PyText.startsWith output callFailed = true := by
  rw [runCommand, hvalue] at hrun
  rcases hfailed with rfl | rfl | ⟨text, rfl, htext⟩
  · obtain rfl := Except.ok.inj hrun
    decide +kernel
  · obtain rfl := Except.ok.inj hrun
    decide +kernel
  · obtain rfl := Except.ok.inj hrun
    exact htext

theorem command_shows {minion : String} {requested : SaltCommand}
    {output : String}
    (hrun : client.run py minion requested = .ok output)
    (hfailed : HasFailedCall py client (.command minion requested)) :
    evidenceStatusFor py (.str output) ≠ .ok := by
  obtain ⟨call, hcall, value, hvalue, hfailure⟩ := hfailed
  obtain ⟨built, hbuilt, hrun⟩ := bind_eq_ok_iff.mp hrun
  simp only [Inspection.calls, hbuilt, List.mem_singleton] at hcall
  subst hcall
  exact evidenceStatusFor_ne_ok_of_failed
    (runCommand_of_failed hvalue hfailure hrun)

theorem diskUsage_shows_iff {minion : String} {output : String}
    (hrun : client.diskUsage py minion = .ok output)
    (hfailed : HasFailedCall py client (.diskUsage minion)) :
    evidenceStatusFor py (.str output) ≠ .ok ↔
      ShowsFailure py client (.diskUsage minion) := by
  obtain ⟨call, hcall, value, hvalue, hfailure⟩ := hfailed
  obtain rfl := List.mem_singleton.mp hcall
  rw [SaltClient.diskUsage, hvalue] at hrun
  obtain rfl := Except.ok.inj hrun
  rw [ShowsFailure, hvalue]
  rcases hfailure with rfl | rfl | ⟨text, rfl, htext⟩
  · have hok : evidenceStatusFor py (.str "False") = .ok :=
      evidenceStatusFor_str_eq_ok_iff.mpr (by decide +kernel)
    exact iff_of_false (not_not.mpr hok) (fun h => h.1 rfl)
  · have hok : evidenceStatusFor py (.str "None") = .ok :=
      evidenceStatusFor_str_eq_ok_iff.mpr (by decide +kernel)
    exact iff_of_false (not_not.mpr hok) (fun h => h.2 rfl)
  · refine iff_of_true ?_ ?_
    · exact evidenceStatusFor_ne_ok_of_failed htext
    · constructor
      · intro h
        cases Except.ok.inj h
      · intro h
        cases Except.ok.inj h

/-- The header of a two-ended inspection stands before everything else. -/
theorem startsWith_strip_dependencyText (edge : InspectionEdge)
    (kind : DependencyKind) (source target : String) :
    PyText.startsWith
      (PyText.strip (SaltClient.dependencyText edge kind source target))
      "DEPENDENCY" = true := by
  have hhead : "DEPENDENCY".toList = 'D' :: "EPENDENC".toList ++ ['Y'] := by
    decide +kernel
  have hstarts : PyText.startsWith
      (SaltClient.dependencyText edge kind source target) "DEPENDENCY" =
        true := by
    unfold SaltClient.dependencyText
    have hlabel : "DEPENDENCY id=" = "DEPENDENCY" ++ " id=" := by
      decide +kernel
    rw [hlabel]
    simp only [String.append_assoc]
    exact PyText.startsWith_append _ _
  exact PyText.startsWith_strip hhead (by decide) (by decide) hstarts

theorem dependency_shows_iff {edge : InspectionEdge} {output : String}
    (hrun : client.inspectDependency py edge.id edge.kind = .ok output)
    (hfailed : HasFailedCall py client (.dependency edge)) :
    evidenceStatusFor py (.str output) ≠ .ok ↔
      ShowsFailure py client (.dependency edge) := by
  have hshows : ShowsFailure py client (.dependency edge) ↔
      remoteFailureMarkers.any
        (PyText.contains (PyText.lower (PyText.strip output))) = true := by
    refine ⟨fun h => h hfailed output hrun, ?_⟩
    intro hmarked _ other hother
    obtain rfl := Except.ok.inj (hrun.symm.trans hother)
    exact hmarked
  obtain ⟨found, -, hrest⟩ := bind_eq_ok_iff.mp hrun
  obtain ⟨source, -, hrest⟩ := bind_eq_ok_iff.mp hrest
  obtain ⟨target, -, heq⟩ := bind_eq_ok_iff.mp hrest
  obtain rfl := Except.ok.inj heq
  have hheader := startsWith_strip_dependencyText found edge.kind source target
  have hunmarked : PyText.startsWith (PyText.strip
      (SaltClient.dependencyText found edge.kind source target)) callFailed =
        false :=
    PyText.startsWith_of_head_ne hheader (by decide) (by decide +kernel)
      (by decide +kernel)
  have hsome : PyText.strip
      (SaltClient.dependencyText found edge.kind source target) ≠ "" := by
    intro hempty
    rw [hempty] at hheader
    exact absurd hheader (by decide +kernel)
  rw [hshows, ne_eq, evidenceStatusFor_str_eq_ok_iff]
  simp [hsome, hunmarked]

/-- A failed inspection is no good evidence exactly when its failure shows. -/
theorem status_ne_ok_iff {inspection : Inspection} {output : String}
    (hrun : inspection.run py client = .ok output)
    (hfailed : HasFailedCall py client inspection) :
    evidenceStatusFor py (.str output) ≠ .ok ↔
      ShowsFailure py client inspection := by
  rcases inspection with minion | ⟨minion, requested⟩ | edge
  · exact diskUsage_shows_iff hrun hfailed
  · exact iff_of_true (command_shows hrun hfailed) trivial
  · exact dependency_shows_iff hrun hfailed

/-! ## The ledger -/

/-- No record that is built from a failed call is good evidence. -/
def FailuresShow (py : Interpreter) (client : SaltClient) (metric : String)
    (anomaly : Anomaly) (now : ℚ) : Prop :=
  ∀ collector entries,
    requiredEvidenceCollectors.lookup metric = some collector →
    collector.entries py (some client) anomaly = .ok entries →
    ∀ k required output record,
      entries[k]? = some (.salt required output) →
      (ledgerWith py anomaly now entries).records[
        (ledgerForAnomaly anomaly now).records.length + k]? = some record →
      HasFailedCall py client required.inspection → record.status ≠ .ok

/-- Every failed inspection that the collector makes shows its failure. -/
def FailedInspectionsShow (py : Interpreter) (client : SaltClient)
    (metric : String) (anomaly : Anomaly) : Prop :=
  ∀ collector entries,
    requiredEvidenceCollectors.lookup metric = some collector →
    collector.entries py (some client) anomaly = .ok entries →
    ∀ required output, .salt required output ∈ entries →
      HasFailedCall py client required.inspection →
      ShowsFailure py client required.inspection

/-- A failed inspection never serves as good evidence, if and only if every
failed inspection shows its failure. -/
theorem failures_show_iff (py : Interpreter) (client : SaltClient)
    (metric : String) (anomaly : Anomaly) (now : ℚ) :
    FailuresShow py client metric anomaly now ↔
      FailedInspectionsShow py client metric anomaly := by
  constructor
  · intro hshow collector entries hcollector hentries required output hmem
      hfailed
    obtain ⟨k, hk⟩ := List.mem_iff_getElem?.mp hmem
    obtain ⟨record, hrecord, hstatus⟩ := record_of_entry hk
    have hbad := hshow collector entries hcollector hentries k required output
      record hk hrecord hfailed
    rw [hstatus] at hbad
    have hrun := collect_from hcollector hentries required output hmem
    exact (status_ne_ok_iff hrun hfailed).mp hbad
  · intro hshows collector entries hcollector hentries k required output record
      hk hrecord hfailed
    have hmem : .salt required output ∈ entries := List.mem_of_getElem? hk
    have hrun := collect_from hcollector hentries required output hmem
    obtain ⟨record', hrecord', hstatus⟩ := record_of_entry hk
    obtain rfl : record' = record :=
      Option.some.inj (hrecord'.symm.trans hrecord)
    rw [hstatus]
    exact (status_ne_ok_iff hrun hfailed).mpr
      (hshows collector entries hcollector hentries required output hmem
        hfailed)

/-! ## A failed end -/

/-- The configured dependency of a service on `web` on the host `db`. -/
def databaseEdge : InspectionEdge :=
  ⟨"web-db", .tls, "web", "shop.service", "db"⟩

/-- Salt answers everything but the target end of the dependency. -/
def halfReachableClient : SaltClient where
  allowedMinions := ["web", "db"]
  dependencies := [databaseEdge]
  dependencies_nodup := by simp [databaseEdge]
  operation := fun call =>
    let answer : HttpReply :=
      if call.command = .dependencyTarget "web-db" then
        .failed "connection refused"
      else .response 200 "" (some "\x7b\"return\": [\x7b\"web\": \"done\"\x7d]\x7d")
    ⟨⟨true, true, .failed "", answer, .failed "", .failed ""⟩, none, false⟩

def failedShop : Anomaly where
  minionId := "web"
  metricName := "service_down"
  currentValue := 1
  threshold := 1
  severity := .critical
  description := "Systemd service shop.service is in failed state"
  serviceName := some "shop.service"
  resource := none
  context := .service "Shop" "failed" "failed"

/-- The last entry of the collection, with its status. -/
def lastStatus (py : Interpreter) (entries : List EvidenceEntry) :
    Option (Inspection × EvidenceStatus) :=
  match (entries[3]? : Option EvidenceEntry) with
  | some (.salt required output) =>
      some (required.inspection, evidenceStatusFor py (.str output))
  | _ => none

/-- The record of the dependency is good evidence although one end of the
inspection failed. -/
theorem failed_end_is_good_evidence :
    ¬∀ (py : Interpreter) (client : SaltClient) (metric : String)
      (anomaly : Anomaly) (now : ℚ),
      FailuresShow py client metric anomaly now := by
  intro hall
  let py : Interpreter := ⟨1000, fun _ => ""⟩
  have hreached : (collectRequiredServiceEvidence.entries py
      (some halfReachableClient) failedShop).toOption.any (fun entries =>
        decide (lastStatus py entries =
          some (.dependency databaseEdge, .ok))) = true := by decide +kernel
  obtain ⟨entries, hentries, hlast⟩ := Option.any_eq_true _ _ |>.mp hreached
  have hcollected : collectRequiredServiceEvidence.entries py
      (some halfReachableClient) failedShop = .ok entries := by
    rcases hresult : collectRequiredServiceEvidence.entries py
      (some halfReachableClient) failedShop with e | found
    · rw [hresult] at hentries
      cases hentries
    · rw [hresult] at hentries
      rw [Option.some.inj hentries]
  have hlast := of_decide_eq_true hlast
  simp only [lastStatus] at hlast
  split at hlast
  next required output hentry =>
    obtain ⟨hinspection, hstatus⟩ := Prod.mk.inj (Option.some.inj hlast)
    obtain ⟨record, hrecord, hrecordStatus⟩ :=
      @record_of_entry py 0 (ledgerForAnomaly failedShop 0) entries 3 _ hentry
    apply hall py halfReachableClient "service_down" failedShop 0
      collectRequiredServiceEvidence entries rfl hcollected 3 required output
      record hentry hrecord
    · rw [hinspection]
      refine ⟨⟨"db", .dependencyTarget "web-db"⟩, by simp [Inspection.calls,
        databaseEdge], .str "Salt API call failed: connection refused", ?_, ?_⟩
      · simp [SaltClient.safeCall, Salt.safeCall, execute, call,
          validateConfiguredMinion, Exchange.body, halfReachableClient, post,
          SaltException.expected, SaltException.text, bind, Except.bind]
      · exact Or.inr (Or.inr ⟨_, rfl, by decide +kernel⟩)
    · rw [hrecordStatus]
      exact hstatus
  next => cases hlast

end UyuniAgent.Investigation
