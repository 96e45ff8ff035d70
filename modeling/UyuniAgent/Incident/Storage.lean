import UyuniAgent.Incident.Store
import UyuniAgent.Support.JsonText

/-!
# What the incident store writes as JSON

The text that `incident_fingerprint` hashes, and the `payload_json` of a row.
The table of `Store.lean` keeps a payload as a record; here is the text that
`mark_emitted` puts in its place, and what `_decode_payload` makes of it in a
later poll or after a restart.
-/

namespace UyuniAgent.Incident

open Json

/-! ## Identity keys -/

/-- `list(anomaly.identity_key())`. -/
def identityList (key : IdentityKey) : PyValue :=
  .list [.str key.minionId, .str key.metricName, .str key.serviceName,
    .str key.resource]

/-- The text that is hashed. -/
def encodedIdentity (py : Interpreter) (key : IdentityKey) : String :=
  dumps py (identityList key)

/-- `incident_fingerprint` over some digest of the encoded text. -/
def hashedFingerprint {F : Type} (py : Interpreter) (digest : String → F)
    (anomaly : Anomaly) : F :=
  digest (encodedIdentity py anomaly.identityKey)

theorem identityList_fits (key : IdentityKey) : Fits 1 (identityList key) := by
  refine Fits.list _ _ ?_
  intro item hitem
  simp only [List.mem_cons, List.not_mem_nil, or_false] at hitem
  obtain rfl | rfl | rfl | rfl := hitem
  all_goals exact Fits.str _ _

theorem encodedIdentity_injective (py : Interpreter) :
    Function.Injective (encodedIdentity py) := by
  intro key other h
  have hlist := (dumps_inj (identityList_fits key)
    (identityList_fits other)).mp h
  obtain ⟨minionId, metricName, serviceName, resource⟩ := key
  obtain ⟨minionId', metricName', serviceName', resource'⟩ := other
  cases hlist
  rfl

/-- Whatever the names contain, two anomalies share an incident only when
their identities agree or the digest collides on different texts. -/
theorem hashedFingerprint_eq_iff {F : Type} (py : Interpreter)
    (digest : String → F) (a b : Anomaly) :
    hashedFingerprint py digest a = hashedFingerprint py digest b ↔
      a.identityKey = b.identityKey ∨
        encodedIdentity py a.identityKey ≠ encodedIdentity py b.identityKey ∧
          digest (encodedIdentity py a.identityKey) =
            digest (encodedIdentity py b.identityKey) := by
  constructor
  · intro h
    by_cases hkey : a.identityKey = b.identityKey
    · exact Or.inl hkey
    · exact Or.inr ⟨fun htext => hkey (encodedIdentity_injective py htext), h⟩
  · rintro (hkey | ⟨-, hdigest⟩)
    · rw [hashedFingerprint, hashedFingerprint, hkey]
    · exact hdigest

/-! ## Payloads as dictionaries -/

/-- The labels in the order in which `build_alert_payload` inserts them. -/
def labelEntries (labels : Labels String) : List (String × String) :=
  [("alertname", labels.alertname), ("severity", labels.severity),
    ("source", labels.source), ("minion", labels.minion),
    ("metric", labels.metric)] ++
  (labels.incidentId.map fun value => ("incident_id", value)).toList ++
  (labels.service.map fun value => ("service", value)).toList ++
  (labels.resource.map fun value => ("resource", value)).toList

def annotationEntries (annotations : Annotations) : List (String × String) :=
  [("summary", annotations.summary), ("conclusion", annotations.conclusion),
    ("root_cause", annotations.rootCause),
    ("affected_component", annotations.affectedComponent),
    ("supporting_evidence_ids", annotations.supportingEvidenceIds),
    ("key_evidence", annotations.keyEvidence),
    ("remediation", annotations.remediation),
    ("urgency", annotations.urgency), ("confidence", annotations.confidence),
    ("description", annotations.description)]

/-- A dictionary of strings. -/
def textDict (entries : List (String × String)) : PyValue :=
  .dict (entries.map fun entry => (entry.1, .str entry.2))

/-- The dictionary of a payload, with the texts of its times. -/
def payloadMembers (stamp : Rfc3339 → String) (payload : AlertPayload String) :
    List (String × PyValue) :=
  [("labels", textDict (labelEntries payload.labels)),
    ("annotations", textDict (annotationEntries payload.annotations)),
    ("startsAt", .str (stamp payload.startsAt))] ++
  (payload.endsAt.map fun time => ("endsAt", .str (stamp time))).toList

/-- The `payload_json` that `mark_emitted` writes. -/
def encodedPayload (py : Interpreter) (stamp : Rfc3339 → String)
    (payload : AlertPayload String) : String :=
  dumps py (sortKeys (.dict (payloadMembers stamp payload)))

/-- `_decode_payload`. -/
def decodePayload (py : Interpreter) (raw : Option String) :
    Except PyException (Option (List (String × PyValue))) :=
  match raw with
  | none => .ok none
  | some text =>
      if text = "" then .ok none
      else
        match loads py text with
        | .ok (.dict members) => .ok (some members)
        | .ok _ => .ok none
        | .error e => .error e

/-- `value == other`, for values without numbers: the order of the keys of a
dictionary does not count. -/
def SameValue (value other : PyValue) : Prop := sortKeys value = sortKeys other

/-- `build_resolved_payload`, over the dictionary of a payload. -/
def resolvedMembers (members : List (String × PyValue)) (endsAt : String) :
    List (String × PyValue) :=
  PyValue.setMember "endsAt" (.str endsAt) members

theorem textDict_fits {entries : List (String × String)}
    (hkeys : (entries.map Prod.fst).Nodup) : Fits 1 (textDict entries) := by
  refine Fits.dict _ _ ?_ ?_
  · rw [List.map_map]
    exact hkeys
  · intro entry hentry
    obtain ⟨source, -, rfl⟩ := List.mem_map.mp hentry
    exact Fits.str _ _

theorem labelEntries_nodup (labels : Labels String) :
    ((labelEntries labels).map Prod.fst).Nodup := by
  obtain ⟨_, _, _, _, _, incidentId, service, resource⟩ := labels
  cases incidentId <;> cases service <;> cases resource <;>
    simp [labelEntries]

theorem payloadMembers_nodup (stamp : Rfc3339 → String)
    (payload : AlertPayload String) :
    ((payloadMembers stamp payload).map Prod.fst).Nodup := by
  cases hends : payload.endsAt <;> simp [payloadMembers, hends]

theorem payloadMembers_fits (stamp : Rfc3339 → String)
    (payload : AlertPayload String) :
    Fits 2 (.dict (payloadMembers stamp payload)) := by
  refine Fits.dict _ _ (payloadMembers_nodup stamp payload) ?_
  intro entry hentry
  simp only [payloadMembers, List.mem_append, List.mem_cons, List.not_mem_nil,
    or_false, Option.mem_toList, Option.map_eq_some_iff] at hentry
  obtain (rfl | rfl | rfl) | ⟨time, -, rfl⟩ := hentry
  · exact textDict_fits (labelEntries_nodup payload.labels)
  · exact textDict_fits (by simp [annotationEntries])
  · exact Fits.str _ _
  · exact Fits.str _ _

theorem mem_sorted_textDict {entries : List (String × String)}
    {entry : String × String} :
    (entry.1, PyValue.str entry.2) ∈
        sortMembers (entries.map fun entry => (entry.1, .str entry.2)) ↔
      entry ∈ entries := by
  rw [(sortMembers_perm _).mem_iff, List.map_map]
  constructor
  · intro hmem
    obtain ⟨source, hsource, heq⟩ := List.mem_map.mp hmem
    obtain ⟨key, text⟩ := source
    cases heq
    exact hsource
  · intro hmem
    exact List.mem_map.mpr ⟨entry, hmem, rfl⟩

/-- The labels of two payloads are equal dictionaries exactly when they are
the same labels. -/
theorem sameValue_labels {labels other : Labels String} :
    SameValue (textDict (labelEntries labels))
      (textDict (labelEntries other)) ↔ labels = other := by
  constructor
  · intro h
    have hsorted := PyValue.dict.inj h
    have hentries : ∀ entry : String × String,
        entry ∈ labelEntries labels ↔ entry ∈ labelEntries other := by
      intro entry
      rw [← mem_sorted_textDict, hsorted, mem_sorted_textDict]
    -- The keys are distinct, so each entry is compared with its own.
    have hfixed := fun (key text : String) => (hentries (key, text)).mp
    have hincident := fun text => hentries ("incident_id", text)
    have hservice := fun text => hentries ("service", text)
    have hresource := fun text => hentries ("resource", text)
    have hname := hfixed "alertname" labels.alertname
    have hseverity := hfixed "severity" labels.severity
    have hsource := hfixed "source" labels.source
    have hminion := hfixed "minion" labels.minion
    have hmetric := hfixed "metric" labels.metric
    simp [labelEntries] at hname hseverity hsource hminion hmetric
    simp [labelEntries] at hincident hservice hresource
    obtain ⟨_, _, _, _, _, _, _, _⟩ := labels
    obtain ⟨_, _, _, _, _, _, _, _⟩ := other
    rw [Labels.mk.injEq]
    exact ⟨hname, hseverity, hsource, hminion, hmetric,
      Option.ext hincident, Option.ext hservice, Option.ext hresource⟩
  · rintro rfl
    rfl

/-! ## What is stored is what was sent -/

/-- What `_decode_payload` returns for a stored payload. -/
theorem decodePayload_encodedPayload {py : Interpreter}
    (hpy : 2 ≤ py.recursionLimit) (stamp : Rfc3339 → String)
    (payload : AlertPayload String) :
    decodePayload py (some (encodedPayload py stamp payload)) =
      .ok (some (sortMembers (payloadMembers stamp payload))) := by
  have hnonempty : encodedPayload py stamp payload ≠ "" := by
    intro hempty
    have hletters := congrArg String.toList hempty
    rw [encodedPayload, dumps, String.toList_ofList, sortKeys, write]
      at hletters
    cases hletters
  have hfits : Fits py.recursionLimit
      (sortKeys (.dict (payloadMembers stamp payload))) :=
    ((payloadMembers_fits stamp payload).sortKeys).mono hpy
  rw [decodePayload, if_neg hnonempty, encodedPayload, loads_dumps hfits,
    sortKeys]

/-- A payload survives its storage: what is decoded is the dictionary that was
sent, a label transition compares its labels as the records are compared, and
the resolution built from it is the resolution of what was sent. -/
theorem storedPayload_resumes (py : Interpreter)
    (hpy : 2 ≤ py.recursionLimit) (stamp : Rfc3339 → String)
    (analysis : RootCauseAnalysis) (anomaly : Anomaly) (fingerprint : String)
    (startsAt : Rfc3339) :
    let sent := buildAlertPayload analysis anomaly fingerprint startsAt
    ∃ decoded,
      decodePayload py (some (encodedPayload py stamp sent)) =
        .ok (some decoded) ∧
      SameValue (.dict decoded) (.dict (payloadMembers stamp sent)) ∧
      (∀ next : AlertPayload String,
        SameValue (PyValue.get decoded "labels")
            (PyValue.get (payloadMembers stamp next) "labels") ↔
          sent.labels = next.labels) ∧
      ∀ endsAt,
        SameValue (.dict (resolvedMembers decoded (stamp endsAt)))
          (.dict (payloadMembers stamp
            (buildResolvedPayload sent endsAt))) := by
  intro sent
  have hfits := payloadMembers_fits stamp sent
  refine ⟨sortMembers (payloadMembers stamp sent),
    decodePayload_encodedPayload hpy stamp sent, hfits.sortKeys_sortKeys, ?_,
    ?_⟩
  · intro next
    have hlabels : ("labels", textDict (labelEntries sent.labels)) ∈
        payloadMembers stamp sent := List.mem_cons_self
    have hnext : PyValue.get (payloadMembers stamp next) "labels" =
        textDict (labelEntries next.labels) := rfl
    rw [get_sortMembers (payloadMembers_nodup stamp sent) hlabels, hnext,
      SameValue,
      (textDict_fits (labelEntries_nodup sent.labels)).sortKeys_sortKeys]
    exact sameValue_labels
  · intro endsAt
    have hnew : "endsAt" ∉ (payloadMembers stamp sent).map Prod.fst := by
      simp [payloadMembers, sent, buildAlertPayload]
    exact congrArg PyValue.dict
      (sortMembers_setMember hfits hnew (.str (stamp endsAt)))

/-- An interpreter with the usual limit. -/
def usualInterpreter : Interpreter where
  recursionLimit := 1000
  repr := fun _ => ""

def quotedAnalysis : RootCauseAnalysis where
  summary := "The unit \"api\" failed"
  conclusion := .confirmed
  affectedComponent := "api.service"
  rootCause := "C:\\temp is full — é"
  supportingEvidenceIds := ["S1"]
  keyEvidence := ["[S1] failed"]
  remediation := []
  urgency := .high
  confidence := 1

def unitOfQuotedName : Anomaly where
  minionId := "web\n1"
  metricName := "failed_service"
  currentValue := 1
  threshold := 0
  severity := .critical
  description := "api.service failed"
  serviceName := some "api.service"
  resource := none
  context := .empty

theorem storedPayload_resumes_quoted :
    let sent := buildAlertPayload quotedAnalysis unitOfQuotedName "f" ⟨0⟩
    ∃ decoded,
      decodePayload usualInterpreter
          (some (encodedPayload usualInterpreter (fun _ => "t") sent)) =
        .ok (some decoded) ∧
      SameValue (.dict decoded)
        (.dict (payloadMembers (fun _ => "t") sent)) ∧
      (∀ next : AlertPayload String,
        SameValue (PyValue.get decoded "labels")
            (PyValue.get (payloadMembers (fun _ => "t") next) "labels") ↔
          sent.labels = next.labels) ∧
      ∀ endsAt : Rfc3339,
        SameValue (.dict (resolvedMembers decoded "t"))
          (.dict (payloadMembers (fun _ => "t")
            (buildResolvedPayload sent endsAt))) :=
  storedPayload_resumes usualInterpreter (by decide) (fun _ => "t")
    quotedAnalysis unitOfQuotedName "f" ⟨0⟩

end UyuniAgent.Incident
