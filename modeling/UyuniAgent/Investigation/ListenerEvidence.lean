import UyuniAgent.Investigation.Citations
import UyuniAgent.Investigation.DeterministicAnalysis
import UyuniAgent.Support.RegexContext

/-!
# The listener of a port conflict

`_service_port_conflict` takes the process from the first line of `ss -ltnp`
that has the port after some colon.  The port on which a line listens is the
one in its local address, the fourth column.
-/

namespace UyuniAgent.Investigation

open Regex

/-! ## What a line shows -/

/-- The local address of a line of `ss -ltnp`. -/
def localAddress (line : String) : Option String :=
  (words line)[3]?

/-- The text after the last colon. -/
def afterLastColon (address : String) : Option String :=
  if ':' ∈ address.toList then
    some (String.ofList (address.toList.rtakeWhile (· ≠ ':')))
  else none

def localPort (line : String) : Option String :=
  (localAddress line).bind afterLastColon

/-- Some line of the listing has this port and this process. -/
def HasListener (unicode : UnicodeData) (listing : String) (port : ℤ)
    (process : String) : Prop :=
  ∃ line ∈ PyText.splitlines listing,
    localPort line = some (toString port) ∧ lineProcess unicode line = process

/-! ## Where a port may stand -/

/-- The port stands after some colon of the line, as a whole word. -/
def MentionsPort (unicode : UnicodeData) (port : ℤ) (line : String) : Prop :=
  ∃ before after,
    line.toList = before ++ ':' :: ((toString port).toList ++ after) ∧
      ∀ c ∈ after.head?, unicode.isWord c = false

theorem getLast?_toString_isWord (unicode : UnicodeData) {port : ℤ}
    (hport : 1 ≤ port) :
    ∃ last, (toString port).toList.getLast? = some last ∧
      unicode.isWord last = true := by
  have hdigits : (toString port).toList = Nat.toDigits 10 port.toNat := by
    rw [Int.toString_eq_repr, Int.repr_eq_if, if_pos (by omega),
      Nat.toList_repr]
  rcases hlast : (toString port).toList.getLast? with _ | last
  · exact absurd (List.getLast?_eq_none_iff.mp hlast) (toString_ne_nil port)
  · refine ⟨last, rfl, ?_⟩
    have hmem := List.mem_of_getLast? hlast
    rw [hdigits] at hmem
    have hdigit : last.isDigit = true :=
      Nat.isDigit_of_mem_toDigits (by decide) (by decide) hmem
    obtain ⟨hlow, hhigh⟩ := Char.isDigit_iff_toNat.mp hdigit
    exact isWord_of_digit unicode hlow hhigh

theorem search_portMention_iff {unicode : UnicodeData} {port : ℤ}
    (hport : 1 ≤ port) {line : String} :
    (portMention port).search unicode line = true ↔
      MentionsPort unicode port line := by
  have hcolon : (":" ++ toString port).toList =
      ':' :: (toString port).toList := by
    rw [String.toList_append]
    rfl
  obtain ⟨last, hlast, hword⟩ := getLast?_toString_isWord unicode hport
  have hlast : (":" ++ toString port).toList.getLast? = some last := by
    rw [hcolon, List.getLast?_cons, hlast]
    rfl
  rw [portMention, search_literal_boundary_iff hlast hword, MentionsPort,
    hcolon]
  simp only [List.cons_append]

/-- A line that listens on a port mentions it. -/
theorem mentionsPort_of_localPort {unicode : UnicodeData}
    (hspaces : ∀ c, PyText.isSpace c = true → unicode.isWord c = false)
    {port : ℤ} {line : String}
    (h : localPort line = some (toString port)) :
    MentionsPort unicode port line := by
  obtain ⟨address, haddress, hafter⟩ := Option.bind_eq_some_iff.mp h
  rw [afterLastColon, Option.ite_none_right_eq_some] at hafter
  obtain ⟨hcolon, hport⟩ := hafter
  -- the address ends in a colon and the port
  obtain ⟨head, hhead⟩ : ∃ head,
      address.toList = head ++ ':' :: (toString port).toList := by
    have hport : address.toList.rtakeWhile (· ≠ ':') =
        (toString port).toList := by
      rw [← Option.some.inj hport, String.toList_ofList]
    have hne : address.toList.rdropWhile (· ≠ ':') ≠ [] := by
      rw [Ne, List.rdropWhile_eq_nil_iff]
      intro hall
      exact absurd (hall ':' hcolon) (by simp)
    have hlast : (address.toList.rdropWhile (· ≠ ':')).getLast hne = ':' := by
      simpa using List.rdropWhile_last_not (· ≠ ':') address.toList hne
    have hsplit := List.dropLast_append_getLast hne
    rw [hlast] at hsplit
    refine ⟨(address.toList.rdropWhile (· ≠ ':')).dropLast, ?_⟩
    calc
      address.toList =
          address.toList.rdropWhile (· ≠ ':') ++
            address.toList.rtakeWhile (· ≠ ':') :=
        (List.rdropWhile_append_rtakeWhile).symm
      _ = ((address.toList.rdropWhile (· ≠ ':')).dropLast ++ [':']) ++
            (toString port).toList := by
        rw [hport, hsplit]
      _ = _ := by
        rw [List.append_assoc, List.singleton_append]
  obtain ⟨letters, hletters, rfl⟩ :=
    List.mem_map.mp (List.mem_of_getElem? haddress)
  rw [String.toList_ofList] at hhead
  obtain ⟨before, after, hline, hspace⟩ := PyText.field_splits hletters
  refine ⟨before ++ head, after, ?_, fun c hc => hspaces c (hspace c hc)⟩
  rw [hline, hhead, List.append_assoc, List.append_assoc, List.cons_append]

/-- The first line of the listing with the port after a colon has it elsewhere
than at the end of its local address, and each later line that has it there
shows another process. -/
def Misleads (unicode : UnicodeData) (listing : String) (port : ℤ) : Prop :=
  ∃ before line after,
    PyText.splitlines listing = before ++ line :: after ∧
      (∀ earlier ∈ before, ¬MentionsPort unicode port earlier) ∧
      MentionsPort unicode port line ∧
      localPort line ≠ some (toString port) ∧
      ∀ later ∈ after, localPort later = some (toString port) →
        lineProcess unicode later ≠ lineProcess unicode line

attribute [local irreducible] lineProcess

theorem find?_portMention_iff {unicode : UnicodeData} {port : ℤ}
    (hport : 1 ≤ port) {lines : List String} {line : String} :
    lines.find? (fun line => (portMention port).search unicode line) =
        some line ↔
      MentionsPort unicode port line ∧
        ∃ before after, lines = before ++ line :: after ∧
          ∀ earlier ∈ before, ¬MentionsPort unicode port earlier := by
  rw [List.find?_eq_some_iff_append, search_portMention_iff hport]
  simp only [Bool.not_eq_true', ← Bool.not_eq_true,
    search_portMention_iff hport]

/-- The listing has the process of an analysis on its port, unless the texts
report a conflict on a port about which the listing misleads. -/
theorem real_listener_iff {unicode : UnicodeData}
    (hspaces : ∀ c, PyText.isSpace c = true → unicode.isWord c = false)
    (dumps : EvidenceDetails → String) (anomaly : Anomaly)
    (ledger : EvidenceLedger) :
    (∀ cause,
      servicePortConflict unicode dumps anomaly ledger = some cause →
      HasListener unicode (cause.listeners.text dumps) cause.port
        cause.process) ↔
    ∀ details logs listeners port,
      firstRecord ledger "service_details:" = some details →
      firstRecord ledger "service_logs:" = some logs →
      firstRecord ledger "listening_tcp_ports" = some listeners →
      Misleads unicode (listeners.text dumps) port →
      ¬ReportsConflict unicode dumps details logs port := by
  simp only [servicePortConflict_eq_some_iff]
  constructor
  · rintro h details logs listeners port hdetails hlogs hlisteners
      ⟨before, line, after, hlines, hbefore, hmentions, helsewhere, hafter⟩
      hreports
    have hline := (find?_portMention_iff hreports.range.1).mpr
      ⟨hmentions, before, after, hlines, hbefore⟩
    obtain ⟨listener, hmem, hlocal, hprocess⟩ :=
      h ⟨details, logs, listeners, serviceOr anomaly "the configured service",
          lineProcess unicode line, port⟩
        ⟨hdetails, hlogs, hlisteners, hreports, rfl, line, hline, rfl⟩
    rw [hlines] at hmem
    rcases List.mem_append.mp hmem with hearlier | hmem
    · exact hbefore listener hearlier (mentionsPort_of_localPort hspaces hlocal)
    · rcases List.mem_cons.mp hmem with rfl | hlater
      · exact helsewhere hlocal
      · exact hafter listener hlater hlocal hprocess
  · rintro h cause
      ⟨hdetails, hlogs, hlisteners, hreports, -, line, hline, hprocess⟩
    obtain ⟨hmentions, before, after, hlines, hbefore⟩ :=
      (find?_portMention_iff hreports.range.1).mp hline
    by_contra hnone
    have hother : ∀ listener ∈ PyText.splitlines (cause.listeners.text dumps),
        localPort listener = some (toString cause.port) →
          lineProcess unicode listener ≠ lineProcess unicode line := by
      intro listener hmem hlocal hsame
      exact hnone ⟨listener, hmem, hlocal, hsame.trans hprocess.symm⟩
    rw [hlines] at hother
    refine h _ _ _ _ hdetails hlogs hlisteners
      ⟨before, line, after, hlines, hbefore, hmentions, ?_, ?_⟩ hreports
    · intro hlocal
      exact hother line (by simp) hlocal rfl
    · intro later hlater hlocal
      exact hother later (by simp [hlater]) hlocal

/-! ## A port inside an address -/

def headerLine : String :=
  "State Recv-Q Send-Q Local Address:Port Peer Address:Port Process"

/-- The address of this listener ends in a group of the same digits. -/
def sshLine : String :=
  "LISTEN 0 5 [fd00::8080]:22 [::]:* users:((\"sshd\",pid=7,fd=3))"

def nginxLine : String :=
  "LISTEN 0 5 0.0.0.0:8080 0.0.0.0:* users:((\"nginx\",pid=9,fd=6))"

def socketListing : String :=
  headerLine ++ "\n" ++ (sshLine ++ "\n" ++ nginxLine)

theorem unbroken_of_test (lines : List String)
    (h : (lines.all fun line =>
      line.toList.all fun c => !PyText.isLineBreak c) = true) :
    ∀ line ∈ lines, ∀ c ∈ line.toList, PyText.isLineBreak c = false := by
  simpa using h

theorem splitlines_socketListing :
    PyText.splitlines socketListing = [headerLine, sshLine, nginxLine] := by
  have hline := unbroken_of_test [headerLine, sshLine, nginxLine]
    (by decide +kernel)
  rw [socketListing, PyText.splitlines_line _ (hline _ (by simp)),
    PyText.splitlines_line _ (hline _ (by simp)),
    PyText.splitlines_last (by decide) (hline _ (by simp))]

def failedExporter : Anomaly where
  minionId := "web"
  metricName := "service_down"
  currentValue := 0
  threshold := 1
  severity := .critical
  description := "Service exporter.service is failed"
  serviceName := some "exporter.service"
  resource := some "exporter.service"
  context := .service "Metrics exporter" "failed" "failed"

def exporterDetails : EvidenceRecord :=
  ⟨"E1", "salt", "web", "service_details:exporter.service", .ok, "",
    .text "ExecStart=/usr/bin/python3 -m http.server 8080", 0, []⟩

def exporterLogs : EvidenceRecord :=
  ⟨"E2", "salt", "web", "service_logs:exporter.service", .ok, "",
    .text "OSError: [Errno 98] Address already in use", 0, []⟩

def exporterListeners : EvidenceRecord :=
  ⟨"E3", "salt", "web", "listening_tcp_ports", .ok, "",
    .text socketListing, 0, []⟩

theorem exporter_reportsConflict :
    ReportsConflict asciiData (fun _ => "")
      exporterDetails exporterLogs 8080 where
  inUse := by
    change addressInUse.search _
      "OSError: [Errno 98] Address already in use" = true
    decide +kernel
  configured := by
    change (firstGroup _ configuredPort
      "ExecStart=/usr/bin/python3 -m http.server 8080").bind PyText.toInt? =
        some 8080
    decide +kernel
  range := by decide

def nginxListing : String := headerLine ++ "\n" ++ nginxLine

def nginxLedger : EvidenceLedger where
  target := "web"
  records := [exporterDetails, exporterLogs,
    ⟨"E3", "salt", "web", "listening_tcp_ports", .ok, "",
      .text nginxListing, 0, []⟩]

def nginxCause : ServicePortConflict where
  details := exporterDetails
  logs := exporterLogs
  listeners := ⟨"E3", "salt", "web", "listening_tcp_ports", .ok, "",
    .text nginxListing, 0, []⟩
  service := serviceOr failedExporter "the configured service"
  process := lineProcess asciiData nginxLine
  port := 8080

theorem splitlines_nginxListing :
    PyText.splitlines nginxListing = [headerLine, nginxLine] := by
  have hline := unbroken_of_test [headerLine, nginxLine] (by decide +kernel)
  rw [nginxListing, PyText.splitlines_line _ (hline _ (by simp)),
    PyText.splitlines_last (by decide) (hline _ (by simp))]

theorem not_misleads_nginxListing : ¬Misleads asciiData nginxListing 8080 := by
  rintro ⟨before, line, after, hlines, -, hmentions, helsewhere, -⟩
  have hall : [headerLine, nginxLine].all (fun line =>
      !(portMention 8080).search asciiData line ||
        localPort line = some (toString (8080 : ℤ))) = true := by
    decide +kernel
  have hmem : line ∈ [headerLine, nginxLine] := by
    rw [← splitlines_nginxListing, hlines]
    simp
  have hline := List.all_eq_true.mp hall line hmem
  rw [(search_portMention_iff (by decide)).mpr hmentions] at hline
  exact helsewhere (by simpa using hline)

/-- In a listing with one listener on the port, that one is named. -/
theorem real_listener_nginx :
    servicePortConflict asciiData (fun _ => "") failedExporter nginxLedger =
        some nginxCause ∧
      HasListener asciiData nginxListing 8080 nginxCause.process := by
  have hline : (PyText.splitlines nginxListing).find? (fun line =>
      (portMention 8080).search asciiData line) = some nginxLine := by
    rw [splitlines_nginxListing]
    decide +kernel
  have hcause : servicePortConflict asciiData (fun _ => "") failedExporter
      nginxLedger = some nginxCause :=
    servicePortConflict_eq_some_iff.mpr
      ⟨rfl, rfl, rfl, exporter_reportsConflict, rfl, nginxLine, hline, rfl⟩
  refine ⟨hcause, (real_listener_iff isWord_asciiData_of_isSpace _ _ _).mpr ?_
    nginxCause hcause⟩
  intro details logs listeners port hdetails hlogs hlisteners hmisleads hreports
  obtain rfl : exporterDetails = details := Option.some.inj hdetails
  obtain rfl := Option.some.inj hlisteners
  have hport : port = 8080 := Option.some.inj
    (hreports.configured.symm.trans exporter_reportsConflict.configured)
  rw [hport] at hmisleads
  exact not_misleads_nginxListing hmisleads

/-- The server of another port is named. -/
theorem digits_of_an_address :
    ¬∀ (unicode : UnicodeData) (dumps : EvidenceDetails → String)
      (anomaly : Anomaly) (ledger : EvidenceLedger) cause,
      servicePortConflict unicode dumps anomaly ledger = some cause →
      HasListener unicode (cause.listeners.text dumps) cause.port
        cause.process := by
  intro hall
  have hline : (PyText.splitlines socketListing).find? (fun line =>
      (portMention 8080).search asciiData line) =
        some sshLine := by
    rw [splitlines_socketListing]
    decide +kernel
  have hcause : servicePortConflict asciiData
      (fun _ => "") failedExporter
      ⟨"web", [exporterDetails, exporterLogs, exporterListeners]⟩ =
        some ⟨exporterDetails, exporterLogs, exporterListeners,
          serviceOr failedExporter "the configured service",
          lineProcess asciiData sshLine, 8080⟩ :=
    servicePortConflict_eq_some_iff.mpr
      ⟨rfl, rfl, rfl, exporter_reportsConflict, rfl, sshLine, hline, rfl⟩
  obtain ⟨line, hmem, hport, hprocess⟩ := hall _ _ _ _ _ hcause
  have hlines : (PyText.splitlines socketListing).all (fun line =>
      localPort line ≠ some (toString (8080 : ℤ)) ||
        lineProcess asciiData line ≠
          lineProcess asciiData sshLine) = true := by
    rw [splitlines_socketListing]
    decide +kernel
  have hline := List.all_eq_true.mp hlines line hmem
  simp [hport, hprocess] at hline

end UyuniAgent.Investigation
