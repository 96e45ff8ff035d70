import UyuniAgent.Investigation.DeterministicAnalysis

/-!
# The file of a crash loop

`_disk_crash_loop` cuts a path out of the first line that
`build_large_files_command` prints, from the end of the line back to a blank,
and searches the properties of the units for it.
-/

namespace UyuniAgent.Investigation

open Regex

/-! ## The output of `build_large_files_command` -/

/-- A file that is listed: its size as `numfmt` writes it, and its path, which
is below some directory.  Between them stands the tab of the format, or the
space that `numfmt` prints in its place. -/
structure ListedFile where
  size : String
  gap : Char
  path : String
  gap_blank : gap = '\t' ∨ gap = ' '
  size_ne : size ≠ ""
  size_solid : ∀ c ∈ size.toList, PyText.isSpace c = false
  below : ∃ name, name ≠ [] ∧ path.toList = '/' :: name
  oneLine : '\n' ∉ path.toList

def ListedFile.line (file : ListedFile) : String :=
  file.size ++ String.singleton file.gap ++ file.path

/-- The output for these files; the last line feed may be stripped. -/
def IsFileListing (text : String) (files : List ListedFile) : Prop :=
  text = String.join (files.map fun file => file.line ++ "\n") ∨
    text ++ "\n" = String.join (files.map fun file => file.line ++ "\n")

theorem IsFileListing.eq_nil {text : String} (h : IsFileListing text []) :
    text = "" := by
  rcases h with h | h
  · exact h
  · have hletters := congrArg String.toList h
    simp [String.join] at hletters

/-- Lines are empty, or end in a line feed. -/
theorem join_lines_cases (files : List ListedFile) :
    String.join (files.map fun file => file.line ++ "\n") = "" ∨
      ∃ lines, String.join (files.map fun file => file.line ++ "\n") =
        lines ++ "\n" := by
  rcases files.eq_nil_or_concat with rfl | ⟨earlier, last, rfl⟩
  · exact .inl rfl
  · refine .inr ⟨String.join (earlier.map fun file => file.line ++ "\n") ++
      last.line, ?_⟩
    simp [String.append_assoc]

theorem IsFileListing.first {text : String} {file : ListedFile}
    {files : List ListedFile} (h : IsFileListing text (file :: files)) :
    text = file.line ∨ ∃ rest, text = file.line ++ "\n" ++ rest := by
  rw [IsFileListing, List.map_cons, String.join_cons] at h
  rcases h with h | h
  · exact .inr ⟨_, h⟩
  · rcases join_lines_cases files with hrest | ⟨lines, hrest⟩
    · rw [hrest, String.append_empty] at h
      exact .inl ((String.append_left_inj "\n").mp h)
    · rw [hrest, ← String.append_assoc] at h
      exact .inr ⟨lines, (String.append_left_inj "\n").mp h⟩

/-! ## The path that is cut out -/

/-- The path can be cut out of its line as a whole. -/
structure PlainPath (path : String) : Prop where
  unbroken : ∀ c ∈ path.toList,
    c ≠ ' ' ∧ c ≠ '\t' ∧ PyText.isLineBreak c = false
  last : ∀ c ∈ path.toList.getLast?, PyText.isSpace c = false

/-- `[^\t ]`. -/
def isUnbroken (c : Char) : Bool := c ≠ '\t' && c ≠ ' '

theorem matchesOnly_path {unicode : UnicodeData} :
    MatchesOnly unicode isUnbroken (seq (literal "/") (many isUnbroken)) := by
  have hslash : "/".toList.all isUnbroken = true := by decide
  exact (matchesOnly_literal (List.all_eq_true.mp hslash)).seq
    matchesOnly_many

/-- What is cut out is the end of a line, without blanks. -/
theorem suffix_of_pathAtEnd {unicode : UnicodeData} {line path : String}
    (hline : '\n' ∉ line.toList)
    (h : firstGroup unicode pathAtEnd line = some path) :
    path.toList <:+ line.toList ∧ ∀ c ∈ path.toList, isUnbroken c = true := by
  obtain ⟨groups, hgroups, hpath⟩ := Option.bind_eq_some_iff.mp h
  obtain ⟨place, hplace, hfrom⟩ := exists_of_searchGroupsFrom hgroups
  obtain ⟨rfl, haccepts⟩ := groupsFrom_toEnd matchesOnly_path
    (fun hmem => hline (hplace.subset hmem)) hfrom
  obtain rfl := Option.some.inj hpath
  rw [String.toList_ofList]
  exact ⟨hplace, haccepts⟩

/-- A path after a blank is cut out as a whole when it has none itself. -/
theorem pathAtEnd_after_gap {unicode : UnicodeData} {line : String}
    {gap : Char} {head name : List Char} (hgap : gap = '\t' ∨ gap = ' ')
    (hletters : line.toList = head ++ gap :: '/' :: name)
    (hname : name ≠ []) (hunbroken : ∀ c ∈ name, isUnbroken c = true)
    (hline : '\n' ∉ line.toList) :
    firstGroup unicode pathAtEnd line = some (String.ofList ('/' :: name)) := by
  have hfrom : groupsFrom unicode pathAtEnd ⟨some gap, '/' :: name⟩ =
      some [String.ofList ('/' :: name)] := by
    refine groupsFrom_toEnd_of_mem matchesOnly_path ?_ ?_
    · intro hmem
      rw [hletters] at hline
      exact hline
        (List.mem_append_right head (List.mem_cons_of_mem gap hmem))
    · obtain ⟨last, hslash⟩ :=
        exists_end_literal unicode "/" (some gap) name
      obtain ⟨stop, hstop, hend⟩ :=
        exists_end_many unicode hname hunbroken last
      exact ⟨stop, mem_ends_seq hslash hstop, hend⟩
  have hbroken : isUnbroken gap = false ∧ gap ≠ '\n' := by
    rcases hgap with rfl | rfl
    · decide
    · decide
  have hnone : ∀ place : TextPlace, gap ∈ place.rest →
      groupsFrom unicode pathAtEnd place = none :=
    fun place => groupsFrom_toEnd_eq_none matchesOnly_path hbroken.1 hbroken.2
  have hsearch : searchGroups unicode pathAtEnd line =
      some [String.ofList ('/' :: name)] := by
    rw [searchGroups, hletters, searchGroupsFrom_after hnone,
      searchGroupsFrom, hfrom]
  rw [firstGroup, hsearch]
  rfl

/-- The line from which a path is cut out. -/
def firstFile (text : String) : String :=
  (((PyText.splitlines text).map PyText.strip).find? (· ≠ "")).getD ""

theorem firstFile_spec (text : String) :
    (∀ c ∈ (firstFile text).toList, PyText.isLineBreak c = false) ∧
      ∀ c ∈ (firstFile text).toList.getLast?, PyText.isSpace c = false := by
  rw [firstFile]
  rcases hfound : ((PyText.splitlines text).map PyText.strip).find? (· ≠ "")
    with _ | line
  · simp
  · obtain ⟨raw, hraw, rfl⟩ :=
      List.mem_map.mp (List.mem_of_find?_eq_some hfound)
    refine ⟨fun c hc => ?_, fun c hc => PyText.isSpace_getLast?_strip hc⟩
    exact PyText.isLineBreak_of_mem_splitlines hraw c
      ((PyText.strip_infix raw).subset hc)

/-- What is cut out is the end of a stripped line, without blanks. -/
theorem plainPath_of_largestPath {unicode : UnicodeData} {text path : String}
    (h : largestPath unicode text = some path) : PlainPath path := by
  obtain ⟨hbreaks, hlast⟩ := firstFile_spec text
  have hline : '\n' ∉ (firstFile text).toList := by
    intro hmem
    exact absurd (hbreaks '\n' hmem) (by decide)
  obtain ⟨⟨before, hsuffix⟩, hunbroken⟩ := suffix_of_pathAtEnd hline h
  constructor
  · intro c hc
    have hblank := hunbroken c hc
    simp only [isUnbroken, Bool.and_eq_true, decide_eq_true_eq] at hblank
    refine ⟨hblank.2, hblank.1, hbreaks c ?_⟩
    rw [← hsuffix]
    exact List.mem_append_right before hc
  · intro c hc
    refine hlast c ?_
    rw [← hsuffix, List.getLast?_append, Option.mem_def.mp hc]
    rfl

theorem largestPath_of_plain {unicode : UnicodeData} {text : String}
    {file : ListedFile} {files : List ListedFile}
    (hlisting : IsFileListing text (file :: files))
    (hplain : PlainPath file.path) :
    largestPath unicode text = some file.path := by
  obtain ⟨name, hname, hpath⟩ := file.below
  have hletters : file.line.toList =
      file.size.toList ++ file.gap :: '/' :: name := by
    simp [ListedFile.line, hpath]
  have hbreaks : ∀ c ∈ file.line.toList, PyText.isLineBreak c = false := by
    rw [hletters, ← hpath]
    intro c hc
    rcases List.mem_append.mp hc with hc | hc
    · exact PyText.isLineBreak_eq_false (file.size_solid c hc)
    · rcases List.mem_cons.mp hc with rfl | hc
      · rcases file.gap_blank with hgap | hgap
        · rw [hgap]
          decide
        · rw [hgap]
          decide
      · exact (hplain.unbroken c hc).2.2
  have hne : file.line ≠ "" := by
    intro heq
    rw [heq] at hletters
    simp at hletters
  have hlines : ∃ lines, PyText.splitlines text = file.line :: lines := by
    rcases hlisting.first with rfl | ⟨rest, rfl⟩
    · exact ⟨[], PyText.splitlines_last hne hbreaks⟩
    · exact ⟨_, PyText.splitlines_line rest hbreaks⟩
  have hstrip : PyText.strip file.line = file.line := by
    refine PyText.strip_eq_self ?_ ?_
    · intro c hc
      rcases hsize : file.size.toList with _ | ⟨d, digits⟩
      · exact absurd (String.toList_eq_nil_iff.mp hsize) file.size_ne
      · rw [hletters, hsize] at hc
        obtain rfl : d = c := Option.some.inj hc
        exact file.size_solid d (by rw [hsize]; exact List.mem_cons_self)
    · intro c hc
      have hends : file.line.toList.getLast? = file.path.toList.getLast? := by
        rw [hletters, hpath]
        simp [List.getLast?_cons]
      exact hplain.last c (hends ▸ hc)
  have hfirst : firstFile text = file.line := by
    obtain ⟨lines, hlines⟩ := hlines
    rw [firstFile, hlines, List.map_cons, hstrip,
      List.find?_cons_of_pos (by simpa using hne)]
    rfl
  have hline : '\n' ∉ file.line.toList := by
    intro hmem
    exact absurd (hbreaks '\n' hmem) (by decide)
  have hunbroken : ∀ c ∈ name, isUnbroken c = true := by
    intro c hc
    obtain ⟨hspace, htab, -⟩ :=
      hplain.unbroken c (hpath ▸ List.mem_cons_of_mem '/' hc)
    simp [isUnbroken, hspace, htab]
  calc
    largestPath unicode text = firstGroup unicode pathAtEnd (firstFile text) :=
      rfl
    _ = firstGroup unicode pathAtEnd file.line := by rw [hfirst]
    _ = some (String.ofList ('/' :: name)) :=
      pathAtEnd_after_gap file.gap_blank hletters hname hunbroken hline
    _ = some file.path := by rw [← hpath, String.ofList_toList]

/-! ## The file that is named -/

section

variable (isPathChar : Char → Bool)

/-- The text mentions the path, and not as a part of a longer one. -/
def MentionsWhole (text path : String) : Prop :=
  ∃ before after, text.toList = before ++ path.toList ++ after ∧
    (∀ c ∈ before.getLast?, isPathChar c = false) ∧
    ∀ c ∈ after.head?, isPathChar c = false

/-- The cause names the path of the first file, which the properties of the
unit mention. -/
structure NamesRealFile (files : List ListedFile)
    (dumps : EvidenceDetails → String) (cause : DiskCrashLoop) : Prop where
  first : files.head?.map (·.path) = some cause.largePath
  mentioned :
    MentionsWhole isPathChar (cause.details.text dumps) cause.largePath

/-- Whatever characters a path consists of, the named file is the real one
exactly when the path of the first file can be cut out as a whole, and the
first unit with a crash loop and the cut-out path mentions it as a whole. -/
theorem real_file_iff {unicode : UnicodeData}
    {dumps : EvidenceDetails → String} {ledger : EvidenceLedger}
    {files : List ListedFile}
    (hlisting : ∀ largest, firstRecord ledger "largest_files" = some largest →
      IsFileListing (largest.text dumps) files) :
    (∀ cause, diskCrashLoop unicode dumps ledger = .ok (some cause) →
      NamesRealFile isPathChar files dumps cause) ↔
    ∀ usage largest path details restarts,
      firstRecord ledger "disk_usage" = some usage →
      firstRecord ledger "largest_files" = some largest →
      largestPath unicode (largest.text dumps) = some path →
      FirstCrashLoop unicode dumps ledger path details restarts →
      ∀ file ∈ files.head?, PlainPath file.path ∧
        MentionsWhole isPathChar (details.text dumps) file.path := by
  constructor
  · intro h usage largest path details restarts husage hlargest hpath hloop
      file hfile
    obtain ⟨hfirst, hmentioned⟩ := h _ (diskCrashLoop_eq_some_iff.mpr
      ⟨usage, largest, path, details, restarts, husage, hlargest, hpath, hloop,
        rfl⟩)
    obtain rfl : file.path = path := by
      rw [Option.mem_def.mp hfile] at hfirst
      exact Option.some.inj hfirst
    exact ⟨plainPath_of_largestPath hpath, hmentioned⟩
  · intro h cause hcause
    obtain ⟨usage, largest, path, details, restarts, husage, hlargest, hpath,
      hloop, rfl⟩ := diskCrashLoop_eq_some_iff.mp hcause
    have htext := hlisting largest hlargest
    rcases files with _ | ⟨file, files⟩
    · rw [htext.eq_nil] at hpath
      have hnone : largestPath unicode "" = none := rfl
      rw [hnone] at hpath
      cases hpath
    · obtain ⟨hplain, hmentioned⟩ := h usage largest path details restarts
        husage hlargest hpath hloop file rfl
      obtain rfl : file.path = path :=
        Option.some.inj ((largestPath_of_plain htext hplain).symm.trans hpath)
      exact ⟨rfl, hmentioned⟩

end

/-! ## A unit that crash-loops -/

/-- The properties of a unit in front of its last argument. -/
def properties : String :=
  "NRestarts=3\nRestart=always\nExecStart=/usr/bin/app "

def crashingUnit : EvidenceRecord :=
  ⟨"E3", "salt", "db", "service_details:app.service", .ok, "",
    .text (properties ++ "/var/lib" ++ "/app.log" ++ "\n"), 0, []⟩

def usageRecord : EvidenceRecord :=
  ⟨"E1", "salt", "db", "disk_usage", .ok, "", .text "/srv 97%", 0, []⟩

def listingRecord (file : ListedFile) : EvidenceRecord :=
  ⟨"E2", "salt", "db", "largest_files", .ok, "", .text file.line, 0, []⟩

def ledgerWithFile (file : ListedFile) : EvidenceLedger where
  target := "db"
  records := [usageRecord, listingRecord file, crashingUnit]

theorem firstRecord_largest_files (file : ListedFile) :
    firstRecord (ledgerWithFile file) "largest_files" =
      some (listingRecord file) := by
  simp [firstRecord, recordsOf, ledgerWithFile, usageRecord, listingRecord,
    PyText.startsWith]

theorem recordsOf_service_details (file : ListedFile) :
    recordsOf (ledgerWithFile file) "service_details:" = [crashingUnit] := by
  simp [recordsOf, ledgerWithFile, usageRecord, listingRecord, crashingUnit,
    PyText.startsWith]

theorem ledgerWithFile_listing (file : ListedFile) (largest : EvidenceRecord)
    (h : firstRecord (ledgerWithFile file) "largest_files" = some largest) :
    IsFileListing (largest.text fun _ => "") [file] := by
  rw [firstRecord_largest_files] at h
  obtain rfl := Option.some.inj h
  refine .inr ?_
  simp [EvidenceRecord.text, listingRecord, String.join_cons]

/-- The cause with the path that is cut out. -/
def crashLoopWith (file : ListedFile) (path : String) : DiskCrashLoop where
  usage := usageRecord
  largest := listingRecord file
  details := crashingUnit
  logs := firstRecord (ledgerWithFile file)
    ("service_logs:" ++ serviceOfCheck crashingUnit.check)
  service := serviceOfCheck crashingUnit.check
  largePath := path
  restarts := "3"

theorem diskCrashLoop_ledgerWithFile {file : ListedFile} {path : String}
    (hpath : largestPath asciiData file.line =
      some path)
    (hmentioned : PyText.contains (crashingUnit.text fun _ => "") path =
      true) :
    diskCrashLoop asciiData (fun _ => "")
      (ledgerWithFile file) = .ok (some (crashLoopWith file path)) := by
  have hloops : CrashLoops asciiData (fun _ => "")
      path crashingUnit "3" :=
    { shown := by decide +kernel
      repeated := ⟨3, by decide +kernel, by decide⟩
      policy := by decide +kernel
      mentioned := hmentioned }
  have husage : firstRecord (ledgerWithFile file) "disk_usage" =
      some usageRecord := by
    simp [firstRecord, recordsOf, ledgerWithFile, usageRecord,
      PyText.startsWith]
  exact diskCrashLoop_eq_some_iff.mpr
    ⟨usageRecord, listingRecord file, path, crashingUnit, "3", husage,
      firstRecord_largest_files file, hpath,
      ⟨[], [], recordsOf_service_details file, by simp, hloops⟩, rfl⟩

theorem size_solid :
    ∀ c ∈ "2.0G".toList, PyText.isSpace c = false := by
  have hsize : "2.0G".toList.all (fun c => !PyText.isSpace c) = true := by
    decide +kernel
  simpa using hsize

def logFile : ListedFile where
  size := "2.0G"
  gap := ' '
  path := "/var/lib/app.log"
  gap_blank := Or.inr rfl
  size_ne := by decide
  size_solid := size_solid
  below := ⟨"/var/lib/app.log".toList.tail, by decide +kernel⟩
  oneLine := by decide +kernel

theorem logFile_plain : PlainPath logFile.path := by
  have hletters : logFile.path.toList.all (fun c =>
      c ≠ ' ' && c ≠ '\t' && !PyText.isLineBreak c) = true := by
    decide +kernel
  have hlast : logFile.path.toList.getLast? = some 'g' := by decide +kernel
  constructor
  · intro c hc
    simpa [and_assoc] using List.all_eq_true.mp hletters c hc
  · intro c hc
    obtain rfl := Option.some.inj (hlast.symm.trans hc)
    decide

theorem crashingUnit_mentions :
    MentionsWhole (fun c => !PyText.isSpace c)
      (crashingUnit.text fun _ => "") logFile.path := by
  have hletters : (crashingUnit.text fun _ => "").toList =
      properties.toList ++ logFile.path.toList ++ ['\n'] := by
    decide +kernel
  have hblank : properties.toList.getLast? = some ' ' := by decide +kernel
  refine ⟨properties.toList, ['\n'], hletters, ?_, ?_⟩
  · intro c hc
    obtain rfl := Option.some.inj (hblank.symm.trans hc)
    decide
  · intro c hc
    obtain rfl := Option.some.inj hc
    decide

theorem real_file_logFile :
    diskCrashLoop asciiData (fun _ => "")
        (ledgerWithFile logFile) =
      .ok (some (crashLoopWith logFile logFile.path)) ∧
    NamesRealFile (fun c => !PyText.isSpace c) [logFile] (fun _ => "")
      (crashLoopWith logFile logFile.path) := by
  have hcause : diskCrashLoop asciiData (fun _ => "")
      (ledgerWithFile logFile) =
        .ok (some (crashLoopWith logFile logFile.path)) := by
    refine diskCrashLoop_ledgerWithFile (by decide +kernel) ?_
    obtain ⟨before, after, hletters, -, -⟩ := crashingUnit_mentions
    rw [PyText.contains_iff, hletters]
    exact List.infix_append _ _ _
  refine ⟨hcause, (real_file_iff _ (ledgerWithFile_listing logFile)).mpr ?_ _
    hcause⟩
  rintro usage largest path details restarts - - -
    ⟨before, after, hrecords, -, -⟩ file hfile
  obtain rfl := Option.some.inj hfile
  have hdetails : details ∈ recordsOf (ledgerWithFile logFile)
      "service_details:" := by
    rw [hrecords]
    exact List.mem_append_right _ List.mem_cons_self
  rw [recordsOf_service_details] at hdetails
  obtain rfl := List.mem_singleton.mp hdetails
  exact ⟨logFile_plain, crashingUnit_mentions⟩

/-- A file with a blank in the name of its directory. -/
def spacedFile (gap : Char) (hgap : gap = '\t' ∨ gap = ' ') : ListedFile where
  size := "2.0G"
  gap := gap
  path := "/srv/db copy/app.log"
  gap_blank := hgap
  size_ne := by decide
  size_solid := size_solid
  below := ⟨"/srv/db copy/app.log".toList.tail, by decide +kernel⟩
  oneLine := by decide +kernel

/-- Every cause names a real file, when this blank follows the sizes. -/
def NamesRealFiles (isPathChar : Char → Bool) (gap : Char) : Prop :=
  ∀ (unicode : UnicodeData) (dumps : EvidenceDetails → String)
    (ledger : EvidenceLedger) (files : List ListedFile),
    (∀ file ∈ files, file.gap = gap) →
    (∀ largest, firstRecord ledger "largest_files" = some largest →
      IsFileListing (largest.text dumps) files) →
    ∀ cause, diskCrashLoop unicode dumps ledger = .ok (some cause) →
      NamesRealFile isPathChar files dumps cause

theorem not_namesRealFiles {gap : Char} (hgap : gap = '\t' ∨ gap = ' ') :
    ¬∃ isPathChar, NamesRealFiles isPathChar gap := by
  rintro ⟨isPathChar, hall⟩
  have hpath : largestPath asciiData (spacedFile gap hgap).line =
      some "/app.log" := by
    rcases hgap with rfl | rfl
    · decide +kernel
    · decide +kernel
  have hcause :=
    diskCrashLoop_ledgerWithFile hpath (PyText.contains_append _ _ _)
  have hfirst := (hall _ _ _ [spacedFile gap hgap]
    (List.forall_mem_singleton.mpr rfl) (ledgerWithFile_listing _) _
    hcause).first
  revert hfirst
  simp [spacedFile, crashLoopWith]

/-- Whatever characters a path consists of, and whichever blank follows the
size, only the end of a path with a blank is named, and a unit that logs to
another file is blamed. -/
theorem end_of_a_path_is_named :
    (¬∃ isPathChar, NamesRealFiles isPathChar '\t') ∧
      ¬∃ isPathChar, NamesRealFiles isPathChar ' ' :=
  ⟨not_namesRealFiles (Or.inl rfl), not_namesRealFiles (Or.inr rfl)⟩

end UyuniAgent.Investigation
