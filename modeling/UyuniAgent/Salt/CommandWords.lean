import UyuniAgent.Salt.Commands
import UyuniAgent.Support.ShellTemplate

/-!
# Arguments stay in their places

Whatever the validators accept, a command has the words and operators of its
format string, and each argument stays inside its own words.  One of the words
in operand position begins with an argument that may begin with a hyphen: the
unit of `systemctl show`.
-/

namespace UyuniAgent.Salt

open Raising Shell

/-! ## The templates of the builders -/

/-- The options in these commands that take the next word. -/
def optionTable : OptionTable :=
  [("journalctl", ["-u", "-n"]), ("find", ["-type", "-size", "-printf"]),
    ("head", ["-n"]), ("ping", ["-c"]),
    ("ssh-keygen", ["-F", "-f", "-lf", "-E"]),
    ("openssl", ["-connect", "-servername", "-verify_hostname", "-CAfile",
      "-in", "-ext"]),
    ("findmnt", ["--target", "--output"]), ("stat", ["-c"])]

namespace Builder

/-- The arguments that a program reads as operands. -/
def operands : Builder → List ℕ
  | .serviceDetails => [0]
  | .largeFiles => [0]
  | .dependency .nfs _ => [0, 1, 2]
  | _ => []

theorem openOperands_eq (builder : Builder) :
    (Shell.template builder.layout).map (openOperands optionTable) =
      some (builder.operands.map fun index => [.hole index]) := by
  cases builder with
  | dependency kind ending =>
      cases kind
      all_goals
        cases ending
        all_goals decide +kernel
  | serviceLogs => decide +kernel
  | serviceDetails => decide +kernel
  | largeFiles => decide +kernel
  | serviceReferences => decide +kernel
  | ping => decide +kernel
  | processList => decide +kernel

theorem template_eq (builder : Builder) :
    Shell.template builder.layout = some builder.template := by
  obtain ⟨tokens, htokens, -⟩ :=
    Option.map_eq_some_iff.mp builder.openOperands_eq
  rw [template, htokens, Option.getD_some]

variable {values : ℕ → String}

/-- A command without option injection is one whose operands do not begin with
a hyphen. -/
theorem operandsGuarded_iff (builder : Builder) :
    OperandsGuarded optionTable values builder.template ↔
      ∀ index ∈ builder.operands, (values index).toList.head? ≠ some '-' := by
  have hopen : openOperands optionTable builder.template =
      builder.operands.map fun index => [.hole index] := by
    have hall := builder.openOperands_eq
    rw [builder.template_eq] at hall
    exact Option.some.inj hall
  rw [Shell.operandsGuarded_iff, hopen, List.forall_mem_map]
  simp [fillWord, Symbol.fill]

theorem split_command {builder : Builder}
    (hraw : ∀ index ∈ rawHoles builder.layout, IsPlainText (values index)) :
    split (render (builder.layout.map (Piece.map values))) =
      some (builder.template.map (Token.fill values)) :=
  split_render hraw builder.template_eq

end Builder

/-! ## Validated arguments -/

theorem isPlain_of_isDigit {c : Char} (h : c.isDigit = true) :
    isPlain c = true := by
  simp [isPlain, h]

theorem isPlain_of_isUnitChar {c : Char} (h : isUnitChar c = true) :
    isPlain c = true := by
  simp only [isUnitChar, Bool.or_eq_true, Bool.and_eq_true,
    decide_eq_true_eq] at h
  rcases h with ((hupper | hlower) | hdigit) | hmark
  · simp [isPlain, hupper]
  · simp [isPlain, hlower]
  · exact isPlain_of_isDigit (Char.isDigit_iff_toNat.mpr hdigit)
  · have hmarks : ['_', '.', '@', ':', '-'].all isPlain = true := by decide
    exact List.all_eq_true.mp hmarks c hmark

theorem isPlainText_toString {n : ℤ} (hn : 0 ≤ n) :
    IsPlainText (toString n) ∧ (toString n).toList.head? ≠ some '-' := by
  have hrepr : toString n = n.toNat.repr := by
    rw [Int.toString_eq_repr, Int.repr_eq_if, if_pos hn]
  have hdigits : ∀ c ∈ (toString n).toList, c.isDigit = true := by
    intro c hc
    rw [hrepr, Nat.toList_repr] at hc
    exact Nat.isDigit_of_mem_toDigits (by decide) (by decide) hc
  refine ⟨⟨?_, fun c hc => isPlain_of_isDigit (hdigits c hc)⟩, ?_⟩
  · rw [hrepr]
    exact Nat.repr_ne_empty
  · intro hhead
    have hhyphen := hdigits '-' (List.mem_of_mem_head? hhead)
    cases hhyphen

theorem systemdService_plain {service unit : String}
    (h : systemdService? service = some unit) :
    IsPlainText unit ∧ unit.toList.head? = service.toList.head? := by
  simp only [systemdService?] at h
  split at h
  next hall =>
    obtain ⟨hne, hunit⟩ := hall
    rw [List.all_eq_true] at hunit
    have hplain : ∀ c ∈ service.toList, isPlain c = true := fun c hc =>
      isPlain_of_isUnitChar (hunit c hc)
    rw [Option.ite_none_left_eq_some] at h
    obtain ⟨-, hsome⟩ := h
    obtain rfl := Option.some.inj hsome
    split
    next => exact ⟨⟨hne, hplain⟩, rfl⟩
    next =>
      have hsuffix : ∀ c ∈ ".service".toList, isPlain c = true :=
        List.all_eq_true.mp (by decide)
      have hnil : service.toList ≠ [] := mt String.toList_eq_nil_iff.mp hne
      refine ⟨⟨?_, ?_⟩, ?_⟩
      · intro hempty
        have hchars := congrArg String.toList hempty
        rw [String.toList_append] at hchars
        exact hnil (List.append_eq_nil_iff.mp hchars).1
      · intro c hc
        rw [String.toList_append, List.mem_append] at hc
        exact hc.elim (hplain c) (hsuffix c)
      · rw [String.toList_append, List.head?_append_of_ne_nil _ hnil]
  next => cases h

theorem normpath_head (path : String) :
    (normpath path).toList.head? = some '/' := by
  simp only [normpath]
  rw [String.toList_append]
  split
  next => rfl
  next => rfl

theorem boundedValue_bounds {name : String} {minimum maximum n : ℤ}
    {value : PyValue} (h : boundedValue name minimum maximum value = .ok n) :
    minimum ≤ n ∧ n ≤ maximum := by
  obtain ⟨parsed, -, hbounded⟩ := bind_eq_ok_iff.mp h
  rw [mapError_eq_ok_iff, boundedInt] at hbounded
  split at hbounded
  next hbounds =>
    obtain rfl := Except.ok.inj hbounded
    exact hbounds
  next => cases hbounded

theorem validateSystemdService_eq_ok {py : Interpreter} {service unit : String}
    (h : validateSystemdService py service = .ok unit) :
    systemdService? service = some unit := by
  simp only [validateSystemdService] at h
  split at h
  next normalized hsome =>
    obtain rfl := Except.ok.inj h
    exact hsome
  next => cases h

theorem validateAbsolutePath_eq_ok {path normalized : String}
    (h : validateAbsolutePath path = .ok normalized) :
    normalized.toList.head? = some '/' := by
  rw [validateAbsolutePath] at h
  split at h
  next =>
    obtain rfl := Except.ok.inj h
    exact normpath_head path
  next => cases h

theorem isSizeText_plain {text : String} (h : isSizeText text = true) :
    IsPlainText text := by
  simp only [isSizeText] at h
  split at h
  next => cases h
  next first rest hchars =>
    simp only [Bool.and_eq_true, decide_eq_true_eq] at h
    obtain ⟨⟨hfirst, -⟩, hunit⟩ := h
    have hunits : ∀ c ∈ rest.dropWhile Char.isDigit, isPlain c = true := by
      have hall : [[], ['K'], ['M'], ['G'], ['T']].all
          (fun unit => unit.all isPlain) = true := by
        decide
      exact List.all_eq_true.mp
        (List.all_eq_true.mp hall _ (List.contains_iff_mem.mp hunit))
    constructor
    · intro hempty
      rw [hempty] at hchars
      cases hchars
    · intro c hc
      rw [hchars, List.mem_cons] at hc
      rcases hc with rfl | hrest
      · exact isPlain_of_isDigit hfirst
      · rw [← List.takeWhile_append_dropWhile (p := Char.isDigit) (l := rest),
          List.mem_append] at hrest
        rcases hrest with hdigit | hsuffix
        · exact isPlain_of_isDigit (List.mem_takeWhile_imp hdigit)
        · exact hunits c hsuffix

/-- The argument can be an operand. -/
def NoHyphen (text : String) : Prop := text.toList.head? ≠ some '-'

theorem numberText_plain {value : Option ℤ} (h : ∀ n, value = some n → 0 ≤ n) :
    IsPlainText (numberText value) ∧ NoHyphen (numberText value) := by
  cases value with
  | none =>
      have hplain : ∀ c ∈ "None".toList, isPlain c = true :=
        List.all_eq_true.mp (by decide)
      exact ⟨⟨by decide, hplain⟩, by unfold NoHyphen; decide⟩
  | some n => exact isPlainText_toString (h n rfl)

theorem fieldText_noHyphen {value : Option String}
    (h : ∀ path, value = some path → path.toList.head? = some '/') :
    NoHyphen (fieldText value) := by
  cases value with
  | none => unfold NoHyphen; decide
  | some path =>
      rw [NoHyphen, fieldText, Option.getD_some, h path rfl]
      decide

theorem checkPath_eq_ok {field value path : String}
    (h : checkPath field value = .ok path) : path.toList.head? = some '/' := by
  simp only [checkPath, checkText] at h
  split at h
  next checked hpath =>
    obtain rfl := Except.ok.inj h
    simp only [edgePath?] at hpath
    rw [Option.ite_none_right_eq_some] at hpath
    obtain ⟨⟨hstarts, -⟩, hsome⟩ := hpath
    obtain rfl := Option.some.inj hsome
    rw [PyText.startsWith_iff] at hstarts
    obtain ⟨rest, hrest⟩ := hstarts
    rw [← hrest]
    rfl
  next => cases h

theorem checkRange_eq_ok {field : String} {minimum maximum value n : ℤ}
    (h : checkRange minimum maximum field value = .ok n) : minimum ≤ n := by
  simp only [checkRange] at h
  split_ifs at h with hlow hhigh
  obtain rfl := Except.ok.inj h
  exact not_lt.mp hlow

/-- What the schema promises of an edge that it accepts. -/
structure EdgeFields.Valid (edge : EdgeFields) : Prop where
  sourceMount : ∀ path, edge.sourceMount = some path →
    path.toList.head? = some '/'
  targetExport : ∀ path, edge.targetExport = some path →
    path.toList.head? = some '/'
  expectedUid : ∀ n, edge.expectedUid = some n → 0 ≤ n
  expectedGid : ∀ n, edge.expectedGid = some n → 0 ≤ n

theorem EdgeFields.validate_eq_ok {edge checked : EdgeFields}
    (h : edge.validate = .ok checked) :
    checked.kind = edge.kind ∧ checked.Valid := by
  obtain ⟨targetHost, -, h⟩ := bind_eq_ok_iff.mp h
  obtain ⟨port, -, h⟩ := bind_eq_ok_iff.mp h
  obtain ⟨knownHostsFile, -, h⟩ := bind_eq_ok_iff.mp h
  obtain ⟨hostPublicKeyFile, -, h⟩ := bind_eq_ok_iff.mp h
  obtain ⟨expectedHostname, -, h⟩ := bind_eq_ok_iff.mp h
  obtain ⟨caFile, -, h⟩ := bind_eq_ok_iff.mp h
  obtain ⟨certificateFile, -, h⟩ := bind_eq_ok_iff.mp h
  obtain ⟨sourceMount, hmount, h⟩ := bind_eq_ok_iff.mp h
  obtain ⟨targetExport, hexport, h⟩ := bind_eq_ok_iff.mp h
  obtain ⟨expectedUid, huid, h⟩ := bind_eq_ok_iff.mp h
  obtain ⟨expectedGid, hgid, h⟩ := bind_eq_ok_iff.mp h
  split at h
  next =>
    obtain rfl := Except.ok.inj h
    refine ⟨rfl, ?_, ?_, ?_, ?_⟩
    · rintro path rfl
      obtain ⟨given, hgiven⟩ := optional_eq_ok hmount
      exact checkPath_eq_ok hgiven
    · rintro path rfl
      obtain ⟨given, hgiven⟩ := optional_eq_ok hexport
      exact checkPath_eq_ok hgiven
    · rintro n rfl
      obtain ⟨given, hgiven⟩ := optional_eq_ok huid
      exact checkRange_eq_ok hgiven
    · rintro n rfl
      obtain ⟨given, hgiven⟩ := optional_eq_ok hgid
      exact checkRange_eq_ok hgiven
  next => cases h

/-! ## Commands and their format strings -/

/-- The command is the format string of its builder, filled with values that
can be written where they are. -/
structure Fits (builder : Builder) (command : Command) (values : ℕ → String) :
    Prop where
  layout : command = builder.layout.map (Piece.map values)
  raw : ∀ index ∈ rawHoles builder.layout, IsPlainText (values index)

/-- The values of the holes, in order. -/
def valuesOf (arguments : List String) (index : ℕ) : String :=
  arguments.getD index ""

section Builders

variable {py : Interpreter} {upper : String → String}
  {isIpAddress : String → Bool} {command : Command}

theorem serviceLogs_fits {service : String} {lines : PyValue}
    (h : serviceLogs py service lines = .ok command) :
    ∃ values, Fits .serviceLogs command values := by
  obtain ⟨unit, hunit, h⟩ := bind_eq_ok_iff.mp h
  obtain ⟨count, hcount, h⟩ := bind_eq_ok_iff.mp h
  obtain rfl := Except.ok.inj h
  have hplain := (systemdService_plain
    (validateSystemdService_eq_ok (mapError_eq_ok_iff.mp hunit))).1
  have hlines := isPlainText_toString
    (le_trans (by decide) (boundedValue_bounds hcount).1)
  exact ⟨valuesOf [unit, toString count], rfl,
    List.forall_mem_cons.mpr ⟨hplain, List.forall_mem_singleton.mpr hlines.1⟩⟩

theorem serviceDetails_fits {service : String}
    (h : serviceDetails py service = .ok command) :
    ∃ values, Fits .serviceDetails command values ∧
      (values 0).toList.head? = service.toList.head? := by
  obtain ⟨unit, hunit, h⟩ := bind_eq_ok_iff.mp h
  obtain rfl := Except.ok.inj h
  obtain ⟨hplain, hhead⟩ := systemdService_plain
    (validateSystemdService_eq_ok (mapError_eq_ok_iff.mp hunit))
  exact ⟨valuesOf [unit], ⟨rfl, List.forall_mem_singleton.mpr hplain⟩, hhead⟩

theorem largeFiles_fits {path : String} {minSize limit : PyValue}
    (h : buildLargeFilesCommand py upper path minSize limit = .ok command) :
    ∃ values, Fits .largeFiles command values ∧ NoHyphen (values 0) := by
  obtain ⟨normalized, hpath, h⟩ := bind_eq_ok_iff.mp h
  dsimp only at h
  split at h
  next hsize =>
    obtain ⟨count, -, h⟩ := bind_eq_ok_iff.mp h
    obtain rfl := Except.ok.inj h
    have hcount := isPlainText_toString
      (le_trans (by decide) (le_max_left 1 (min count 50)))
    have hhead := validateAbsolutePath_eq_ok (mapError_eq_ok_iff.mp hpath)
    refine ⟨valuesOf [normalized, upper (minSize.toStr py),
      toString (max 1 (min count 50))], ⟨rfl, List.forall_mem_cons.mpr
        ⟨isSizeText_plain hsize, List.forall_mem_singleton.mpr hcount.1⟩⟩, ?_⟩
    change normalized.toList.head? ≠ some '-'
    rw [hhead]
    decide
  next => cases h

theorem serviceReferences_fits {path : String}
    (h : buildServiceReferencesCommand path = .ok command) :
    ∃ values, Fits .serviceReferences command values := by
  obtain ⟨normalized, -, h⟩ := bind_eq_ok_iff.mp h
  obtain rfl := Except.ok.inj h
  exact ⟨valuesOf [normalized], rfl, List.forall_mem_nil _⟩

theorem ping_fits {target : String} {count : PyValue}
    (h : buildPingCommand isIpAddress target count = .ok command) :
    ∃ values, Fits .ping command values := by
  obtain ⟨host, -, h⟩ := bind_eq_ok_iff.mp h
  obtain ⟨times, htimes, h⟩ := bind_eq_ok_iff.mp h
  obtain rfl := Except.ok.inj h
  have hplain := isPlainText_toString
    (le_trans (by decide) (boundedValue_bounds htimes).1)
  exact ⟨valuesOf [toString times, host], rfl,
    List.forall_mem_singleton.mpr hplain.1⟩

theorem processList_fits {sortField : String} {topN : PyValue}
    (h : buildProcessListCommand sortField topN = .ok command) :
    ∃ values, Fits .processList command values := by
  simp only [buildProcessListCommand] at h
  split at h
  next hfield =>
    obtain ⟨rows, hrows, h⟩ := bind_eq_ok_iff.mp h
    obtain rfl := Except.ok.inj h
    have hfields : ["%cpu", "%mem"].all (fun field =>
        field ≠ "" && field.toList.all isPlain) = true := by
      decide
    have hplain : IsPlainText sortField := by
      have hall := List.all_eq_true.mp hfields sortField hfield
      rw [Bool.and_eq_true, decide_eq_true_eq, List.all_eq_true] at hall
      exact hall
    have hpositive := (boundedValue_bounds hrows).1
    have hcount := isPlainText_toString
      (show 0 ≤ rows + 1 by omega)
    exact ⟨valuesOf [sortField, toString (rows + 1)], rfl,
      List.forall_mem_cons.mpr
        ⟨hplain, List.forall_mem_singleton.mpr hcount.1⟩⟩
  next => cases h

/-- The holes of both ends of an NFS edge. -/
theorem nfs_holes {directory uid gid : String}
    (hdirectory : NoHyphen directory)
    (huid : IsPlainText uid ∧ NoHyphen uid)
    (hgid : IsPlainText gid ∧ NoHyphen gid) :
    (∀ index ∈ [1, 2, 1, 2],
        IsPlainText (valuesOf [directory, uid, gid] index)) ∧
      ∀ index ∈ [0, 1, 2], NoHyphen (valuesOf [directory, uid, gid] index) := by
  simp [valuesOf, hdirectory, huid, hgid]

theorem builders_fits {edge : EdgeFields} (hvalid : edge.Valid)
    (kind : DependencyKind) (ending : EdgeEnd) :
    ∃ values, Fits (.dependency kind ending) (builders kind ending edge)
        values ∧
      ∀ index ∈ (Builder.dependency kind ending).operands,
        NoHyphen (values index) := by
  have huid := numberText_plain hvalid.expectedUid
  have hgid := numberText_plain hvalid.expectedGid
  cases kind with
  | ssh =>
      cases ending with
      | source =>
          exact ⟨valuesOf [_, _], ⟨rfl, List.forall_mem_nil _⟩,
            List.forall_mem_nil _⟩
      | target =>
          exact ⟨valuesOf [_], ⟨rfl, List.forall_mem_nil _⟩,
            List.forall_mem_nil _⟩
  | tls =>
      cases ending with
      | source =>
          exact ⟨valuesOf [_, _, _], ⟨rfl, List.forall_mem_nil _⟩,
            List.forall_mem_nil _⟩
      | target =>
          exact ⟨valuesOf [_], ⟨rfl, List.forall_mem_nil _⟩,
            List.forall_mem_nil _⟩
  | nfs =>
      cases ending with
      | source =>
          obtain ⟨hraw, hoperands⟩ :=
            nfs_holes (fieldText_noHyphen hvalid.sourceMount) huid hgid
          exact ⟨_, ⟨rfl, hraw⟩, hoperands⟩
      | target =>
          obtain ⟨hraw, hoperands⟩ :=
            nfs_holes (fieldText_noHyphen hvalid.targetExport) huid hgid
          exact ⟨_, ⟨rfl, hraw⟩, hoperands⟩

/-- The unit of `systemctl show` does not begin with a hyphen. -/
def UnitGuarded : Diagnostic → Prop
  | .serviceDetails service => service.toList.head? ≠ some '-'
  | _ => True

theorem command_fits {request : Diagnostic}
    (h : request.command py upper isIpAddress = .ok command) :
    ∃ values, Fits request.builder command values ∧
      ((∀ index ∈ request.builder.operands, NoHyphen (values index)) ↔
        UnitGuarded request) := by
  cases request with
  | serviceLogs service lines =>
      obtain ⟨values, hfits⟩ := serviceLogs_fits h
      exact ⟨values, hfits, iff_of_true (List.forall_mem_nil _) trivial⟩
  | serviceDetails service =>
      obtain ⟨values, hfits, hhead⟩ := serviceDetails_fits h
      refine ⟨values, hfits, ?_⟩
      change (∀ index ∈ [0], NoHyphen (values index)) ↔
        service.toList.head? ≠ some '-'
      rw [List.forall_mem_singleton, NoHyphen, hhead]
  | largeFiles path minSize limit =>
      obtain ⟨values, hfits, hhead⟩ := largeFiles_fits h
      refine ⟨values, hfits, ?_⟩
      exact iff_of_true (List.forall_mem_singleton.mpr hhead) trivial
  | serviceReferences path =>
      obtain ⟨values, hfits⟩ := serviceReferences_fits h
      exact ⟨values, hfits, iff_of_true (List.forall_mem_nil _) trivial⟩
  | ping target count =>
      obtain ⟨values, hfits⟩ := ping_fits h
      exact ⟨values, hfits, iff_of_true (List.forall_mem_nil _) trivial⟩
  | processList sortField topN =>
      obtain ⟨values, hfits⟩ := processList_fits h
      exact ⟨values, hfits, iff_of_true (List.forall_mem_nil _) trivial⟩
  | dependency edge ending =>
      obtain ⟨checked, hchecked, h⟩ := bind_eq_ok_iff.mp h
      obtain rfl := Except.ok.inj h
      obtain ⟨hkind, hvalid⟩ := EdgeFields.validate_eq_ok hchecked
      obtain ⟨values, hfits, hoperands⟩ :=
        builders_fits hvalid checked.kind ending
      rw [hkind] at hfits hoperands ⊢
      exact ⟨values, hfits, iff_of_true hoperands trivial⟩

end Builders

/-- The words and operators of a command are those of its format string, and
each argument stays inside its own words.  No operand is read as an option
unless the unit of `systemctl show` begins with a hyphen. -/
theorem arguments_stay_in_place {py : Interpreter} {upper : String → String}
    {isIpAddress : String → Bool} {request : Diagnostic} {command : Command}
    (h : request.command py upper isIpAddress = .ok command) :
    ∃ values : ℕ → String,
      command = request.builder.layout.map (Piece.map values) ∧
      split (render command) =
        some (request.builder.template.map (Token.fill values)) ∧
      (OperandsGuarded optionTable values request.builder.template ↔
        UnitGuarded request) := by
  obtain ⟨values, hfits, hoperands⟩ := command_fits h
  refine ⟨values, hfits.layout, ?_, ?_⟩
  · rw [hfits.layout]
    exact Builder.split_command hfits.raw
  · rw [Builder.operandsGuarded_iff]
    exact hoperands

theorem arguments_stay_in_place_apache :
    ∃ values : ℕ → String,
      serviceDetailsText "apache2.service" =
        Builder.serviceDetails.layout.map (Piece.map values) ∧
      split (render (serviceDetailsText "apache2.service")) =
        some (Builder.serviceDetails.template.map (Token.fill values)) ∧
      (OperandsGuarded optionTable values Builder.serviceDetails.template ↔
        UnitGuarded (.serviceDetails "apache2")) := by
  have hcommand : (Diagnostic.serviceDetails "apache2").command
      ⟨1000, fun _ => ""⟩ id (fun _ => false) =
        .ok (serviceDetailsText "apache2.service") := by
    decide +kernel
  exact arguments_stay_in_place hcommand

/-- `systemctl show` takes an accepted unit name for its option `-H`. -/
theorem unit_read_as_option :
    ¬∀ (request : Diagnostic) (command : Command),
      request.command ⟨1000, fun _ => ""⟩ id (fun _ => false) = .ok command →
      ∃ values : ℕ → String,
        command = request.builder.layout.map (Piece.map values) ∧
        split (render command) =
          some (request.builder.template.map (Token.fill values)) ∧
        OperandsGuarded optionTable values request.builder.template := by
  intro h
  have hcommand : (Diagnostic.serviceDetails "-Hother.example").command
      ⟨1000, fun _ => ""⟩ id (fun _ => false) =
        .ok (serviceDetailsText "-Hother.example.service") := by
    decide +kernel
  obtain ⟨values, hlayout, -, hguarded⟩ := h _ _ hcommand
  have hvalue : "-Hother.example.service" = values 0 := by
    injection hlayout with _ hrest
    injection hrest with hpiece _
    injection hpiece
  have hhead := Builder.serviceDetails.operandsGuarded_iff.mp hguarded 0
    (List.mem_singleton_self 0)
  rw [← hvalue] at hhead
  exact hhead rfl

end UyuniAgent.Salt
