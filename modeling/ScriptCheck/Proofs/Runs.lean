import ScriptCheck.CommandLine.Run
import ScriptCheck.Proofs.Calls.Progress
import ScriptCheck.Proofs.Scanner.Words

/-! # Rules of a Run

  What a run comes to, stated by rules: which settings file counts, what can be
  wrong with a file, which of several failures is reported, and what is written
  about a text with errors and about one without.

  Every run goes by one of the rules, and no run by two. So a report is written in
  full or not at all, and a run that fails on the errors of a text fails with the
  very diagnostics that its report lists.
-/

namespace ScriptCheck

/-! ## Section 1: Files -/

/-- A text is read from bytes if they encode it. -/
theorem fromUTF8?_eq_some_iff {bytes : ByteArray} {text : String} :
    String.fromUTF8? bytes = some text ↔ text.toUTF8 = bytes := by
  unfold String.fromUTF8?
  constructor
  · intro h
    split at h
    · obtain rfl := Option.some.inj h
      rfl
    · cases h
  · rintro rfl
    exact dif_pos text.isValidUTF8

theorem fromUTF8?_eq_none_iff {bytes : ByteArray} :
    String.fromUTF8? bytes = none ↔ ∀ text : String, text.toUTF8 ≠ bytes := by
  rw [Option.eq_none_iff_forall_ne_some]
  exact forall_congr' fun text => not_congr fromUTF8?_eq_some_iff

namespace CommandLine

/-- What keeps the bytes at a path from being read. -/
inductive Entry.Bars : Entry → FileFailure → Prop
  | missing : Bars .missing .missing
  | directory : Bars .directory .isDirectory
  | notDirectory : Bars .notDirectory .notDirectory

/-- There is a file at the path, whatever is in it. -/
def Files.HasFile (files : Files) (path : String) : Prop := ∃ bytes, files.entry path = .file bytes

section files
variable {files : Files} {path : String}

theorem Files.isFile_iff : files.isFile path = true ↔ files.HasFile path := by
  unfold isFile HasFile
  cases files.entry path <;> simp

theorem Files.read_of_file {bytes : ByteArray} (h : files.entry path = .file bytes) :
    files.read path = .ok bytes := by
  rw [read, h]

theorem Files.read_of_bars {failure : FileFailure} (h : (files.entry path).Bars failure) :
    files.read path = .error failure := by
  unfold read
  cases hentry : files.entry path <;> rw [hentry] at h <;> cases h <;> rfl

/-- A path leads to a file, or something bars it. -/
theorem Files.file_or_bars (files : Files) (path : String) :
    files.HasFile path ∨ ∃ failure, (files.entry path).Bars failure := by
  unfold HasFile
  cases files.entry path with
  | missing => exact .inr ⟨_, .missing⟩
  | directory => exact .inr ⟨_, .directory⟩
  | notDirectory => exact .inr ⟨_, .notDirectory⟩
  | file bytes => exact .inl ⟨bytes, rfl⟩

end files

/-! ## Section 2: Settings -/

/-- The settings file that counts for a run, given the one that the request names, if any. -/
inductive SettingsFile (files : Files) : Option String → Option String → Prop
  /-- The one that is named, whether it exists or not. -/
  | named (path : String) : SettingsFile files (some path) (some path)
  /-- Else the one of the working directory. -/
  | ofDirectory (h : files.HasFile localSettings) : SettingsFile files none (some localSettings)
  /-- Else the one of the platform. -/
  | ofPlatform {path : String} (hlocal : ¬ files.HasFile localSettings)
      (hplatform : files.platformSettings = some path) (h : files.HasFile path) :
      SettingsFile files none (some path)
  /-- Else none. -/
  | absent (hlocal : ¬ files.HasFile localSettings)
      (hplatform : ∀ path, files.platformSettings = some path → ¬ files.HasFile path) :
      SettingsFile files none none

/-- What a settings file states by the reader `toml` of its text, or why it states nothing. -/
inductive States (toml : String → Option Settings) (files : Files) :
    Option String → Except FileFailure Settings → Prop
  /-- Without a file the defaults hold. -/
  | defaults : States toml files none (.ok {})
  | settings {path text : String} {settings : Settings}
      (hfile : files.entry path = .file text.toUTF8)
      (htoml : toml text = some settings) : States toml files (some path) (.ok settings)
  | missing {path : String} (h : files.entry path = .missing) :
      States toml files (some path) (.error (.settingsMissing path))
  | unreadable {path : String} {failure : FileFailure} (h : (files.entry path).Bars failure)
      (hpresent : failure ≠ .missing) : States toml files (some path) (.error failure)
  | notText {path : String} {bytes : ByteArray} (hfile : files.entry path = .file bytes)
      (htext : ∀ text : String, text.toUTF8 ≠ bytes) :
      States toml files (some path) (.error .notText)
  | invalid {path text : String} (hfile : files.entry path = .file text.toUTF8)
      (htoml : toml text = none) :
      States toml files (some path) (.error (.settingsInvalid path))

section settings
variable {toml : String → Option Settings} {files : Files} {named path : Option String}
  {stated : Except FileFailure Settings}

theorem SettingsFile.settingsPath?_eq (h : SettingsFile files named path) :
    settingsPath? files named = path := by
  unfold settingsPath?
  cases h with
  | named path => rfl
  | ofDirectory h => simp [Files.isFile_iff, h]
  | ofPlatform hlocal hplatform h => simp [Files.isFile_iff, hlocal, hplatform, h]
  | absent hlocal hplatform =>
    simp only [Files.isFile_iff, hlocal, if_false, Option.filter_eq_none_iff]
    exact hplatform

theorem exists_settingsFile (files : Files) (named : Option String) :
    ∃ path, SettingsFile files named path := by
  cases named with
  | some path => exact ⟨_, .named path⟩
  | none =>
    by_cases hlocal : files.HasFile localSettings
    · exact ⟨_, .ofDirectory hlocal⟩
    · by_cases hplatform : ∃ path, files.platformSettings = some path ∧ files.HasFile path
      · obtain ⟨path, hpath, hfile⟩ := hplatform
        exact ⟨_, .ofPlatform hlocal hpath hfile⟩
      · push Not at hplatform
        exact ⟨_, .absent hlocal hplatform⟩

theorem States.loadSettings_eq (hpath : SettingsFile files named path)
    (h : States toml files path stated) : loadSettings toml files named = stated := by
  rw [loadSettings, hpath.settingsPath?_eq]
  -- a rule says what the file is, which settles how reading it and decoding it come out
  cases h with
  | defaults => rfl
  | @settings path text settings hfile htoml =>
    have htext : String.fromUTF8? text.toUTF8 = some text := fromUTF8?_eq_some_iff.mpr rfl
    simp only [readSettings, Files.read_of_file hfile, htext, htoml]
  | missing h =>
    have hread := Files.read_of_bars (h.symm ▸ Entry.Bars.missing)
    simp only [readSettings, hread]
  | @unreadable path failure h hpresent =>
    have hread := Files.read_of_bars h
    cases failure with
    | missing => exact absurd rfl hpresent
    | _ => simp only [readSettings, hread]
  | notText hfile htext =>
    simp only [readSettings, Files.read_of_file hfile, fromUTF8?_eq_none_iff.mpr htext]
  | @invalid path text hfile htoml =>
    have htext : String.fromUTF8? text.toUTF8 = some text := fromUTF8?_eq_some_iff.mpr rfl
    simp only [readSettings, Files.read_of_file hfile, htext, htoml]

theorem exists_states (toml : String → Option Settings) (files : Files) (path : Option String) :
    ∃ stated, States toml files path stated := by
  cases path with
  | none => exact ⟨_, .defaults⟩
  | some path =>
    -- the questions are asked in the order of the program: is there a file, is it text, is it
    -- settings
    rcases files.file_or_bars path with ⟨bytes, hfile⟩ | ⟨failure, hbars⟩
    · by_cases htext : ∃ text : String, text.toUTF8 = bytes
      · obtain ⟨text, rfl⟩ := htext
        cases htoml : toml text with
        | none => exact ⟨_, .invalid hfile htoml⟩
        | some settings => exact ⟨_, .settings hfile htoml⟩
      · push Not at htext
        exact ⟨_, .notText hfile htext⟩
    -- a file that is missing is reported by its path, anything else as it is
    · by_cases hmissing : files.entry path = .missing
      · exact ⟨_, .missing hmissing⟩
      · refine ⟨_, .unreadable hbars ?_⟩
        rintro rfl
        generalize files.entry path = entry at hbars hmissing
        cases hbars
        exact hmissing rfl

end settings

/-! ## Section 3: Preparation -/

/-- What a run has when it starts to write, or the first thing that fails before. -/
inductive Prepares (toml : String → Option Settings) (files : Files) (request : Request) :
    Except Failure (Analyzer × String) → Prop
  /-- The settings come first. -/
  | noSettings {path : Option String} {failure : FileFailure}
      (hpath : SettingsFile files request.config path)
      (h : States toml files path (.error failure)) :
      Prepares toml files request (.error (.file failure))
  /-- The source is looked at once there are settings. -/
  | noSource {path : Option String} {settings : Settings} {failure : FileFailure}
      (hpath : SettingsFile files request.config path)
      (hsettings : States toml files path (.ok settings))
      (h : (files.entry request.input).Bars failure) :
      Prepares toml files request (.error (.file failure))
  /-- The words that the settings add are looked at last, and the first bad one is refused. -/
  | badWord {path : Option String} {settings : Settings} {bytes : ByteArray} {word : String}
      (hpath : SettingsFile files request.config path)
      (hsettings : States toml files path (.ok settings))
      (hsource : files.entry request.input = .file bytes)
      (h : settings.extraKeywords.find? (fun word => !isWordShaped word) = some word) :
      Prepares toml files request (.error (.settings ⟨word⟩))
  | ready {path : Option String} {settings : Settings} {bytes : ByteArray} {a : Analyzer}
      (hpath : SettingsFile files request.config path)
      (hsettings : States toml files path (.ok settings))
      (hsource : files.entry request.input = .file bytes)
      (ha : Analyzer.ofSettings settings = .ok a) :
      Prepares toml files request (.ok (a, Text.decodeSource bytes))

/-- The first word without the shape of a word is refused. -/
theorem ofSettings_eq_error_iff {settings : Settings} {e : UnreadableWord} :
    Analyzer.ofSettings settings = .error e ↔
      settings.extraKeywords.find? (fun word => !isWordShaped word) = some e.word := by
  rw [← Vocabulary.reserve_eq_error_iff, Analyzer.ofSettings, Settings.vocabulary]
  cases Vocabulary.standard.reserve settings.extraKeywords <;> simp [Except.map]

section preparation
variable {toml : String → Option Settings} {files : Files} {request : Request}
  {prepared : Except Failure (Analyzer × String)}

/-- Once both files have been read, only the words can fail. -/
theorem prepare_of_read {settings : Settings} {bytes : ByteArray}
    (hsettings : loadSettings toml files request.config = .ok settings)
    (hsource : files.entry request.input = .file bytes) :
    prepare toml files request = do
      let a ← (Analyzer.ofSettings settings).mapError Failure.settings
      return (a, Text.decodeSource bytes) := by
  rw [prepare, readSource, hsettings, Files.read_of_file hsource]
  rfl

theorem Prepares.prepare_eq (h : Prepares toml files request prepared) :
    prepare toml files request = prepared := by
  cases h with
  | noSettings hpath h =>
    rw [prepare, h.loadSettings_eq hpath]
    rfl
  | noSource hpath hsettings h =>
    rw [prepare, readSource, hsettings.loadSettings_eq hpath, Files.read_of_bars h]
    rfl
  | badWord hpath hsettings hsource h =>
    rw [prepare_of_read (hsettings.loadSettings_eq hpath) hsource, ofSettings_eq_error_iff.mpr h]
    rfl
  | ready hpath hsettings hsource ha =>
    rw [prepare_of_read (hsettings.loadSettings_eq hpath) hsource, ha]
    rfl

theorem exists_prepares (toml : String → Option Settings) (files : Files) (request : Request) :
    ∃ prepared, Prepares toml files request prepared := by
  obtain ⟨path, hpath⟩ := exists_settingsFile files request.config
  obtain ⟨stated, hstated⟩ := exists_states toml files path
  cases stated with
  | error failure => exact ⟨_, .noSettings hpath hstated⟩
  | ok settings =>
    -- the source is asked for only if there are settings, and the words only if there is a source
    rcases files.file_or_bars request.input with ⟨bytes, hsource⟩ | ⟨failure, hbars⟩
    · cases ha : Analyzer.ofSettings settings with
      | error e => exact ⟨_, .badWord hpath hstated hsource (ofSettings_eq_error_iff.mp ha)⟩
      | ok a => exact ⟨_, .ready hpath hstated hsource ha⟩
    · exact ⟨_, .noSource hpath hstated hbars⟩

end preparation

/-! ## Section 4: Reports -/

section reports
variable {a : Analyzer} {source : String} {mode : Mode} {tree : Node}

/-- What a report has before its verdict: in the full mode, the listing of the tokens. -/
def sectionsBefore (mode : Mode) (a : Analyzer) (source : String) : String :=
  if mode = .full then Report.lexical (a.list source) else ""

/-- What a report has after its verdict if there are errors: the tree that could be read. -/
def partialTree : Option Node → String
  | none => ""
  | some tree => "Partial tree\n" ++ tree.render

/-- Outside the lexical mode a report ends with the syntax check. -/
theorem render_eq (hmode : mode ≠ .lexical) :
    render mode a source = sectionsBefore mode a source ++ Report.syntaxCheck (a.parse source) := by
  cases mode with
  | lexical => exact absurd rfl hmode
  | check => simp [render, sectionsBefore]
  | full => rfl

/-- The report on a text without errors. -/
theorem syntaxCheck_of_succeeded {check : SyntaxCheck} (h : check.diagnostics = [])
    (htree : check.tree = some tree) :
    Report.syntaxCheck check = "Syntax: OK\n" ++ tree.render := by
  simp [Report.syntaxCheck, Report.verdict, SyntaxCheck.succeeded, h, htree]

/-- The report on a text with errors. -/
theorem syntaxCheck_of_errors {check : SyntaxCheck} (h : check.diagnostics ≠ []) :
    Report.syntaxCheck check =
      s!"Syntax: {check.diagnostics.length} error(s)\n" ++
        Report.indented (check.diagnostics.map Diagnostic.render) ++ partialTree check.tree := by
  have hfailed : check.succeeded = false := by simpa [SyntaxCheck.succeeded] using h
  rw [Report.syntaxCheck, Report.verdict, hfailed]
  cases check.tree <;> rfl

/-- Outside the lexical mode a text without errors is no failure. -/
theorem rejection_of_succeeded (hmode : mode ≠ .lexical) (h : (a.parse source).diagnostics = [])
    (htree : (a.parse source).tree = some tree) : rejection mode a source = none := by
  have hsucceeded : (a.parse source).succeeded = true := by simp [SyntaxCheck.succeeded, h]
  have hchecked : a.check source = .ok tree := by
    rw [Analyzer.check, SyntaxCheck.result_eq_ok_iff.mpr ⟨hsucceeded, htree⟩]
    rfl
  -- the failure of a run comes from the check alone, which gives the tree here
  unfold rejection
  rw [hchecked]
  cases mode <;> first | exact absurd rfl hmode | rfl

/-- A text with errors is one, and it keeps the text and the diagnostics. -/
theorem rejection_of_errors (hmode : mode ≠ .lexical) (h : (a.parse source).diagnostics ≠ []) :
    rejection mode a source = some (.rejected (a.parse source).diagnostics source) := by
  have hfailed : (a.parse source).succeeded = false := by simpa [SyntaxCheck.succeeded] using h
  have hchecked : a.check source = .error (.rejected (a.parse source).diagnostics source) := by
    rw [Analyzer.check, SyntaxCheck.result_of_not_succeeded hfailed]
    rfl
  unfold rejection
  rw [hchecked]
  cases mode <;> first | exact absurd rfl hmode | rfl

end reports

/-! ## Section 5: Runs -/

/-- What a run writes and how it ends. -/
inductive Runs (toml : String → Option Settings) (files : Files) (request : Request) :
    Outcome → Prop
  /-- Nothing is written if something fails before. -/
  | failed {failure : Failure} (h : Prepares toml files request (.error failure)) :
      Runs toml files request ⟨"", some failure⟩
  /-- The lexical mode does not ask for errors. -/
  | listed {a : Analyzer} {source : String} (h : Prepares toml files request (.ok (a, source)))
      (hmode : request.mode = .lexical) :
      Runs toml files request ⟨Report.lexical (a.list source), none⟩
  | accepted {a : Analyzer} {source : String} {tree : Node}
      (h : Prepares toml files request (.ok (a, source))) (hmode : request.mode ≠ .lexical)
      (hnone : (a.parse source).diagnostics = []) (htree : (a.parse source).tree = some tree) :
      Runs toml files request
        ⟨sectionsBefore request.mode a source ++ ("Syntax: OK\n" ++ tree.render), none⟩
  /-- The failure has the diagnostics that are listed. -/
  | rejected {a : Analyzer} {source : String} {diagnostics : List Diagnostic}
      (h : Prepares toml files request (.ok (a, source))) (hmode : request.mode ≠ .lexical)
      (hsome : diagnostics ≠ []) (hcheck : (a.parse source).diagnostics = diagnostics) :
      Runs toml files request
        ⟨sectionsBefore request.mode a source ++
            (s!"Syntax: {diagnostics.length} error(s)\n" ++
              Report.indented (diagnostics.map Diagnostic.render) ++
              partialTree (a.parse source).tree),
          some (.rejected diagnostics source)⟩

section runs
variable {toml : String → Option Settings} {files : Files} {request : Request} {outcome : Outcome}

theorem Runs.run_eq (h : Runs toml files request outcome) : run toml files request = outcome := by
  unfold run
  cases h with
  | failed h => rw [h.prepare_eq]
  | listed h hmode =>
    rw [h.prepare_eq, hmode]
    rfl
  | accepted h hmode hnone htree =>
    rw [h.prepare_eq]
    show Outcome.mk _ _ = _
    rw [render_eq hmode, syntaxCheck_of_succeeded hnone htree,
      rejection_of_succeeded hmode hnone htree]
  | rejected h hmode hsome hcheck =>
    subst hcheck
    rw [h.prepare_eq]
    show Outcome.mk _ _ = _
    rw [render_eq hmode, syntaxCheck_of_errors hsome, rejection_of_errors hmode hsome]

theorem exists_runs (toml : String → Option Settings) (files : Files) (request : Request) :
    ∃ outcome, Runs toml files request outcome := by
  obtain ⟨prepared, h⟩ := exists_prepares toml files request
  cases prepared with
  | error failure => exact ⟨_, .failed h⟩
  | ok ready =>
    obtain ⟨a, source⟩ := ready
    by_cases hmode : request.mode = .lexical
    · exact ⟨_, .listed h hmode⟩
    · by_cases hnone : (a.parse source).diagnostics = []
      · have hsucceeded : (a.parse source).succeeded = true := by
          simp [SyntaxCheck.succeeded, hnone]
        obtain ⟨tree, htree⟩ := SyntaxCheck.exists_tree hsucceeded
        exact ⟨_, .accepted h hmode hnone htree⟩
      · exact ⟨_, .rejected h hmode hnone rfl⟩

/-- Nothing is written exactly if something fails before. -/
theorem Runs.written_eq_empty_iff (h : Runs toml files request outcome) :
    outcome.written = "" ↔ ∃ failure, Prepares toml files request (.error failure) := by
  constructor
  · intro hempty
    -- every report has a heading or a verdict at least
    cases h with
    | failed h => exact ⟨_, h⟩
    | listed => simp [Report.lexical, Report.tokens] at hempty
    | accepted => simp at hempty
    | rejected => simp at hempty
  · rintro ⟨failure, hfailure⟩
    rw [← h.run_eq, (Runs.failed hfailure).run_eq]

/-- Runs go by their rules, every run by one and no run by two, whatever reader of settings they
    are given. Hence what is written is nothing, with the first failure in the order of settings,
    source and words, or else it is the report for the mode. The lexical mode succeeds then, and the
    others do exactly if there are no errors; otherwise the failure has the text and the diagnostics
    that the report lists. -/
theorem run_eq_iff_runs (toml : String → Option Settings) (files : Files) (request : Request)
    (outcome : Outcome) :
    run toml files request = outcome ↔ Runs toml files request outcome := by
  -- the rules give the outcome of the program, and since a rule applies to every run they give no
  -- other
  constructor
  · rintro rfl
    obtain ⟨outcome, h⟩ := exists_runs toml files request
    rwa [h.run_eq]
  · exact Runs.run_eq

end runs

end CommandLine

end ScriptCheck
