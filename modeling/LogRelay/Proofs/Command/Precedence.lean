import LogRelay.Command.Run

/-!
Which settings a command line works with. Options stand over the environment, the environment over
the document and the document over the standard settings, but the settings below the options have
to pass the checks by themselves, and without a file the environment does not count.
-/
set_option autoImplicit false

namespace LogRelay.Command

open Config

def File.document? : File → Option (Option String)
  | .other => some none
  | .text content => some (some content)
  | _ => none

def settingsBelow? (environment : List (String × String)) (document : Option String) :
    Option Settings :=
  (ofEnvironment? environment).bind (read? document)

def Invocation.effective? (invocation : Invocation) (environment : List (String × String))
    (document : Option String) : Option Settings :=
  (settingsBelow? environment document).map invocation.overrule

theorem checked_iff {β : Type} (accept : Settings → β) (blame : SetupError → β)
    (only : ∀ found settings, accept found = accept settings → found = settings)
    (apart : ∀ error settings, blame error ≠ accept settings) (found settings : Settings) :
    (match found.validate with
      | .error error => blame error
      | .ok () => accept found) = accept settings ↔
    found = settings ∧ settings.validate = .ok () := by
  cases checked : found.validate with
  | error error =>
      refine ⟨fun same => absurd same (apart error settings), ?_⟩
      rintro ⟨rfl, passed⟩
      cases checked.symm.trans passed
  | ok _ =>
      refine ⟨?_, ?_⟩
      · intro same
        cases only found settings same
        exact ⟨rfl, checked⟩
      · rintro ⟨rfl, _⟩
        rfl

theorem load_iff (document : Option String) (environment : List (String × String))
    (settings : Settings) : Settings.load document environment = .ok settings ↔
      settingsBelow? environment document = some settings ∧ settings.validate = .ok () := by
  unfold Settings.load settingsBelow?
  cases ofEnvironment? environment with
  | none => simp
  | some overrides =>
      dsimp only [Option.bind_some]
      cases read? document overrides with
      | none => simp
      | some below =>
          rw [Option.some.injEq]
          exact checked_iff Loading.ok Loading.error (fun _ _ => Loading.ok.inj)
            (fun _ _ same => by cases same) below settings

theorem settled_iff (path : String) (loading : Loading) (settings : Settings) :
    settled path loading = .ok settings ↔ loading = .ok settings := by
  cases loading <;> simp [settled]

theorem read_file_iff (path : String) (environment : List (String × String)) (file : File)
    (document : Option String) (exist : file.document? = some document) (settings : Settings) :
    readFile path environment file = .ok settings ↔
      settingsBelow? environment document = some settings ∧ settings.validate = .ok () := by
  rw [← load_iff]
  cases file with
  | missing => cases exist
  | unreadable => cases exist
  | other =>
      cases exist
      exact settled_iff path (Settings.load none environment) settings
  | text content =>
      cases exist
      exact settled_iff path (Settings.load (some content) environment) settings

theorem settings_iff (invocation : Invocation) (environment : List (String × String)) (file : File)
    (settings : Settings) : invocation.settings environment file = .ok settings ↔
      ∃ below, readFile invocation.config environment file = .ok below ∧
        invocation.overrule below = settings ∧ settings.validate = .ok () := by
  unfold Invocation.settings
  cases readFile invocation.config environment file with
  | error problem => simp
  | ok below =>
      simp only [Except.ok.injEq, exists_eq_left']
      exact checked_iff Except.ok (fun error => .error (Problem.setup error))
        (fun _ _ => Except.ok.inj) (fun _ _ same => by cases same) (invocation.overrule below)
        settings

theorem blank_settings : settingsBelow? [] none = some .standard := by
  decide +kernel

theorem effective_settings_exact (invocation : Invocation) (environment : List (String × String))
    (settings : Settings) :
    (∀ file document, File.document? file = some document →
      (invocation.settings environment file = .ok settings ↔
        invocation.effective? environment document = some settings ∧ settings.validate = .ok () ∧
        ∃ below, settingsBelow? environment document = some below ∧ below.validate = .ok ())) ∧
    (invocation.settings environment .missing = .ok settings ↔
      invocation.effective? [] none = some settings ∧ settings.validate = .ok ()) := by
  refine ⟨?_, ?_⟩
  · intro file document exist
    rw [settings_iff, Invocation.effective?]
    simp only [read_file_iff invocation.config environment file document exist]
    cases settingsBelow? environment document with
    | none => simp
    | some below =>
        simp only [Option.map_some, Option.some.injEq]
        grind
  · rw [settings_iff, Invocation.effective?, blank_settings]
    simp only [readFile, Except.ok.injEq, Option.map_some, Option.some.injEq]
    grind

def withoutOptions : Invocation := ⟨"quill.yaml", none, none, none, .bench 0 0⟩

theorem patterned_below : settingsBelow? [("QUILL_ACCESS_LOG__PATTERN", "%m")] none =
    some { Settings.standard with log := { LogSettings.standard with pattern := "%m" } } := by
  decide +kernel

theorem uncategorized_below : settingsBelow? [("QUILL_SCRIBE__CATEGORY", "")] (some "") =
    some { Settings.standard with
      collector := { CollectorSettings.standard with category := "" } } := by
  decide +kernel

-- Without a file the environment is lost, and an option comes too late for what it would mend.
theorem one_rule_broken :
    (¬ ∀ (invocation : Invocation) environment settings effective,
      invocation.effective? environment none = some effective →
      invocation.settings environment .missing = .ok settings → settings = effective) ∧
    ¬ ∀ (invocation : Invocation) environment content effective,
      invocation.effective? environment (some content) = some effective →
      effective.validate = .ok () →
      ∃ settings, invocation.settings environment (.text content) = .ok settings := by
  refine ⟨?_, ?_⟩
  · intro rule
    have effective := congrArg (Option.map withoutOptions.overrule) patterned_below
    have same := rule withoutOptions _ .standard _ effective rfl
    revert same
    decide
  · intro rule
    let invocation := { withoutOptions with category := some "web" }
    have effective := congrArg (Option.map invocation.overrule) uncategorized_below
    obtain ⟨settings, loaded⟩ := rule invocation _ _ _ effective rfl
    obtain ⟨below, found, _⟩ := (settings_iff _ _ _ _).mp loaded
    have checked := (read_file_iff _ _ (.text "") (some "") rfl _).mp found
    rw [uncategorized_below, Option.some.injEq] at checked
    obtain ⟨rfl, passed⟩ := checked
    cases passed

end LogRelay.Command
