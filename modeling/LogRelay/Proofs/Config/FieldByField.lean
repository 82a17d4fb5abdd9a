import LogRelay.Proofs.Command.Precedence
import LogRelay.Proofs.Config.Fields
import LogRelay.Proofs.Config.Variables

/-!
Loaded settings, field by field. What is in force for a field is what the environment has for it,
else what the document has for it, else the standard value; no other entry of either counts, and
settings that would do harm later are not loaded.
-/
set_option autoImplicit false

namespace LogRelay.Config

open Command

-- What is in force over a document's tree in an environment.
structure InForce (tree : List (String × Value)) (environment : List (String × String))
    (settings : Settings) : Prop where
  readable : Readable environment
  sections : ∀ part ∈ sectionNames, ∀ value, tree.lookup part = some value →
    value.isMap = true ∨ ∃ name literal, IsWord name ∧ Given environment part name literal
  given : ∀ part name fallback, Settings.standard.field? part name = some fallback →
    ∀ literal, Given environment part name literal →
      settings.field? part name = some literal
  spared : ∀ part name fallback, Settings.standard.field? part name = some fallback →
    (∀ entry ∈ environment, lowered entry.1 ≠ variableName part name) →
      settings.field? part name = some (((Value.map tree).at? part name).getD fallback)

structure Usable (collector : CollectorSettings) : Prop where
  category : collector.category ≠ ""
  host : collector.host ≠ ""
  port : collector.port ≠ 0
  connectTimeout : collector.connectTimeout ≠ some 0
  ioTimeout : collector.ioTimeout ≠ some 0
  localHost : ∀ name, collector.localHost = some name → '\r' ∉ name.toList ∧ '\n' ∉ name.toList

-- Why settings are not loaded: nothing is in force, or the settings in force fail a check, and the
-- first that they fail is told of.
inductive Refused (document : Option String) (environment : List (String × String)) :
    SetupError → Prop where
  | unreadable (nothing : ∀ tree settings, readDocument? (document.getD "") = some tree →
      ¬ InForce tree environment settings) : Refused document environment .unreadable
  | unusable (tree : List (String × Value)) (settings : Settings)
      (invalid : CollectorSettings.Invalid) (read : readDocument? (document.getD "") = some tree)
      (inForce : InForce tree environment settings)
      (fails : settings.collector.invalid? = some invalid) :
      Refused document environment (.configuration invalid.message)

theorem any_breaks_line (name : Option String) :
    name.any CollectorSettings.breaksLine = false ↔
      ∀ text, name = some text → '\r' ∉ text.toList ∧ '\n' ∉ text.toList := by
  cases name with
  | none => simp
  | some text =>
      rw [Option.any_some, CollectorSettings.breaksLine, List.any_eq_false]
      constructor
      · rintro clear _ same
        cases same
        exact ⟨fun there => clear _ there (by decide), fun there => clear _ there (by decide)⟩
      · intro clear c there
        obtain ⟨noReturn, noFeed⟩ := clear text rfl
        simp only [Bool.or_eq_true, decide_eq_true_eq]
        rintro (rfl | rfl)
        · exact noReturn there
        · exact noFeed there

theorem unless_none {α : Type} (condition : Prop) [Decidable condition] (content : α)
    (rest : Option α) :
    (if condition then some content else rest) = none ↔ ¬ condition ∧ rest = none := by
  by_cases holds : condition
  · rw [if_pos holds]
    exact ⟨nofun, fun both => absurd holds both.1⟩
  · rw [if_neg holds]
    exact ⟨fun same => ⟨holds, same⟩, And.right⟩

theorem valid_iff_usable (collector : CollectorSettings) :
    collector.validate = .ok () ↔ Usable collector := by
  have valid : collector.validate = .ok () ↔ collector.invalid? = none := by
    rw [CollectorSettings.validate]
    cases collector.invalid? <;> simp
  rw [valid, CollectorSettings.invalid?]
  simp only [unless_none, Bool.not_eq_true, any_breaks_line, and_true]
  constructor
  · rintro ⟨category, host, port, connectTimeout, ioTimeout, localHost⟩
    exact { category, host, port, connectTimeout, ioTimeout, localHost }
  · intro usable
    exact ⟨usable.category, usable.host, usable.port, usable.connectTimeout, usable.ioTimeout,
      usable.localHost⟩

theorem known_words (part name : String) (fallback : Value)
    (known : Settings.standard.field? part name = some fallback) :
    IsWord part ∧ IsWord name := by
  have words : ∀ entry ∈ LogSettings.standard.toValue.entries ++
      CollectorSettings.standard.toValue.entries, IsWord entry.1 := by
    decide +kernel
  rw [field_eq] at known
  simp only [Value.child_eq_lookup] at known
  split at known
  · next same =>
    subst same
    exact ⟨by decide +kernel, words _ (List.mem_append_left _ (Value.lookup_mem _ _ _ known))⟩
  · split at known
    · next same =>
      subst same
      exact ⟨by decide +kernel, words _ (List.mem_append_right _ (Value.lookup_mem _ _ _ known))⟩
    · cases known

theorem merge_map (former : Value) (fields : List (String × Value)) :
    (former.merge (.map fields)).isMap = true := by
  cases former <;> rfl

theorem merge_plain (former literal : Value) (plain : literal.isMap = false) :
    former.merge literal = literal := by
  cases literal with
  | map fields => cases plain
  | _ =>
      rw [Value.merge]
      intro entries same
      cases same

-- Where a field takes no maps, a later value takes the place of an earlier one.
theorem over_plain_iff (former : Option Value) (literal value : Value)
    (plain : value.isMap = false) :
    value = former.elim literal (Value.merge · literal) ↔ value = literal := by
  cases former with
  | none => rfl
  | some former =>
      rw [Option.elim_some]
      cases later : literal.isMap with
      | false => rw [merge_plain former literal later]
      | true =>
          cases literal with
          | map fields =>
              constructor
              · rintro rfl
                rw [merge_map] at plain
                cases plain
              · rintro rfl
                cases plain
          | _ => cases later

theorem merged_section (tree later : List (String × Value)) (part : String)
    (layered : Layered later) :
    ((later.lookup part) = none ∧ (Value.mergeEntries tree later).lookup part = tree.lookup part) ∨
    ∃ value merged, later.lookup part = some value ∧ merged.isMap = true ∧
      (Value.mergeEntries tree later).lookup part = some merged := by
  rw [Value.lookup_merge_entries tree later part layered.once]
  cases found : later.lookup part with
  | none => exact .inl ⟨rfl, rfl⟩
  | some value =>
      obtain ⟨fields, same, _⟩ := layered.parts _ (Value.lookup_mem _ _ _ found)
      dsimp only at same
      subst same
      refine .inr ⟨_, _, rfl, ?_, rfl⟩
      cases tree.lookup part with
      | none => rfl
      | some former => exact merge_map former fields

theorem merged_key_tree (tree later : List (String × Value)) (layered : Layered later)
    (keyed : isKeyTree tree = true) : isKeyTree (Value.mergeEntries tree later) = true := by
  rw [key_tree_iff] at keyed ⊢
  intro part known
  rcases merged_section tree later part layered with ⟨_, same⟩ | ⟨_, merged, _, isMap, found⟩
  · rw [same]
    exact keyed part known
  · rw [found, Option.any_some]
    cases merged with
    | map fields => rfl
    | _ => cases isMap

theorem merged_maps_iff (tree later : List (String × Value)) (part : String)
    (layered : Layered later) :
    (∀ value, (Value.mergeEntries tree later).lookup part = some value → value.isMap = true) ↔
      ∀ value, tree.lookup part = some value →
        value.isMap = true ∨ ∃ value, later.lookup part = some value := by
  rcases merged_section tree later part layered with
    ⟨absent, same⟩ | ⟨value, merged, there, isMap, found⟩
  · rw [same, absent]
    simp
  · rw [found, there]
    simp [isMap]

theorem given_or_free (environment : List (String × String)) (part name : String)
    (partWord : IsWord part) (nameWord : IsWord name)
    (readable : Readable environment) :
    (∃ literal, Given environment part name literal) ∨
      ∀ entry ∈ environment, lowered entry.1 ≠ variableName part name := by
  by_cases free : ∀ entry ∈ environment, lowered entry.1 ≠ variableName part name
  · exact .inr free
  · simp only [Classical.not_forall, Classical.not_not] at free
    obtain ⟨entry, member, spelled⟩ := free
    have path := path_of_spelled entry.1 part name partWord nameWord spelled
    obtain ⟨literal, read⟩ :=
      Option.isSome_iff_exists.mp (readable entry member (by rw [isSetting, path]; rfl))
    exact .inl ⟨literal, entry, member, spelled, read⟩

theorem merged_field_iff (tree later : List (String × Value)) (environment : List (String × String))
    (settings : Settings) (part name : String) (fallback : Value) (layered : Layered later)
    (readable : Readable environment)
    (fields : ∀ part name literal, (Value.map later).at? part name = some literal ↔
      IsWord part ∧ IsWord name ∧ Given environment part name literal)
    (known : Settings.standard.field? part name = some fallback) :
    settings.field? part name =
        some ((((Value.map tree).merge (.map later)).at? part name).getD fallback) ↔
      (∀ literal, Given environment part name literal →
        settings.field? part name = some literal) ∧
      ((∀ entry ∈ environment, lowered entry.1 ≠ variableName part name) →
        settings.field? part name = some (((Value.map tree).at? part name).getD fallback)) := by
  obtain ⟨partWord, nameWord⟩ := known_words part name fallback known
  obtain ⟨value, there⟩ := field_known settings part name fallback known
  have plain := field_plain settings part name value there
  rw [at_merge_layered (Value.map tree) later part name layered]
  rcases given_or_free environment part name partWord nameWord readable with ⟨literal, given⟩ | free
  · have written := (fields part name literal).mpr ⟨partWord, nameWord, given⟩
    rw [written, there]
    dsimp only [Option.getD_some]
    rw [Option.some.injEq, over_plain_iff _ literal value plain]
    constructor
    · rintro rfl
      refine ⟨?_, ?_⟩
      · intro literal other
        rw [← written, ← (fields part name literal).mpr ⟨partWord, nameWord, other⟩]
      · intro free
        obtain ⟨entry, member, spelled, _⟩ := given
        exact absurd spelled (free entry member)
    · rintro ⟨same, _⟩
      exact Option.some.inj (same literal given)
  · have unwritten : (Value.map later).at? part name = none := by
      rw [Option.eq_none_iff_forall_ne_some]
      intro literal written
      obtain ⟨_, _, entry, member, spelled, _⟩ := (fields part name literal).mp written
      exact free entry member spelled
    rw [unwritten]
    constructor
    · intro same
      refine ⟨?_, fun _ => same⟩
      rintro literal ⟨entry, member, spelled, _⟩
      exact absurd spelled (free entry member)
    · exact fun both => both.2 free

theorem merged_read_iff (tree : List (String × Value)) (environment : List (String × String))
    (overrides : Value) (keyed : isKeyTree tree = true) (addressed : Addressed environment)
    (found : ofEnvironment? environment = some overrides) (settings : Settings) :
    Settings.ofValue? (withCutSections ((Value.map tree).merge overrides)) = some settings ↔
      InForce tree environment settings := by
  obtain ⟨later, rfl, layered, fields⟩ := environment_fields environment overrides addressed found
  have readable := (environment_readable environment).mp (by rw [found]; rfl)
  have topKeyed := merged_key_tree tree later layered keyed
  have merged : (Value.map tree).merge (.map later) = .map (Value.mergeEntries tree later) := by
    rw [Value.merge]
  have reached (part : String) (known : part ∈ sectionNames) :
      (∃ value, later.lookup part = some value) ↔
        ∃ name literal, IsWord name ∧ Given environment part name literal := by
    have word : IsWord part := by
      revert part
      decide +kernel
    rw [layered_part later part layered]
    simp only [fields, word, true_and]
  rw [merged, cut_key_tree _ topKeyed, settings_read_iff _ topKeyed, ← merged]
  have field_iff := merged_field_iff tree later environment settings
  constructor
  · rintro ⟨maps, same⟩
    refine ⟨readable, ?_, ?_, ?_⟩
    · intro part known
      have sectionMaps := (merged_maps_iff tree later part layered).mp (maps part known)
      simp only [reached part known] at sectionMaps
      exact sectionMaps
    · intro part name fallback known
      exact ((field_iff part name fallback layered readable fields known).mp
        (same part name fallback known)).1
    · intro part name fallback known
      exact ((field_iff part name fallback layered readable fields known).mp
        (same part name fallback known)).2
  · intro inForce
    refine ⟨?_, ?_⟩
    · intro part known
      rw [merged_maps_iff tree later part layered]
      simp only [reached part known]
      exact inForce.sections part known
    · intro part name fallback known
      exact (field_iff part name fallback layered readable fields known).mpr
        ⟨inForce.given part name fallback known, inForce.spared part name fallback known⟩

theorem below_iff (document : Option String) (environment : List (String × String))
    (keyed : (readDocument? (document.getD "")).all isKeyTree = true)
    (addressed : Addressed environment) (settings : Settings) :
    settingsBelow? environment document = some settings ↔
      ∃ tree, readDocument? (document.getD "") = some tree ∧
        InForce tree environment settings := by
  cases found : ofEnvironment? environment with
  | none =>
      rw [settingsBelow?, found]
      refine ⟨nofun, ?_⟩
      rintro ⟨_, _, inForce⟩
      have some := (environment_readable environment).mpr inForce.readable
      rw [found] at some
      cases some
  | some overrides =>
      rw [settingsBelow?, found, Option.bind_some, read?, overlay?]
      cases tree? : readDocument? (document.getD "") with
      | none => simp
      | some tree =>
          rw [tree?, Option.all_some] at keyed
          rw [Option.map_some, Option.bind_some,
            merged_read_iff tree environment overrides keyed addressed found]
          simp

theorem load_eq (document : Option String) (environment : List (String × String)) :
    Settings.load document environment =
      if (ofEnvironment? environment).isSome then
        match settingsBelow? environment document with
        | none => .error .unreadable
        | some settings =>
            match settings.collector.invalid? with
            | none => .ok settings
            | some invalid => .error (.configuration invalid.message)
      else .stopped := by
  rw [Settings.load, settingsBelow?]
  cases ofEnvironment? environment with
  | none => rfl
  | some overrides =>
      simp only [Option.bind_some, Option.isSome_some, if_true]
      cases read? document overrides with
      | none => rfl
      | some settings =>
          simp only [Settings.validate, CollectorSettings.validate]
          cases settings.collector.invalid? <;> rfl

theorem load_iff_in_force (document : Option String) (environment : List (String × String))
    (keyed : (readDocument? (document.getD "")).all isKeyTree = true)
    (addressed : Addressed environment) (settings : Settings) :
    Settings.load document environment = .ok settings ↔
      ∃ tree, readDocument? (document.getD "") = some tree ∧ InForce tree environment settings ∧
        Usable settings.collector := by
  rw [load_iff, below_iff document environment keyed addressed, Settings.validate, valid_iff_usable]
  grind

theorem load_stopped_iff (document : Option String) (environment : List (String × String)) :
    Settings.load document environment = .stopped ↔ ofEnvironment? environment = none := by
  rw [Settings.load]
  cases ofEnvironment? environment with
  | none => simp
  | some overrides =>
      dsimp only
      cases read? document overrides with
      | none => simp
      | some settings =>
          dsimp only
          cases settings.validate <;> simp

-- The text would be cut within its first character, which has two bytes.
example : Settings.load none [("QUILL_SCRIBE__CATEGORY", "\"é\\n\"")] = .stopped := by
  decide +kernel

theorem load_error_cases (document : Option String) (environment : List (String × String))
    (error : SetupError) : Settings.load document environment = .error error ↔
      (ofEnvironment? environment).isSome ∧
        ((settingsBelow? environment document = none ∧ error = .unreadable) ∨
          ∃ settings invalid, settingsBelow? environment document = some settings ∧
            settings.collector.invalid? = some invalid ∧
            error = .configuration invalid.message) := by
  rw [load_eq]
  cases (ofEnvironment? environment).isSome with
  | false => simp
  | true =>
      cases settingsBelow? environment document with
      | none => simp [eq_comm]
      | some settings =>
          cases fails : settings.collector.invalid? <;> simp [fails, eq_comm]

theorem load_error_iff (document : Option String) (environment : List (String × String))
    (keyed : (readDocument? (document.getD "")).all isKeyTree = true)
    (addressed : Addressed environment) (error : SetupError) :
    Settings.load document environment = .error error ↔
      Readable environment ∧ Refused document environment error := by
  have below := below_iff document environment keyed addressed
  rw [load_error_cases, environment_readable]
  refine and_congr_right fun _ => ⟨?_, ?_⟩
  · rintro (⟨none, rfl⟩ | ⟨settings, invalid, found, fails, rfl⟩)
    · refine .unreadable fun tree settings read inForce => ?_
      cases none.symm.trans ((below settings).mpr ⟨tree, read, inForce⟩)
    · obtain ⟨tree, read, inForce⟩ := (below settings).mp found
      exact .unusable tree settings invalid read inForce fails
  · intro refused
    cases refused with
    | unreadable nothing =>
        refine .inl ⟨Option.eq_none_iff_forall_ne_some.mpr fun settings found => ?_, rfl⟩
        obtain ⟨tree, read, inForce⟩ := (below settings).mp found
        exact nothing tree settings read inForce
    | unusable tree settings invalid read inForce fails =>
        exact .inr ⟨settings, invalid, (below settings).mpr ⟨tree, read, inForce⟩, fails, rfl⟩

theorem refused_configuration (document : Option String) (environment : List (String × String))
    (error : SetupError) (refused : Refused document environment error) :
    error.isConfiguration = true := by
  cases refused with
  | unreadable => rfl
  | unusable => rfl

-- What is in force for a field depends on nothing but what there is for this field.
theorem in_force_field (tree tree' : List (String × Value))
    (environment environment' : List (String × String)) (settings settings' : Settings)
    (inForce : InForce tree environment settings)
    (inForce' : InForce tree' environment' settings') (part name : String) (fallback : Value)
    (known : Settings.standard.field? part name = some fallback)
    (same : ∀ literal, Given environment' part name literal ↔ Given environment part name literal)
    (agree : (Value.map tree').at? part name = (Value.map tree).at? part name) :
    settings'.field? part name = settings.field? part name := by
  obtain ⟨partWord, nameWord⟩ := known_words part name fallback known
  rcases given_or_free environment part name partWord nameWord inForce.readable with
    ⟨literal, given⟩ | free
  · rw [inForce.given part name fallback known literal given,
      inForce'.given part name fallback known literal ((same literal).mpr given)]
  · rcases given_or_free environment' part name partWord nameWord inForce'.readable with
      ⟨literal, given⟩ | free'
    · obtain ⟨entry, member, spelled, _⟩ := (same literal).mp given
      exact absurd spelled (free entry member)
    · rw [inForce.spared part name fallback known free,
        inForce'.spared part name fallback known free', agree]

theorem given_cons (label text part name : String) (environment : List (String × String))
    (literal : Value) (elsewhere : lowered label ≠ variableName part name) :
    Given ((label, text) :: environment) part name literal ↔
      Given environment part name literal := by
  simp [Given, elsewhere]

theorem addressed_perm (environment environment' : List (String × String))
    (perm : environment.Perm environment') (addressed : Addressed environment) :
    Addressed environment' := by
  refine ⟨fun entry member => addressed.spelled entry (perm.mem_iff.mpr member), ?_⟩
  exact ((perm.filter _).map _).nodup_iff.mp addressed.distinct

theorem in_force_perm (tree : List (String × Value))
    (environment environment' : List (String × String)) (perm : environment.Perm environment')
    (settings : Settings) (inForce : InForce tree environment settings) :
    InForce tree environment' settings := by
  have given (part name : String) (literal : Value) :
      Given environment' part name literal ↔ Given environment part name literal := by
    simp only [Given, perm.mem_iff]
  refine ⟨?_, ?_, ?_, ?_⟩
  · exact fun entry member => inForce.readable entry (perm.mem_iff.mpr member)
  · simp only [given]
    exact inForce.sections
  · simp only [given]
    exact inForce.given
  · intro part name fallback known free
    exact inForce.spared part name fallback known fun entry member =>
      free entry (perm.mem_iff.mp member)

theorem load_perm (document : Option String) (environment environment' : List (String × String))
    (keyed : (readDocument? (document.getD "")).all isKeyTree = true)
    (addressed : Addressed environment) (perm : environment.Perm environment') :
    Settings.load document environment' = Settings.load document environment := by
  have addressed' := addressed_perm environment environment' perm addressed
  have below : settingsBelow? environment' document = settingsBelow? environment document := by
    apply Option.ext
    intro settings
    rw [below_iff document environment' keyed addressed' settings,
      below_iff document environment keyed addressed settings]
    constructor
    · rintro ⟨tree, read, inForce⟩
      exact ⟨tree, read, in_force_perm tree environment' environment perm.symm settings inForce⟩
    · rintro ⟨tree, read, inForce⟩
      exact ⟨tree, read, in_force_perm tree environment environment' perm settings inForce⟩
  have readable : (ofEnvironment? environment').isSome = (ofEnvironment? environment).isSome := by
    rw [Bool.eq_iff_iff, environment_readable, environment_readable]
    simp only [Readable, perm.mem_iff]
  rw [load_eq, load_eq, below, readable]

theorem load_field_by_field (document : Option String) (environment : List (String × String))
    (keyed : (readDocument? (document.getD "")).all isKeyTree = true)
    (addressed : Addressed environment) :
    (∀ settings, Settings.load document environment = .ok settings ↔
      (∃ tree overrides, readDocument? (document.getD "") = some tree ∧
        ofEnvironment? environment = some overrides ∧
        Settings.ofValue? (withCutSections ((Value.map tree).merge overrides)) = some settings) ∧
      settings.validate = .ok ()) ∧
    (∀ settings, Settings.load document environment = .ok settings ↔
      ∃ tree, readDocument? (document.getD "") = some tree ∧ InForce tree environment settings ∧
        Usable settings.collector) ∧
    (∀ label text settings settings', Addressed ((label, text) :: environment) →
      Settings.load document environment = .ok settings →
      Settings.load document ((label, text) :: environment) = .ok settings' →
      (∀ part name fallback, Settings.standard.field? part name = some fallback →
        lowered label ≠ variableName part name →
        settings'.field? part name = settings.field? part name) ∧
      ((∀ part name fallback, Settings.standard.field? part name = some fallback →
        lowered label ≠ variableName part name) → settings' = settings)) ∧
    (∀ document' tree tree' settings settings', readDocument? (document.getD "") = some tree →
      readDocument? (document'.getD "") = some tree' → isKeyTree tree' = true →
      (∀ part name fallback, Settings.standard.field? part name = some fallback →
        (Value.map tree').at? part name = (Value.map tree).at? part name) →
      Settings.load document environment = .ok settings →
      Settings.load document' environment = .ok settings' → settings' = settings) ∧
    (∀ environment', environment.Perm environment' →
      Settings.load document environment' = Settings.load document environment) ∧
    (∀ error, Settings.load document environment = .error error ↔
      Readable environment ∧ Refused document environment error) ∧
    (∀ error, Settings.load document environment = .error error → error.isConfiguration = true) ∧
    (Settings.load document environment = .stopped ↔ ∃ entry ∈ environment,
      isSetting entry.1 = true ∧ Value.ofLiteral? entry.2 = none) := by
  have loaded := load_iff_in_force document environment keyed addressed
  have refused := load_error_iff document environment keyed addressed
  refine ⟨?_, loaded, ?_, ?_, ?_, refused, ?_, ?_⟩
  · intro settings
    rw [load_iff, settingsBelow?, Option.bind_eq_some_iff]
    simp only [read?, overlay?, Option.bind_eq_some_iff, Option.map_eq_some_iff]
    grind
  · intro label text settings settings' addressed' before after
    obtain ⟨tree, found, inForce, _⟩ := (loaded settings).mp before
    obtain ⟨tree', found', inForce', _⟩ :=
      (load_iff_in_force document _ keyed addressed' settings').mp after
    cases found.symm.trans found'
    have elsewhere (part name : String) (fallback : Value)
        (known : Settings.standard.field? part name = some fallback)
        (other : lowered label ≠ variableName part name) :
        settings'.field? part name = settings.field? part name :=
      in_force_field tree tree environment _ settings settings' inForce inForce' part name fallback
        known (fun literal => given_cons label text part name environment literal other) rfl
    refine ⟨elsewhere, ?_⟩
    intro unknown
    apply settings_of_fields
    intro part name fallback known
    exact elsewhere part name fallback known (unknown part name fallback known)
  · intro document' tree tree' settings settings' found found' keyed' agree before after
    obtain ⟨_, same, inForce, _⟩ := (loaded settings).mp before
    cases found.symm.trans same
    have keyedAll : (readDocument? (document'.getD "")).all isKeyTree = true := by
      rw [found', Option.all_some]
      exact keyed'
    obtain ⟨_, same', inForce', _⟩ :=
      (load_iff_in_force document' environment keyedAll addressed settings').mp after
    cases found'.symm.trans same'
    apply settings_of_fields
    intro part name fallback known
    exact in_force_field tree tree' environment environment settings settings' inForce inForce'
      part name fallback known (fun _ => Iff.rfl) (agree part name fallback known)
  · exact fun environment' => load_perm document environment environment' keyed addressed
  · intro error failed
    exact refused_configuration document environment error ((refused error).mp failed).2
  · rw [load_stopped_iff, environment_unreadable]

def hostDocument : String := "scribe:\n  remote_host: collector\n  remote_port: 1464\nnotes: 7\n"

def mixedEnvironment : List (String × String) :=
  [("QUILL_SCRIBE__CATEGORY", "web"), ("PATH", "/bin"), ("quill_Scribe__Remote_Port", "1465")]

-- The port is the environment's, the host the document's and the pattern the standard one.
theorem three_sources_in_force :
    (readDocument? hostDocument).all isKeyTree = true ∧ Addressed mixedEnvironment ∧
    ∃ settings tree, Settings.load (some hostDocument) mixedEnvironment = .ok settings ∧
      Settings.load (some hostDocument) mixedEnvironment.reverse = .ok settings ∧
      readDocument? hostDocument = some tree ∧ InForce tree mixedEnvironment settings ∧
      settings.collector.port = 1465 ∧ settings.collector.host = "collector" ∧
      settings.log.pattern = "common" := by
  have keyed : (readDocument? hostDocument).all isKeyTree = true := by decide +kernel
  have addressed : Addressed mixedEnvironment := by
    refine ⟨?_, by decide +kernel⟩
    intro entry member setting
    rcases List.mem_cons.mp member with rfl | member
    · exact ⟨"scribe", "category", by decide +kernel⟩
    · rcases List.mem_cons.mp member with rfl | member
      · have foreign : isSetting "PATH" = false := by decide +kernel
        cases foreign.symm.trans setting
      · cases List.mem_singleton.mp member
        exact ⟨"scribe", "remote_port", by decide +kernel⟩
  let settings := { Settings.standard with collector :=
    { CollectorSettings.standard with host := "collector", port := 1465, category := "web" } }
  have loaded : Settings.load (some hostDocument) mixedEnvironment = .ok settings :=
    (load_iff _ _ _).mpr ⟨by decide +kernel, rfl⟩
  obtain ⟨_, exactly, _, _, permuted, _⟩ :=
    load_field_by_field (some hostDocument) mixedEnvironment keyed addressed
  obtain ⟨tree, found, inForce, _⟩ := (exactly settings).mp loaded
  exact ⟨keyed, addressed, settings, tree, loaded,
    (permuted _ mixedEnvironment.reverse_perm.symm).trans loaded, found, inForce, rfl, rfl, rfl⟩

end LogRelay.Config
