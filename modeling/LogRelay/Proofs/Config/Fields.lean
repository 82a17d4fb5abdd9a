import LogRelay.Config.Load
import LogRelay.Proofs.Config.Overlay

/-!
How a tree is read as settings. Each reader takes exactly the values that are written for what it
gives, so settings are read field by field: what the tree has under the names of a field, or else
the standard value, is what is written for the field.
-/
set_option autoImplicit false

namespace LogRelay.Config

def Value.isList : Value → Bool
  | .list _ => true
  | _ => false

-- A tree whose sections are not lists, so that their fields are found by their names only.
def isKeyTree (tree : List (String × Value)) : Bool :=
  sectionSizes.all fun (part, _) => !(tree.lookup part).any Value.isList

-- A reader takes what is written for its result, and nothing else.
def Exact {α : Type} (read : Value → Option α) (write : α → Value) : Prop :=
  ∀ value content, read value = some content ↔ value = write content

theorem truth_exact : Exact Value.truth? .truth := by
  intro value content
  cases value <;> simp [Value.truth?]

theorem text_exact : Exact Value.text? .text := by
  intro value content
  cases value <;> simp [Value.text?]

theorem nat_exact (limit : Nat) (value : Value) (number : Nat) :
    value.natUpTo? limit = some number ↔ value = .whole number ∧ number ≤ limit := by
  cases value with
  | whole whole =>
      rw [Value.natUpTo?, Value.whole.injEq]
      split
      · rw [Option.some.injEq]
        omega
      · refine ⟨nofun, ?_⟩
        omega
  | _ => simp [Value.natUpTo?]

theorem word_exact {ω : Type} (size : Nat) (ofNat : Nat → ω) (toNat : ω → Nat)
    (below : ∀ word, toNat word < size) (kept : ∀ number < size, toNat (ofNat number) = number)
    (back : ∀ word, ofNat (toNat word) = word) :
    Exact (fun value => (value.natUpTo? (size - 1)).map ofNat) fun word => .whole (toNat word) := by
  intro value word
  rw [Option.map_eq_some_iff]
  constructor
  · rintro ⟨number, read, rfl⟩
    obtain ⟨rfl, fits⟩ := (nat_exact _ _ _).mp read
    have room := below (ofNat number)
    dsimp only
    rw [kept number (by omega)]
  · rintro rfl
    have room := below word
    exact ⟨toNat word, (nat_exact _ _ _).mpr ⟨rfl, by omega⟩, back word⟩

theorem word16_exact : Exact Value.word16? fun word => .whole word.toNat :=
  word_exact UInt16.size UInt16.ofNat UInt16.toNat UInt16.toNat_lt
    (fun _ => UInt16.toNat_ofNat_of_lt') fun _ => UInt16.ofNat_toNat

theorem word64_exact : Exact Value.word64? fun word => .whole word.toNat :=
  word_exact UInt64.size UInt64.ofNat UInt64.toNat UInt64.toNat_lt
    (fun _ => UInt64.toNat_ofNat_of_lt') fun _ => UInt64.ofNat_toNat

theorem or_null_exact {α : Type} (read : Value → Option α) (write : α → Value)
    (exact : Exact read write) (filled : ∀ content, write content ≠ .null)
    (value : Value) (content : Option α) :
    Value.orNull read value = some content ↔ value = content.elim .null write := by
  cases content with
  | none => cases value <;> simp [Value.orNull]
  | some inner =>
      have unless_null : Value.orNull read value = some (some inner) ↔
          value ≠ .null ∧ read value = some inner := by
        cases value <;> simp [Value.orNull]
      rw [unless_null, exact value, Option.elim_some]
      exact ⟨And.right, fun same => ⟨same ▸ filled inner, same⟩⟩

theorem optional_text_exact : Exact (Value.orNull Value.text?) optionalText := by
  intro value content
  rw [or_null_exact _ _ text_exact (fun _ => nofun)]
  cases content <;> rfl

theorem optional_word_exact : Exact (Value.orNull Value.word64?) optionalWord := by
  intro value content
  rw [or_null_exact _ _ word64_exact (fun _ => nofun)]
  cases content <;> rfl

theorem read_field_iff {α : Type} {read : Value → Option α} {write : α → Value}
    (exact : Exact read write) (entries : List (String × Value)) (place : Nat) (name : String)
    (fallback content : α) :
    (Value.map entries).readField place name read fallback = some content ↔
      write content = (entries.lookup name).getD (write fallback) := by
  have written : read (write fallback) = some fallback := (exact _ fallback).mpr rfl
  rw [Value.readField, Value.field?]
  cases entries.lookup name with
  | none =>
      dsimp only [Option.getD_none]
      rw [← written, exact, eq_comm]
  | some value =>
      dsimp only [Option.getD_some]
      rw [exact, eq_comm]

namespace Value

def entries : Value → List (String × Value)
  | .map entries => entries
  | _ => []

theorem child_eq_lookup (name : String) (value : Value) :
    value.child? name = value.entries.lookup name := by
  cases value <;> rfl

def filled (entries fields : List (String × Value)) : List (String × Value) :=
  fields.map fun (name, fallback) => (name, (entries.lookup name).getD fallback)

theorem lookup_map_values (name : String) (entries : List (String × Value))
    (change : String → Value → Value) :
    (entries.map fun (name, value) => (name, change name value)).lookup name =
      (entries.lookup name).map (change name) := by
  induction entries with
  | nil => rfl
  | cons entry rest ih =>
      obtain ⟨first, value⟩ := entry
      rw [List.map_cons, lookup_head, lookup_head, ih]
      by_cases same : name = first
      · rw [if_pos same, if_pos same, same]
        rfl
      · rw [if_neg same, if_neg same]

theorem lookup_known (name : String) (fields written : List (String × Value))
    (names : written.map Prod.fst = fields.map Prod.fst) (value : Value)
    (found : fields.lookup name = some value) : ∃ content, written.lookup name = some content := by
  cases missing : written.lookup name with
  | some content => exact ⟨content, rfl⟩
  | none =>
      have there : name ∈ written.map Prod.fst := by
        rw [names]
        exact List.mem_map_of_mem (lookup_mem name value fields found)
      obtain ⟨entry, member, rfl⟩ := List.mem_map.mp there
      have differ := List.lookup_eq_none_iff.mp missing entry member
      rw [bne_self_eq_false] at differ
      cases differ

theorem filled_iff (entries fields written : List (String × Value))
    (names : written.map Prod.fst = fields.map Prod.fst) (once : (fields.map Prod.fst).Nodup) :
    written = filled entries fields ↔ ∀ name fallback, fields.lookup name = some fallback →
      written.lookup name = some ((entries.lookup name).getD fallback) := by
  constructor
  · rintro rfl name fallback found
    rw [filled, lookup_map_values name fields fun name fallback =>
      (entries.lookup name).getD fallback, found, Option.map_some]
  · intro agree
    induction fields generalizing written with
    | nil => exact List.map_eq_nil_iff.mp names
    | cons field rest ih =>
        obtain ⟨name, fallback⟩ := field
        obtain ⟨⟨first, value⟩, others, rfl, same, later⟩ := List.map_eq_cons_iff.mp names
        dsimp only at same
        subst same
        obtain ⟨absent, once⟩ := List.nodup_cons.mp once
        have head := agree first fallback (by rw [lookup_head, if_pos rfl])
        rw [lookup_head, if_pos rfl, Option.some.injEq] at head
        have below : others = filled entries rest := by
          apply ih others later once
          intro name fallback' found
          have differ : name ≠ first := by
            rintro rfl
            rw [lookup_absent name rest absent] at found
            cases found
          have later := agree name fallback' (by rw [lookup_head, if_neg differ, found])
          rw [lookup_head, if_neg differ] at later
          exact later
        rw [head, below]
        rfl

end Value

structure Section {α : Type} (read : Value → Option α) (write : α → Value) (standard : α) :
    Prop where
  maps : ∀ entries content, read (.map entries) = some content ↔
    (write content).entries = Value.filled entries (write standard).entries
  others : ∀ value, value.isMap = false → value.isList = false → read value = none
  names : ∀ content, (write content).entries.map Prod.fst = (write standard).entries.map Prod.fst
  once : ((write standard).entries.map Prod.fst).Nodup

theorem guard_bind {α : Type} (fact : Bool) (rest : Unit → Option α) :
    (guard (fact = true) >>= rest) = if fact = true then rest () else none := by
  cases fact <;> rfl

theorem log_read_iff (entries : List (String × Value)) (log : LogSettings) :
    LogSettings.ofValue? (.map entries) = some log ↔
      log.toValue.entries = Value.filled entries LogSettings.standard.toValue.entries := by
  rw [LogSettings.ofValue?, guard_bind]
  simp only [Value.isRecord, if_true, Option.bind_eq_bind, pure, Option.bind_eq_some_iff,
    read_field_iff truth_exact, read_field_iff text_exact, read_field_iff optional_text_exact]
  simp only [LogSettings.toValue, Value.entries, Value.filled, List.map_cons, List.map_nil,
    List.cons.injEq, Prod.mk.injEq, true_and, and_true]
  constructor
  · rintro ⟨_, enabled, _, pattern, _, condition, _, loggerName, same⟩
    cases same
    exact ⟨enabled, pattern, condition, loggerName⟩
  · rintro ⟨enabled, pattern, condition, loggerName⟩
    exact ⟨_, enabled, _, pattern, _, condition, _, loggerName, rfl⟩

theorem collector_read_iff (entries : List (String × Value)) (collector : CollectorSettings) :
    CollectorSettings.ofValue? (.map entries) = some collector ↔
      collector.toValue.entries =
        Value.filled entries CollectorSettings.standard.toValue.entries := by
  rw [CollectorSettings.ofValue?, guard_bind]
  simp only [Value.isRecord, if_true, Option.bind_eq_bind, pure, Option.bind_eq_some_iff,
    read_field_iff text_exact, read_field_iff word16_exact, read_field_iff word64_exact,
    read_field_iff optional_text_exact, read_field_iff optional_word_exact]
  simp only [CollectorSettings.toValue, Value.entries, Value.filled, List.map_cons, List.map_nil,
    List.cons.injEq, Prod.mk.injEq, true_and, and_true]
  constructor
  · rintro ⟨_, host, _, port, _, category, _, localHost, _, causes, _, connect, _, io, same⟩
    cases same
    exact ⟨host, port, category, localHost, causes, connect, io⟩
  · rintro ⟨host, port, category, localHost, causes, connect, io⟩
    exact ⟨_, host, _, port, _, category, _, localHost, _, causes, _, connect, _, io, rfl⟩

theorem no_record (fields : Nat) (value : Value) (noMap : value.isMap = false)
    (noList : value.isList = false) : value.isRecord fields = false := by
  cases value with
  | map => cases noMap
  | list => cases noList
  | _ => rfl

theorem log_section : Section LogSettings.ofValue? LogSettings.toValue .standard where
  maps := log_read_iff
  others value noMap noList := by
    rw [LogSettings.ofValue?, no_record 4 value noMap noList]
    rfl
  names _ := rfl
  once := by decide

theorem collector_section :
    Section CollectorSettings.ofValue? CollectorSettings.toValue .standard where
  maps := collector_read_iff
  others value noMap noList := by
    rw [CollectorSettings.ofValue?, no_record 7 value noMap noList]
    rfl
  names _ := rfl
  once := by decide

section

variable {α : Type} {read : Value → Option α} {write : α → Value} {standard : α}

theorem section_map_iff (shape : Section read write standard) (entries : List (String × Value))
    (content : α) : read (.map entries) = some content ↔
      ∀ name fallback, (write standard).child? name = some fallback →
        (write content).child? name = some ((entries.lookup name).getD fallback) := by
  rw [shape.maps, Value.filled_iff _ _ _ (shape.names content) shape.once]
  simp only [Value.child_eq_lookup]

theorem section_read_iff (shape : Section read write standard) (top : List (String × Value))
    (place : Nat) (part : String) (unlisted : (top.lookup part).any Value.isList = false)
    (content : α) : (Value.map top).readField place part read standard = some content ↔
      (∀ value, top.lookup part = some value → value.isMap = true) ∧
      ∀ name fallback, (write standard).child? name = some fallback →
        (write content).child? name = some (((Value.map top).at? part name).getD fallback) := by
  rw [Value.readField, Value.field?]
  have below (name : String) :
      (Value.map top).at? part name = (top.lookup part).bind (Value.child? name) := rfl
  simp only [below]
  cases found : top.lookup part with
  | none =>
      have itself := (section_map_iff shape [] standard).mpr fun _ _ same => same
      have bare := section_map_iff shape [] content
      rw [itself] at bare
      exact bare.trans (iff_and_self.mpr fun _ => nofun)
  | some value =>
      cases value with
      | map entries =>
          refine (section_map_iff shape entries content).trans (iff_and_self.mpr fun _ => ?_)
          rintro _ same
          cases same
          rfl
      | list items =>
          rw [found] at unlisted
          cases unlisted
      | _ =>
          dsimp only
          rw [shape.others _ rfl rfl]
          refine ⟨nofun, fun both => ?_⟩
          cases both.1 _ rfl

end

def sectionNames : List String := sectionSizes.map Prod.fst

def Settings.field? (settings : Settings) (part name : String) : Option Value :=
  settings.toValue.at? part name

theorem field_eq (settings : Settings) (part name : String) :
    settings.field? part name =
      if part = "access_log" then settings.log.toValue.child? name
      else if part = "scribe" then settings.collector.toValue.child? name
      else none := by
  rw [Settings.field?, Value.at?, Settings.toValue, Value.child?, Value.lookup_head,
    Value.lookup_head]
  split
  · rfl
  · split <;> rfl

theorem key_tree_iff (tree : List (String × Value)) :
    isKeyTree tree = true ↔ ∀ part ∈ sectionNames, (tree.lookup part).any Value.isList = false := by
  simp [isKeyTree, sectionNames]

theorem settings_sections_iff (top : List (String × Value)) (settings : Settings) :
    Settings.ofValue? (.map top) = some settings ↔
      (Value.map top).readField 0 "access_log" LogSettings.ofValue? .standard = some settings.log ∧
      (Value.map top).readField 1 "scribe" CollectorSettings.ofValue? .standard =
        some settings.collector := by
  rw [Settings.ofValue?, guard_bind]
  simp only [Value.isRecord, if_true, Option.bind_eq_bind, pure, Option.bind_eq_some_iff]
  constructor
  · rintro ⟨log, logFound, collector, collectorFound, same⟩
    cases same
    exact ⟨logFound, collectorFound⟩
  · rintro ⟨logFound, collectorFound⟩
    exact ⟨_, logFound, _, collectorFound, rfl⟩

theorem settings_read_iff (top : List (String × Value)) (keyed : isKeyTree top = true)
    (settings : Settings) : Settings.ofValue? (.map top) = some settings ↔
      (∀ part ∈ sectionNames, ∀ value, top.lookup part = some value → value.isMap = true) ∧
      ∀ part name fallback, Settings.standard.field? part name = some fallback →
        settings.field? part name = some (((Value.map top).at? part name).getD fallback) := by
  have unlisted := (key_tree_iff top).mp keyed
  have logRead := section_read_iff log_section top 0 "access_log"
    (unlisted _ (by decide)) settings.log
  have collectorRead := section_read_iff collector_section top 1 "scribe"
    (unlisted _ (by decide)) settings.collector
  rw [settings_sections_iff, logRead, collectorRead]
  simp only [field_eq]
  constructor
  · rintro ⟨⟨logMap, logFields⟩, collectorMap, collectorFields⟩
    refine ⟨?_, ?_⟩
    · intro part known
      rcases List.mem_cons.mp known with rfl | later
      · exact logMap
      · cases List.mem_singleton.mp later
        exact collectorMap
    · intro part name fallback
      split
      · next same =>
        subst same
        exact logFields name fallback
      · split
        · next same =>
          subst same
          exact collectorFields name fallback
        · intro known
          cases known
  · rintro ⟨maps, fields⟩
    exact ⟨⟨maps _ (by decide), fun name => fields "access_log" name⟩,
      maps _ (by decide), fun name => fields "scribe" name⟩

theorem cut_key_tree (top : List (String × Value)) (keyed : isKeyTree top = true) :
    Settings.ofValue? (withCutSections (.map top)) = Settings.ofValue? (.map top) := by
  have unlisted := (key_tree_iff top).mp keyed
  have uncut (part : String) (known : part ∈ sectionNames) (size : Nat) :
      ((top.lookup part).map (Value.cut · size)) = top.lookup part := by
    have noList := unlisted part known
    cases found : top.lookup part with
    | none => rfl
    | some value =>
        rw [found] at noList
        cases value with
        | list items => cases noList
        | _ => rfl
  have lookups (part : String) := Value.lookup_map_values part top fun name value =>
    (sectionSizes.lookup name).elim value value.cut
  have log := (lookups "access_log").trans (uncut "access_log" (by decide) 4)
  have collector := (lookups "scribe").trans (uncut "scribe" (by decide) 7)
  rw [withCutSections, Settings.ofValue?, Settings.ofValue?, guard_bind, guard_bind]
  simp only [Value.isRecord, if_true, Value.readField, Value.field?, log, collector]

theorem field_plain (settings : Settings) (part name : String) (value : Value)
    (found : settings.field? part name = some value) : value.isMap = false := by
  have plain : ∀ entry ∈ settings.log.toValue.entries ++ settings.collector.toValue.entries,
      entry.2.isMap = false := by
    have text (content : Option String) : (optionalText content).isMap = false := by
      cases content <;> rfl
    have word (content : Option UInt64) : (optionalWord content).isMap = false := by
      cases content <;> rfl
    simp only [LogSettings.toValue, CollectorSettings.toValue, Value.entries, List.cons_append,
      List.nil_append, List.forall_mem_cons]
    exact ⟨rfl, rfl, text _, text _, rfl, rfl, rfl, text _, rfl, word _, word _, nofun⟩
  rw [field_eq] at found
  simp only [Value.child_eq_lookup] at found
  split at found
  · exact plain _ (List.mem_append_left _ (Value.lookup_mem _ _ _ found))
  · split at found
    · exact plain _ (List.mem_append_right _ (Value.lookup_mem _ _ _ found))
    · cases found

theorem field_known (settings : Settings) (part name : String) (fallback : Value)
    (known : Settings.standard.field? part name = some fallback) :
    ∃ value, settings.field? part name = some value := by
  rw [field_eq] at known ⊢
  simp only [Value.child_eq_lookup] at known ⊢
  split
  · next same =>
    rw [if_pos same] at known
    exact Value.lookup_known name _ _ (log_section.names _) _ known
  · next differ =>
    rw [if_neg differ] at known
    split
    · next same =>
      rw [if_pos same] at known
      exact Value.lookup_known name _ _ (collector_section.names _) _ known
    · next differ =>
      rw [if_neg differ] at known
      cases known

theorem settings_of_fields (settings other : Settings)
    (agree : ∀ part name fallback, Settings.standard.field? part name = some fallback →
      settings.field? part name = other.field? part name) : settings = other := by
  have readBack (found : Settings) (same : ∀ part name fallback,
      Settings.standard.field? part name = some fallback →
      found.field? part name = other.field? part name) :
      Settings.ofValue? other.toValue = some found := by
    refine (settings_read_iff _ rfl found).mpr ⟨?_, ?_⟩
    · intro part known value there
      rcases List.mem_cons.mp known with rfl | later
      · cases there
        rfl
      · cases List.mem_singleton.mp later
        cases there
        rfl
    · intro part name fallback known
      obtain ⟨value, there⟩ := field_known other part name fallback known
      rw [same part name fallback known, there]
      exact congrArg some (congrArg (Option.getD · fallback) there).symm
  exact Option.some.inj ((readBack settings agree).symm.trans (readBack other fun _ _ _ _ => rfl))

end LogRelay.Config
