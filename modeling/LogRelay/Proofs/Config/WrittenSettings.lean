import LogRelay.Proofs.Config.Fields

set_option autoImplicit false

namespace LogRelay.Config

-- What may become of written entries: an entry that has its default is left out, and one under a
-- name without a default is added at any place. What may stand for the value of an entry that
-- stays is up to `Stays`.
inductive Loosened (defaults : List (String × Value)) (Stays : String → Value → Value → Prop) :
    List (String × Value) → List (String × Value) → Prop where
  | nothing : Loosened defaults Stays [] []
  | kept (name : String) (value other : Value) (written given : List (String × Value))
      (stays : Stays name value other) (rest : Loosened defaults Stays written given) :
      Loosened defaults Stays ((name, value) :: written) ((name, other) :: given)
  | leftOut (name : String) (value : Value) (written given : List (String × Value))
      (standard : defaults.lookup name = some value)
      (rest : Loosened defaults Stays written given) :
      Loosened defaults Stays ((name, value) :: written) given
  | added (name : String) (value : Value) (written given : List (String × Value))
      (unknown : defaults.lookup name = none) (rest : Loosened defaults Stays written given) :
      Loosened defaults Stays written ((name, value) :: given)

def sectionDefaults (part : String) : List (String × Value) :=
  ((Settings.standard.toValue.child? part).map Value.entries).getD []

def LooseSection (part : String) (value other : Value) : Prop :=
  ∃ given, other = .map given ∧
    Loosened (sectionDefaults part) (fun _ value other => other = value) value.entries given

def LooselyWritten (settings : Settings) (given : List (String × Value)) : Prop :=
  Loosened Settings.standard.toValue.entries LooseSection settings.toValue.entries given

section

variable {defaults : List (String × Value)} {Stays : String → Value → Value → Prop}

theorem loosened_same (entries : List (String × Value))
    (stays : ∀ entry ∈ entries, Stays entry.1 entry.2 entry.2) :
    Loosened defaults Stays entries entries := by
  induction entries with
  | nil => exact .nothing
  | cons entry rest ih =>
      obtain ⟨first, later⟩ := List.forall_mem_cons.mp stays
      exact .kept _ _ _ _ _ first (ih later)

-- Under the name of a field nothing comes in.
theorem loosened_absent (written given : List (String × Value)) (name : String) (fallback : Value)
    (loose : Loosened defaults Stays written given) (known : defaults.lookup name = some fallback)
    (absent : name ∉ written.map Prod.fst) : given.lookup name = none := by
  induction loose with
  | nothing => rfl
  | kept first value other written given stays rest ih =>
      rw [List.map_cons, List.mem_cons, not_or] at absent
      rw [Value.lookup_head, if_neg absent.1]
      exact ih absent.2
  | leftOut first value written given standard rest ih =>
      rw [List.map_cons, List.mem_cons, not_or] at absent
      exact ih absent.2
  | added first value written given unknown rest ih =>
      have differ : name ≠ first := by
        rintro rfl
        cases unknown.symm.trans known
      rw [Value.lookup_head, if_neg differ]
      exact ih absent

theorem loosened_lookup (written given : List (String × Value)) (name : String)
    (value fallback : Value) (loose : Loosened defaults Stays written given)
    (once : (written.map Prod.fst).Nodup) (known : defaults.lookup name = some fallback)
    (found : written.lookup name = some value) :
    (∃ other, given.lookup name = some other ∧ Stays name value other) ∨
      (given.lookup name = none ∧ value = fallback) := by
  induction loose with
  | nothing => cases found
  | kept first former other written given stays rest ih =>
      rw [Value.lookup_head] at found ⊢
      by_cases same : name = first
      · subst same
        rw [if_pos rfl, Option.some.injEq] at found
        rw [if_pos rfl]
        exact .inl ⟨other, rfl, found ▸ stays⟩
      · rw [if_neg same] at found ⊢
        exact ih (List.nodup_cons.mp once).2 found
  | leftOut first former written given standard rest ih =>
      obtain ⟨absent, once⟩ := List.nodup_cons.mp once
      rw [Value.lookup_head] at found
      by_cases same : name = first
      · subst same
        rw [if_pos rfl, Option.some.injEq] at found
        refine .inr ⟨loosened_absent written given name fallback rest known absent, ?_⟩
        rw [← found]
        exact Option.some.inj (standard.symm.trans known)
      · rw [if_neg same] at found
        exact ih once found
  | added first former written given unknown rest ih =>
      have differ : name ≠ first := by
        rintro rfl
        cases unknown.symm.trans known
      rw [Value.lookup_head, if_neg differ]
      exact ih once found

end

section

variable {α : Type} {read : Value → Option α} {write : α → Value} {standard : α}

theorem loose_fields_read (shape : Section read write standard) (content : α)
    (given : List (String × Value))
    (loose : Loosened (write standard).entries (fun _ value other => other = value)
      (write content).entries given) : read (.map given) = some content := by
  rw [section_map_iff shape]
  intro name fallback known
  rw [Value.child_eq_lookup] at known ⊢
  obtain ⟨value, found⟩ := Value.lookup_known name _ _ (shape.names content) fallback known
  have once : ((write content).entries.map Prod.fst).Nodup := by
    rw [shape.names content]
    exact shape.once
  rw [found]
  rcases loosened_lookup _ given name value fallback loose once known found with
    ⟨other, there, same⟩ | ⟨missing, standardValue⟩
  · rw [there, same]
    rfl
  · rw [missing, standardValue]
    rfl

theorem standard_of_written (shape : Section read write standard) (content : α)
    (same : write content = write standard) : content = standard := by
  have back (content : α) := loose_fields_read shape content _
    (loosened_same (write content).entries fun _ _ => rfl)
  have first := back content
  rw [same, back standard] at first
  exact (Option.some.inj first).symm

theorem loose_section_read (shape : Section read write standard) (top : List (String × Value))
    (place : Nat) (part : String) (content : α)
    (defaults : sectionDefaults part = (write standard).entries)
    (loose : (∃ other, top.lookup part = some other ∧ LooseSection part (write content) other) ∨
      (top.lookup part = none ∧ write content = write standard)) :
    (Value.map top).readField place part read standard = some content := by
  rw [Value.readField, Value.field?]
  rcases loose with ⟨other, found, given, rfl, fields⟩ | ⟨missing, same⟩
  · rw [found]
    rw [defaults] at fields
    exact loose_fields_read shape content given fields
  · rw [missing, standard_of_written shape content same]

end

theorem loosely_written_self (settings : Settings) :
    LooselyWritten settings settings.toValue.entries := by
  have section_stays (part : String) (entries : List (String × Value)) :
      LooseSection part (.map entries) (.map entries) :=
    ⟨entries, rfl, loosened_same entries fun _ _ => rfl⟩
  refine loosened_same _ ?_
  rw [Settings.toValue, Value.entries, List.forall_mem_cons, List.forall_mem_singleton]
  exact ⟨section_stays "access_log" _, section_stays "scribe" _⟩

theorem loosely_written_read (settings : Settings) (given : List (String × Value))
    (loose : LooselyWritten settings given) : Settings.ofValue? (.map given) = some settings := by
  have once : ["access_log", "scribe"].Nodup := by decide
  have log := loosened_lookup _ given "access_log" settings.log.toValue _ loose once rfl rfl
  have collector := loosened_lookup _ given "scribe" settings.collector.toValue _ loose once rfl rfl
  exact (settings_sections_iff given settings).mpr
    ⟨loose_section_read log_section given 0 "access_log" settings.log rfl log,
      loose_section_read collector_section given 1 "scribe" settings.collector rfl collector⟩

theorem written_settings_read_back (settings : Settings) :
    Settings.ofValue? settings.toValue = some settings ∧
      ∀ given, LooselyWritten settings given → Settings.ofValue? (.map given) = some settings :=
  ⟨loosely_written_read settings _ (loosely_written_self settings), loosely_written_read settings⟩

def sparseSettings : Settings :=
  ⟨.standard, ⟨"collector", 1463, "default", some "web01", 3, none, some 18446744073709551615⟩⟩

def sparseEntries : List (String × Value) :=
  [("comment", .text "spare"),
    ("scribe", .map [("remote_host", .text "collector"), ("retries", .list [.null]),
      ("local_hostname", .text "web01"), ("stack_trace_depth", .whole 3),
      ("io_timeout_ms", .whole 18446744073709551615)])]

theorem sparse_entries_read :
    LooselyWritten sparseSettings sparseEntries ∧
      Settings.ofValue? (.map sparseEntries) = some sparseSettings := by
  have fields : LooseSection "scribe" sparseSettings.collector.toValue _ :=
    ⟨_, rfl, .kept "remote_host" _ _ _ _ rfl <| .leftOut "remote_port" _ _ _ rfl <|
      .leftOut "category" _ _ _ rfl <| .added "retries" (.list [.null]) _ _ rfl <|
      .kept "local_hostname" _ _ _ _ rfl <| .kept "stack_trace_depth" _ _ _ _ rfl <|
      .leftOut "connect_timeout_ms" _ _ _ rfl <| .kept "io_timeout_ms" _ _ _ _ rfl .nothing⟩
  have loose : LooselyWritten sparseSettings sparseEntries :=
    .added "comment" _ _ _ rfl <| .leftOut "access_log" _ _ _ rfl <|
      .kept "scribe" _ _ _ _ fields .nothing
  exact ⟨loose, (written_settings_read_back sparseSettings).2 sparseEntries loose⟩

end LogRelay.Config
