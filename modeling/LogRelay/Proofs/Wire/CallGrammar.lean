import LogRelay.Delivery.Failure
import LogRelay.Proofs.Wire.Value

/-!
The grammar of calls. A body is decoded as a call exactly where the grammar derives it, and the
entries of the call are those that the grammar finds in it.
-/
set_option autoImplicit false

namespace LogRelay.Wire

inductive Mark where
  | category (text : String)
  | message (text : String)

def Mark.category? : Mark → Option String
  | .category text => some text
  | .message _ => none

def Mark.message? : Mark → Option String
  | .category _ => none
  | .message text => some text

inductive EntryField : Field (Option Mark) → Prop where
  | category (text : String) (small : Utf8.size text < 2147483648) :
      EntryField ⟨Kind.text.code, 1, putText text [], some (.category text)⟩
  | message (text : String) (small : Utf8.size text < 2147483648) :
      EntryField ⟨Kind.text.code, 2, putText text [], some (.message text)⟩
  | other (kind : UInt8) (id : Int16) (value : Bytes)
      (unknown : ¬ (kind = Kind.text.code ∧ (id = 1 ∨ id = 2))) (skippable : Skippable kind value) :
      EntryField ⟨kind, id, value, none⟩

def lastText (texts : List String) : String := texts.getLast?.getD ""

def markedEntry (marks : List Mark) : Entry :=
  ⟨lastText (marks.filterMap Mark.category?), lastText (marks.filterMap Mark.message?)⟩

inductive EntryBytes : Bytes → Entry → Prop where
  | fields (fields : List (Field (Option Mark))) (forms : ∀ field ∈ fields, EntryField field) :
      EntryBytes (structBytes fields) (markedEntry (fields.filterMap Field.content))

inductive ArgumentField : Field (List Entry) → Prop where
  | entries (items : List (Bytes × Entry)) (small : items.length < 2147483648)
      (forms : ∀ item ∈ items, EntryBytes item.1 item.2) :
      ArgumentField ⟨Kind.list.code, 1, Kind.struct.code ::
        Bytes.put32 (UInt32.ofNat items.length) (items.flatMap Prod.fst), items.map Prod.snd⟩
  | elements (element : UInt8) (items : List Bytes) (scalar : element ≠ Kind.struct.code)
      (small : items.length < 2147483648) (skippable : ∀ item ∈ items, Skippable element item) :
      ArgumentField ⟨Kind.list.code, 1, element ::
        Bytes.put32 (UInt32.ofNat items.length) (items.flatMap id), []⟩
  | other (kind : UInt8) (id : Int16) (value : Bytes)
      (unknown : ¬ (kind = Kind.list.code ∧ id = 1)) (skippable : Skippable kind value) :
      ArgumentField ⟨kind, id, value, []⟩

inductive IsCall : Bytes → Call → Prop where
  | arguments (type : UInt8) (sequence : Int32) (head : Bytes) (fields : List (Field (List Entry)))
      (tail : Bytes) (headed : Headed ⟨method, type, sequence⟩ head)
      (calls : type = MessageType.call ∨ type = MessageType.oneway)
      (forms : ∀ field ∈ fields, ArgumentField field) :
      IsCall (head ++ structBytes fields ++ tail) ⟨sequence, fields.flatMap Field.content⟩

def addMark (entry : Entry) : Option Mark → Entry
  | none => entry
  | some (.category category) => { entry with category }
  | some (.message message) => { entry with message }

theorem fold_marks (contents : List (Option Mark)) (entry : Entry) :
    contents.foldl addMark entry =
      ⟨((contents.filterMap id).filterMap Mark.category?).getLast?.getD entry.category,
        ((contents.filterMap id).filterMap Mark.message?).getLast?.getD entry.message⟩ := by
  induction contents generalizing entry with
  | nil => rfl
  | cons head tail ih =>
      rw [List.foldl_cons, ih]
      cases head with
      | none => rfl
      | some mark => cases mark <;> simp [addMark, Mark.category?, Mark.message?, List.getLast?_cons]

theorem entry_field_ne_stop (field : Field (Option Mark)) (form : EntryField field) :
    field.kind ≠ 0 := by
  cases form with
  | category | message => exact (by decide : Kind.text.code ≠ 0)
  | other kind id value _ skippable => exact skippable_kind_ne_stop kind value skippable

theorem read_entry_field_iff : ReadsFields entryReader EntryField addMark := by
  intro kind id entry after input rest _
  constructor
  · intro read
    simp only [entryReader, readEntryField] at read
    split at read
    · next known =>
      obtain ⟨rfl, rfl⟩ := known
      split at read
      · cases read
      · next category tail taken =>
        cases read
        obtain ⟨small, written⟩ := (take_text_iff input rest category).mp taken
        exact ⟨_, _, .category category small, by simp [written], rfl⟩
    · next notCategory =>
      split at read
      · next known =>
        obtain ⟨rfl, rfl⟩ := known
        split at read
        · cases read
        · next message tail taken =>
          cases read
          obtain ⟨small, written⟩ := (take_text_iff input rest message).mp taken
          exact ⟨_, _, .message message small, by simp [written], rfl⟩
      · next notMessage =>
        split at read
        · cases read
        · next tail skipped =>
          cases read
          obtain ⟨value, skippable, split⟩ := (skip_iff kind input rest).mp skipped
          refine ⟨value, none, .other kind id value ?_ skippable, split, rfl⟩
          rintro ⟨text, first | second⟩
          · exact notCategory ⟨text, first⟩
          · exact notMessage ⟨text, second⟩
  · rintro ⟨value, content, form, rfl, rfl⟩
    simp only [entryReader, readEntryField]
    cases form with
    | category text small =>
        have taken := (take_text_iff (putText text [] ++ rest) rest text).mpr ⟨small, by simp⟩
        rw [if_pos ⟨rfl, rfl⟩, taken]
        rfl
    | message text small =>
        have taken := (take_text_iff (putText text [] ++ rest) rest text).mpr ⟨small, by simp⟩
        rw [if_neg (by decide), if_pos ⟨rfl, rfl⟩, taken]
        rfl
    | other kind id value unknown skippable =>
        have skipped := (skip_iff kind (value ++ rest) rest).mpr ⟨value, skippable, rfl⟩
        rw [if_neg fun known => unknown ⟨known.1, .inl known.2⟩,
          if_neg fun known => unknown ⟨known.1, .inr known.2⟩, skipped]
        rfl

theorem take_entry_iff (input rest : Bytes) (entry : Entry) :
    takeEntry input = .ok (entry, rest) ↔ ∃ bytes, EntryBytes bytes entry ∧ input = bytes ++ rest := by
  have folds := fold_fields_iff entryReader EntryField addMark read_entry_field_iff ⟨"", ""⟩ entry
    input rest
  have marked (fields : List (Field (Option Mark))) :
      (fields.map Field.content).foldl addMark ⟨"", ""⟩ =
        markedEntry (fields.filterMap Field.content) := by
    rw [fold_marks, List.filterMap_map]
    rfl
  constructor
  · intro read
    obtain ⟨fields, good, split, rfl⟩ := folds.mp read
    rw [marked]
    exact ⟨_, .fields fields fun field member => (good field member).2, split⟩
  · rintro ⟨bytes, ⟨fields, forms⟩, split⟩
    exact folds.mpr ⟨fields, fun field member =>
      ⟨entry_field_ne_stop field (forms field member), forms field member⟩, split, (marked fields).symm⟩

theorem take_entries_iff (count : Nat) (entries after : List Entry) (input rest : Bytes) :
    takeEntries count entries input = .ok (after, rest) ↔
      ∃ items : List (Bytes × Entry), items.length = count ∧
        (∀ item ∈ items, EntryBytes item.1 item.2) ∧ input = items.flatMap Prod.fst ++ rest ∧
        after = (items.map Prod.snd).reverse ++ entries := by
  induction count generalizing entries input with
  | zero =>
      constructor
      · intro read
        cases read
        exact ⟨[], rfl, by simp, by simp, rfl⟩
      · rintro ⟨items, none, _, rfl, rfl⟩
        rw [List.length_eq_zero_iff.mp none]
        rfl
  | succ count ih =>
      constructor
      · intro read
        unfold takeEntries at read
        split at read
        · cases read
        · next entry tail once =>
          obtain ⟨bytes, form, split⟩ := (take_entry_iff input tail entry).mp once
          obtain ⟨items, length, forms, written, rfl⟩ := (ih (entry :: entries) tail).mp read
          refine ⟨(bytes, entry) :: items, by simp [length], ?_, by simp [split, written], by simp⟩
          exact List.forall_mem_cons.mpr ⟨form, forms⟩
      · rintro ⟨items, length, forms, rfl, rfl⟩
        cases items with
        | nil => cases length
        | cons item items =>
            obtain ⟨form, others⟩ := List.forall_mem_cons.mp forms
            have once := (take_entry_iff (item.1 ++ (items.flatMap Prod.fst ++ rest)) _ item.2).mpr
              ⟨item.1, form, rfl⟩
            have later := (ih (item.2 :: entries) (items.flatMap Prod.fst ++ rest)).mpr
              ⟨items, Nat.succ.inj length, others, rfl, by simp⟩
            rw [List.flatMap_cons, List.append_assoc, takeEntries, once]
            exact later

def addEntries (entries more : List Entry) : List Entry := more.reverse ++ entries

theorem fold_entries (contents : List (List Entry)) (entries : List Entry) :
    contents.foldl addEntries entries = contents.flatten.reverse ++ entries := by
  induction contents generalizing entries with
  | nil => rfl
  | cons head tail ih => simp [ih, addEntries]

theorem argument_field_ne_stop (field : Field (List Entry)) (form : ArgumentField field) :
    field.kind ≠ 0 := by
  cases form with
  | entries | elements => exact (by decide : Kind.list.code ≠ 0)
  | other kind id value _ skippable => exact skippable_kind_ne_stop kind value skippable

theorem read_entries_iff (entries after : List Entry) (input rest : Bytes) :
    readArgument Kind.list.code 1 entries input = .ok (after, rest) ↔
      ∃ value content, ArgumentField ⟨Kind.list.code, 1, value, content⟩ ∧ input = value ++ rest ∧
        after = addEntries entries content := by
  constructor
  · intro read
    rw [readArgument, if_pos ⟨rfl, rfl⟩] at read
    split at read
    · cases read
    · next element count behind headed =>
      obtain ⟨small, written⟩ := (take_list_header_iff input behind element count).mp headed
      split at read
      · next struct =>
        obtain ⟨items, rfl, forms, split, rfl⟩ :=
          (take_entries_iff count entries after behind rest).mp read
        exact ⟨_, _, .entries items small forms, by simp [written, split, struct], rfl⟩
      · next scalar =>
        split at read
        · cases read
        · next tail skipped =>
          cases read
          obtain ⟨items, rfl, skippable, split⟩ := (skip_many_iff (skip element)
            (Skippable element) id (skip_iff element) count behind rest).mp skipped
          exact ⟨_, _, .elements element items scalar small skippable, by simp [written, split], rfl⟩
  · rintro ⟨value, content, form, rfl, rfl⟩
    rw [readArgument, if_pos ⟨rfl, rfl⟩]
    cases form with
    | entries items small forms =>
        rw [List.cons_append, Bytes.put32_append,
          (take_list_header_iff _ _ Kind.struct.code items.length).mpr ⟨small, rfl⟩]
        exact (take_entries_iff items.length entries _ _ rest).mpr ⟨items, rfl, forms, rfl, rfl⟩
    | elements element items scalar small skippable =>
        have skipped := (skip_many_iff (skip element) (Skippable element) id (skip_iff element)
          items.length (items.flatMap id ++ rest) rest).mpr ⟨items, rfl, skippable, rfl⟩
        rw [List.cons_append, Bytes.put32_append,
          (take_list_header_iff _ _ element items.length).mpr ⟨small, rfl⟩]
        simp only [if_neg scalar, skipped]
        rfl
    | other kind id value unknown _ => exact absurd ⟨rfl, rfl⟩ unknown

theorem read_argument_iff : ReadsFields argumentReader ArgumentField addEntries := by
  intro kind id entries after input rest _
  by_cases known : kind = Kind.list.code ∧ id = 1
  · obtain ⟨rfl, rfl⟩ := known
    exact read_entries_iff entries after input rest
  · simp only [argumentReader, readArgument, if_neg known]
    constructor
    · intro read
      split at read
      · cases read
      · next tail skipped =>
        cases read
        obtain ⟨value, skippable, split⟩ := (skip_iff kind input rest).mp skipped
        exact ⟨value, [], .other kind id value known skippable, split, rfl⟩
    · rintro ⟨value, content, form, rfl, rfl⟩
      cases form with
      | entries | elements => exact absurd ⟨rfl, rfl⟩ known
      | other kind id value _ skippable =>
          rw [(skip_iff kind (value ++ rest) rest).mpr ⟨value, skippable, rfl⟩]
          rfl

theorem decode_call_sound (body : Bytes) (call : Call) (read : decodeCall body = .ok call) :
    IsCall body call := by
  unfold decodeCall at read
  split at read
  · cases read
  · next header rest headed =>
    split at read
    · cases read
    · next typed =>
      split at read
      · cases read
      · next named =>
        split at read
        · cases read
        · next entries tail folded =>
          cases read
          obtain ⟨head, form, split⟩ := (take_header_iff body rest header).mp headed
          obtain ⟨fields, good, written, rfl⟩ := (fold_fields_iff argumentReader ArgumentField
            addEntries read_argument_iff [] entries rest tail).mp folded
          have calls : header.type = MessageType.call ∨ header.type = MessageType.oneway := by
            by_cases first : header.type = MessageType.call
            · exact .inl first
            · exact .inr (Decidable.not_not.mp fun second => typed ⟨first, second⟩)
          have name : header = ⟨method, header.type, header.sequence⟩ := by
            rw [← Decidable.not_not.mp named]
          have derived := IsCall.arguments header.type header.sequence head fields tail
            (name ▸ form) calls fun field member => (good field member).2
          rw [split, written, ← List.append_assoc, fold_entries]
          simpa [List.flatMap] using derived

theorem decode_call_complete (body : Bytes) (call : Call) (derived : IsCall body call) :
    decodeCall body = .ok call := by
  cases derived with
  | arguments type sequence head fields tail headed calls forms =>
      have opened := (take_header_iff (head ++ (structBytes fields ++ tail)) _ _).mpr
        ⟨head, headed, rfl⟩
      have folded := (fold_fields_iff argumentReader ArgumentField addEntries read_argument_iff []
        _ (structBytes fields ++ tail) tail).mpr ⟨fields, fun field member =>
          ⟨argument_field_ne_stop field (forms field member), forms field member⟩, rfl, rfl⟩
      have typed : ¬ (type ≠ MessageType.call ∧ type ≠ MessageType.oneway) := by
        rintro ⟨first, second⟩
        exact calls.elim first second
      rw [List.append_assoc, decodeCall, opened]
      simp only [if_neg typed, ne_eq, not_true_eq_false, if_false, folded, fold_entries]
      simp [List.flatMap]

theorem decode_call_iff (body : Bytes) (call : Call) :
    decodeCall body = .ok call ↔ IsCall body call :=
  ⟨decode_call_sound body call, decode_call_complete body call⟩

theorem is_call_append (body tail : Bytes) (call : Call) (derived : IsCall body call) :
    IsCall (body ++ tail) call := by
  cases derived with
  | arguments type sequence head fields behind headed calls forms =>
      rw [List.append_assoc]
      exact .arguments type sequence head fields (behind ++ tail) headed calls forms

theorem call_grammar_exact (body : Bytes) :
    (∀ call, decodeCall body = .ok call ↔ IsCall body call) ∧
    ((∃ call, IsCall body call) ∨
      ∃ detail, (decodeCall body).mapError Delivery.Failure.ofFault = .error (.protocol detail)) ∧
    (∀ call tail, IsCall body call → decodeCall (body ++ tail) = .ok call) := by
  refine ⟨decode_call_iff body, ?_, ?_⟩
  · cases read : decodeCall body with
    | ok call => exact .inl ⟨call, decode_call_sound body call read⟩
    | error fault => exact .inr ⟨fault.message, rfl⟩
  · intro call tail derived
    exact decode_call_complete (body ++ tail) call (is_call_append body tail call derived)

end LogRelay.Wire
