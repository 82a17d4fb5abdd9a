import LogRelay.Proofs.Wire.Value

/-!
Skipping takes exactly one value. At any depth it succeeds where a value that is not too high for
that depth stands in front, and no bytes begin with two values of one kind.
-/
set_option autoImplicit false

namespace LogRelay.Wire

theorem kind_of_code_eq (known other : Kind) (same : known.code = other.code) : known = other := by
  have found := Kind.of_code_code known
  rw [same, Kind.of_code_code] at found
  exact (Option.some.inj found).symm

def HasForm (height : Nat) (bytes : Bytes) : Kind → Prop
  | .text => height = 0 ∧ ∃ content : Bytes, content.length < 2147483648 ∧
      bytes = Bytes.put32 (UInt32.ofNat content.length) content
  | .struct => ∃ fields : List (Field Nat),
      (∀ field ∈ fields, Value field.kind field.content field.value) ∧
      height = heightOver (fields.map Field.content) ∧ bytes = structBytes fields
  | .map => ∃ key item pairs, pairs.length < 2147483648 ∧
      (∀ pair ∈ pairs, Value key pair.1.height pair.1.bytes ∧
        Value item pair.2.height pair.2.bytes) ∧
      height = heightOver (pairHeights pairs) ∧ bytes = mapBytes key item pairs
  | .set | .list => ∃ element parts, parts.length < 2147483648 ∧
      (∀ part ∈ parts, Value element part.height part.bytes) ∧
      height = heightOver (parts.map Part.height) ∧ bytes = listBytes element parts
  | known => height = 0 ∧ known.width? = some bytes.length

theorem value_has_form (known : Kind) (height : Nat) (bytes : Bytes)
    (value : Value known.code height bytes) : HasForm height bytes known := by
  generalize coded : known.code = kind at value
  cases value with
  | fixed other bytes exact =>
      cases kind_of_code_eq known other coded
      cases known <;> first
        | cases exact
        | exact ⟨rfl, exact⟩
  | text content small =>
      cases kind_of_code_eq known .text coded
      exact ⟨rfl, content, small, rfl⟩
  | struct fields values =>
      cases kind_of_code_eq known .struct coded
      exact ⟨fields, values, rfl, rfl⟩
  | map key item pairs small keys items =>
      cases kind_of_code_eq known .map coded
      exact ⟨key, item, pairs, small, fun pair member => ⟨keys pair member, items pair member⟩,
        rfl, rfl⟩
  | set element parts small values =>
      cases kind_of_code_eq known .set coded
      exact ⟨element, parts, small, values, rfl, rfl⟩
  | list element parts small values =>
      cases kind_of_code_eq known .list coded
      exact ⟨element, parts, small, values, rfl, rfl⟩

-- Of all values of a kind this one alone stands in front of bytes that it stands in front of.
def Apart (kind : UInt8) (part : Part) : Prop :=
  ∀ (other : Part) (rest tail : Bytes), Value kind other.height other.bytes →
    part.bytes ++ rest = other.bytes ++ tail → part = other

theorem count_apart (count number : Nat) (rest tail : Bytes) (small : count < 2147483648)
    (smallOther : number < 2147483648)
    (same : Bytes.put32 (UInt32.ofNat count) rest = Bytes.put32 (UInt32.ofNat number) tail) :
    count = number ∧ rest = tail := by
  have first := (take_length_iff _ rest count).mpr ⟨small, rfl⟩
  have second := (take_length_iff _ tail number).mpr ⟨smallOther, rfl⟩
  rw [same, second] at first
  have pair := Prod.mk.inj (Except.ok.inj first)
  exact ⟨pair.1.symm, pair.2.symm⟩

theorem items_apart {α : Type} (bytes : α → Bytes) (Form : α → Prop) (items others : List α)
    (apart : ∀ item ∈ items, ∀ other rest tail, Form other →
      bytes item ++ rest = bytes other ++ tail → item = other)
    (forms : ∀ other ∈ others, Form other) (number : items.length = others.length)
    (rest tail : Bytes) (same : items.flatMap bytes ++ rest = others.flatMap bytes ++ tail) :
    items = others := by
  induction items generalizing others with
  | nil => exact (List.length_eq_zero_iff.mp number.symm).symm
  | cons item items ih =>
      cases others with
      | nil => cases number
      | cons other others =>
          obtain ⟨form, formsLater⟩ := List.forall_mem_cons.mp forms
          obtain ⟨apartHere, apartLater⟩ := List.forall_mem_cons.mp apart
          rw [List.flatMap_cons, List.flatMap_cons, List.append_assoc, List.append_assoc] at same
          cases apartHere other _ _ form same
          rw [ih others apartLater formsLater (Nat.succ.inj number)
            (List.append_cancel_left same)]

theorem id_apart (id number : Int16) (rest tail : Bytes)
    (same : Bytes.put16 id.toUInt16 rest = Bytes.put16 number.toUInt16 tail) :
    id = number ∧ rest = tail := by
  have first := (take_int16_iff _ rest id).mpr rfl
  have second := (take_int16_iff _ tail number).mpr rfl
  rw [same, second] at first
  have pair := Prod.mk.inj (Except.ok.inj first)
  exact ⟨pair.1.symm, pair.2.symm⟩

theorem fields_apart (fields others : List (Field Nat))
    (named : ∀ field ∈ fields, field.kind ≠ 0)
    (apart : ∀ field ∈ fields, Apart field.kind ⟨field.content, field.value⟩)
    (values : ∀ other ∈ others, Value other.kind other.content other.value)
    (rest tail : Bytes) (same : structBytes fields ++ rest = structBytes others ++ tail) :
    fields = others := by
  induction fields generalizing others with
  | nil =>
      cases others with
      | nil => rfl
      | cons other others =>
          rw [struct_bytes_cons] at same
          have stopped : other.kind = 0 := (List.cons.inj same).1.symm
          exact absurd stopped (value_kind_ne_stop _ _ _ (values other (by simp)))
  | cons field fields ih =>
      cases others with
      | nil =>
          rw [struct_bytes_cons] at same
          exact absurd (List.cons.inj same).1 (named field (by simp))
      | cons other others =>
          obtain ⟨value, valuesLater⟩ := List.forall_mem_cons.mp values
          obtain ⟨apartHere, apartLater⟩ := List.forall_mem_cons.mp apart
          rw [struct_bytes_cons, struct_bytes_cons] at same
          obtain ⟨sameKind, numbered⟩ := List.cons.inj same
          obtain ⟨sameId, valued⟩ := id_apart field.id other.id _ _ numbered
          have samePart := apartHere ⟨other.content, other.value⟩ _ _ (sameKind ▸ value) valued
          obtain ⟨sameContent, sameValue⟩ := Part.mk.inj samePart
          rw [sameValue] at valued
          have later := ih others (fun next member => named next (by simp [member])) apartLater
            valuesLater (List.append_cancel_left valued)
          rw [later, show field = other from by
            cases field; cases other; simp_all]

theorem list_apart (element : UInt8) (parts : List Part) (small : parts.length < 2147483648)
    (apart : ∀ part ∈ parts, Apart element part) (other : Part)
    (form : HasForm other.height other.bytes .list) (rest tail : Bytes)
    (same : listBytes element parts ++ rest = other.bytes ++ tail) :
    ⟨heightOver (parts.map Part.height), listBytes element parts⟩ = other := by
  obtain ⟨key, others, smallOther, values, high, written⟩ := form
  simp only [written, listBytes, List.cons_append, Bytes.put32_append, List.cons.injEq] at same
  obtain ⟨rfl, counted⟩ := same
  obtain ⟨number, front⟩ := count_apart _ _ _ _ small smallOther counted
  have aligned := items_apart Part.bytes (fun other => Value element other.height other.bytes) parts
    others (fun part member => apart part member) values number rest tail front
  rw [aligned, ← high, ← written]

theorem map_apart (key item : UInt8) (pairs : List (Part × Part))
    (small : pairs.length < 2147483648)
    (apart : ∀ pair ∈ pairs, Apart key pair.1 ∧ Apart item pair.2) (other : Part)
    (form : HasForm other.height other.bytes .map) (rest tail : Bytes)
    (same : mapBytes key item pairs ++ rest = other.bytes ++ tail) :
    ⟨heightOver (pairHeights pairs), mapBytes key item pairs⟩ = other := by
  obtain ⟨keyOther, itemOther, others, smallOther, values, high, written⟩ := form
  simp only [written, mapBytes, List.cons_append, Bytes.put32_append, List.cons.injEq] at same
  obtain ⟨rfl, rfl, counted⟩ := same
  obtain ⟨number, front⟩ := count_apart _ _ _ _ small smallOther counted
  have aligned : pairs = others := by
    refine items_apart (fun pair => pair.1.bytes ++ pair.2.bytes) (fun other =>
      Value key other.1.height other.1.bytes ∧ Value item other.2.height other.2.bytes) pairs others
      ?_ values number rest tail front
    rintro ⟨first, second⟩ member ⟨firstOther, secondOther⟩ rest tail ⟨keyed, valued⟩ together
    simp only [List.append_assoc] at together
    obtain ⟨firstApart, secondApart⟩ := apart _ member
    cases firstApart firstOther _ _ keyed together
    cases secondApart secondOther _ _ valued (List.append_cancel_left together)
    rfl
  rw [aligned, ← high, ← written]

theorem value_apart (kind : UInt8) (height : Nat) (bytes : Bytes)
    (value : Value kind height bytes) : Apart kind ⟨height, bytes⟩ := by
  induction value with
  | fixed known bytes exact =>
      rintro ⟨high, front⟩ rest tail otherwise same
      have form := value_has_form known high front otherwise
      have flat : high = 0 ∧ known.width? = some front.length := by
        cases known <;> first
          | cases exact
          | exact form
      cases flat.1
      cases (List.append_inj same (Option.some.inj (exact.symm.trans flat.2))).1
      rfl
  | text content small =>
      rintro ⟨high, front⟩ rest tail otherwise same
      obtain ⟨rfl, words, smallOther, rfl⟩ := value_has_form .text high front otherwise
      simp only [Bytes.put32_append] at same
      obtain ⟨lengths, written⟩ := count_apart _ _ _ _ small smallOther same
      cases (List.append_inj written lengths).1
      rfl
  | struct fields values ih =>
      rintro ⟨high, front⟩ rest tail otherwise same
      obtain ⟨others, valuesOther, rfl, rfl⟩ := value_has_form .struct high front otherwise
      have named (field : Field Nat) (member : field ∈ fields) : field.kind ≠ 0 :=
        value_kind_ne_stop _ _ _ (values field member)
      cases fields_apart fields others named ih valuesOther rest tail same
      rfl
  | map key item pairs small keys items ihKeys ihItems =>
      intro other rest tail otherwise same
      have form := value_has_form .map other.height other.bytes otherwise
      exact map_apart key item pairs small
        (fun pair member => ⟨ihKeys pair member, ihItems pair member⟩) other form rest tail same
  | set element parts small values ih =>
      intro other rest tail otherwise same
      have form := value_has_form .set other.height other.bytes otherwise
      exact list_apart element parts small ih other form rest tail same
  | list element parts small values ih =>
      intro other rest tail otherwise same
      have form := value_has_form .list other.height other.bytes otherwise
      exact list_apart element parts small ih other form rest tail same

theorem skip_at_iff (depth : Nat) (kind : UInt8) (input rest : Bytes) :
    skipAt depth kind input = .ok rest ↔ ∃ part : Part, Value kind part.height part.bytes ∧
      depth + part.height ≤ 64 ∧ input = part.bytes ++ rest := by
  have levels := skipper_iff (nestingLimit + 1 - depth) kind input rest
  have room (height : Nat) : height < nestingLimit + 1 - depth ↔ depth + height ≤ 64 := by
    simp only [nestingLimit]
    omega
  simp only [Below, room, and_assoc] at levels
  exact levels

theorem skip_takes_one_value (depth : Nat) (kind : UInt8) (input rest : Bytes) :
    (skipAt depth kind input = .ok rest ↔ ∃ part : Part, Value kind part.height part.bytes ∧
      depth + part.height ≤ 64 ∧ input = part.bytes ++ rest) ∧
    ∀ (part other : Part) (behind tail : Bytes), Value kind part.height part.bytes →
      Value kind other.height other.bytes → input = part.bytes ++ behind →
      input = other.bytes ++ tail → part = other := by
  refine ⟨skip_at_iff depth kind input rest, ?_⟩
  intro part other behind tail value otherwise here there
  exact value_apart kind part.height part.bytes value other behind tail otherwise
    (here.symm.trans there)

def flagStruct : Bytes := [2, 0, 1, 7, 0, 99]

theorem flag_struct_at_the_limit :
    skipAt 63 Kind.struct.code flagStruct = .ok [99] ∧
      skipAt 64 Kind.struct.code flagStruct ≠ .ok [99] ∧
      ∀ (part : Part) (tail : Bytes), Value Kind.struct.code part.height part.bytes →
        flagStruct = part.bytes ++ tail → part = ⟨1, [2, 0, 1, 7, 0]⟩ := by
  have flag : Value Kind.bool.code 0 [7] := .fixed .bool [7] rfl
  have whole : Value Kind.struct.code 1 [2, 0, 1, 7, 0] :=
    .struct [⟨Kind.bool.code, 1, [7], 0⟩] (by simpa using flag)
  obtain ⟨above, alone⟩ := skip_takes_one_value 63 Kind.struct.code flagStruct [99]
  obtain ⟨at_limit, _⟩ := skip_takes_one_value 64 Kind.struct.code flagStruct [99]
  have only (part : Part) (tail : Bytes) (value : Value Kind.struct.code part.height part.bytes)
      (front : flagStruct = part.bytes ++ tail) : part = ⟨1, [2, 0, 1, 7, 0]⟩ :=
    alone part ⟨1, [2, 0, 1, 7, 0]⟩ tail [99] value whole front rfl
  refine ⟨above.mpr ⟨⟨1, [2, 0, 1, 7, 0]⟩, whole, by decide, rfl⟩, ?_, only⟩
  intro skipped
  obtain ⟨part, value, low, front⟩ := at_limit.mp skipped
  cases only part [99] value front
  exact absurd low (by decide)

end LogRelay.Wire
