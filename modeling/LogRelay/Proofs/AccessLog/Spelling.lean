import LogRelay.Proofs.AccessLog.Scan

/-!
Patterns written from their elements. A list of elements is read back from its spelling, as far as
its texts and names can stand in a pattern; and those of every pattern can.
-/
set_option autoImplicit false

namespace LogRelay.AccessLog

def braced (name : String) (conversion : Char) : List Char :=
  '%' :: '{' :: (name.toList ++ ['}', conversion])

def Element.mark? (element : Element) : Option Char :=
  (directives.find? (·.2 = element)).map Prod.fst

-- An element as a pattern writes it. What stands for a named directive that is not understood has
-- an empty name and a conversion character to be chosen.
def Element.spelling (unsupported : Char) : Element → List Char
  | .literal text => text.toList
  | .requestHeader name => braced name 'i'
  | .cookie name => braced name 'c'
  | .responseHeader name => braced name 'o'
  | .requestAttribute name => braced name 'r'
  | .sessionAttribute name => braced name 's'
  | .unknown (some c) => ['%', c]
  | .unknown none => braced "" unsupported
  | element => '%' :: element.mark?.toList

def spell (unsupported : Char) (elements : List Element) : String :=
  String.ofList (elements.flatMap (Element.spelling unsupported))

def conversions : List Char := ['i', 'c', 'o', 'r', 's']

-- What holds of texts and names that were read from a pattern.
def Element.Clean : Element → Prop
  | .literal text => text ≠ "" ∧ '%' ∉ text.toList
  | .requestHeader name | .cookie name | .responseHeader name | .requestAttribute name
  | .sessionAttribute name => '}' ∉ name.toList
  | _ => True

def Element.Spellable : Element → Prop
  | .unknown (some c) => directives.lookup c = none ∧ c ≠ '{'
  | element => element.Clean

def Element.isLiteral : Element → Bool
  | .literal _ => true
  | _ => false

-- Literal texts that are neighbours would be read as one.
def LiteralsApart (elements : List Element) : Prop :=
  ∀ neighbours ∈ elements.zip elements.tail, ¬ (neighbours.1.isLiteral ∧ neighbours.2.isLiteral)

theorem directives_read :
    ∀ entry ∈ directives, entry.1 ≠ '{' ∧ Element.ofDirective entry.1 = entry.2 := by
  decide

theorem mark_read (element : Element) (c : Char) (marked : element.mark? = some c) :
    c ≠ '{' ∧ Element.ofDirective c = element := by
  obtain ⟨entry, found, rfl⟩ := Option.map_eq_some_iff.mp marked
  obtain ⟨apart, read⟩ := directives_read entry (List.mem_of_find?_eq_some found)
  have same : entry.2 = element := by simpa using List.find?_some found
  exact ⟨apart, read.trans same⟩

theorem scan_braced (done : List Element) (literal : List Char) (name : String) (conversion : Char)
    (rest : List Char) (free : '}' ∉ name.toList) :
    scan done literal (braced name conversion ++ rest) =
      scan (.ofNamed name conversion :: flush literal done) [] rest := by
  have named := scan_named done literal name.toList conversion rest free
  rw [String.ofList_toList] at named
  simpa [braced] using named

theorem scan_marked (done : List Element) (literal : List Char) (element : Element) (c : Char)
    (rest : List Char) (marked : element.mark? = some c) :
    scan done literal ('%' :: element.mark?.toList ++ rest) =
      scan (element :: flush literal done) [] rest := by
  obtain ⟨apart, read⟩ := mark_read element c marked
  rw [marked, ← read]
  exact scan_directive done literal c rest apart

theorem scan_spelled (unsupported : Char) (outside : unsupported ∉ conversions)
    (done : List Element) (literal : List Char) (element : Element) (rest : List Char)
    (spellable : element.Spellable) (other : element.isLiteral = false) :
    scan done literal (element.spelling unsupported ++ rest) =
      scan (element :: flush literal done) [] rest := by
  cases element with
  | literal text => cases other
  | requestHeader name => exact scan_braced done literal name 'i' rest spellable
  | cookie name => exact scan_braced done literal name 'c' rest spellable
  | responseHeader name => exact scan_braced done literal name 'o' rest spellable
  | requestAttribute name => exact scan_braced done literal name 'r' rest spellable
  | sessionAttribute name => exact scan_braced done literal name 's' rest spellable
  | unknown directive =>
      cases directive with
      | none =>
          have kind : Element.ofNamed "" unsupported = .unknown none := by
            simp only [conversions, List.mem_cons, List.not_mem_nil, or_false, not_or] at outside
            simp [Element.ofNamed, outside]
          have read := scan_braced done literal "" unsupported rest (by simp)
          rw [kind] at read
          exact read
      | some c =>
          have kind : Element.ofDirective c = .unknown (some c) := by
            rw [Element.ofDirective, spellable.1]
          have read := scan_directive done literal c rest spellable.2
          rw [kind] at read
          exact read
  | elapsed unit => cases unit <;> exact scan_marked done literal _ _ rest rfl
  | byteCount dashForNone => cases dashForNone <;> exact scan_marked done literal _ _ rest rfl
  | _ => exact scan_marked done literal _ _ rest rfl

theorem flush_text (text : String) (done : List Element) (nonempty : text ≠ "") :
    flush text.toList.reverse done = .literal text :: done := by
  have filled : text.toList.reverse ≠ [] := by simpa using nonempty
  rw [flush, if_neg filled, List.reverse_reverse, String.ofList_toList]

theorem literals_apart_tail (element : Element) (rest : List Element)
    (apart : LiteralsApart (element :: rest)) : LiteralsApart rest := by
  cases rest with
  | nil => intro neighbours member; cases member
  | cons next behind =>
      intro neighbours member
      exact apart neighbours (List.mem_cons_of_mem _ member)

theorem literals_apart_head (text : String) (rest : List Element)
    (apart : LiteralsApart (.literal text :: rest)) :
    ∀ next ∈ rest.head?, next.isLiteral = false := by
  intro next first
  cases rest with
  | nil => cases first
  | cons _ behind =>
      cases first
      simpa [Element.isLiteral] using apart (.literal text, next) List.mem_cons_self

-- Literal text not yet complete is carried over the next element unless that is literal itself.
theorem scan_spelling (unsupported : Char) (outside : unsupported ∉ conversions)
    (elements : List Element) (done : List Element) (literal : List Char)
    (spellable : ∀ element ∈ elements, element.Spellable) (apart : LiteralsApart elements)
    (begins : literal = [] ∨ ∀ element ∈ elements.head?, element.isLiteral = false) :
    scan done literal (elements.flatMap (Element.spelling unsupported)) =
      (flush literal done).reverse ++ elements := by
  induction elements generalizing done literal with
  | nil =>
      rw [List.append_nil]
      exact scan_end done literal
  | cons element rest ih =>
      have restSpellable := fun next member => spellable next (List.mem_cons_of_mem _ member)
      have restApart := literals_apart_tail element rest apart
      rw [List.flatMap_cons]
      cases kind : element.isLiteral with
      | false =>
          rw [scan_spelled unsupported outside done literal element _
            (spellable element List.mem_cons_self) kind, ih _ _ restSpellable restApart (.inl rfl)]
          simp [flush]
      | true =>
          cases element with
          | literal text =>
              have empty : literal = [] := by
                rcases begins with empty | other
                · exact empty
                · exact absurd (other _ rfl) (by simp [Element.isLiteral])
              have clean := spellable _ List.mem_cons_self
              have next := literals_apart_head text rest apart
              subst empty
              change scan done [] (text.toList ++ rest.flatMap (Element.spelling unsupported)) = _
              rw [scan_literal _ _ _ _ clean.2,
                ih _ _ restSpellable restApart (.inr next), List.append_nil,
                flush_text text done clean.1]
              simp [flush]
          | _ => cases kind

theorem of_directive_clean (c : Char) : (Element.ofDirective c).Clean := by
  have tabled : ∀ entry ∈ directives, entry.2.Clean := by
    simp [directives, Element.Clean]
  unfold Element.ofDirective
  split
  · rename_i element found
    obtain ⟨before, behind, split, _⟩ := List.lookup_eq_some_iff.mp found
    exact tabled (c, element) (by rw [split]; simp)
  · trivial

theorem of_named_clean (name : List Char) (conversion : Char) (free : '}' ∉ name) :
    (Element.ofNamed (String.ofList name) conversion).Clean := by
  have named : '}' ∉ (String.ofList name).toList := by simpa using free
  unfold Element.ofNamed
  repeat' split
  all_goals first | exact named | trivial

theorem flush_clean (literal : List Char) (done : List Element) (free : '%' ∉ literal)
    (clean : ∀ element ∈ done, element.Clean) : ∀ element ∈ flush literal done, element.Clean := by
  by_cases none : literal = []
  · rw [flush, if_pos none]
    exact clean
  · rw [flush, if_neg none]
    intro element member
    rcases List.mem_cons.mp member with rfl | before
    · refine ⟨by simpa using none, by simpa using free⟩
    · exact clean element before

theorem scan_clean (done : List Element) (literal text : List Char) (free : '%' ∉ literal)
    (clean : ∀ element ∈ done, element.Clean) :
    ∀ element ∈ scan done literal text, element.Clean := by
  induction text using scan_induction generalizing done literal with
  | nothing =>
      intro element member
      rw [scan_end, List.mem_reverse] at member
      exact flush_clean literal done free clean element member
  | hanging =>
      intro element member
      rw [scan_hanging, List.mem_reverse] at member
      exact flush_clean literal done free clean element member
  | plain c rest apart ih =>
      rw [scan_plain _ _ _ _ apart]
      exact ih done (c :: literal) (by simp [Ne.symm apart, free]) clean
  | directive c rest apart ih =>
      rw [scan_directive _ _ _ _ apart]
      exact ih _ [] List.not_mem_nil
        (List.forall_mem_cons.mpr ⟨of_directive_clean c, flush_clean literal done free clean⟩)
  | named name conversion rest nameFree ih =>
      rw [scan_named _ _ _ _ _ nameFree]
      exact ih _ [] List.not_mem_nil (List.forall_mem_cons.mpr
        ⟨of_named_clean name conversion nameFree, flush_clean literal done free clean⟩)
  | unnamed rest untaken ih =>
      rw [scan_unnamed _ _ _ untaken]
      exact ih _ [] List.not_mem_nil
        (List.forall_mem_cons.mpr ⟨of_directive_clean '{', flush_clean literal done free clean⟩)

theorem spelled_elements_read_back (unsupported : Char) (outside : unsupported ∉ conversions) :
    (∀ elements : List Element, (∀ element ∈ elements, element.Spellable) →
      LiteralsApart elements →
      (Pattern.compile (spell unsupported elements)).elements = elements) ∧
    ∀ pattern, ∀ element ∈ (Pattern.compile pattern).elements, element.Clean := by
  refine ⟨?_, ?_⟩
  · intro elements spellable apart
    have read := scan_spelling unsupported outside elements [] [] spellable apart (.inl rfl)
    rw [Pattern.compile, elementsOf, spell, String.toList_ofList, read]
    rfl
  · intro pattern
    exact scan_clean [] [] pattern.toList List.not_mem_nil nofun

def entangled : List Element :=
  [.literal "\x7ba\x7d ", .requestHeader "x%\x7by", .literal "\x7d\x7b", .unknown (some '%'),
    .unknown none, .cookie "", .dateTime, .literal "-"]

theorem entangled_read_back :
    spell 'x' entangled = "\x7ba\x7d %\x7bx%\x7by\x7di\x7d\x7b%%%\x7b\x7dx%\x7b\x7dc%t-" ∧
      (Pattern.compile (spell 'x' entangled)).elements = entangled := by
  refine ⟨by decide, (spelled_elements_read_back 'x' (by decide)).1 entangled ?_ ?_⟩
  · simp [entangled, Element.Spellable, Element.Clean, directives]
  · unfold LiteralsApart
    decide

end LogRelay.AccessLog
