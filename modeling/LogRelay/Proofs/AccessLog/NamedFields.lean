import LogRelay.Proofs.AccessLog.LineText
import LogRelay.Proofs.AccessLog.Spelling
import LogRelay.Proofs.Text.Utf8
import Mathlib

/-!
What a line shows under a name, told from the history in which headers, cookies and attributes were
put into the request: of headers the first or all, of cookies the first, of attributes the last.
-/
set_option autoImplicit false

namespace LogRelay.AccessLog

structure HeaderSpelling where
  text : String
  name : HeaderName
  valid : HeaderName.ofText? text.toList = some name

inductive Side where
  | request
  | response
deriving DecidableEq

inductive Place where
  | cookies
  | attributes
  | session
deriving DecidableEq

-- What is put into a request at one time. A session comes without attributes, in the place of the
-- one before; without a session nothing is put into it.
inductive Addition where
  | header (side : Side) (name : HeaderSpelling) (value : Bytes)
  | pair (place : Place) (name value : String)
  | session (id : String)

-- Names that differ in the case of letters from A to Z at most.
def SameName (first second : String) : Prop :=
  first.toList.map Char.toLower = second.toList.map Char.toLower

instance (first second : String) : Decidable (SameName first second) :=
  inferInstanceAs (Decidable (first.toList.map Char.toLower = second.toList.map Char.toLower))

namespace Addition

def header? (side : Side) : Addition → Option (HeaderSpelling × Bytes)
  | .header other spelling value => if other = side then some (spelling, value) else none
  | _ => none

def pair? (place : Place) : Addition → Option (String × String)
  | .pair other name value => if other = place then some (name, value) else none
  | _ => none

end Addition

def headerValues (history : List Addition) (side : Side) (name : String) : List Bytes :=
  ((history.filterMap (Addition.header? side)).filter fun header =>
    SameName header.1.text name).map Prod.snd

def pairValues (pairs : List (String × String)) (name : String) : List String :=
  (pairs.filter fun pair => pair.1 = name).map Prod.snd

def placeValues (history : List Addition) (place : Place) (name : String) : List String :=
  pairValues (history.filterMap (Addition.pair? place)) name

namespace Request

def headers (request : Request) : Side → Headers
  | .request => request.requestHeaders
  | .response => request.responseHeaders

def pairs (request : Request) : Place → List (String × String)
  | .cookies => request.cookies
  | .attributes => request.attributes.reverse
  | .session => (request.session.map fun session => session.attributes.reverse).getD []

def add (request : Request) : Addition → Request
  | .header .request spelling value =>
      { request with requestHeaders := request.requestHeaders.add spelling.name value }
  | .header .response spelling value =>
      { request with responseHeaders := request.responseHeaders.add spelling.name value }
  | .pair .cookies name value => { request with cookies := request.cookies ++ [(name, value)] }
  | .pair .attributes name value =>
      { request with attributes := request.attributes.insert name value }
  | .pair .session name value =>
      { request with session := request.session.map fun session =>
          { session with attributes := session.attributes.insert name value } }
  | .session id => { request with session := some ⟨id, []⟩ }

def addAll (request : Request) (history : List Addition) : Request := history.foldl add request

def bare (request : Request) : Request :=
  { request with
    requestHeaders := [], responseHeaders := [], cookies := [], attributes := [], session := none }

end Request

theorem header_char_lower (c : Char) : isHeaderChar c.toLower = isHeaderChar c := by
  by_cases letter : c.isAlpha = true
  · have lowered := (Char.isAlpha_toLower_eq_isAlpha (c := c)).trans letter
    simp [isHeaderChar, Char.isAlphanum, letter, lowered]
  · have unlettered : ¬ c.isUpper = true := fun upper => letter (by simp [Char.isAlpha, upper])
    rw [Char.toLower_eq_of_not_isUpper unlettered]

-- Whether a text is the name of a header, and of which, is to be told from it in lower case.
theorem of_text_lower (text : List Char) : HeaderName.ofText? text =
    if text.map Char.toLower ≠ [] ∧ (text.map Char.toLower).all isHeaderChar ∧
      (text.map Char.toLower).length ≤ headerNameLimit then some ⟨text.map Char.toLower⟩
    else none := by
  simp only [HeaderName.ofText?, ne_eq, List.map_eq_nil_iff, List.all_map, Function.comp_def,
    header_char_lower, List.length_map]

theorem of_text_name (text : List Char) (name : HeaderName)
    (read : HeaderName.ofText? text = some name) : name = ⟨text.map Char.toLower⟩ := by
  rw [HeaderName.ofText?] at read
  split at read
  · exact (Option.some.inj read).symm
  · cases read

theorem same_name_iff (spelling : HeaderSpelling) (name : String) :
    SameName spelling.text name ↔ HeaderName.ofText? name.toList = some spelling.name := by
  refine ⟨fun same => ?_, fun read => ?_⟩
  · rw [of_text_lower, ← same, ← of_text_lower]
    exact spelling.valid
  · have lowered := (of_text_name _ _ spelling.valid).symm.trans (of_text_name _ _ read)
    exact HeaderName.mk.inj lowered

theorem values_spelled (headers : List (HeaderSpelling × Bytes)) (name : String) :
    Headers.values (headers.map fun header => (header.1.name, header.2)) name =
      ((headers.filter fun header => SameName header.1.text name).map Prod.snd).map
        Utf8.decodeLossy := by
  simp only [same_name_iff, Headers.values]
  cases read : HeaderName.ofText? name.toList with
  | none => simp
  | some key =>
      simp [List.filter_map, Function.comp_def, eq_comm]

theorem lookup_first (pairs : List (String × String)) (name : String) :
    pairs.lookup name = (pairValues pairs name).head? := by
  induction pairs with
  | nil => rfl
  | cons pair pairs ih =>
      obtain ⟨other, value⟩ := pair
      by_cases same : other = name
      · simp [pairValues, same]
      · have differs : (name == other) = false := beq_false_of_ne (Ne.symm same)
        rw [List.lookup_cons, differs, ih]
        simp [pairValues, same]

theorem lookup_last (pairs : List (String × String)) (name : String) :
    pairs.reverse.lookup name = (pairValues pairs name).getLast? := by
  rw [lookup_first, pairValues, List.filter_reverse, List.map_reverse, List.head?_reverse]
  rfl

namespace Request

variable (request : Request) (name : String)

theorem cookie_first : request.cookie? name = (pairValues (request.pairs .cookies) name).head? :=
  lookup_first request.cookies name

theorem attribute_last :
    request.attribute? name = (pairValues (request.pairs .attributes) name).getLast? := by
  rw [pairs, ← lookup_last, List.reverse_reverse]
  rfl

theorem session_attribute_last :
    request.sessionAttribute? name = (pairValues (request.pairs .session) name).getLast? := by
  rw [← lookup_last, pairs, sessionAttribute?]
  cases request.session with
  | none => rfl
  | some session => simp

variable (addition : Addition)

theorem add_headers (side : Side) : (request.add addition).headers side = request.headers side ++
    (addition.header? side).toList.map fun header => (header.1.name, header.2) := by
  cases addition with
  | header other spelling value =>
      cases other <;> cases side <;> simp [add, headers, Addition.header?, Headers.add]
  | pair place other value =>
      cases place <;> cases side <;> simp [add, headers, Addition.header?]
  | session id => cases side <;> simp [add, headers, Addition.header?]

theorem add_pairs (place : Place)
    (kept : place = .session → request.session.isSome = true ∧ ∀ id, addition ≠ .session id) :
    (request.add addition).pairs place =
      request.pairs place ++ (addition.pair? place).toList := by
  cases addition with
  | header side spelling value =>
      cases side <;> cases place <;> simp [add, pairs, Addition.pair?]
  | pair other otherName value =>
      cases other with
      | cookies => cases place <;> simp [add, pairs, Addition.pair?]
      | attributes => cases place <;> simp [add, pairs, Addition.pair?, Attributes.insert]
      | session =>
          cases place with
          | session =>
              obtain ⟨session, held⟩ := Option.isSome_iff_exists.mp (kept rfl).1
              simp [add, pairs, Addition.pair?, Attributes.insert, held]
          | cookies => simp [add, pairs, Addition.pair?]
          | attributes => simp [add, pairs, Addition.pair?]
  | session id =>
      cases place with
      | session => exact absurd rfl ((kept rfl).2 id)
      | cookies => simp [add, pairs, Addition.pair?]
      | attributes => simp [add, pairs, Addition.pair?]

theorem add_session (other : ∀ id, addition ≠ .session id) :
    (request.add addition).session.isSome = request.session.isSome := by
  cases addition with
  | header side spelling value => cases side <;> rfl
  | pair place name value => cases place <;> simp [add]
  | session id => exact absurd rfl (other id)

end Request

theorem filter_map_front {α β : Type} (f : α → Option β) (first : α) (rest : List α) :
    (first :: rest).filterMap f = (f first).toList ++ rest.filterMap f := by
  cases found : f first with
  | none => simp [found]
  | some value => simp [found]

namespace Request

variable (request : Request) (history : List Addition)

theorem add_all_headers (side : Side) : (request.addAll history).headers side =
    request.headers side ++
      (history.filterMap (Addition.header? side)).map fun header => (header.1.name, header.2) := by
  induction history generalizing request with
  | nil => simp [addAll]
  | cons addition later ih =>
      have step := ih (request.add addition)
      rw [add_headers, List.append_assoc] at step
      rw [filter_map_front, List.map_append]
      exact step

theorem add_all_session (unopened : ∀ id, .session id ∉ history) :
    (request.addAll history).session.isSome = request.session.isSome := by
  induction history generalizing request with
  | nil => rfl
  | cons addition later ih =>
      have first := request.add_session addition fun id same => unopened id (by simp [same])
      have rest := ih (request.add addition) fun id member =>
        unopened id (List.mem_cons_of_mem _ member)
      exact rest.trans first

theorem add_all_pairs (place : Place)
    (kept : place = .session → request.session.isSome = true ∧ ∀ id, .session id ∉ history) :
    (request.addAll history).pairs place =
      request.pairs place ++ history.filterMap (Addition.pair? place) := by
  induction history generalizing request with
  | nil => simp [addAll]
  | cons addition later ih =>
      have here : place = .session →
          request.session.isSome = true ∧ ∀ id, addition ≠ .session id := fun inSession =>
        ⟨(kept inSession).1, fun id same => (kept inSession).2 id (by simp [same])⟩
      have step := ih (request.add addition) fun inSession =>
        ⟨(request.add_session addition (here inSession).2).trans (here inSession).1,
          fun id member => (kept inSession).2 id (List.mem_cons_of_mem _ member)⟩
      rw [request.add_pairs addition place here, List.append_assoc] at step
      rw [filter_map_front]
      exact step

theorem bare_header_values (side : Side) (name : String) :
    ((request.bare.addAll history).headers side).values name =
      (headerValues history side name).map Utf8.decodeLossy := by
  have empty : request.bare.headers side = [] := by cases side <;> rfl
  rw [add_all_headers, empty, List.nil_append, values_spelled, headerValues]

theorem bare_pair_values (place : Place) (other : place ≠ .session) (name : String) :
    pairValues ((request.bare.addAll history).pairs place) name =
      placeValues history place name := by
  have empty : request.bare.pairs place = [] := by cases place <;> rfl
  rw [add_all_pairs _ _ _ fun inSession => absurd inSession other, empty, List.nil_append,
    placeValues]

theorem session_values (before later : List Addition) (id name : String)
    (last : ∀ other, .session other ∉ later) :
    pairValues ((request.addAll (before ++ .session id :: later)).pairs .session) name =
      placeValues later .session name := by
  have split : request.addAll (before ++ .session id :: later) =
      ((request.addAll before).add (.session id)).addAll later := by
    simp [addAll]
  rw [split, add_all_pairs _ _ _ fun _ => ⟨rfl, last⟩]
  rfl

end Request

theorem header_values_unnamed (history : List Addition) (side : Side) (name : String)
    (invalid : HeaderName.ofText? name.toList = none) : headerValues history side name = [] := by
  simp [headerValues, same_name_iff, invalid]

theorem braced_line (name : String) (conversion : Char) (free : '}' ∉ name.toList)
    (request : Request) (moment : Moment) (cache : StampCache) :
    ((Pattern.compile ("%\x7b" ++ name ++ "\x7d" ++ conversion.toString)).write request moment
        cache).1 =
      (Element.ofNamed name conversion).shown request moment (cache.stampAt moment.now).1.text := by
  have spelled : ("%\x7b" ++ name ++ "\x7d" ++ conversion.toString).toList =
      braced name conversion ++ [] := by
    simp [braced]
  rw [pattern_line, Pattern.compile, elementsOf, spelled, scan_braced _ _ _ _ _ free, scan_end]
  simp [flush]

theorem named_fields_follow_history (request : Request) (history : List Addition) (name : String)
    (free : '}' ∉ name.toList) (moment : Moment) (cache : StampCache) :
    let line := fun conversion : Char =>
      ((Pattern.compile ("%\x7b" ++ name ++ "\x7d" ++ conversion.toString)).write
        (request.bare.addAll history) moment cache).1
    line 'i' = ((headerValues history .request name).head?.map Utf8.decodeLossy).getD "-" ∧
    line 'o' = (if headerValues history .response name = [] then "-"
      else ",".intercalate ((headerValues history .response name).map Utf8.decodeLossy)) ∧
    line 'c' = (placeValues history .cookies name).head?.getD "-" ∧
    line 'r' = (placeValues history .attributes name).getLast?.getD "-" ∧
    (∀ before id later, history = before ++ .session id :: later →
      (∀ other, .session other ∉ later) →
      line 's' = (placeValues later .session name).getLast?.getD "-") ∧
    ((∀ id, .session id ∉ history) → line 's' = "-") ∧
    (HeaderName.ofText? name.toList = none → line 'i' = "-" ∧ line 'o' = "-") ∧
    ∀ value text, Utf8.decode? value = some text → Utf8.decodeLossy value = text := by
  intro line
  have shown : ∀ conversion, line conversion =
      (Element.ofNamed name conversion).shown (request.bare.addAll history) moment
        (cache.stampAt moment.now).1.text := fun conversion =>
    braced_line name conversion free (request.bare.addAll history) moment cache
  have first : line 'i' =
      ((headerValues history .request name).head?.map Utf8.decodeLossy).getD "-" := by
    have values := request.bare_header_values history .request name
    rw [shown, ← List.head?_map, ← values]
    rfl
  have joined : line 'o' = if headerValues history .response name = [] then "-"
      else ",".intercalate ((headerValues history .response name).map Utf8.decodeLossy) := by
    have values := request.bare_header_values history .response name
    have text : line 'o' =
        valuesText ((request.bare.addAll history).headers .response |>.values name) := shown 'o'
    rw [text, values, valuesText]
    simp only [List.map_eq_nil_iff]
  refine ⟨first, joined, ?_, ?_, ?_, ?_, ?_, ?_⟩
  · rw [shown, ← request.bare_pair_values history .cookies nofun name, ← Request.cookie_first]
    rfl
  · rw [shown, ← request.bare_pair_values history .attributes nofun name,
      ← Request.attribute_last]
    rfl
  · intro before id later split last
    rw [shown, split, ← request.bare.session_values before later id name last,
      ← Request.session_attribute_last]
    rfl
  · intro unopened
    have idle : (request.bare.addAll history).session = none := by
      simpa [Request.bare] using request.bare.add_all_session history unopened
    have absent : (request.bare.addAll history).sessionAttribute? name = none := by
      rw [Request.sessionAttribute?, idle]
      rfl
    rw [shown]
    exact congrArg orDash absent
  · intro invalid
    rw [first, joined, header_values_unnamed history .request name invalid,
      header_values_unnamed history .response name invalid]
    exact ⟨rfl, rfl⟩
  · intro value text read
    rw [Utf8.eq_encode_of_decode read, Utf8.decode_lossy_encode]

def plainCity : HeaderSpelling := ⟨"x-city", ⟨"x-city".toList⟩, by decide⟩

def loudCity : HeaderSpelling := ⟨"X-CITY", ⟨"x-city".toList⟩, by decide⟩

def crowd : List Addition :=
  [.header .response plainCity (Utf8.encode "Zürich"), .pair .cookies "x-city" "Basel",
    .pair .cookies "X-City" "Genf", .header .response loudCity (Utf8.encode "Bern"),
    .header .request loudCity (Utf8.encode "Zürich"), .pair .session "X-City" "early",
    .session "S1", .pair .session "X-City" "former", .pair .attributes "X-City" "Chur",
    .session "S2", .pair .cookies "X-City" "Thun", .pair .session "X-City" "Visp",
    .header .request plainCity [0xFF], .pair .attributes "X-City" "Brig",
    .pair .session "X-City" "Sion"]

def early : List Addition := crowd.take 6

theorem crowd_lines :
    let line := fun (history : List Addition) (name : String) (conversion : Char) =>
      ((Pattern.compile ("%\x7b" ++ name ++ "\x7d" ++ conversion.toString)).write
        (visit.bare.addAll history) midnight (.start universalClock)).1
    line crowd "X-City" 'i' = "Zürich" ∧ line crowd "X-City" 'o' = "Zürich,Bern" ∧
      line crowd "X-City" 'c' = "Genf" ∧ line crowd "X-City" 'r' = "Brig" ∧
      line crowd "X-City" 's' = "Sion" ∧ line early "X City" 's' = "-" ∧
      line early "X City" 'i' = "-" ∧ line early "X City" 'o' = "-" := by
  intro line
  obtain ⟨first, joined, cookie, inserted, session, _, _, unchanged⟩ :=
    named_fields_follow_history visit crowd "X-City" (by decide) midnight (.start universalClock)
  obtain ⟨_, _, _, _, _, sessionless, unnamed, _⟩ :=
    named_fields_follow_history visit early "X City" (by decide) midnight (.start universalClock)
  have city := unchanged _ "Zürich" (Utf8.decode_encode _)
  have firstCity : headerValues crowd .request "X-City" = [Utf8.encode "Zürich", [0xFF]] := by
    decide +kernel
  refine ⟨first.trans ?_, joined.trans ?_, cookie.trans ?_, inserted.trans ?_,
    (session (crowd.take 9) "S2" (crowd.drop 10) rfl ?_).trans ?_, sessionless ?_,
    unnamed (by decide)⟩
  · rw [firstCity]
    exact city
  · decide +kernel
  · decide +kernel
  · decide +kernel
  · simp [crowd]
  · decide +kernel
  · simp [early, crowd]

end LogRelay.AccessLog
