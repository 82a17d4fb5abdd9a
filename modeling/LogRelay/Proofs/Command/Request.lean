import LogRelay.Command.Order
import LogRelay.Proofs.Text.Cut
import Mathlib.Data.List.Forall2

/-!
The request of an ordered line. It has the fields that the order gives and no other, and its headers
and cookies are those that the texts of the order spell, in their order.
-/
set_option autoImplicit false

namespace LogRelay.Command

open AccessLog

-- A text spells a header by a name and a value with the first colon between them; blanks around
-- each of them do not count.
structure SpellsHeader (text : String) (header : HeaderName × Bytes) : Prop where
  parted : ∃ name value, text.toList = name ++ ':' :: value ∧ ':' ∉ name ∧
    HeaderName.ofText? (Text.trim name) = some header.1 ∧
    header.2 = Utf8.encode (String.ofList (Text.trim value))
  sound : isHeaderValue header.2 = true

structure SpellsCookie (text : String) (cookie : String × String) : Prop where
  parted : text = cookie.1 ++ "=" ++ cookie.2
  whole : '=' ∉ cookie.1.toList

theorem split_at_iff (mark : Char) (text : String) (before behind : List Char) :
    splitAt? mark text = some (before, behind) ↔
      text.toList = before ++ mark :: behind ∧ mark ∉ before := by
  rw [← Text.cut_iff, splitAt?]
  cases dropped : text.toList.dropWhile (· ≠ mark) with
  | nil => simp
  | cons c rest =>
      have atMark : c = mark := Text.drop_while_mark mark text.toList c rest dropped
      simp [atMark]

theorem read_header_iff (text : String) (header : HeaderName × Bytes) :
    readHeader text = .ok header ↔ SpellsHeader text header := by
  unfold readHeader
  constructor
  · intro read
    cases parts : splitAt? ':' text with
    | none =>
        rw [parts] at read
        cases read
    | some part =>
        obtain ⟨before, behind⟩ := part
        rw [parts] at read
        cases named : HeaderName.ofText? (Text.trim before) with
        | none =>
            simp only [named] at read
            cases read
        | some name =>
            simp only [named] at read
            split at read
            · rename_i sound
              cases read
              obtain ⟨parted, free⟩ := (split_at_iff ':' text before behind).mp parts
              exact ⟨⟨before, behind, parted, free, named, rfl⟩, sound⟩
            · cases read
  · rintro ⟨⟨before, behind, parted, free, named, valued⟩, sound⟩
    have parts := (split_at_iff ':' text before behind).mpr ⟨parted, free⟩
    simp only [parts, named, ← valued, sound, if_true]

theorem read_cookie_iff (text : String) (cookie : String × String) :
    readCookie text = .ok cookie ↔ SpellsCookie text cookie := by
  unfold readCookie
  constructor
  · intro read
    cases parts : splitAt? '=' text with
    | none =>
        rw [parts] at read
        cases read
    | some part =>
        obtain ⟨before, behind⟩ := part
        rw [parts] at read
        cases read
        obtain ⟨parted, free⟩ := (split_at_iff '=' text before behind).mp parts
        refine ⟨String.toList_inj.mp ?_, by simpa using free⟩
        simpa using parted
  · rintro ⟨parted, whole⟩
    have spelled : text.toList = cookie.1.toList ++ '=' :: cookie.2.toList := by
      rw [parted]
      simp
    have parts := (split_at_iff '=' text _ _).mpr ⟨spelled, whole⟩
    simp [parts]

theorem bind_ok_iff {ε α β : Type} (first : Except ε α) (next : α → Except ε β) (result : β) :
    first >>= next = .ok result ↔ ∃ value, first = .ok value ∧ next value = .ok result := by
  cases first with
  | error problem => exact ⟨nofun, nofun⟩
  | ok value => simp [bind, Except.bind]

theorem read_all_iff {ε α β : Type} (read : α → Except ε β) (texts : List α) (values : List β) :
    texts.mapM read = .ok values ↔
      List.Forall₂ (fun text value => read text = .ok value) texts values := by
  induction texts generalizing values with
  | nil =>
      rw [List.forall₂_nil_left_iff]
      exact ⟨fun same => (Except.ok.inj same).symm, fun same => congrArg Except.ok same.symm⟩
  | cons text rest ih =>
      simp only [List.mapM_cons, bind_ok_iff, List.forall₂_cons_left_iff]
      constructor
      · rintro ⟨value, first, others, read, same⟩
        exact ⟨value, others, first, (ih others).mp read, (Except.ok.inj same).symm⟩
      · rintro ⟨value, others, first, read, same⟩
        exact ⟨value, first, others, (ih others).mpr read, congrArg Except.ok same.symm⟩

theorem read_headers_iff (texts : List String) (headers : Headers) :
    texts.mapM readHeader = .ok headers ↔ List.Forall₂ SpellsHeader texts headers := by
  simp only [read_all_iff, read_header_iff]

theorem read_cookies_iff (texts : List String) (cookies : List (String × String)) :
    texts.mapM readCookie = .ok cookies ↔ List.Forall₂ SpellsCookie texts cookies := by
  simp only [read_all_iff, read_cookie_iff]

structure LineOrder.Describes (order : LineOrder) (request : Request) : Prop where
  remoteAddress : request.remoteAddress = order.remoteAddress
  remoteHost : request.remoteHost = order.remoteHost
  localAddress : request.localAddress = none
  localPort : request.localPort = none
  serverName : request.serverName = none
  protocol : request.protocol = order.protocol
  method : request.method = order.method
  uri : request.uri = order.uri
  query : request.query = order.query
  status : request.status = order.status
  bytesSent : request.bytesSent = order.bytes
  user : request.user = order.user
  thread : request.thread = none
  requestHeaders : List.Forall₂ SpellsHeader order.headers request.requestHeaders
  responseHeaders : List.Forall₂ SpellsHeader order.responseHeaders request.responseHeaders
  cookies : List.Forall₂ SpellsCookie order.cookies request.cookies
  attributes : request.attributes = []
  session : request.session = none

structure LineOrder.Readable (order : LineOrder) : Prop where
  headers : ∀ text ∈ order.headers, ∃ header, SpellsHeader text header
  responseHeaders : ∀ text ∈ order.responseHeaders, ∃ header, SpellsHeader text header
  cookies : ∀ text ∈ order.cookies, ∃ cookie, SpellsCookie text cookie

theorem spelled_all_iff {α β : Type} (spells : α → β → Prop) (texts : List α) :
    (∃ values, List.Forall₂ spells texts values) ↔ ∀ text ∈ texts, ∃ value, spells text value := by
  induction texts with
  | nil => simp
  | cons text rest ih =>
      simp only [List.forall₂_cons_left_iff, List.forall_mem_cons, ← ih]
      constructor
      · rintro ⟨_, value, others, first, later, rfl⟩
        exact ⟨⟨value, first⟩, others, later⟩
      · rintro ⟨⟨value, first⟩, others, later⟩
        exact ⟨_, value, others, first, later, rfl⟩

theorem request_iff (order : LineOrder) (request : Request) :
    order.request = .ok request ↔ order.Describes request := by
  simp only [LineOrder.request, bind_ok_iff, read_headers_iff, read_cookies_iff]
  constructor
  · rintro ⟨requestHeaders, headed, responseHeaders, answered, cookies, baked, same⟩
    cases same
    constructor <;> first | rfl | assumption
  · intro described
    refine ⟨_, described.requestHeaders, _, described.responseHeaders, _, described.cookies, ?_⟩
    refine congrArg Except.ok ?_
    obtain ⟨_, _, _, _, _, _, _, _, _, _, _, _, _, _, _, _, _, _⟩ := request
    obtain ⟨rfl, rfl, rfl, rfl, rfl, rfl, rfl, rfl, rfl, rfl, rfl, rfl, rfl, _, _, _, rfl, rfl⟩ :=
      described
    rfl

theorem readable_iff (order : LineOrder) :
    order.Readable ↔ ∃ request, order.Describes request := by
  constructor
  · intro readable
    obtain ⟨requestHeaders, headed⟩ := (spelled_all_iff _ _).mpr readable.headers
    obtain ⟨responseHeaders, answered⟩ := (spelled_all_iff _ _).mpr readable.responseHeaders
    obtain ⟨cookies, baked⟩ := (spelled_all_iff _ _).mpr readable.cookies
    have read : ∃ request, order.request = .ok request := by
      simp only [LineOrder.request, bind_ok_iff]
      exact ⟨_, _, (read_headers_iff _ _).mpr headed, _, (read_headers_iff _ _).mpr answered, _,
        (read_cookies_iff _ _).mpr baked, rfl⟩
    exact read.imp fun request => (request_iff order request).mp
  · rintro ⟨request, described⟩
    exact ⟨(spelled_all_iff _ _).mp ⟨_, described.requestHeaders⟩,
      (spelled_all_iff _ _).mp ⟨_, described.responseHeaders⟩,
      (spelled_all_iff _ _).mp ⟨_, described.cookies⟩⟩

end LogRelay.Command
