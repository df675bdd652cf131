import EnjoyThings.Services.ChatStream

/-!
# Chat text on the wire

What the presenter writes is printable ASCII on one line per event, whatever the text of
a delta is (`escape_plain`), so that no text can be taken for the end of an event. The
events the route cuts out of its buffer depend on the bytes only and not on the chunks
they come in (`readChunks_eq`). Together: the deltas come out as they went in
(`chat_text_exact`).
-/

namespace EnjoyThings

/-! ## What the presenter writes -/

namespace Py

/-- Printable ASCII. -/
def Plain (s : Str) : Prop :=
  ∀ c ∈ s, 0x20 ≤ c.val ∧ c.val ≤ 0x7E

instance (s : Str) : Decidable (Plain s) :=
  List.decidableBAll _ s

@[simp] theorem plain_append {s t : Str} : Plain (s ++ t) ↔ Plain s ∧ Plain t :=
  List.forall_mem_append

/-- ASCII, which has one byte for each code point. -/
def Ascii (s : Str) : Prop :=
  ∀ c ∈ s, c.val < 0x80

instance (s : Str) : Decidable (Ascii s) :=
  List.decidableBAll _ s

@[simp] theorem ascii_append {s t : Str} : Ascii (s ++ t) ↔ Ascii s ∧ Ascii t :=
  List.forall_mem_append

theorem Plain.ascii {s : Str} (h : Plain s) : Ascii s := by
  intro c hc
  have hplain := h c hc
  omega

theorem hexDigit_plain {n : Nat} (h : n < 16) :
    0x20 ≤ (hexDigit n).val ∧ (hexDigit n).val ≤ 0x7E := by
  unfold hexDigit
  split
  · simp only [Fin.val_ofNat]
    omega
  · simp only [Fin.val_ofNat]
    omega

theorem unicodeEscape_plain (n : Nat) : Plain (unicodeEscape n) := by
  refine plain_append.mpr ⟨by decide, ?_⟩
  intro c hc
  simp only [hex4, List.mem_cons, List.not_mem_nil, or_false] at hc
  rcases hc with rfl | rfl | rfl | rfl
  all_goals exact hexDigit_plain (Nat.mod_lt _ (by decide))

/-- Every code point is written in printable ASCII. -/
theorem escape_plain (c : CodePoint) : Plain (escape c) := by
  unfold escape
  repeat' split
  all_goals first
    | decide
    | exact unicodeEscape_plain _
    | exact plain_append.mpr ⟨unicodeEscape_plain _, unicodeEscape_plain _⟩
    | exact fun _ hc => List.mem_singleton.mp hc ▸ ‹_ ∧ _›

theorem dumpsStr_plain (s : Str) : Plain (dumpsStr s) := by
  refine plain_append.mpr ⟨plain_append.mpr ⟨by decide, ?_⟩, by decide⟩
  intro c hc
  obtain ⟨c', -, hc⟩ := List.mem_flatMap.mp hc
  exact escape_plain c' c hc

end Py

section Presenter

open Py SsePresenter

variable [FloatText]

theorem chunkPayload_plain (content finishReason : Option Str) :
    Plain (dumps (chunkPayload content finishReason)) := by
  have hliterals : Plain (ofString (toString (0 : Int))) ∧ Plain (ofString ",") ∧
      Plain (ofString ":") ∧ Plain (ofString "[") ∧ Plain (ofString "]") ∧
      Plain (ofString "\x7b") ∧ Plain (ofString "\x7d") := by
    decide
  obtain ⟨h₁, h₂, h₃, h₄, h₅, h₆, h₇⟩ := hliterals
  have hdelta : Plain (joinWithCommas (dumpsFields
      (content.elim [] fun text => [(ofString "content", .str text)]))) := by
    cases content with
    | none => exact List.forall_mem_nil _
    | some text =>
      simp only [Option.elim, dumpsFields, dumps, joinWithCommas, plain_append, dumpsStr_plain, h₃,
        and_self]
  have hreason : Plain (dumps (finishReason.elim .null .str)) := by
    cases finishReason with
    | none =>
      show Plain (ofString "null")
      decide
    | some reason => exact dumpsStr_plain reason
  simp only [chunkPayload, dumps, dumpsFields, dumpsItems, joinWithCommas, plain_append,
    dumpsStr_plain, hdelta, hreason, h₁, h₂, h₃, h₄, h₅, h₆, h₇, and_self]

/-- A chunk is an object, so its text has no space at either end. -/
theorem chunkPayload_braces (content finishReason : Option Str) :
    ∃ body, dumps (chunkPayload content finishReason) =
      ofString "\x7b" ++ body ++ ofString "\x7d" :=
  ⟨_, rfl⟩

end Presenter

/-! ## Texts in JavaScript -/

namespace Js

theorem ofPython_append (s t : Py.Str) : ofPython (s ++ t) = ofPython s ++ ofPython t :=
  List.flatMap_append

/-- ASCII looks the same in JavaScript. -/
theorem ofPython_ascii {s : Py.Str} (h : Py.Ascii s) :
    ofPython s = s.map fun c => (UInt8.ofNat c.val).toUInt16 := by
  rw [ofPython, List.map_eq_flatMap]
  refine List.flatMap_congr fun c hc => ?_
  have hlt := h c hc
  rw [if_pos (by omega)]
  congr 1
  apply UInt16.toNat_inj.mp
  simp only [UInt16.toNat_ofNat', UInt8.toNat_toUInt16, UInt8.toNat_ofNat']
  omega

/-- A plain text has no line break in it. -/
theorem newline_not_mem {s : Py.Str} (h : Py.Plain s) : (10 : UInt16) ∉ ofPython s := by
  rw [ofPython_ascii h.ascii]
  intro hmem
  obtain ⟨c, hc, he⟩ := List.mem_map.mp hmem
  have hplain := h c hc
  have hval := congrArg UInt16.toNat he
  simp only [UInt8.toNat_toUInt16, UInt8.toNat_ofNat', UInt16.toNat_ofNat] at hval
  omega

/-- A text with no space at either end. -/
def Solid (s : Str) : Prop :=
  ∃ a body b, s = a :: (body ++ [b]) ∧ isSpace a = false ∧ isSpace b = false

theorem Solid.trim_eq {s : Str} (h : Solid s) : trim s = s := by
  obtain ⟨a, body, b, rfl, ha, hb⟩ := h
  have hreverse : (a :: (body ++ [b])).reverse = b :: (body.reverse ++ [a]) := by simp
  rw [trim, List.dropWhile_cons_of_neg (by simp [ha]), hreverse,
    List.dropWhile_cons_of_neg (by simp [hb])]
  simp

theorem trim_space (s : Str) : trim (32 :: s) = trim s := by
  rw [trim, List.dropWhile_cons_of_pos (by decide), trim]

theorem Solid.prefixed {s : Str} (h : Solid s) {a : UInt16} (ha : isSpace a = false) (t : Str) :
    Solid (a :: (t ++ s)) := by
  obtain ⟨a', body, b, rfl, -, hb⟩ := h
  exact ⟨a, t ++ a' :: body, b, by simp, ha, hb⟩

end Js

/-! ## The bytes -/

section Bytes

open Py SsePresenter

theorem encode_of_ascii {s : Str} (h : Ascii s) :
    encode s = some (s.map fun c => UInt8.ofNat c.val) := by
  have hencodes : encodes s = true := by
    simp only [encodes, Bool.not_eq_true', List.any_eq_false]
    intro c hc
    have hlt := h c hc
    simp only [isSurrogate, isHighSurrogate, isLowSurrogate, Bool.or_eq_true, Bool.and_eq_true,
      decide_eq_true_eq]
    omega
  rw [encode, if_pos hencodes, List.map_eq_flatMap]
  congr 1
  refine List.flatMap_congr fun c hc => ?_
  rw [utf8, if_pos (h c hc)]

theorem mapM_encode_of_ascii {texts : List Str} (h : ∀ s ∈ texts, Ascii s) :
    texts.mapM encode = some (texts.map fun s => s.map fun c => UInt8.ofNat c.val) := by
  induction texts with
  | nil => rfl
  | cons s rest ih =>
    obtain ⟨hs, hrest⟩ := List.forall_mem_cons.mp h
    rw [List.mapM_cons, encode_of_ascii hs, ih hrest]
    rfl

theorem dataEvent_ascii {data : Str} (h : Plain data) : Ascii (dataEvent data) := by
  have hframe : Ascii (ofString "data: ") ∧ Ascii (ofString "\n\n") := by decide
  rw [dataEvent, ascii_append, ascii_append]
  exact ⟨⟨hframe.1, h.ascii⟩, hframe.2⟩

/-- The data of the events of a reply. -/
def eventData [FloatText] (deltas : List ChatDelta) : List Str :=
  (chunks deltas).map dumps ++ [ofString "[DONE]"]

variable [FloatText] {deltas : List ChatDelta}

theorem streamOpenaiChatSse_eq :
    streamOpenaiChatSse deltas = (eventData deltas).map dataEvent := by
  simp only [streamOpenaiChatSse, eventData, List.map_append, List.map_map, List.map_cons,
    List.map_nil, Function.comp_def]

/-- Every event of a reply is one line of printable ASCII without a space at either end. -/
theorem eventData_plain {data : Str} (h : data ∈ eventData deltas) :
    Plain data ∧ Js.Solid (Js.ofPython data) := by
  have hpayload : ∀ content finishReason, Plain (dumps (chunkPayload content finishReason)) ∧
      Js.Solid (Js.ofPython (dumps (chunkPayload content finishReason))) := by
    intro content finishReason
    obtain ⟨body, hbody⟩ := chunkPayload_braces content finishReason
    refine ⟨chunkPayload_plain content finishReason, 0x7B, Js.ofPython body, 0x7D, ?_, rfl, rfl⟩
    rw [hbody, Js.ofPython_append, Js.ofPython_append]
    rfl
  rcases List.mem_append.mp h with h | h
  · obtain ⟨chunk, hchunk, rfl⟩ := List.mem_map.mp h
    rcases List.mem_append.mp hchunk with hchunk | hchunk
    · obtain ⟨delta, -, rfl⟩ := List.mem_map.mp hchunk
      exact hpayload _ _
    · rw [List.mem_singleton.mp hchunk]
      exact hpayload _ _
  · rw [List.mem_singleton.mp h]
    exact ⟨by decide, 0x5B, Js.ofString "DONE", 0x5D, rfl, rfl, rfl⟩

theorem stream_ascii : Ascii (streamOpenaiChatSse deltas).flatten ∧
    ∀ s ∈ streamOpenaiChatSse deltas, Ascii s := by
  have hall : ∀ s ∈ streamOpenaiChatSse deltas, Ascii s := by
    intro s hs
    rw [streamOpenaiChatSse_eq] at hs
    obtain ⟨data, hdata, rfl⟩ := List.mem_map.mp hs
    exact dataEvent_ascii (eventData_plain hdata).1
  refine ⟨fun c hc => ?_, hall⟩
  obtain ⟨s, hs, hc⟩ := List.mem_flatten.mp hc
  exact hall s hs c hc

/-- The bytes of a reply. -/
theorem responseBody_eq : responseBody deltas =
    some ((streamOpenaiChatSse deltas).flatten.map fun c => UInt8.ofNat c.val) := by
  rw [responseBody, mapM_encode_of_ascii stream_ascii.2, Option.map_some, List.map_flatten]

end Bytes

/-! ## What the route reads -/

namespace ChatRoute

open Js

/-- The data of an event on one line. -/
theorem dataOf_line {data : Str} (hsolid : Solid data) (hline : (10 : UInt16) ∉ data) :
    dataOf (ofString "data: " ++ data) = [data] := by
  have hstart : ofString "data: " ++ data = 100 :: ([97, 116, 97, 58, 32] ++ data) := rfl
  have hsingle : (ofString "data: " ++ data).splitOn 10 = [ofString "data: " ++ data] := by
    refine List.splitOnP_eq_singleton fun c hc => ?_
    have hne : c ≠ 10 := by
      rintro rfl
      rcases List.mem_append.mp hc with hc | hc
      · revert hc
        decide
      · exact hline hc
    simpa using hne
  have htrim : trim (ofString "data: " ++ data) = ofString "data: " ++ data := by
    rw [hstart]
    exact (hsolid.prefixed rfl _).trim_eq
  have hprefix : (ofString "data:").isPrefixOf (ofString "data: " ++ data) = true := by
    rw [List.isPrefixOf_iff_prefix]
    exact ⟨32 :: data, rfl⟩
  have hdrop : trim ((ofString "data: " ++ data).drop 5) = data := by
    rw [show (ofString "data: " ++ data).drop 5 = 32 :: data from rfl, trim_space, hsolid.trim_eq]
  simp [dataOf, hsingle, htrim, hprefix, hdrop, List.intercalate]

/-- The first event of a buffer that starts with one. -/
theorem takeEvents_cons {data : Str} (hsolid : Solid data) (hline : (10 : UInt16) ∉ data)
    (more : Str) :
    takeEvents (ofString "data: " ++ data ++ ofString "\n\n" ++ more) =
      (data :: (takeEvents more).1, (takeEvents more).2) := by
  have hline' : (10 : UInt16) ∉ ofString "data: " ++ data := by
    rw [List.mem_append, not_or]
    exact ⟨by decide, hline⟩
  have hfind : Framing.find (ofString "\n\n") (ofString "data: " ++ data ++
      (ofString "\n\n" ++ more)) = some (ofString "data: " ++ data).length :=
    Framing.find_frame hline' 1 more
  rw [List.append_assoc (ofString "data: " ++ data), takeEvents]
  rw [Framing.frames_of_some (by decide) hfind]
  have htake : (ofString "data: " ++ data ++ (ofString "\n\n" ++ more)).take
      (ofString "data: " ++ data).length = ofString "data: " ++ data := List.take_left
  have hdrop : (ofString "data: " ++ data ++ (ofString "\n\n" ++ more)).drop
      ((ofString "data: " ++ data).length + (ofString "\n\n").length) = more := by
    rw [← List.length_append, ← List.append_assoc, List.drop_left]
  rw [htake, hdrop]
  simp only [List.flatMap_cons, dataOf_line hsolid hline, takeEvents, List.singleton_append]

/-- The events of some lines come first, whatever follows. -/
theorem takeEvents_lines {lines : List Str}
    (hlines : ∀ data ∈ lines, Solid data ∧ (10 : UInt16) ∉ data) (more : Str) :
    takeEvents ((lines.flatMap fun data => ofString "data: " ++ data ++ ofString "\n\n") ++ more) =
      (lines ++ (takeEvents more).1, (takeEvents more).2) := by
  induction lines with
  | nil => rfl
  | cons data rest ih =>
    obtain ⟨⟨hsolid, hline⟩, hrest⟩ := List.forall_mem_cons.mp hlines
    rw [List.flatMap_cons, List.append_assoc, takeEvents_cons hsolid hline, ih hrest,
      List.cons_append]

/-- What is read depends on the decoded text only, however it is cut into chunks. -/
theorem readChunks_eq (js : Platform) (state : js.State) {buffer : Str}
    (hbuffer : Framing.find (ofString "\n\n") buffer = none) (chunks : List (List UInt8)) :
    readChunks js state buffer chunks = takeEvents (buffer ++ js.decodeAll state chunks) := by
  induction chunks generalizing state buffer with
  | nil =>
    rw [Platform.decodeAll, List.append_nil, takeEvents, Framing.frames_of_none hbuffer]
    rfl
  | cons value rest ih =>
    have hsep : ofString "\n\n" ≠ [] := by decide
    have hrest := ih (js.decode state value).2
      (Framing.find_rest hsep (buffer ++ (js.decode state value).1))
    rw [Platform.decodeAll, ← List.append_assoc]
    simp only [readChunks, takeEvents] at hrest ⊢
    rw [hrest, Framing.frames_append hsep (buffer ++ (js.decode state value).1),
      List.flatMap_append]

end ChatRoute

/-! ## The round trip -/

namespace Js

/-- The decoder passes ASCII at the start of a stream on as it is, in whatever chunks it comes and
    whatever follows. -/
def Platform.PassesAscii (js : Platform) : Prop :=
  ∀ (chunks : List (List UInt8)) (ascii rest : List UInt8), chunks.flatten = ascii ++ rest →
    (∀ b ∈ ascii, b < 128) →
    ∃ more, js.decodeAll js.newDecoder chunks = ascii.map (·.toUInt16) ++ more

/-- `JSON.parse` inverts `json.dumps` on the chunks of a reply. -/
def Platform.InvertsDumps [Py.FloatText] (js : Platform) : Prop :=
  ∀ deltas, ∀ chunk ∈ SsePresenter.chunks deltas,
    js.parse (ofPython (Py.dumps chunk)) = some (ofJson chunk)

end Js

section RoundTrip

open Js ChatRoute

/-- What the route finds in a chunk with a text. -/
theorem contentOf_delta (content : Py.Str) :
    contentOf (ofJson (SsePresenter.chunkPayload (some content) none)) =
      .ok (some (ofPython content)) := by
  rfl

/-- The last chunk has no text. -/
theorem contentOf_stop (reason : Py.Str) :
    contentOf (ofJson (SsePresenter.chunkPayload none (some reason))) = .ok none := by
  rfl

theorem ofPython_length_pos {s : Py.Str} : (ofPython s).length > 0 ↔ s ≠ [] := by
  cases s with
  | nil => simp [ofPython]
  | cons c s =>
    simp only [ofPython, List.flatMap_cons, List.length_append, ne_eq, reduceCtorEq,
      not_false_eq_true, iff_true]
    split <;> simp only [List.length_cons] <;> omega

variable [Py.FloatText] {js : Platform} {deltas : List ChatDelta}

/-- The events the route reads start with those of the reply. -/
theorem sseEvents_reply (hdecode : js.PassesAscii) {chunks : List (List UInt8)}
    {body rest : List UInt8} (hbody : SsePresenter.responseBody deltas = some body)
    (hchunks : chunks.flatten = body ++ rest) :
    ∃ more, sseEvents js chunks = (eventData deltas).map ofPython ++ more := by
  rw [responseBody_eq] at hbody
  cases hbody
  have hascii : ∀ b ∈ (SsePresenter.streamOpenaiChatSse deltas).flatten.map
      (fun c => UInt8.ofNat c.val), b < 128 := by
    intro b hb
    obtain ⟨c, hc, rfl⟩ := List.mem_map.mp hb
    have hlt := stream_ascii.1 c hc
    rw [UInt8.lt_iff_toNat_lt, UInt8.toNat_ofNat']
    show c.val % 2 ^ 8 < 128
    omega
  obtain ⟨more, hmore⟩ := hdecode chunks _ rest hchunks hascii
  -- the decoded text is that of the events
  have htext : (((SsePresenter.streamOpenaiChatSse deltas).flatten.map
      fun c => UInt8.ofNat c.val).map (·.toUInt16)) =
      ((eventData deltas).map ofPython).flatMap fun data =>
        ofString "data: " ++ data ++ ofString "\n\n" := by
    rw [List.map_map]
    refine (ofPython_ascii stream_ascii.1).symm.trans ?_
    rw [streamOpenaiChatSse_eq]
    induction eventData deltas with
    | nil => rfl
    | cons data rest ih =>
      rw [List.map_cons, List.flatten_cons, ofPython_append, ih, List.map_cons, List.flatMap_cons,
        SsePresenter.dataEvent, ofPython_append, ofPython_append]
      rfl
  have hlines : ∀ data ∈ (eventData deltas).map ofPython, Solid data ∧ (10 : UInt16) ∉ data := by
    intro line hline
    obtain ⟨data, hdata, rfl⟩ := List.mem_map.mp hline
    obtain ⟨hplain, hsolid⟩ := eventData_plain hdata
    exact ⟨hsolid, newline_not_mem hplain⟩
  have hevents : readChunks js js.newDecoder [] chunks =
      takeEvents ([] ++ js.decodeAll js.newDecoder chunks) :=
    readChunks_eq js js.newDecoder rfl chunks
  rw [List.nil_append, hmore, htext, takeEvents_lines hlines] at hevents
  simp only [sseEvents, hevents, List.append_assoc]
  exact ⟨_, rfl⟩

theorem dumps_ne_done (content finishReason : Option Py.Str) :
    ofPython (Py.dumps (SsePresenter.chunkPayload content finishReason)) ≠ ofString "[DONE]" := by
  obtain ⟨body, hbody⟩ := chunkPayload_braces content finishReason
  rw [hbody, ofPython_append, ofPython_append]
  intro h
  cases (List.cons.inj h).1

/-- The loop over the events of a reply: it stops at `[DONE]`. -/
theorem writeEvents_reply (hparse : js.InvertsDumps) (blockId : String) (deltas : List ChatDelta)
    (more : List Js.Str) :
    writeEvents js blockId ((eventData deltas).map ofPython ++ more) =
      (deltas.filter (·.content ≠ [])).map (fun delta =>
        .textDelta blockId (ofPython delta.content)) ++ [.textEnd blockId] := by
  induction deltas with
  | nil =>
    have hstop := hparse [] _ (List.mem_singleton_self _)
    show writeEvents js blockId (ofPython (Py.dumps _) :: ofString "[DONE]" :: more) = _
    rw [writeEvents, if_neg (dumps_ne_done _ _), hstop]
    simp only [contentOf_stop, writeEvents, ↓reduceIte, List.filter_nil, List.map_nil,
      List.nil_append]
  | cons delta rest ih =>
    have hdelta := hparse [delta] _ List.mem_cons_self
    show writeEvents js blockId (ofPython (Py.dumps _) ::
      ((eventData rest).map ofPython ++ more)) = _
    rw [writeEvents, if_neg (dumps_ne_done _ _), hdelta]
    simp only [contentOf_delta, ih]
    by_cases hempty : delta.content = []
    · rw [if_neg (by rw [ofPython_length_pos]; simp [hempty]), List.filter_cons_of_neg
        (by simp [hempty])]
    · rw [if_pos (ofPython_length_pos.mpr hempty), List.filter_cons_of_pos (by simp [hempty]),
        List.map_cons, List.cons_append]

/-- Chat text survives the wire exactly: for every list of deltas, however the bytes of the
    presenter's stream are cut into chunks and whatever bytes come after them, the route writes one
    text part for every delta with a text, in order, and then the end. -/
theorem chat_text_exact (hdecode : js.PassesAscii) (hparse : js.InvertsDumps) (blockId : String)
    (deltas : List ChatDelta) :
    ∃ body, SsePresenter.responseBody deltas = some body ∧
      ∀ (chunks : List (List UInt8)) (rest : List UInt8), chunks.flatten = body ++ rest →
        execute js blockId chunks = .textStart blockId ::
          ((deltas.filter (·.content ≠ [])).map fun delta =>
            .textDelta blockId (ofPython delta.content)) ++ [.textEnd blockId] := by
  refine ⟨_, responseBody_eq, fun chunks rest hchunks => ?_⟩
  obtain ⟨more, hmore⟩ := sseEvents_reply hdecode responseBody_eq hchunks
  rw [execute, hmore, writeEvents_reply hparse]
  rfl

end RoundTrip

/-! ## A platform

A reader of the chunks the presenter writes, to run the route with. -/

namespace Js

/-- The value of a hexadecimal digit. -/
def hexValue (c : UInt16) : Nat :=
  if c.toNat < 58 then c.toNat - 48 else c.toNat - 87

/-- What a letter stands for after a backslash. -/
def unescaped (c : UInt16) : UInt16 :=
  if c = 98 then 8
  else if c = 102 then 12
  else if c = 110 then 10
  else if c = 114 then 13
  else if c = 116 then 9
  else c

/-- A string literal up to its closing quote, and what follows it. -/
def readLiteral : Str → Option (Str × Str)
  | [] => none
  | c :: rest =>
    if c = 34 then some ([], rest)
    else if c = 92 then
      match rest with
      | [] => none
      | e :: rest =>
        if e = 117 then
          match rest with
          | x₁ :: x₂ :: x₃ :: x₄ :: rest =>
            (readLiteral rest).map fun r => (UInt16.ofNat (hexValue x₁ * 4096 + hexValue x₂ * 256 +
              hexValue x₃ * 16 + hexValue x₄) :: r.1, r.2)
          | _ => none
        else (readLiteral rest).map fun r => (unescaped e :: r.1, r.2)
    else (readLiteral rest).map fun r => (c :: r.1, r.2)

theorem hexValue_hexDigit {n : Nat} (h : n < 16) :
    hexValue (UInt16.ofNat (Py.hexDigit n).val) = n := by
  have hall : ∀ d : Fin 16, hexValue (UInt16.ofNat (Py.hexDigit d.val).val) = d.val := by decide
  exact hall ⟨n, h⟩

/-- A code unit that is written with its number. -/
theorem readLiteral_unicodeEscape {n : Nat} (h : n < 0x10000) (t : Str) :
    readLiteral (ofPython (Py.unicodeEscape n) ++ t) =
      (readLiteral t).map fun r => (UInt16.ofNat n :: r.1, r.2) := by
  have hdigits : ofPython (Py.unicodeEscape n) ++ t =
      92 :: 117 :: UInt16.ofNat (Py.hexDigit (n / 4096 % 16)).val ::
        UInt16.ofNat (Py.hexDigit (n / 256 % 16)).val ::
        UInt16.ofNat (Py.hexDigit (n / 16 % 16)).val ::
        UInt16.ofNat (Py.hexDigit (n % 16)).val :: t := by
    have hhex : ofPython (Py.hex4 n) = (Py.hex4 n).map fun c => UInt16.ofNat c.val := by
      rw [ofPython, List.map_eq_flatMap]
      refine List.flatMap_congr fun c hc => ?_
      have hlt : c.val < 0x80 := (Py.plain_append.mp (Py.unicodeEscape_plain n)).2.ascii c hc
      rw [if_pos (by omega)]
    rw [Py.unicodeEscape, ofPython_append, hhex]
    rfl
  rw [hdigits]
  simp only [readLiteral, ↓reduceIte]
  rw [if_neg (by decide)]
  have hvalue : hexValue (UInt16.ofNat (Py.hexDigit (n / 4096 % 16)).val) * 4096 +
      hexValue (UInt16.ofNat (Py.hexDigit (n / 256 % 16)).val) * 256 +
      hexValue (UInt16.ofNat (Py.hexDigit (n / 16 % 16)).val) * 16 +
      hexValue (UInt16.ofNat (Py.hexDigit (n % 16)).val) = n := by
    rw [hexValue_hexDigit (Nat.mod_lt _ (by decide)), hexValue_hexDigit (Nat.mod_lt _ (by decide)),
      hexValue_hexDigit (Nat.mod_lt _ (by decide)), hexValue_hexDigit (Nat.mod_lt _ (by decide))]
    omega
  rw [hvalue]

/-- An escape with a letter. -/
theorem readLiteral_letter {e u : UInt16} (he : e ≠ 117) (hu : unescaped e = u) (t : Str) :
    readLiteral (92 :: e :: t) = (readLiteral t).map fun r => (u :: r.1, r.2) := by
  rw [readLiteral.eq_def]
  simp only [he, ↓reduceIte, hu]
  rw [if_neg (by decide)]

/-- A character that stands for itself. -/
theorem readLiteral_plain {c : UInt16} (hquote : c ≠ 34) (hslash : c ≠ 92) (t : Str) :
    readLiteral (c :: t) = (readLiteral t).map fun r => (c :: r.1, r.2) := by
  rw [readLiteral.eq_def]
  simp only [hquote, hslash, ↓reduceIte]

/-- Reading undoes the escape of one code point. -/
theorem readLiteral_escape (c : Py.CodePoint) (t : Str) :
    readLiteral (ofPython (Py.escape c) ++ t) =
      (readLiteral t).map fun r => (ofPython [c] ++ r.1, r.2) := by
  have hunits : c.val < 0x10000 → ofPython [c] = [UInt16.ofNat c.val] := by
    intro hlt
    simp [ofPython, hlt]
  unfold Py.escape
  split
  · rename_i h
    obtain rfl : c = 0x5C := Fin.ext h
    exact readLiteral_letter (by decide) (by decide) t
  split
  · rename_i h
    obtain rfl : c = 0x22 := Fin.ext h
    exact readLiteral_letter (by decide) (by decide) t
  split
  · rename_i h
    obtain rfl : c = 0x08 := Fin.ext h
    exact readLiteral_letter (by decide) (by decide) t
  split
  · rename_i h
    obtain rfl : c = 0x0C := Fin.ext h
    exact readLiteral_letter (by decide) (by decide) t
  split
  · rename_i h
    obtain rfl : c = 0x0A := Fin.ext h
    exact readLiteral_letter (by decide) (by decide) t
  split
  · rename_i h
    obtain rfl : c = 0x0D := Fin.ext h
    exact readLiteral_letter (by decide) (by decide) t
  split
  · rename_i h
    obtain rfl : c = 0x09 := Fin.ext h
    exact readLiteral_letter (by decide) (by decide) t
  split
  · -- a printable character other than the quote and the backslash
    rename_i hslash hquote _ _ _ _ _ hplain
    have hval : (UInt16.ofNat c.val).toNat = c.val := by
      rw [UInt16.toNat_ofNat']
      omega
    rw [hunits (by omega), List.singleton_append]
    refine readLiteral_plain (fun he => hquote ?_) (fun he => hslash ?_) t
    · rw [← hval, he]
      rfl
    · rw [← hval, he]
      rfl
  split
  · rename_i hlow
    rw [hunits hlow, readLiteral_unicodeEscape hlow]
    rfl
  · -- a pair of surrogates
    rename_i hhigh
    have hc := c.isLt
    rw [ofPython_append, List.append_assoc, readLiteral_unicodeEscape (by omega),
      readLiteral_unicodeEscape (by omega), Option.map_map]
    simp [ofPython, hhigh, Function.comp_def]

/-- Reading undoes `json.dumps` on strings. -/
theorem readLiteral_dumps (s : Py.Str) (t : Str) :
    readLiteral (ofPython (s.flatMap Py.escape) ++ 34 :: t) = some (ofPython s, t) := by
  induction s with
  | nil =>
    show readLiteral (34 :: t) = some ([], t)
    rw [readLiteral.eq_def]
    simp only [↓reduceIte]
  | cons c s ih =>
    rw [List.flatMap_cons, ofPython_append, List.append_assoc, readLiteral_escape, ih,
      Option.map_some, ← ofPython_append, List.singleton_append]

end Js

namespace Sample

open Js

instance floatText : Py.FloatText := ⟨fun _ => []⟩

/-- What stands before the text of a delta in its chunk. -/
def deltaHead : Str :=
  ofString ("\x7b\"id\":\"chatcmpl-local\",\"object\":\"chat.completion.chunk\"," ++
    "\"choices\":[\x7b\"index\":0,\"delta\":\x7b\"content\":\"")

/-- What stands after it. -/
def deltaTail : Str :=
  ofString "\x7d,\"finish_reason\":null\x7d]\x7d"

/-- The value of a chunk with a text. -/
def deltaValue (content : Str) : Json :=
  .obj
    [(ofString "id", .str (ofString "chatcmpl-local")),
      (ofString "object", .str (ofString "chat.completion.chunk")),
      (ofString "choices", .arr [.obj
        [(ofString "index", .number (.finite 0)),
          (ofString "delta", .obj [(ofString "content", .str content)]),
          (ofString "finish_reason", .null)]])]

/-- The last chunk of a reply. -/
def stopChunk : Py.Json :=
  SsePresenter.chunkPayload none (some (Py.ofString "stop"))

/-- `JSON.parse` on the chunks of a reply. -/
def parseChunk (text : Str) : Option Json :=
  if deltaHead.isPrefixOf text then
    match readLiteral (text.drop deltaHead.length) with
    | some (content, rest) => if rest = deltaTail then some (deltaValue content) else none
    | none => none
  else if text = ofPython (Py.dumps stopChunk) then some (ofJson stopChunk) else none

/-- A decoder that reads every byte as a character, and the reader of chunks. -/
def platform : Platform where
  State := Unit
  newDecoder := ()
  decode _ bytes := (bytes.map (·.toUInt16), ())
  parse := parseChunk

theorem platform_passesAscii : platform.PassesAscii := by
  intro chunks ascii rest hchunks _
  refine ⟨rest.map (·.toUInt16), ?_⟩
  rw [← List.map_append, ← hchunks]
  clear hchunks
  induction chunks with
  | nil => rfl
  | cons value more ih =>
    rw [Platform.decodeAll, List.flatten_cons, List.map_append]
    exact congrArg _ ih

set_option maxRecDepth 2000 in
theorem dumps_delta (content : Py.Str) :
    ofPython (Py.dumps (SsePresenter.chunkPayload (some content) none)) =
      deltaHead ++ (ofPython (content.flatMap Py.escape) ++ 34 :: deltaTail) := by
  have hdumps : Py.dumps (SsePresenter.chunkPayload (some content) none) =
      Py.ofString ("\x7b\"id\":\"chatcmpl-local\",\"object\":\"chat.completion.chunk\"," ++
        "\"choices\":[\x7b\"index\":0,\"delta\":\x7b\"content\":\"") ++
        (content.flatMap Py.escape ++
          Py.ofString "\"\x7d,\"finish_reason\":null\x7d]\x7d") := by
    simp only [SsePresenter.chunkPayload, Py.dumps, Py.dumpsFields, Py.dumpsItems,
      Py.joinWithCommas, Py.dumpsStr, Option.elim, List.append_assoc]
    rfl
  rw [hdumps, ofPython_append, ofPython_append]
  rfl

theorem platform_invertsDumps : platform.InvertsDumps := by
  intro deltas chunk hchunk
  show parseChunk _ = _
  rcases List.mem_append.mp hchunk with hchunk | hchunk
  · obtain ⟨delta, -, rfl⟩ := List.mem_map.mp hchunk
    have hprefix : deltaHead.isPrefixOf (deltaHead ++
        (ofPython (delta.content.flatMap Py.escape) ++ 34 :: deltaTail)) = true := by
      rw [List.isPrefixOf_iff_prefix]
      exact List.prefix_append _ _
    rw [dumps_delta, parseChunk, if_pos hprefix, List.drop_left, readLiteral_dumps]
    simp only [↓reduceIte]
    rfl
  · have hother : ¬ deltaHead.isPrefixOf (ofPython (Py.dumps stopChunk)) = true := by
      decide +kernel
    rw [List.mem_singleton.mp hchunk]
    exact (if_neg hother).trans (if_pos rfl)

/-- Deltas with an empty text and with one that looks like the end of the stream. -/
def deltas : List ChatDelta :=
  [⟨Py.ofString "Hel"⟩, ⟨[]⟩, ⟨Py.ofString "lo\n\ndata: [DONE]\n\n"⟩]

end Sample

/-- A reply that comes in chunks of one byte, with more bytes after its end. -/
theorem chat_text_exact_bytes :
    ∃ body, SsePresenter.responseBody Sample.deltas = some body ∧
      ChatRoute.execute Sample.platform "block-1" ((body ++ [100, 97, 116, 97]).map fun b => [b]) =
        [.textStart "block-1", .textDelta "block-1" (Js.ofString "Hel"),
          .textDelta "block-1" (Js.ofString "lo\n\ndata: [DONE]\n\n"), .textEnd "block-1"] := by
  obtain ⟨body, hbody, hparts⟩ := chat_text_exact Sample.platform_passesAscii
    Sample.platform_invertsDumps "block-1" Sample.deltas
  refine ⟨body, hbody, ?_⟩
  rw [hparts _ [100, 97, 116, 97] (by simp [List.flatten_eq_flatMap, List.flatMap_map])]
  rfl

end EnjoyThings
