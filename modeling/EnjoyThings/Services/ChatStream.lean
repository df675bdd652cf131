import EnjoyThings.ForStd.Framing
import EnjoyThings.Services.PyStd

/-!
# The chat stream

`ChatService.stream_reply` (`app/llm/service.py`) asks the model port for a reply, again
after a timeout. `stream_openai_chat_sse` (`app/llm/sse_presenter.py`) writes the deltas
as server-sent events, and the chat route of the web application
(`web/app/api/chat/route.ts`) reads them back from the chunks of the response body.

`json.dumps` is written out for what the presenter gives it, with the escapes of
`ensure_ascii`. Of the browser's library `JSON.parse` and `TextDecoder` are
parameters (`Js.Platform`). A JavaScript string is a list of UTF-16 code units.
-/

namespace EnjoyThings

namespace Py

/-! ## `json.dumps` -/

/-- The text of a `float`. -/
class FloatText where
  repr : Float → Str

/-- A digit of `'{:04x}'.format`. -/
def hexDigit (n : Nat) : CodePoint :=
  if n < 10 then Fin.ofNat _ (48 + n) else Fin.ofNat _ (87 + n)

def hex4 (n : Nat) : Str :=
  [hexDigit (n / 4096 % 16), hexDigit (n / 256 % 16), hexDigit (n / 16 % 16), hexDigit (n % 16)]

def unicodeEscape (n : Nat) : Str :=
  ofString "\\u" ++ hex4 n

/-- `encode_basestring_ascii` of one code point: those above the basic plane become a pair of
    surrogates. -/
def escape (c : CodePoint) : Str :=
  if c.val = 0x5C then ofString "\\\\"
  else if c.val = 0x22 then ofString "\\\""
  else if c.val = 0x08 then ofString "\\b"
  else if c.val = 0x0C then ofString "\\f"
  else if c.val = 0x0A then ofString "\\n"
  else if c.val = 0x0D then ofString "\\r"
  else if c.val = 0x09 then ofString "\\t"
  else if 0x20 ≤ c.val ∧ c.val ≤ 0x7E then [c]
  else if c.val < 0x10000 then unicodeEscape c.val
  else unicodeEscape (0xD800 + (c.val - 0x10000) / 1024) ++
    unicodeEscape (0xDC00 + (c.val - 0x10000) % 1024)

def dumpsStr (s : Str) : Str :=
  ofString "\"" ++ s.flatMap escape ++ ofString "\""

/-- The members of an array or object, with commas in between. -/
def joinWithCommas : List Str → Str
  | [] => []
  | [s] => s
  | s :: rest => s ++ ofString "," ++ joinWithCommas rest

mutual

/-- `json.dumps(value, separators=(',', ':'))`. -/
def dumps [FloatText] : Json → Str
  | .null => ofString "null"
  | .bool b => ofString (if b then "true" else "false")
  | .int n => ofString (toString n)
  | .float x => FloatText.repr x
  | .str s => dumpsStr s
  | .arr items => ofString "[" ++ joinWithCommas (dumpsItems items) ++ ofString "]"
  | .obj fields => ofString "\x7b" ++ joinWithCommas (dumpsFields fields) ++ ofString "\x7d"

def dumpsItems [FloatText] : List Json → List Str
  | [] => []
  | item :: rest => dumps item :: dumpsItems rest

def dumpsFields [FloatText] : List (Str × Json) → List Str
  | [] => []
  | (key, value) :: rest => (dumpsStr key ++ ofString ":" ++ dumps value) :: dumpsFields rest

end

/-! ## `str.encode` -/

/-- The UTF-8 form of a code point. -/
def utf8 (c : CodePoint) : List UInt8 :=
  if c.val < 0x80 then [UInt8.ofNat c.val]
  else if c.val < 0x800 then
    [UInt8.ofNat (0xC0 + c.val / 64), UInt8.ofNat (0x80 + c.val % 64)]
  else if c.val < 0x10000 then
    [UInt8.ofNat (0xE0 + c.val / 4096), UInt8.ofNat (0x80 + c.val / 64 % 64),
      UInt8.ofNat (0x80 + c.val % 64)]
  else
    [UInt8.ofNat (0xF0 + c.val / 262144), UInt8.ofNat (0x80 + c.val / 4096 % 64),
      UInt8.ofNat (0x80 + c.val / 64 % 64), UInt8.ofNat (0x80 + c.val % 64)]

/-- `str.encode('utf-8')`, which fails on a surrogate. -/
def encode (s : Str) : Option (List UInt8) :=
  if encodes s then some (s.flatMap utf8) else none

end Py

/-! ## The service -/

structure ChatMessage where
  role : String
  content : Py.Str
  deriving DecidableEq

structure ChatRequest where
  messages : List ChatMessage

structure ChatDelta where
  content : Py.Str

/-- The exceptions of `app/llm/errors.py`, and those of other classes. -/
inductive ProviderError
  | timeout (message : String)
  | connection (message : String)
  | httpStatus (message : String)
  | malformedStream (message : String)
  | other (message : String)
  deriving DecidableEq

/-- What an iterator over deltas does: what it yields, and what it raises after that, if
    anything. -/
structure DeltaStream where
  deltas : List ChatDelta
  raised : Option ProviderError

/-- What `stream_chat` of a port does when it is called for the `n`-th time. -/
abbrev LLMPort : Type := ChatRequest → Nat → DeltaStream

namespace ChatService

/-- What `stream_reply` does, and how often it has called the port for that. -/
structure Reply extends DeltaStream where
  attempts : Nat

def maxTimeoutAttempts : Nat := 3

/-- The loop of `stream_reply` from an attempt on, with so many left in the range. -/
def streamFrom (attempt : Nat → DeltaStream) (n : Nat) : Nat → Reply
  | 0 => { deltas := [], raised := none, attempts := 0 }
  | left + 1 =>
    match (attempt n).raised with
    | some (.timeout _) =>
      if n = maxTimeoutAttempts then
        { deltas := (attempt n).deltas
          raised := some (.timeout "Provider timed out after 3 attempts"), attempts := 1 }
      else
        let rest := streamFrom attempt (n + 1) left
        -- what the attempt has yielded is with the consumer already
        { deltas := (attempt n).deltas ++ rest.deltas
          raised := rest.raised, attempts := rest.attempts + 1 }
    | raised => { deltas := (attempt n).deltas, raised := raised, attempts := 1 }

def request (message : Py.Str) : ChatRequest :=
  { messages := [{ role := "user", content := message }] }

/-- `stream_reply`. -/
def streamReply (port : LLMPort) (message : Py.Str) : Reply :=
  streamFrom (port (request message)) 1 maxTimeoutAttempts

end ChatService

/-! ## The presenter -/

namespace SsePresenter

open Py

/-- `_chunk_payload`. -/
def chunkPayload (content finishReason : Option Str) : Json :=
  .obj
    [(ofString "id", .str (ofString "chatcmpl-local")),
      (ofString "object", .str (ofString "chat.completion.chunk")),
      (ofString "choices", .arr [.obj
        [(ofString "index", .int 0),
          (ofString "delta", .obj (content.elim [] fun text => [(ofString "content", .str text)])),
          (ofString "finish_reason", finishReason.elim .null .str)]])]

/-- The chunks that are sent for the deltas of a reply. -/
def chunks (deltas : List ChatDelta) : List Json :=
  deltas.map (fun delta => chunkPayload (some delta.content) none) ++
    [chunkPayload none (some (ofString "stop"))]

/-- One event. -/
def dataEvent (data : Str) : Str :=
  ofString "data: " ++ data ++ ofString "\n\n"

/-- `stream_openai_chat_sse`. -/
def streamOpenaiChatSse [FloatText] (deltas : List ChatDelta) : List Str :=
  (chunks deltas).map (fun chunk => dataEvent (dumps chunk)) ++ [dataEvent (ofString "[DONE]")]

/-- The body of the response: every text of the stream is encoded as it comes. -/
def responseBody [FloatText] (deltas : List ChatDelta) : Option (List UInt8) :=
  ((streamOpenaiChatSse deltas).mapM encode).map List.flatten

end SsePresenter

/-! ## JavaScript -/

namespace Js

abbrev Str : Type := List UInt16

/-- The code units of a Python string. -/
def ofPython (s : Py.Str) : Str :=
  s.flatMap fun c =>
    if c.val < 0x10000 then [UInt16.ofNat c.val]
    else [UInt16.ofNat (0xD800 + (c.val - 0x10000) / 1024),
      UInt16.ofNat (0xDC00 + (c.val - 0x10000) % 1024)]

def ofString (s : String) : Str :=
  ofPython (Py.ofString s)

/-- White space and line terminators. -/
def isSpace (c : UInt16) : Bool :=
  let n := c.toNat
  (9 ≤ n && n ≤ 13) || n = 32 || n = 0xA0 || n = 0x1680 || (0x2000 ≤ n && n ≤ 0x200A) ||
    n = 0x2028 || n = 0x2029 || n = 0x202F || n = 0x205F || n = 0x3000 || n = 0xFEFF

/-- `String.prototype.trim`. -/
def trim (s : Str) : Str :=
  ((s.dropWhile isSpace).reverse.dropWhile isSpace).reverse

/-- What `JSON.parse` returns. -/
inductive Json
  | null
  | bool (b : Bool)
  | number (x : Py.Float)
  | str (s : Str)
  | arr (items : List Json)
  | obj (fields : List (Str × Json))

mutual

/-- The value a Python document stands for. -/
def ofJson : Py.Json → Json
  | .null => .null
  | .bool b => .bool b
  | .int n => .number (.finite n)
  | .float x => .number x
  | .str s => .str (ofPython s)
  | .arr items => .arr (ofItems items)
  | .obj fields => .obj (ofFields fields)

def ofItems : List Py.Json → List Json
  | [] => []
  | item :: rest => ofJson item :: ofItems rest

def ofFields : List (Py.Str × Py.Json) → List (Str × Json)
  | [] => []
  | (key, value) :: rest => (ofPython key, ofJson value) :: ofFields rest

end

/-- A property of a value that is not `null`, `none` if it is undefined. The names are those the
    route asks for. -/
def Json.property (key : Str) : Json → Option Json
  | .obj fields => fields.lookup key
  | .arr items => if key = ofString "0" then items.head? else none
  | .str s => if key = ofString "0" then s.head?.map fun c => .str [c] else none
  | _ => none

/-- `value?.key`. -/
def optionalProperty (value : Option Json) (key : Str) : Option Json :=
  match value with
  | none | some .null => none
  | some v => v.property key

/-- The browser's library: a `TextDecoder` in streaming mode, with what it keeps between the
    chunks, and `JSON.parse`, which fails on a text that is not a document. -/
structure Platform where
  State : Type
  newDecoder : State
  decode : State → List UInt8 → Str × State
  parse : Str → Option Json

/-- All that a decoder makes of some chunks. -/
def Platform.decodeAll (js : Platform) : js.State → List (List UInt8) → Str
  | _, [] => []
  | state, value :: rest =>
    (js.decode state value).1 ++ js.decodeAll (js.decode state value).2 rest

end Js

/-! ## The route -/

namespace ChatRoute

open Js

/-- A part of the message stream. -/
inductive Part
  | textStart (id : String)
  | textDelta (id : String) (delta : Str)
  | textEnd (id : String)
  | error (errorText : String)
  deriving DecidableEq

/-- The event of a raw one: its `data:` lines, if it has any. -/
def dataOf (rawEvent : Str) : List Str :=
  let dataLines := (((rawEvent.splitOn 10).map trim).filter
    fun line => (ofString "data:").isPrefixOf line).map fun line => trim (line.drop 5)
  if dataLines.length > 0 then [List.intercalate (ofString "\n") dataLines] else []

/-- The inner loop of `sseEvents`: the events that are complete, and the rest of the buffer. -/
def takeEvents (buffer : Str) : List Str × Str :=
  let (rawEvents, rest) := Framing.frames (ofString "\n\n") buffer
  (rawEvents.flatMap dataOf, rest)

/-- The outer loop of `sseEvents`: the events, and the buffer when the stream ends. -/
def readChunks (js : Platform) : js.State → Str → List (List UInt8) → List Str × Str
  | _, buffer, [] => ([], buffer)
  | state, buffer, value :: rest =>
    let (text, state) := js.decode state value
    let (events, buffer) := takeEvents (buffer ++ text)
    let (more, last) := readChunks js state buffer rest
    (events ++ more, last)

/-- `sseEvents`. -/
def sseEvents (js : Platform) (chunks : List (List UInt8)) : List Str :=
  let (events, buffer) := readChunks js js.newDecoder [] chunks
  events ++ if (trim buffer).length > 0 then dataOf buffer else []

/-- `parsed.choices?.[0]?.delta?.content`, if it is a string. `null` has no properties, and asking
    for one throws. -/
def contentOf : Json → Except Unit (Option Str)
  | .null => .error ()
  | parsed =>
    let choices := parsed.property (ofString "choices")
    let choice := optionalProperty choices (ofString "0")
    let delta := optionalProperty choice (ofString "delta")
    match optionalProperty delta (ofString "content") with
    | some (.str content) => .ok (some content)
    | _ => .ok none

/-- The loop over the events. An event that cannot be read ends the stream with an error. -/
def writeEvents (js : Platform) (blockId : String) : List Str → List Part
  | [] => [.textEnd blockId]
  | data :: rest =>
    if data = ofString "[DONE]" then [.textEnd blockId]
    else
      match js.parse data with
      | none => [.error "Streaming failed"]
      | some parsed =>
        match contentOf parsed with
        | .error _ => [.error "Streaming failed"]
        | .ok none => writeEvents js blockId rest
        | .ok (some content) =>
          if content.length > 0 then .textDelta blockId content :: writeEvents js blockId rest
          else writeEvents js blockId rest

/-- `execute`: what the route writes for the chunks of the response body. -/
def execute (js : Platform) (blockId : String) (chunks : List (List UInt8)) : List Part :=
  .textStart blockId :: writeEvents js blockId (sseEvents js chunks)

end ChatRoute

end EnjoyThings
