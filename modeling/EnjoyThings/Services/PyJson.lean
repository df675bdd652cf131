import Mathlib.Data.List.Sort
import EnjoyThings.Services.ChatStream
import EnjoyThings.Services.FraudVerdicts
import EnjoyThings.Services.Notification

/-!
# JSON from bytes and to text, as CPython does it

`json.loads` on bytes: which encoding they are taken for, and what the decoder makes of
them with `surrogatepass`. And the text that `json.dumps(value, sort_keys=True)` writes,
which is ASCII. The decoder of texts stays the parameter `Py.TextLib.loads`.
-/

namespace EnjoyThings

namespace Py

/-! ## Bytes -/

inductive Encoding
  | utf8
  | utf8Sig
  | utf16 (bigEndian bom : Bool)
  | utf32 (bigEndian bom : Bool)
  deriving DecidableEq

/-- `detect_encoding`. A byte order mark decides; else the zeros among the first four bytes. -/
def detectEncoding (b : List UInt8) : Encoding :=
  if [0, 0, 0xFE, 0xFF].isPrefixOf b then .utf32 true true
  else if [0xFF, 0xFE, 0, 0].isPrefixOf b then .utf32 false true
  else if [0xFE, 0xFF].isPrefixOf b then .utf16 true true
  else if [0xFF, 0xFE].isPrefixOf b then .utf16 false true
  else if [0xEF, 0xBB, 0xBF].isPrefixOf b then .utf8Sig
  else
    match b with
    | b₀ :: b₁ :: b₂ :: b₃ :: _ =>
      if b₀ = 0 then if b₁ ≠ 0 then .utf16 true false else .utf32 true false
      else if b₁ = 0 then
        if b₂ ≠ 0 ∨ b₃ ≠ 0 then .utf16 false false else .utf32 false false
      else .utf8
    | [b₀, b₁] =>
      if b₀ = 0 then .utf16 true false else if b₁ = 0 then .utf16 false false else .utf8
    | _ => .utf8

/-- A number as a code point, if it is one. -/
def codePoint? (n : Nat) : Option CodePoint :=
  if h : n < 0x110000 then some ⟨n, h⟩ else none

/-- UTF-8 with surrogates, from the middle of a letter: how many bytes it still has, its value so
    far, and the least value a letter of its length may have. -/
def decodeUtf8From : Nat → Nat → Nat → List UInt8 → Option Str
  | 0, _, _, [] => some []
  | _ + 1, _, _, [] => none
  | 0, _, _, b :: bs =>
    let n := b.toNat
    if n < 0x80 then do some ((← codePoint? n) :: (← decodeUtf8From 0 0 0 bs))
    else if n < 0xC0 then none
    else if n < 0xE0 then decodeUtf8From 1 (n % 32) 0x80 bs
    else if n < 0xF0 then decodeUtf8From 2 (n % 16) 0x800 bs
    else if n < 0xF8 then decodeUtf8From 3 (n % 8) 0x10000 bs
    else none
  | owed + 1, value, least, b :: bs =>
    let n := value * 64 + b.toNat % 64
    if b.toNat / 64 ≠ 2 then none
    else if owed ≠ 0 then decodeUtf8From owed n least bs
    else if n < least then none
    else do some ((← codePoint? n) :: (← decodeUtf8From 0 0 0 bs))

/-- Two surrogates that form a pair are one letter, and others stay. -/
def joinSurrogates : List CodePoint → Str
  | c :: d :: rest =>
    if isHighSurrogate c && isLowSurrogate d then
      Fin.ofNat 0x110000 (0x10000 + (c.val - 0xD800) * 0x400 + (d.val - 0xDC00)) ::
        joinSurrogates rest
    else c :: joinSurrogates (d :: rest)
  | cs => cs

def decodeUtf16 (bigEndian : Bool) : List UInt8 → Option (List CodePoint)
  | [] => some []
  | [_] => none
  | a :: b :: bs => do
    let unit := if bigEndian then a.toNat * 256 + b.toNat else b.toNat * 256 + a.toNat
    some ((← codePoint? unit) :: (← decodeUtf16 bigEndian bs))

def decodeUtf32 (bigEndian : Bool) : List UInt8 → Option Str
  | [] => some []
  | a :: b :: c :: d :: bs => do
    let bytes := if bigEndian then [a, b, c, d] else [d, c, b, a]
    let unit := bytes.foldl (fun n byte => n * 256 + byte.toNat) 0
    some ((← codePoint? unit) :: (← decodeUtf32 bigEndian bs))
  | _ => none

/-- `bytes.decode(encoding, 'surrogatepass')`, `none` for a `UnicodeDecodeError`. A byte order
    mark is not part of the text. -/
def decodeBytes : Encoding → List UInt8 → Option Str
  | .utf8, b => decodeUtf8From 0 0 0 b
  | .utf8Sig, b => decodeUtf8From 0 0 0 (b.drop 3)
  | .utf16 bigEndian bom, b =>
    (decodeUtf16 bigEndian (if bom then b.drop 2 else b)).map joinSurrogates
  | .utf32 bigEndian bom, b => decodeUtf32 bigEndian (if bom then b.drop 4 else b)

/-- `json.loads` of bytes. A `UnicodeDecodeError` is no `JSONDecodeError`. -/
def loadsBytes [TextLib] (b : List UInt8) : Except Exn Json :=
  match decodeBytes (detectEncoding b) b with
  | none => .error .other
  | some text => TextLib.loads text

example : decodeBytes (detectEncoding [0xC3, 0xA9]) [0xC3, 0xA9] = some [0xE9] := by
  decide +kernel

example : decodeBytes (detectEncoding [0xFF, 0xFE, 0x3D, 0xD8, 0x00, 0xDE])
    [0xFF, 0xFE, 0x3D, 0xD8, 0x00, 0xDE] = some [0x1F600] := by decide +kernel

/-! ## Texts -/

/-- The fields in the order of their names. -/
def sortFields (fields : List (Str × Str)) : List (Str × Str) :=
  fields.insertionSort fun a b => ¬ b.1 < a.1

mutual

/-- The text of a document with sorted keys, given the texts of floating-point numbers. -/
def Json.text (floatText : Float → Str) : Json → Str
  | .null => ofString "null"
  | .bool b => ofString (if b then "true" else "false")
  | .int n => ofString (Go.decimal n)
  | .float x => floatText x
  | .str s => dumpsStr s
  | .arr items => [ofChar '['] ++ (ofString ", ").intercalate (Json.texts floatText items) ++
      [ofChar ']']
  | .obj fields => [ofChar '\x7b'] ++ (ofString ", ").intercalate
      ((sortFields (Json.fieldTexts floatText fields)).map fun field =>
        dumpsStr field.1 ++ ofString ": " ++ field.2) ++ [ofChar '\x7d']

def Json.texts (floatText : Float → Str) : List Json → List Str
  | [] => []
  | item :: items => Json.text floatText item :: Json.texts floatText items

def Json.fieldTexts (floatText : Float → Str) : List (Str × Json) → List (Str × Str)
  | [] => []
  | (key, value) :: fields => (key, Json.text floatText value) :: Json.fieldTexts floatText fields

end

end Py

end EnjoyThings
