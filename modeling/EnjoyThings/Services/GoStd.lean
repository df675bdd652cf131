import Mathlib.Data.List.Basic

/-!
# The parts of the Go library the services use

`strings.TrimSpace`, `strings.ToUpper` and `strings.HasPrefix` on texts,
`time.Time` with its text forms, and the UUID package. Texts are taken apart with `String.toList`
so that every definition here computes.

The UUID package is third-party code, so it is a parameter: `UuidLib U` gives
parsing, the canonical text form, the nil UUID and the law that the canonical
text parses to the UUID it was made from. `CanonicalUuid` is one implementation,
which accepts the four spellings the package documents.
-/

namespace EnjoyThings

/-- `time.Time` in nanoseconds since Go's zero time, which is `0`. -/
abbrev Time : Type := Nat

namespace Go

/-- `unicode.IsSpace`. -/
def isSpace (c : Char) : Bool :=
  let n := c.toNat
  (9 ≤ n && n ≤ 13) || n = 32 || n = 0x85 || n = 0xA0 || n = 0x1680 ||
    (0x2000 ≤ n && n ≤ 0x200A) || n = 0x2028 || n = 0x2029 || n = 0x202F || n = 0x205F ||
    n = 0x3000

/-- `strings.TrimSpace`. -/
def trimSpace (s : String) : String :=
  String.ofList ((s.toList.dropWhile isSpace).reverse.dropWhile isSpace).reverse

/-- `unicode.ToUpper`. The two letters outside ASCII with an upper case in ASCII are
    the long s and the dotless i; the others are left alone, as nothing compares them. -/
def toUpperChar (c : Char) : Char :=
  if c.toNat = 0x17F then 'S' else if c.toNat = 0x131 then 'I' else c.toUpper

/-- `strings.ToUpper`. -/
def toUpper (s : String) : String :=
  String.ofList (s.toList.map toUpperChar)

/-- `strings.HasPrefix(s, start)`. -/
def hasPrefix (s start : String) : Bool :=
  start.toList.isPrefixOf s.toList

/-- A number in decimal with leading zeros up to the given width. -/
def padded (width n : Nat) : String :=
  let digits := Nat.repr n
  String.ofList (List.replicate (width - digits.toList.length) '0') ++ digits

/-- `.` and the decimals of `n / 10 ^ width`, without trailing zeros; nothing for zero. -/
def fraction (width n : Nat) : String :=
  let digits := ((padded width n).toList.reverse.dropWhile (· = '0')).reverse
  if digits = [] then "" else "." ++ String.ofList digits

/-- Year, month and day of a day counted from 1 January of the year 1. -/
def civil (day : Nat) : Nat × Nat × Nat :=
  -- eras of 400 years that start on 1 March
  let z := day + 306
  let doe := z % 146097
  let yoe := (doe - doe / 1460 + doe / 36524 - doe / 146096) / 365
  let doy := doe - (365 * yoe + yoe / 4 - yoe / 100)
  let mp := (5 * doy + 2) / 153
  let month := if mp < 10 then mp + 3 else mp - 9
  let year := yoe + z / 146097 * 400
  (if month ≤ 2 then year + 1 else year, month, doy - (153 * mp + 2) / 5 + 1)

/-- `t.UTC().Format(time.RFC3339Nano)`. -/
def formatRFC3339Nano (t : Time) : String :=
  let seconds := t / 1000000000
  let (year, month, day) := civil (seconds / 86400)
  padded 4 year ++ "-" ++ padded 2 month ++ "-" ++ padded 2 day ++ "T" ++
    padded 2 (seconds / 3600 % 24) ++ ":" ++ padded 2 (seconds / 60 % 60) ++ ":" ++
    padded 2 (seconds % 60) ++ fraction 9 (t % 1000000000) ++ "Z"

example : formatRFC3339Nano (719162 * 86400 * 1000000000 + 1500000000) =
    "1970-01-01T00:00:01.5Z" := by decide +kernel

/-- `time.Duration.String` of a positive duration in nanoseconds. -/
def formatDuration (ns : Nat) : String :=
  if ns < 1000 then Nat.repr ns ++ "ns"
  else if ns < 1000000 then Nat.repr (ns / 1000) ++ fraction 3 (ns % 1000) ++ "µs"
  else if ns < 1000000000 then Nat.repr (ns / 1000000) ++ fraction 6 (ns % 1000000) ++ "ms"
  else
    let seconds := ns / 1000000000
    let tail := Nat.repr (seconds % 60) ++ fraction 9 (ns % 1000000000) ++ "s"
    if seconds < 60 then tail
    else if seconds < 3600 then Nat.repr (seconds / 60) ++ "m" ++ tail
    else Nat.repr (seconds / 3600) ++ "h" ++ Nat.repr (seconds / 60 % 60) ++ "m" ++ tail

example : formatDuration (72 * 3600 * 1000000000) = "72h0m0s" := by decide +kernel

end Go

/-- The UUID package, over its type `U` of UUIDs. -/
class UuidLib (U : Type) where
  decEq : DecidableEq U
  /-- `uuid.Parse`, `none` for an error. -/
  parse : String → Option U
  /-- `UUID.String`, the canonical lower-case text. -/
  text : U → String
  /-- `uuid.Nil`. -/
  nil : U
  parse_text : ∀ u, parse (text u) = some u

instance (priority := low) {U : Type} [UuidLib U] : DecidableEq U := UuidLib.decEq

export UuidLib (parse text)

/-- The text of a UUID determines it. -/
theorem text_injective {U : Type} [UuidLib U] {u v : U} (h : text u = text v) : u = v := by
  have hparse := UuidLib.parse_text u
  rw [h, UuidLib.parse_text] at hparse
  exact (Option.some.inj hparse).symm

/-- A payment ID in canonical form: the text of the UUID it parses to. -/
def Canonical (U : Type) [UuidLib U] (s : String) : Prop :=
  ∃ u : U, s = text u

/-- A canonical text is determined by the UUID it parses to. -/
theorem Canonical.eq_of_parse {U : Type} [UuidLib U] {s t : String} {u : U}
    (hs : Canonical U s) (ht : Canonical U t) (h : parse s = some u) (h' : parse t = some u) :
    s = t := by
  obtain ⟨v, rfl⟩ := hs
  obtain ⟨v', rfl⟩ := ht
  rw [UuidLib.parse_text] at h h'
  rw [Option.some.inj h, Option.some.inj h']

/-! ## An implementation -/

namespace CanonicalUuid

/-- Lower case of a hexadecimal digit. -/
def lower (c : Char) : Char :=
  if 'A' ≤ c ∧ c ≤ 'F' then Char.ofNat (c.toNat + 32) else c

def isLowerHex (c : Char) : Bool :=
  ('0' ≤ c && c ≤ '9') || ('a' ≤ c && c ≤ 'f')

/-- The letters are hexadecimal digits, with hyphens where the flags say so. -/
def fits : List Bool → List Char → Bool
  | [], [] => true
  | true :: hyphens, c :: cs => c = '-' && fits hyphens cs
  | false :: hyphens, c :: cs => isLowerHex c && fits hyphens cs
  | _, _ => false

/-- Where the hyphens of `xxxxxxxx-xxxx-xxxx-xxxx-xxxxxxxxxxxx` stand. -/
def hyphens : List Bool :=
  List.replicate 8 false ++ [true] ++ List.replicate 4 false ++ [true] ++
    List.replicate 4 false ++ [true] ++ List.replicate 4 false ++ [true] ++ List.replicate 12 false

/-- A lower-case text of the canonical shape. -/
def isCanonical (cs : List Char) : Bool :=
  fits hyphens cs

end CanonicalUuid

/-- A UUID, by its canonical text. -/
def CanonicalUuid : Type :=
  { cs : List Char // CanonicalUuid.isCanonical cs = true }

namespace CanonicalUuid

/-- The canonical shape of a text in one of the accepted spellings: plain, as a URN,
    in braces or without hyphens. -/
def plain (cs : List Char) : List Char :=
  if cs.any (fun c => 128 ≤ c.toNat) then []
  else
    match cs.length with
    | 36 => cs.map lower
    | 45 =>
      if (cs.take 9).map Char.toLower = "urn:uuid:".toList then (cs.drop 9).map lower else []
    | 38 => ((cs.drop 1).take 36).map lower
    | 32 =>
      let ds := cs.map lower
      ds.take 8 ++ ['-'] ++ (ds.drop 8).take 4 ++ ['-'] ++ (ds.drop 12).take 4 ++ ['-'] ++
        (ds.drop 16).take 4 ++ ['-'] ++ ds.drop 20
    | _ => []

def ofList (cs : List Char) : Option CanonicalUuid :=
  if h : isCanonical (plain cs) = true then some ⟨plain cs, h⟩ else none

private theorem lower_of_isLowerHex {c : Char} (h : isLowerHex c = true) : lower c = c := by
  unfold lower
  split
  · rename_i hc
    simp only [isLowerHex, Bool.or_eq_true, Bool.and_eq_true, decide_eq_true_eq] at h
    simp only [Char.le_def, UInt32.le_iff_toNat_le] at h hc
    simp only [Char.reduceVal, UInt32.reduceToNat] at h hc
    omega
  · rfl

private theorem fits_spec (hs : List Bool) (cs : List Char) (h : fits hs cs = true) :
    cs.length = hs.length ∧ cs.map lower = cs ∧ ∀ c ∈ cs, c.toNat < 128 := by
  induction hs generalizing cs with
  | nil =>
    cases cs with
    | nil => simp
    | cons c cs => simp [fits] at h
  | cons b hs ih =>
    cases cs with
    | nil => cases b <;> simp [fits] at h
    | cons c cs =>
      have hc : lower c = c ∧ c.toNat < 128 ∧ fits hs cs = true := by
        cases b with
        | true =>
          simp only [fits, Bool.and_eq_true, decide_eq_true_eq] at h
          obtain ⟨rfl, h⟩ := h
          exact ⟨by decide, by decide, h⟩
        | false =>
          simp only [fits, Bool.and_eq_true] at h
          refine ⟨lower_of_isLowerHex h.1, ?_, h.2⟩
          have h₁ := h.1
          simp only [isLowerHex, Bool.or_eq_true, Bool.and_eq_true, decide_eq_true_eq,
            Char.le_def, UInt32.le_iff_toNat_le] at h₁
          simp only [Char.reduceVal, UInt32.reduceToNat] at h₁
          show c.val.toNat < 128
          omega
      obtain ⟨h₁, h₂, h₃⟩ := hc
      obtain ⟨hl, hm, ha⟩ := ih cs h₃
      refine ⟨by simp [hl], by simp [h₁, hm], ?_⟩
      exact List.forall_mem_cons.mpr ⟨h₂, ha⟩

private theorem plain_of_isCanonical {cs : List Char} (h : isCanonical cs = true) :
    plain cs = cs := by
  obtain ⟨hl, hm, ha⟩ := fits_spec hyphens cs h
  have hany : (cs.any fun c => 128 ≤ c.toNat) = false := by
    rw [List.any_eq_false]
    intro c hc
    have := ha c hc
    simp only [decide_eq_true_eq]
    omega
  have hlen : cs.length = 36 := hl
  simp only [plain, hany, hlen]
  simpa using hm

instance : DecidableEq CanonicalUuid :=
  inferInstanceAs (DecidableEq { cs : List Char // isCanonical cs = true })

instance : UuidLib CanonicalUuid where
  decEq := inferInstance
  parse s := ofList s.toList
  text u := String.ofList u.1
  nil := ⟨"00000000-0000-0000-0000-000000000000".toList, by decide⟩
  parse_text u := by
    simp only [String.toList_ofList, ofList, plain_of_isCanonical u.2, u.2, ↓reduceDIte]
    rfl

example : (parse "{6BA7B810-9DAD-11D1-80B4-00C04FD430C8}" : Option CanonicalUuid) =
    parse "6ba7b8109dad11d180b400c04fd430c8" := by decide

end CanonicalUuid

end EnjoyThings
