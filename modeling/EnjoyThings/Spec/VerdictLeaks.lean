import Mathlib.Data.List.Infix
import EnjoyThings.Services.PyJson
import EnjoyThings.Spec.ChatWire
import EnjoyThings.Spec.FraudPublished

/-!
# What an accepted verdict may say

`validate_verdict` looks for identifiers in the text that `json.dumps` writes for the whole
response, and the verdict carries the reason as it was read. The text is ASCII: a letter
outside of it stands there as its escape, which ends in a hexadecimal digit, and no UUID
begins after a hexadecimal digit.

## Key results

- `searchUuid_escaped`: a UUID of a string is one of its escaped form, unless it comes right
  after a code point that hides it
- `accepted_clean_iff`: when the reason of an accepted verdict has no identifier
-/

namespace EnjoyThings

namespace Py

/-! ## Escapes -/

/-- A code point that is written as it is: printable ASCII without the quote and the
    backslash. -/
def isPlain (c : CodePoint) : Bool :=
  32 ≤ c.val && c.val ≤ 126 && c.val ≠ 34 && c.val ≠ 92

/-- A code point whose escape ends in a hexadecimal digit, and which is none: a control character
    other than tab, line feed and carriage return, or one outside ASCII. -/
def hides (c : CodePoint) : Bool :=
  !isPlain c && c.val ≠ 34 && c.val ≠ 92 && c.val ≠ 9 && c.val ≠ 10 && c.val ≠ 13

variable {c : CodePoint}

theorem isPlain_of_hex (h : isHexDigit c = true) : isPlain c = true := by
  simp only [isHexDigit, isPlain, Bool.or_eq_true, Bool.and_eq_true, decide_eq_true_eq] at h ⊢
  omega

theorem escape_of_plain (h : isPlain c = true) : escape c = [c] := by
  simp only [isPlain, Bool.and_eq_true, decide_eq_true_eq] at h
  unfold escape
  rw [if_neg (by omega), if_neg (by omega), if_neg (by omega), if_neg (by omega),
    if_neg (by omega), if_neg (by omega), if_neg (by omega), if_pos (by omega)]

theorem isHexDigit_hexDigit (n : Nat) : isHexDigit (hexDigit (n % 16)) = true := by
  have hdigits : ∀ k < 16, isHexDigit (hexDigit k) = true := by decide
  exact hdigits (n % 16) (Nat.mod_lt n (by decide))

/-- The shape of an escape that is not the code point itself. -/
def Escapes (c : CodePoint) (e : Str) : Prop :=
  ∃ s last, e = ofChar '\\' :: s ++ [last] ∧ isHexDigit last = hides c

/-- An escape of two letters. -/
theorem escapes_letter {letter : Char} (hlast : isHexDigit (ofChar letter) = hides c) :
    Escapes c [ofChar '\\', ofChar letter] :=
  ⟨[], ofChar letter, rfl, hlast⟩

theorem unicodeEscape_shape (n : Nat) :
    ∃ s, unicodeEscape n = ofChar '\\' :: s ++ [hexDigit (n % 16)] :=
  ⟨[ofChar 'u', hexDigit (n / 4096 % 16), hexDigit (n / 256 % 16), hexDigit (n / 16 % 16)], rfl⟩

theorem escape_escapes (h : isPlain c = false) : Escapes c (escape c) := by
  unfold escape
  split
  · rename_i hc
    exact escapes_letter (by simp [hides, hc]; decide)
  split
  · rename_i hc
    exact escapes_letter (by simp [hides, hc]; decide)
  split
  · rename_i hc
    exact escapes_letter (by simp [hides, h, hc]; decide)
  split
  · rename_i hc
    exact escapes_letter (by simp [hides, h, hc]; decide)
  split
  · rename_i hc
    exact escapes_letter (by simp [hides, hc]; decide)
  split
  · rename_i hc
    exact escapes_letter (by simp [hides, hc]; decide)
  split
  · rename_i hc
    exact escapes_letter (by simp [hides, hc]; decide)
  rename_i hbackslash hquote _ _ h10 h13 h9
  split
  · -- a printable letter that is no quote and no backslash is plain
    rename_i hprintable
    simp only [isPlain, Bool.and_eq_false_iff, decide_eq_false_iff_not] at h
    omega
  -- the others are written as numbers
  have hhides : hides c = true := by
    simp [hides, h, hbackslash, hquote, h9, h10, h13]
  have hnumber (n : Nat) : isHexDigit (hexDigit (n % 16)) = hides c :=
    (isHexDigit_hexDigit n).trans hhides.symm
  split
  · obtain ⟨s, hs⟩ := unicodeEscape_shape c.val
    exact ⟨s, _, hs, hnumber _⟩
  · generalize 0xD800 + (c.val - 0x10000) / 1024 = high
    generalize 0xDC00 + (c.val - 0x10000) % 1024 = low
    obtain ⟨s, hs⟩ := unicodeEscape_shape high
    obtain ⟨t, ht⟩ := unicodeEscape_shape low
    refine ⟨s ++ [hexDigit (high % 16)] ++ ofChar '\\' :: t, hexDigit (low % 16), ?_, hnumber low⟩
    rw [hs, ht]
    simp only [List.cons_append, List.append_assoc, List.nil_append]

/-! ## Escaped strings -/

/-- What stands between the quotes of a string. -/
def escaped (s : Str) : Str := s.flatMap escape

theorem dumpsStr_eq (s : Str) : dumpsStr s = [ofChar '"'] ++ escaped s ++ [ofChar '"'] :=
  rfl

theorem escaped_append (s t : Str) : escaped (s ++ t) = escaped s ++ escaped t :=
  List.flatMap_append

theorem escaped_cons (c : CodePoint) (s : Str) : escaped (c :: s) = escape c ++ escaped s :=
  List.flatMap_cons

variable {s : Str}

/-- Plain code points stand for themselves. -/
theorem escaped_of_plain (h : ∀ c ∈ s, isPlain c = true) : escaped s = s := by
  induction s with
  | nil => rfl
  | cons c s ih =>
    rw [escaped_cons, escape_of_plain (h c List.mem_cons_self),
      ih fun d hd => h d (List.mem_cons_of_mem _ hd)]
    rfl

/-- An escaped text begins with a digit only if the text does. -/
theorem head_escaped (s rest : Str) (h : isHexDigit c = false) :
    ((escaped (c :: s) ++ rest).head?).any isHexDigit = false := by
  rw [escaped_cons]
  cases hplain : isPlain c with
  | true => simpa [escape_of_plain hplain] using h
  | false =>
    obtain ⟨t, last, hescape, -⟩ := escape_escapes hplain
    rw [hescape]
    show isHexDigit (ofChar '\\') = false
    decide

/-- What comes before the end of an escaped text. -/
theorem getLast_escaped (s t : Str) (h : isHexDigit c = false) :
    ((s ++ escaped (t ++ [c])).getLast?).any isHexDigit = hides c := by
  rw [escaped_append, escaped_cons]
  cases hplain : isPlain c with
  | true =>
    have hhides : hides c = false := by simp [hides, hplain]
    simpa [escape_of_plain hplain, escaped, hhides] using h
  | false =>
    obtain ⟨u, last, hescape, hlast⟩ := escape_escapes hplain
    have hlist : s ++ (escaped t ++ (escape c ++ escaped [])) =
        (s ++ escaped t ++ ofChar '\\' :: u) ++ [last] := by
      simp [hescape, escaped]
    rw [hlist, List.getLast?_concat, Option.any_some, hlast]

/-! ## UUIDs -/

def uuidGroups : List Nat := [8, 4, 4, 4, 12]

/-- A UUID at the beginning of a string is one of its escaped form. -/
theorem matchGroups_escaped {rest : Str} (hrest : (rest.head?).any isHexDigit = false)
    (groups : List Nat) (s : Str) (h : matchGroups groups s = true) :
    matchGroups groups (escaped s ++ rest) = true := by
  induction groups generalizing s with
  | nil =>
    cases s with
    | nil => simpa [matchGroups, escaped] using hrest
    | cons c s =>
      simp only [matchGroups, List.head?_cons, Option.any_some, Bool.not_eq_true'] at h ⊢
      exact head_escaped s rest h
  | cons n groups ih =>
    simp only [matchGroups, Bool.and_eq_true, decide_eq_true_eq] at h ⊢
    obtain ⟨⟨hlength, hdigits⟩, hgroups⟩ := h
    -- the digits stand for themselves
    have hplain : escaped (s.take n) = s.take n :=
      escaped_of_plain fun c hc => isPlain_of_hex (List.all_eq_true.mp hdigits c hc)
    have hsplit : escaped s ++ rest = s.take n ++ (escaped (s.drop n) ++ rest) := by
      conv_lhs => rw [← List.take_append_drop n s, escaped_append, hplain, List.append_assoc]
    have htake : (escaped s ++ rest).take n = s.take n := by
      rw [hsplit, List.take_append_of_le_length hlength.ge, List.take_of_length_le hlength.le]
    have hdrop : (escaped s ++ rest).drop n = escaped (s.drop n) ++ rest := by
      rw [hsplit, List.drop_append_of_le_length hlength.ge, List.drop_of_length_le hlength.le,
        List.nil_append]
    refine ⟨⟨htake ▸ hlength, htake ▸ hdigits⟩, ?_⟩
    split
    · rename_i hnil
      rw [if_pos hnil] at hgroups
      rw [hdrop]
      exact ih _ hgroups
    · rename_i hnil
      rw [if_neg hnil, Bool.and_eq_true, decide_eq_true_eq] at hgroups
      obtain ⟨hhyphen, hgroups⟩ := hgroups
      obtain ⟨r, hr⟩ := List.head?_eq_some_iff.mp hhyphen
      have hr' : s.drop (n + 1) = r := by
        rw [← List.drop_drop, hr, List.drop_one, List.tail_cons]
      -- so does the hyphen
      have hescaped : escaped (s.drop n) = ofChar '-' :: escaped r := by
        rw [hr, escaped_cons, escape_of_plain (by decide)]
        rfl
      have hdrop' : (escaped s ++ rest).drop (n + 1) = escaped r ++ rest := by
        rw [← List.drop_drop, hdrop, hescaped]
        rfl
      rw [Bool.and_eq_true, decide_eq_true_eq, hdrop, hdrop', hescaped]
      exact ⟨rfl, ih r (hr' ▸ hgroups)⟩

/-- A search finds a UUID that begins after no digit. -/
theorem searchUuidAfter_iff {digit : Bool} {t : Str} :
    searchUuidAfter digit t = true ↔
      ∃ x y, t = x ++ y ∧ (x.getLast?).elim digit isHexDigit = false ∧
        matchGroups uuidGroups y = true := by
  induction t generalizing digit with
  | nil =>
    refine iff_of_false Bool.false_ne_true ?_
    rintro ⟨x, y, hxy, -, hmatch⟩
    obtain ⟨rfl, rfl⟩ := List.append_eq_nil_iff.mp hxy.symm
    exact absurd hmatch (by decide)
  | cons c t ih =>
    rw [searchUuidAfter, Bool.or_eq_true, Bool.and_eq_true, Bool.not_eq_true', ih]
    have hlast (x : Str) : ((c :: x).getLast?).elim digit isHexDigit =
        (x.getLast?).elim (isHexDigit c) isHexDigit := by
      rw [List.getLast?_cons]
      cases x.getLast? <;> rfl
    constructor
    · rintro (⟨hdigit, hmatch⟩ | ⟨x, y, rfl, hx, hmatch⟩)
      · exact ⟨[], c :: t, rfl, hdigit, hmatch⟩
      · exact ⟨c :: x, y, rfl, (hlast x).trans hx, hmatch⟩
    · rintro ⟨x, y, hxy, hx, hmatch⟩
      cases x with
      | nil => exact .inl ⟨hx, hxy ▸ hmatch⟩
      | cons d x =>
        obtain ⟨rfl, rfl⟩ := List.cons.inj hxy
        exact .inr ⟨x, y, rfl, (hlast x).symm.trans hx, hmatch⟩

theorem searchUuid_iff {t : Str} : searchUuid t = true ↔
    ∃ x y, t = x ++ y ∧ (x.getLast?).any isHexDigit = false ∧
      matchGroups uuidGroups y = true := by
  have hany (x : Str) : (x.getLast?).elim false isHexDigit = (x.getLast?).any isHexDigit := by
    cases x.getLast? <;> rfl
  simp only [searchUuid, searchUuidAfter_iff, hany]

/-- A UUID in a string that comes right after a code point that hides it. -/
def HiddenUuid (s : Str) : Prop :=
  ∃ x c y, s = x ++ c :: y ∧ hides c = true ∧ matchGroups uuidGroups y = true

theorem not_hex_of_hides (h : hides c = true) : isHexDigit c = false := by
  simp only [hides, Bool.and_eq_true, Bool.not_eq_true'] at h
  exact Bool.eq_false_iff.mpr fun hdigit => by
    rw [isPlain_of_hex hdigit] at h
    exact absurd h.1.1.1.1.1 (by decide)

/-- In a text that has the string in quotes and no UUID, every UUID of the string is hidden. -/
theorem searchUuid_escaped {before after : Str}
    (h : searchUuid (before ++ dumpsStr s ++ after) = false) :
    searchUuid s = true ↔ HiddenUuid s := by
  have hquote : isHexDigit (ofChar '"') = false := by decide
  constructor
  · intro hs
    obtain ⟨x, y, rfl, hx, hmatch⟩ := searchUuid_iff.mp hs
    have hafter : ((ofChar '"' :: after).head?).any isHexDigit = false := hquote
    have hmatch' := matchGroups_escaped hafter uuidGroups y hmatch
    -- the search of the text would have found it
    have hfound (hlast : ((before ++ [ofChar '"'] ++ escaped x).getLast?).any isHexDigit = false) :
        False := by
      have hsearch : searchUuid (before ++ dumpsStr (x ++ y) ++ after) = true := by
        refine searchUuid_iff.mpr ⟨_, _, ?_, hlast, hmatch'⟩
        simp [dumpsStr_eq, escaped_append]
      rw [h] at hsearch
      exact Bool.false_ne_true hsearch
    rcases List.eq_nil_or_concat x with rfl | ⟨x', c, rfl⟩
    · exact (hfound (by simpa [escaped] using hquote)).elim
    · rw [List.concat_eq_append] at *
      have hc : isHexDigit c = false := by simpa using hx
      refine ⟨x', c, y, by simp, ?_, hmatch⟩
      by_contra hhides
      rw [Bool.not_eq_true] at hhides
      exact hfound ((getLast_escaped _ x' hc).trans hhides)
  · rintro ⟨x, c, y, rfl, hhides, hmatch⟩
    refine searchUuid_iff.mpr ⟨x ++ [c], y, by simp, ?_, hmatch⟩
    simpa using not_hex_of_hides hhides

/-! ## Stripped strings -/

theorem isSpace_not_hex (h : isSpace c = true) : isHexDigit c = false := by
  simp only [isSpace, isHexDigit, Bool.or_eq_true, Bool.and_eq_true, decide_eq_true_eq,
    Bool.or_eq_false_iff, Bool.and_eq_false_iff, decide_eq_false_iff_not] at h ⊢
  omega

/-- A last letter that is neither a digit nor a hyphen is no part of a UUID. -/
theorem matchGroups_concat (hdigit : isHexDigit c = false) (hhyphen : c ≠ ofChar '-')
    (groups : List Nat) (s : Str) :
    matchGroups groups (s ++ [c]) = matchGroups groups s := by
  induction groups generalizing s with
  | nil => cases s <;> simp [matchGroups, hdigit]
  | cons n groups ih =>
    by_cases hn : n ≤ s.length
    · have htake : (s ++ [c]).take n = s.take n := List.take_append_of_le_length hn
      have hdrop : (s ++ [c]).drop n = s.drop n ++ [c] := List.drop_append_of_le_length hn
      rw [matchGroups, matchGroups, htake, hdrop, ih, ← List.drop_drop, hdrop, ← List.drop_drop]
      cases s.drop n with
      | nil => simp [hhyphen]
      | cons d r => simp [ih]
    · -- too short with the letter, and without it
      have hlong : (s ++ [c]).take n = s ++ [c] :=
        List.take_of_length_le (by simp only [List.length_append, List.length_singleton]; omega)
      rw [matchGroups, matchGroups, hlong]
      simp [hdigit, hn]

theorem searchUuidAfter_concat (hdigit : isHexDigit c = false) (hhyphen : c ≠ ofChar '-')
    (digit : Bool) (s : Str) :
    searchUuidAfter digit (s ++ [c]) = searchUuidAfter digit s := by
  induction s generalizing digit with
  | nil => simp [searchUuidAfter, matchGroups]
  | cons d s ih =>
    rw [List.cons_append, searchUuidAfter, searchUuidAfter, ih, ← List.cons_append,
      matchGroups_concat hdigit hhyphen]

theorem isSpace_ne_hyphen (h : isSpace c = true) : c ≠ ofChar '-' := by
  rintro rfl
  exact absurd h (by decide)

/-- Spaces around a string are no part of a UUID. -/
theorem searchUuid_strip (s : Str) : searchUuid (strip s) = searchUuid s := by
  have hright (t : Str) : searchUuid (t.dropWhile isSpace).reverse = searchUuid t.reverse := by
    induction t with
    | nil => rfl
    | cons c t ih =>
      rw [List.dropWhile_cons]
      split
      · rename_i hspace
        rw [ih, List.reverse_cons]
        exact (searchUuidAfter_concat (isSpace_not_hex hspace) (isSpace_ne_hyphen hspace) _ _).symm
      · rfl
  have hleft (t : Str) : searchUuid (t.dropWhile isSpace) = searchUuid t := by
    induction t with
    | nil => rfl
    | cons c t ih =>
      rw [List.dropWhile_cons]
      split
      · rename_i hspace
        have hdigit := isSpace_not_hex hspace
        rw [ih, searchUuid, searchUuid, searchUuidAfter, hdigit]
        simp [matchGroups, hdigit]
      · rfl
  rw [strip, hright, List.reverse_reverse, hleft]

/-! ## The text of a document -/

theorem mem_intersperse {α : Type} {sep l : α} {ls : List α} (h : l ∈ ls) :
    l ∈ ls.intersperse sep := by
  induction ls with
  | nil => cases h
  | cons a ls ih =>
    cases ls with
    | nil => exact h
    | cons b ls =>
      rw [List.intersperse_cons_cons]
      cases List.mem_cons.mp h with
      | inl hl => exact hl ▸ List.mem_cons_self
      | inr hl => exact List.mem_cons_of_mem _ (List.mem_cons_of_mem _ (ih hl))

theorem of_mem_intersperse {α : Type} {sep l : α} {ls : List α} (h : l ∈ ls.intersperse sep) :
    l = sep ∨ l ∈ ls := by
  induction ls with
  | nil => cases h
  | cons a ls ih =>
    cases ls with
    | nil => exact .inr h
    | cons b ls =>
      rw [List.intersperse_cons_cons, List.mem_cons, List.mem_cons] at h
      rcases h with rfl | rfl | h
      · exact .inr List.mem_cons_self
      · exact .inl rfl
      · exact (ih h).imp_right (List.mem_cons_of_mem _)

theorem ascii_intercalate {sep : Str} {ls : List Str} (hsep : Ascii sep)
    (hls : ∀ l ∈ ls, Ascii l) : Ascii (sep.intercalate ls) := by
  intro c hc
  obtain ⟨l, hl, hcl⟩ := List.mem_flatten.mp hc
  cases of_mem_intersperse hl with
  | inl hl => exact hsep c (hl ▸ hcl)
  | inr hl => exact hls l hl c hcl

theorem ascii_ofString {s : String} (h : ∀ c ∈ s.toList, c.toNat < 128) :
    Ascii (ofString s) := by
  intro c hc
  obtain ⟨d, hd, rfl⟩ := List.mem_map.mp hc
  exact h d hd

theorem decimal_ascii (n : Int) : Ascii (ofString (Go.decimal n)) := by
  have hdigits : ∀ c ∈ (Nat.repr n.natAbs).toList, c.toNat < 128 := by
    intro c hc
    rw [Nat.toList_repr] at hc
    have hdigit := Nat.isDigit_of_mem_toDigits (by decide) (by decide) hc
    simp only [Char.isDigit, Bool.and_eq_true, decide_eq_true_eq] at hdigit
    have hle : c.val.toNat ≤ 57 := UInt32.le_iff_toNat_le.mp hdigit.2
    exact Nat.lt_of_le_of_lt hle (by decide)
  apply ascii_ofString
  unfold Go.decimal
  split
  · intro c hc
    rw [String.toList_append, List.mem_append] at hc
    cases hc with
    | inl hc =>
      have hminus : c = '-' := List.mem_singleton.mp hc
      rw [hminus]
      decide
    | inr hc => exact hdigits c hc
  · exact hdigits

variable {key : Str}

section

variable {floatText : Float → Str}

mutual

/-- The text of a document is ASCII. -/
theorem Json.text_ascii (hfloat : ∀ x, Ascii (floatText x)) :
    ∀ value : Json, Ascii (value.text floatText)
  | .null => by rw [Json.text]; decide
  | .bool b => by rw [Json.text]; cases b <;> decide
  | .int n => by rw [Json.text]; exact decimal_ascii n
  | .float x => by rw [Json.text]; exact hfloat x
  | .str s => by rw [Json.text]; exact (dumpsStr_plain s).ascii
  | .arr items => by
    rw [Json.text, ascii_append, ascii_append]
    exact ⟨⟨by decide, ascii_intercalate (by decide) (Json.texts_ascii hfloat items)⟩, by decide⟩
  | .obj fields => by
    rw [Json.text, ascii_append, ascii_append]
    refine ⟨⟨by decide, ascii_intercalate (by decide) fun text h => ?_⟩, by decide⟩
    obtain ⟨field, hfield, rfl⟩ := List.mem_map.mp h
    have hmem := (List.perm_insertionSort _ _).mem_iff.mp hfield
    rw [ascii_append, ascii_append]
    exact ⟨⟨(dumpsStr_plain _).ascii, by decide⟩, Json.fieldTexts_ascii hfloat fields field hmem⟩

theorem Json.texts_ascii (hfloat : ∀ x, Ascii (floatText x)) :
    ∀ (items : List Json), ∀ text ∈ Json.texts floatText items, Ascii text
  | [], _, h => by rw [Json.texts] at h; cases h
  | item :: items, text, h => by
    rw [Json.texts, List.mem_cons] at h
    cases h with
    | inl h => exact h ▸ Json.text_ascii hfloat item
    | inr h => exact Json.texts_ascii hfloat items text h

theorem Json.fieldTexts_ascii (hfloat : ∀ x, Ascii (floatText x)) :
    ∀ (fields : List (Str × Json)), ∀ field ∈ Json.fieldTexts floatText fields, Ascii field.2
  | [], _, h => by rw [Json.fieldTexts] at h; cases h
  | (key, value) :: fields, field, h => by
    rw [Json.fieldTexts, List.mem_cons] at h
    cases h with
    | inl h => exact h ▸ Json.text_ascii hfloat value
    | inr h => exact Json.fieldTexts_ascii hfloat fields field h

end

theorem mem_fieldTexts {fields : List (Str × Json)} {value : Json}
    (h : fields.lookup key = some value) :
    (key, value.text floatText) ∈ Json.fieldTexts floatText fields := by
  induction fields with
  | nil => cases h
  | cons field fields ih =>
    obtain ⟨name, member⟩ := field
    rw [Json.fieldTexts]
    rw [List.lookup_cons] at h
    split at h
    · rename_i heq
      cases h
      rw [eq_of_beq heq]
      exact List.mem_cons_self
    · exact List.mem_cons_of_mem _ (ih h)

/-- The text of an object has the strings of its fields in quotes. -/
theorem dumpsStr_infix_text {fields : List (Str × Json)} (h : fields.lookup key = some (.str s)) :
    dumpsStr s <:+: (Json.obj fields).text floatText := by
  have hfield : (key, dumpsStr s) ∈ Json.fieldTexts floatText fields := by
    simpa only [Json.text] using mem_fieldTexts h
  have hmem : (key, dumpsStr s) ∈ sortFields (Json.fieldTexts floatText fields) :=
    (List.perm_insertionSort _ _).mem_iff.mpr hfield
  have hquoted : dumpsStr s <:+: dumpsStr key ++ ofString ": " ++ dumpsStr s :=
    (List.suffix_append _ _).isInfix
  have hlist : dumpsStr s <:+: (ofString ", ").intercalate
      ((sortFields (Json.fieldTexts floatText fields)).map fun field =>
        dumpsStr field.1 ++ ofString ": " ++ field.2) :=
    hquoted.trans (List.infix_of_mem_flatten
      (mem_intersperse (List.mem_map.mpr ⟨(key, dumpsStr s), hmem, rfl⟩)))
  rw [Json.text]
  exact hlist.trans (List.infix_append _ _ _)

end

theorem contains_iff {text : Str} : contains key text = true ↔ key <:+: text := by
  simp only [contains, List.any_eq_true, List.mem_tails, List.isPrefixOf_iff_prefix,
    List.infix_iff_prefix_suffix]
  exact ⟨fun ⟨t, hsuffix, hprefix⟩ => ⟨t, hprefix, hsuffix⟩,
    fun ⟨t, hprefix, hsuffix⟩ => ⟨t, hsuffix, hprefix⟩⟩

/-- What is known of the library functions: `json.dumps`, if it returns, writes the text of the
    document, and `str.lower` goes letter by letter on ASCII. -/
class DumpsLib extends TextLib where
  floatText : Float → Str
  floatText_ascii : ∀ x, Ascii (floatText x)
  dumps_eq : ∀ value text, dumps value = .ok text → text = value.text floatText
  lower_ascii : ∀ s, Ascii s → lower s = s.map lowerAscii

/-- A key of the string, whatever the case, that its escaped form does not have. -/
def HiddenKey [TextLib] (sensitiveKeys : List Str) (s : Str) : Prop :=
  ∃ key ∈ sensitiveKeys, contains (TextLib.lower key) (TextLib.lower (strip s)) = true ∧
    contains (TextLib.lower key) (TextLib.lower (escaped s)) = false

/-- A key in a part of an ASCII text is one of the text. -/
theorem contains_lower_of_infix [DumpsLib] {text : Str} (hs : s <:+: text) (htext : Ascii text)
    (h : contains key (TextLib.lower s) = true) :
    contains key (TextLib.lower text) = true := by
  have hascii : Ascii s := fun c hc => htext c (hs.subset hc)
  rw [DumpsLib.lower_ascii s hascii, contains_iff] at h
  rw [DumpsLib.lower_ascii text htext, contains_iff]
  exact h.trans (hs.map _)

end Py

/-! ## The validator -/

theorem Validator.requiredFields_eq_ok {parsed : Py.Json} {required : Py.Json × Py.Json × Py.Json}
    (h : requiredFields parsed = .ok required) :
    ∃ fields, parsed = .obj fields ∧ Py.Json.get fields "reason" = some required.2.2 := by
  unfold requiredFields at h
  split at h
  · rename_i fields
    have hfields := Except.ofOption_eq_ok.mp h
    simp only [Option.bind_eq_bind, Option.bind_eq_some_iff, Option.some.injEq] at hfields
    obtain ⟨_, -, _, -, reason, hreason, rfl⟩ := hfields
    exact ⟨fields, rfl, hreason⟩
  · cases h

theorem Validator.reason?_str {value : Py.Json} {s : Py.Str} (h : reason? value = some s) :
    value = .str s := by
  unfold reason? at h
  split at h
  · split at h
    · cases h
    · cases h
      rfl
  · cases h

/-- What an accepted response went through. -/
theorem Validator.readVerdict_reason [Py.TextLib] {config : FraudConfig} {response : Py.Str}
    {verdict : FraudVerdict} (h : readVerdict config response = .ok verdict) :
    ∃ fields s text, Py.TextLib.loads response = .ok (.obj fields) ∧
      Py.Json.get fields "reason" = some (.str s) ∧ verdict.reason = Py.strip s ∧
      Py.TextLib.dumps (.obj fields) = .ok text ∧ Py.searchUuid text = false ∧
      containsKey config.sensitiveKeys text = false := by
  obtain ⟨_, -, h⟩ := Except.bind_eq_ok.mp h
  obtain ⟨parsed, hparse, h⟩ := Except.bind_eq_ok.mp h
  obtain ⟨required, hrequired, h⟩ := Except.bind_eq_ok.mp h
  obtain ⟨_, -, h⟩ := Except.bind_eq_ok.mp h
  obtain ⟨_, -, h⟩ := Except.bind_eq_ok.mp h
  obtain ⟨reason, hreason, h⟩ := Except.bind_eq_ok.mp h
  obtain ⟨sensitive, hsensitive, h⟩ := Except.bind_eq_ok.mp h
  obtain ⟨_, hrefuse, h⟩ := Except.bind_eq_ok.mp h
  cases h
  have hloads := Except.mapError_eq_ok.mp hparse
  obtain ⟨fields, rfl, hget⟩ := requiredFields_eq_ok hrequired
  obtain ⟨text, hdumps, hresult⟩ := Except.bind_eq_ok.mp hsensitive
  cases hresult
  have hclean := Except.refuseIf_eq_ok.mp hrefuse
  rw [Bool.not_eq_true, Bool.or_eq_false_iff] at hclean
  rw [reason?_str (Except.ofOption_eq_ok.mp hreason)] at hget
  exact ⟨fields, reason, text, hloads, hget, rfl, Except.mapError_eq_ok.mp hdumps, hclean⟩

/-- No UUID, and none of the keys in whatever case. -/
def CleanText [Py.TextLib] (config : FraudConfig) (s : Py.Str) : Prop :=
  Py.searchUuid s = false ∧ containsKey config.sensitiveKeys s = false

/-- The reason of a response, as `json.loads` reads it. -/
def reasonOf [Py.TextLib] (response : Py.Str) : Option Py.Str :=
  match Py.TextLib.loads response with
  | .ok (.obj fields) =>
    match Py.Json.get fields "reason" with
    | some (.str s) => some s
    | _ => none
  | _ => none

/-- Escaping the response's reason hides neither a UUID nor a key. -/
def NothingHidden [Py.TextLib] (config : FraudConfig) (response : Py.Str) : Prop :=
  ∀ s, reasonOf response = some s → ¬ Py.HiddenUuid s ∧ ¬ Py.HiddenKey config.sensitiveKeys s

/-- The reason of an accepted verdict has no identifier exactly if escaping hides none. -/
theorem accepted_clean_iff [Py.DumpsLib] (config : FraudConfig) (response : Py.Str)
    (validation : ValidationResult) (verdict : FraudVerdict)
    (hvalidate : validateVerdict config response = .ok validation)
    (hverdict : validation.verdict = some verdict) :
    CleanText config verdict.reason ↔ NothingHidden config response := by
  have hread : Validator.readVerdict config response = .ok verdict := by
    unfold validateVerdict at hvalidate
    split at hvalidate
    · rename_i hread
      cases hvalidate
      cases hverdict
      exact hread
    · cases hvalidate
      cases hverdict
    · cases hvalidate
  obtain ⟨fields, s, text, hloads, hreason, hs, hdumps, huuid, hkeys⟩ :=
    Validator.readVerdict_reason hread
  have hreasonOf : reasonOf response = some s := by simp only [reasonOf, hloads, hreason]
  have htext := Py.DumpsLib.dumps_eq _ _ hdumps
  have hinfix : Py.dumpsStr s <:+: text := htext ▸ Py.dumpsStr_infix_text hreason
  have hascii : Py.Ascii text := htext ▸ Py.Json.text_ascii Py.DumpsLib.floatText_ascii _
  have hescaped : Py.escaped s <:+: text :=
    List.IsInfix.trans ⟨[Py.ofChar '"'], [Py.ofChar '"'], rfl⟩ hinfix
  -- the text has no UUID, so those of the reason are hidden
  have huuid_iff : Py.searchUuid (Py.strip s) = true ↔ Py.HiddenUuid s := by
    obtain ⟨before, after, hlist⟩ := hinfix
    rw [Py.searchUuid_strip]
    exact Py.searchUuid_escaped (hlist ▸ huuid)
  -- and neither has it a key
  have hkeys_iff : containsKey config.sensitiveKeys (Py.strip s) = true ↔
      Py.HiddenKey config.sensitiveKeys s := by
    unfold containsKey Py.HiddenKey
    simp only [containsKey, List.any_eq_false, List.any_eq_true] at hkeys ⊢
    refine exists_congr fun key => and_congr_right fun hkey => ?_
    refine ⟨fun h => ⟨h, Bool.eq_false_iff.mpr fun hesc => hkeys key hkey ?_⟩, And.left⟩
    exact Py.contains_lower_of_infix hescaped hascii hesc
  rw [CleanText, hs, NothingHidden, hreasonOf]
  simp only [Option.some.injEq, forall_eq', ← huuid_iff, ← hkeys_iff, Bool.not_eq_true]

namespace Sample

/-- An answer with a score of one half. -/
def allowedAnswer (reason : Py.Str) : Py.Str := answerText "allow" reason (Py.ofString "0.5")

/-- A `json` that reads that answer. -/
@[reducible] def dumpsLib (reason : Py.Str) : Py.DumpsLib where
  loads s :=
    if s = allowedAnswer reason then
      .ok (answerDocument "allow" reason (.float (.finite (1 / 2))))
    else .error .jsonDecodeError
  dumps value := .ok (value.text fun _ => Py.ofString "0.5")
  lower s := s.map Py.lowerAscii
  floatText _ := Py.ofString "0.5"
  floatText_ascii _ := by decide
  dumps_eq _ _ h := (Except.ok.inj h).symm
  lower_ascii _ _ := rfl

/-- A UUID after a letter with an accent. -/
def accentedUuid : Py.Str :=
  Py.ofString "é7d444840-9dc0-11d1-b245-5ffdce74fad2"

def allowed (reason : Py.Str) : FraudVerdict :=
  { riskScore := 1 / 2, action := .allow, reason := reason, modelAction := .allow
    actionNormalized := false }

end Sample

theorem accented_uuid_accepted :
    @validateVerdict (Sample.dumpsLib Sample.accentedUuid).toTextLib {}
        (Sample.allowedAnswer Sample.accentedUuid) =
        .ok { verdict := some (Sample.allowed Sample.accentedUuid) } ∧
      Py.searchUuid (Sample.allowed Sample.accentedUuid).reason = true := by
  have hread : @Validator.readVerdict (Sample.dumpsLib Sample.accentedUuid).toTextLib {}
      (Sample.allowedAnswer Sample.accentedUuid) =
      .ok (Sample.allowed Sample.accentedUuid) := by decide +kernel
  constructor
  · simp only [validateVerdict, hread]
  · decide +kernel

theorem accepted_clean_plain :
    @CleanText (Sample.dumpsLib (Py.ofString "large")).toTextLib {} (Py.ofString "large") ∧
      @NothingHidden (Sample.dumpsLib (Py.ofString "large")).toTextLib {}
        (Sample.allowedAnswer (Py.ofString "large")) := by
  have hread : @Validator.readVerdict (Sample.dumpsLib (Py.ofString "large")).toTextLib {}
      (Sample.allowedAnswer (Py.ofString "large")) =
      .ok (Sample.allowed (Py.ofString "large")) := by decide +kernel
  have hclean : @CleanText (Sample.dumpsLib (Py.ofString "large")).toTextLib {}
      (Py.ofString "large") := by
    constructor <;> decide +kernel
  have hvalidate : @validateVerdict (Sample.dumpsLib (Py.ofString "large")).toTextLib {}
      (Sample.allowedAnswer (Py.ofString "large")) =
      .ok { verdict := some (Sample.allowed (Py.ofString "large")) } := by
    simp only [validateVerdict, hread]
  exact ⟨hclean, (@accepted_clean_iff (Sample.dumpsLib (Py.ofString "large")) {} _ _ _ hvalidate
    rfl).mp hclean⟩

end EnjoyThings
