import Mathlib.Data.List.TakeWhile
import Mathlib.Tactic.IntervalCases
import EnjoyThings.Services.PyStd

/-!
# Timestamps on the wire

The calendar of `Go.civil` gives dates that exist, and `Stamp.dayNumber` counts
their days back, so a stamp stands for one second. A number in fixed-width
decimals is read back as it was written, and so are the timestamps Go writes for
Python and Python writes for Go.

## Key results

- `Stamp.ofSeconds_valid`, `Stamp.seconds_ofSeconds`: the calendar
- `Go.formatRFC3339Nano_eq`: what Go writes, as a stamp with decimals
- `Go.parseRFC3339_eq`: what Go reads of a stamp with decimals in UTC
-/

namespace EnjoyThings

/-! ## The calendar -/

/-- The first day of a year in its era of 400 years. -/
private def firstDay (yoe : Nat) : Nat :=
  365 * yoe + yoe / 4 - yoe / 100 + yoe / 400

/-- The days of an era counted without their leap days. -/
private def commonDays (doe : Nat) : Nat :=
  doe - doe / 1460 + doe / 36524 - doe / 146096

private theorem commonDays_mono {a b : Nat} (h : a ≤ b) : commonDays a ≤ commonDays b := by
  -- the last two terms are a quotient less its quarter
  have ha : a / 146096 = a / 36524 / 4 := by rw [Nat.div_div_eq_div_mul]
  have hb : b / 146096 = b / 36524 / 4 := by rw [Nat.div_div_eq_div_mul]
  have hq : a / 36524 ≤ b / 36524 := Nat.div_le_div_right h
  have hcommon : a - a / 1460 ≤ b - b / 1460 := by omega
  have hquarter : a / 36524 - a / 36524 / 4 ≤ b / 36524 - b / 36524 / 4 := by omega
  unfold commonDays
  rw [ha, hb, Nat.add_sub_assoc (Nat.div_le_self _ 4), Nat.add_sub_assoc (Nat.div_le_self _ 4)]
  exact Nat.add_le_add hcommon hquarter

private theorem commonDays_bounds : ∀ yoe < 400,
    365 * yoe ≤ commonDays (firstDay yoe) ∧
      commonDays (firstDay (yoe + 1) - 1) < 365 * (yoe + 1) := by
  decide +kernel

/-- A year that starts in March has 366 days if the one that starts in its January is a leap
    year. -/
private theorem firstDay_succ : ∀ yoe < 400,
    firstDay (yoe + 1) = firstDay yoe + if Stamp.isLeap (yoe + 1) then 366 else 365 := by
  decide +kernel

/-- Every day of an era is in one of its years. -/
private theorem exists_year {doe n : Nat} (h : doe < firstDay n) :
    ∃ yoe < n, firstDay yoe ≤ doe ∧ doe < firstDay (yoe + 1) := by
  induction n with
  | zero => exact absurd h (Nat.not_lt_zero doe)
  | succ n ih =>
    by_cases hn : doe < firstDay n
    · obtain ⟨yoe, hlt, hyoe⟩ := ih hn
      exact ⟨yoe, Nat.lt_succ_of_lt hlt, hyoe⟩
    · exact ⟨n, Nat.lt_succ_self n, Nat.le_of_not_lt hn, h⟩

private theorem year_eq {doe yoe : Nat} (hyoe : yoe < 400) (h : firstDay yoe ≤ doe)
    (h' : doe < firstDay (yoe + 1)) : commonDays doe / 365 = yoe := by
  obtain ⟨hlow, hhigh⟩ := commonDays_bounds yoe hyoe
  have hlow' := commonDays_mono h
  have hhigh' : commonDays doe ≤ commonDays (firstDay (yoe + 1) - 1) :=
    commonDays_mono (by omega)
  apply Nat.div_eq_of_lt_le <;> omega

/-- A day as era, year of the era and day of that year, which starts in March. -/
private theorem civil_spec (day : Nat) : ∃ era yoe doy : Nat, yoe < 400 ∧
    day + 306 = era * 146097 + (365 * yoe + yoe / 4 - yoe / 100) + doy ∧
    doy ≤ 365 ∧ (doy = 365 → Stamp.isLeap (yoe + 1) = true) ∧
    Go.civil day =
      (let mp := (5 * doy + 2) / 153
       let month := if mp < 10 then mp + 3 else mp - 9
       (if month ≤ 2 then yoe + era * 400 + 1 else yoe + era * 400, month,
        doy - (153 * mp + 2) / 5 + 1)) := by
  have hdoe : (day + 306) % 146097 < firstDay 400 := Nat.mod_lt _ (by decide)
  obtain ⟨yoe, hlt, hlow, hhigh⟩ := exists_year hdoe
  have hyear := year_eq hlt hlow hhigh
  have hfirst : firstDay yoe = 365 * yoe + yoe / 4 - yoe / 100 := by
    unfold firstDay
    omega
  refine ⟨(day + 306) / 146097, yoe, (day + 306) % 146097 - firstDay yoe, hlt, ?_, ?_, ?_, ?_⟩
  · rw [← hfirst]
    have := Nat.div_add_mod (day + 306) 146097
    omega
  · rw [firstDay_succ yoe hlt] at hhigh
    split at hhigh <;> omega
  · intro hdoy
    rw [firstDay_succ yoe hlt] at hhigh
    by_contra hleap
    rw [if_neg hleap] at hhigh
    omega
  · unfold commonDays at hyear
    unfold Go.civil
    simp only [hyear, ← hfirst]

namespace Stamp

private theorem isLeap_add_era (year era : Nat) : isLeap (year + era * 400) = isLeap year := by
  have h4 : (year + era * 400) % 4 = year % 4 := by omega
  have h100 : (year + era * 400) % 100 = year % 100 := by omega
  have h400 : (year + era * 400) % 400 = year % 400 := by omega
  unfold isLeap
  rw [h4, h100, h400]

/-- The day, month and year `Go.civil` gives are a date that exists. -/
private theorem civil_valid (day : Nat) :
    1 ≤ (Go.civil day).1 ∧ 1 ≤ (Go.civil day).2.1 ∧ (Go.civil day).2.1 ≤ 12 ∧
      1 ≤ (Go.civil day).2.2 ∧
      (Go.civil day).2.2 ≤ daysIn (Go.civil day).1 (Go.civil day).2.1 := by
  obtain ⟨era, yoe, doy, hyoe, hday, hdoy, hleap, heq⟩ := civil_spec day
  simp only [heq]
  generalize hmp : (5 * doy + 2) / 153 = mp
  by_cases hfeb : mp = 11
  · -- February: a 29th only in a leap year
    subst hfeb
    have hyear : isLeap (yoe + era * 400 + 1) = isLeap (yoe + 1) := by
      rw [Nat.add_right_comm]
      exact isLeap_add_era (yoe + 1) era
    simp only [daysIn, Nat.reduceLT, Nat.reduceSub, Nat.reduceLeDiff, ↓reduceIte, hyear]
    refine ⟨trivial, trivial, trivial, trivial, ?_⟩
    by_cases h365 : doy = 365
    · simp [hleap h365, h365]
    · split <;> omega
  · have hmp' : mp ≤ 10 := by omega
    interval_cases mp <;> simp [daysIn] <;> omega

/-- The day of a date is the day the date was made from. -/
private theorem dayNumber_civil (day : Nat) (hour minute second : Nat) :
    dayNumber { year := (Go.civil day).1, month := (Go.civil day).2.1, day := (Go.civil day).2.2
                hour := hour, minute := minute, second := second } = day := by
  obtain ⟨era, yoe, doy, hyoe, hday, hdoy, -, heq⟩ := civil_spec day
  unfold dayNumber
  rw [heq]
  generalize hmp : (5 * doy + 2) / 153 = mp
  have hdoy' : (153 * mp + 2) / 5 + (doy - (153 * mp + 2) / 5 + 1) - 1 = doy := by omega
  have hmod : (yoe + era * 400) % 400 = yoe := by omega
  have hdiv : (yoe + era * 400) / 400 = era := by omega
  by_cases hearly : mp < 10
  · have hmonth : ¬ mp + 3 ≤ 2 := by omega
    have hmp' : (mp + 3 + 9) % 12 = mp := by omega
    simp only [hearly, ↓reduceIte, hmonth, hmp', hmod, hdiv, hdoy']
    exact Nat.sub_eq_of_eq_add hday.symm
  · have hmonth : mp - 9 ≤ 2 := by omega
    have hmp' : (mp - 9 + 9) % 12 = mp := by omega
    simp only [hearly, ↓reduceIte, hmonth, hmp', Nat.add_sub_cancel, hmod, hdiv, hdoy']
    exact Nat.sub_eq_of_eq_add hday.symm

/-- The year of a day is not after the year of a later day. -/
private theorem civil_year_le {day : Nat} (h : day < 3652059) : (Go.civil day).1 ≤ 9999 := by
  obtain ⟨era, yoe, doy, hyoe, hday, hdoy, -, heq⟩ := civil_spec day
  simp only [heq]
  generalize hmp : (5 * doy + 2) / 153 = mp
  have hyear : yoe + era * 400 ≤ 9999 := by omega
  by_cases hearly : mp < 10
  · simp only [hearly, ↓reduceIte]
    split <;> omega
  · -- January and February belong to the year that started the March before
    have hlast : yoe + era * 400 ≠ 9999 := by omega
    simp only [hearly, ↓reduceIte]
    split <;> omega

/-- The stamp of a second before the year 10000 is valid. -/
theorem ofSeconds_valid {n : Nat} (h : n < lastSecond) : (ofSeconds n).Valid := by
  obtain ⟨hyear, hmonth, hmonth', hday, hday'⟩ := civil_valid (n / 86400)
  have hdays : n / 86400 < 3652059 := by
    unfold lastSecond at h
    omega
  have hlast := civil_year_le hdays
  have hhour : n / 3600 % 24 < 24 := Nat.mod_lt _ (by decide)
  have hminute : n / 60 % 60 < 60 := Nat.mod_lt _ (by decide)
  have hsecond : n % 60 < 60 := Nat.mod_lt _ (by decide)
  exact ⟨hyear, hlast, hmonth, hmonth', hday, hday', hhour, hminute, hsecond⟩

/-- A stamp stands for the second it was made from. -/
theorem seconds_ofSeconds (n : Nat) : (ofSeconds n).seconds = n := by
  show dayNumber (ofSeconds n) * 86400 + n / 3600 % 24 * 3600 + n / 60 % 60 * 60 + n % 60 = n
  rw [ofSeconds, dayNumber_civil]
  omega

end Stamp

/-! ## Numbers of a fixed width -/

namespace Go

theorem padded_toList (width n : Nat) :
    (padded width n).toList =
      List.replicate (width - (Nat.toDigits 10 n).length) '0' ++ Nat.toDigits 10 n := by
  simp [padded, Nat.toList_repr]

theorem padded_length {width n : Nat} (hw : 0 < width) (h : n < 10 ^ width) :
    (padded width n).toList.length = width := by
  have hlen := (Nat.length_toDigits_le_iff (b := 10) (by decide) hw).mpr h
  simp only [padded_toList, List.length_append, List.length_replicate]
  omega

theorem padded_isDigit (width n : Nat) : (padded width n).toList.all Char.isDigit = true := by
  simp only [padded_toList, List.all_append, Bool.and_eq_true, List.all_eq_true]
  constructor
  · intro c hc
    rw [List.eq_of_mem_replicate hc]
    rfl
  · exact fun c hc => Nat.isDigit_of_mem_toDigits (by decide) (by decide) hc

theorem ofDigitChars_padded (width n : Nat) :
    Nat.ofDigitChars 10 (padded width n).toList 0 = n := by
  rw [padded_toList, Nat.ofDigitChars_append, Nat.ofDigitChars_replicate_zero, Nat.mul_zero]
  exact Nat.ofDigitChars_toDigits (by decide) (by decide)

/-- A number of a fixed width is read back. -/
theorem readDigits_padded {width n : Nat} (hw : 0 < width) (h : n < 10 ^ width)
    (rest : List Char) : readDigits width ((padded width n).toList ++ rest) = some (n, rest) := by
  have hlen := padded_length hw h
  have htake : ((padded width n).toList ++ rest).take width = (padded width n).toList :=
    List.take_left' hlen
  have hdrop : ((padded width n).toList ++ rest).drop width = rest := List.drop_left' hlen
  simp only [readDigits, htake, hdrop, hlen, padded_isDigit, and_self, ↓reduceIte,
    ofDigitChars_padded]

/-- Date and time of day are read back. -/
theorem readStamp_text {s : Stamp} (h : s.Valid) (rest : List Char) :
    readStamp (s.text.toList ++ rest) = some (s, rest) := by
  obtain ⟨-, hyear, -, hmonth, -, hday, hhour, hminute, hsecond⟩ := h
  have hday' : s.day ≤ 31 := by
    refine Nat.le_trans hday ?_
    unfold Stamp.daysIn
    split
    · split <;> decide
    · split <;> decide
  have hyear' : s.year < 10 ^ 4 := by omega
  have hmonth' : s.month < 10 ^ 2 := by omega
  have hday'' : s.day < 10 ^ 2 := by omega
  have hhour' : s.hour < 10 ^ 2 := by omega
  have hminute' : s.minute < 10 ^ 2 := by omega
  have hsecond' : s.second < 10 ^ 2 := by omega
  have hdash : "-".toList = ['-'] := rfl
  have hcolon : ":".toList = [':'] := rfl
  have hT : "T".toList = ['T'] := rfl
  simp only [Stamp.text, String.toList_append, List.append_assoc, hdash, hcolon, hT,
    List.cons_append, List.nil_append, readStamp, Option.bind_eq_bind, Option.bind_some, expect,
    ↓reduceIte, @readDigits_padded 4 _ (by decide) hyear',
    @readDigits_padded 2 _ (by decide) hmonth',
    @readDigits_padded 2 _ (by decide) hday'',
    @readDigits_padded 2 _ (by decide) hhour',
    @readDigits_padded 2 _ (by decide) hminute',
    @readDigits_padded 2 _ (by decide) hsecond']

/-! ## Decimals -/

/-- The decimals of a fraction, without trailing zeros. -/
def fractionDigits (width n : Nat) : List Char :=
  ((padded width n).toList.reverse.dropWhile (· = '0')).reverse

theorem fractionDigits_append (width n : Nat) :
    ∃ zeros, (padded width n).toList = fractionDigits width n ++ List.replicate zeros '0' := by
  have hsplit := List.takeWhile_append_dropWhile (p := (· = '0'))
    (l := (padded width n).toList.reverse)
  have hzeros : (padded width n).toList.reverse.takeWhile (· = '0') =
      List.replicate ((padded width n).toList.reverse.takeWhile (· = '0')).length '0' := by
    refine List.eq_replicate_of_mem fun c hc => ?_
    simpa using List.mem_takeWhile_imp hc
  refine ⟨((padded width n).toList.reverse.takeWhile (· = '0')).length, ?_⟩
  have hrev := congrArg List.reverse hsplit
  rw [List.reverse_append, List.reverse_reverse, hzeros, List.reverse_replicate] at hrev
  exact hrev.symm

theorem fractionDigits_isDigit (width n : Nat) :
    (fractionDigits width n).all Char.isDigit = true := by
  obtain ⟨zeros, h⟩ := fractionDigits_append width n
  have hall := padded_isDigit width n
  rw [h, List.all_append, Bool.and_eq_true] at hall
  exact hall.1

/-- The value of a list of digits is below the next power. -/
private theorem ofDigitChars_lt {digits : List Char} (h : digits.all Char.isDigit = true) :
    Nat.ofDigitChars 10 digits 0 < 10 ^ digits.length := by
  induction digits with
  | nil => decide
  | cons c digits ih =>
    rw [List.all_cons, Bool.and_eq_true] at h
    have hc : c.toNat - '0'.toNat ≤ 9 := by
      have hdigit := h.1
      simp only [Char.isDigit, Bool.and_eq_true, decide_eq_true_eq] at hdigit
      have hnine : c.val.toNat ≤ 57 := UInt32.le_iff_toNat_le.mp hdigit.2
      show c.val.toNat - 48 ≤ 9
      omega
    have hlt := ih h.2
    have hmul := Nat.mul_le_mul_left (10 ^ digits.length) hc
    rw [Nat.ofDigitChars_cons, Nat.ofDigitChars_eq_ofDigitChars_zero, List.length_cons,
      Nat.pow_succ, Nat.mul_zero, Nat.zero_add]
    omega

/-- The first digits of a number are its quotient by a power of ten. -/
private theorem ofDigitChars_take {digits : List Char} (h : digits.all Char.isDigit = true)
    (k : Nat) : Nat.ofDigitChars 10 (digits.take k) 0 =
      Nat.ofDigitChars 10 digits 0 / 10 ^ (digits.length - k) := by
  have hdrop : (digits.drop k).all Char.isDigit = true := by
    rw [List.all_eq_true] at h ⊢
    exact fun c hc => h c (List.mem_of_mem_drop hc)
  have hlt := ofDigitChars_lt hdrop
  have hsplit : Nat.ofDigitChars 10 digits 0 =
      10 ^ (digits.length - k) * Nat.ofDigitChars 10 (digits.take k) 0 +
        Nat.ofDigitChars 10 (digits.drop k) 0 := by
    conv_lhs => rw [← List.take_append_drop k digits, Nat.ofDigitChars_append]
    rw [Nat.ofDigitChars_eq_ofDigitChars_zero, List.length_drop]
  rw [List.length_drop] at hlt
  rw [hsplit, Nat.mul_add_div (Nat.pow_pos (by decide)), Nat.div_eq_of_lt hlt, Nat.add_zero]

/-- Decimals without trailing zeros are read as those with them, cut to the width. -/
theorem decimals_fractionDigits {width n : Nat} (hw : 0 < width) (h : n < 10 ^ width) {k : Nat}
    (hk : k ≤ width) : decimals k (fractionDigits width n) = n / 10 ^ (width - k) := by
  obtain ⟨zeros, hzeros⟩ := fractionDigits_append width n
  have hlen := padded_length hw h
  have htake : (fractionDigits width n ++ List.replicate k '0').take k =
      (padded width n).toList.take k := by
    rw [hzeros, List.length_append, List.length_replicate] at hlen
    have hkept : k - (fractionDigits width n).length ≤ zeros := by omega
    rw [hzeros, List.take_append, List.take_append, List.take_replicate, List.take_replicate,
      Nat.min_eq_left (Nat.sub_le k _), Nat.min_eq_left hkept]
  have hquot := ofDigitChars_take (padded_isDigit width n) k
  rw [hlen, ofDigitChars_padded] at hquot
  rw [decimals, htake, hquot]

/-- What `RFC3339Nano` writes: the stamp of the second and the decimals of its nanoseconds. -/
theorem formatRFC3339Nano_eq (t : Time) :
    formatRFC3339Nano t = (Stamp.ofSeconds (t / 1000000000)).text ++
      fractionText (fractionDigits 9 (t % 1000000000)) ++ "Z" := rfl

/-- A fraction is read back, up to what is not a part of it. -/
theorem readFraction_text {digits : List Char} (h : digits.all Char.isDigit = true) {c : Char}
    (hc : c.isDigit = false) (hpoint : c ≠ '.') (rest : List Char) :
    readFraction ((fractionText digits).toList ++ c :: rest) = some (digits, c :: rest) := by
  by_cases hempty : digits = []
  · subst hempty
    show readFraction (c :: rest) = _
    unfold readFraction
    split
    · rename_i heq
      exact absurd (List.cons.inj heq).1 hpoint
    · rfl
  · have hall : ∀ d ∈ digits, d.isDigit = true := List.all_eq_true.mp h
    have htake : (digits ++ c :: rest).takeWhile Char.isDigit = digits := by
      rw [List.takeWhile_append_of_pos hall]
      simp [hc]
    have hdrop : (digits ++ c :: rest).dropWhile Char.isDigit = c :: rest := by
      rw [List.dropWhile_append_of_pos hall]
      simp [hc]
    have htext : (fractionText digits).toList ++ c :: rest = '.' :: (digits ++ c :: rest) := by
      simp [fractionText, hempty]
    rw [htext]
    simp only [readFraction, htake, hdrop, hempty, ↓reduceIte]

/-- A timestamp in UTC is read as the instant it was written for. -/
theorem parseRFC3339_eq {s : Stamp} (hs : s.Valid) {digits : List Char}
    (hd : digits.all Char.isDigit = true) :
    parseRFC3339 (s.text ++ fractionText digits ++ "Z") =
      some (s.seconds * 1000000000 + decimals 9 digits, 0) := by
  have hlist : (s.text ++ fractionText digits ++ "Z").toList =
      s.text.toList ++ ((fractionText digits).toList ++ ['Z']) := by
    rw [String.toList_append, String.toList_append, List.append_assoc]
    rfl
  have hpos : (0 : Int) * 1000000000 ≤ s.seconds * 1000000000 + decimals 9 digits := by omega
  have hnat : (s.seconds * 1000000000 + decimals 9 digits - 0 * 1000000000 : Int).toNat =
      s.seconds * 1000000000 + decimals 9 digits := by omega
  have hfraction := readFraction_text hd (c := 'Z') (by decide) (by decide) []
  simp only [parseRFC3339, hlist, readStamp_text hs, hfraction, readZone,
    Option.bind_eq_bind, Option.bind_some, hs, hpos, hnat, and_self, ↓reduceIte]

/-- Six decimals are as many microseconds. -/
theorem decimals_padded {micros : Nat} (h : micros < 1000000) :
    decimals 9 (padded 6 micros).toList = micros * 1000 := by
  have hlen : (padded 6 micros).toList.length = 6 := padded_length (by decide) h
  have htake : ((padded 6 micros).toList ++ List.replicate 9 '0').take 9 =
      (padded 6 micros).toList ++ List.replicate 3 '0' := by
    rw [List.take_append, hlen, List.take_of_length_le (by omega), List.take_replicate]
    rfl
  rw [decimals, htake, Nat.ofDigitChars_append, ofDigitChars_padded,
    Nat.ofDigitChars_replicate_zero]
  omega

end Go

/-! ## From one service to the other -/

namespace Py

/-- A part without the first letter of the old text is left alone. -/
private theorem replaceIn_append {c : CodePoint} {cs new p : Str} (h : c ∉ p) (n : Nat)
    (s : Str) : replaceIn (c :: cs) new (p.length + n) (p ++ s) =
      p ++ replaceIn (c :: cs) new n s := by
  induction p with
  | nil => simp
  | cons d p ih =>
    rw [List.mem_cons, not_or] at h
    have hn : (d :: p).length + n = (p.length + n) + 1 := by
      rw [List.length_cons]
      omega
    have hprefix : (c :: cs).isPrefixOf (d :: (p ++ s)) = false := by
      simp [List.isPrefixOf, h.1]
    rw [hn, List.cons_append, replaceIn, hprefix, if_neg Bool.false_ne_true, ih h.2]
    rfl

/-- A text that ends with the old part, whose first letter is nowhere before. -/
theorem replace_suffix {c : CodePoint} {cs new p : Str} (h : c ∉ p) :
    replace (p ++ c :: cs) (c :: cs) new = p ++ new := by
  have hlen : (p ++ c :: cs).length = p.length + ((c :: cs).length) := List.length_append
  have hlast : replaceIn (c :: cs) new (cs.length + 1) (c :: cs) = new := by
    rw [replaceIn, if_pos (List.isPrefixOf_iff_prefix.mpr (List.prefix_refl _)), List.drop_length]
    cases cs <;> simp [replaceIn]
  rw [replace, hlen, List.length_cons, replaceIn_append h, hlast]

theorem ofString_append (s t : String) : ofString (s ++ t) = ofString s ++ ofString t := by
  simp [ofString]

theorem ofChar_inj {c d : Char} (h : ofChar c = ofChar d) : c = d := by
  have hval : c.toNat = d.toNat := Fin.mk.inj h
  exact Char.ext (UInt32.toNat_inj.mp hval)

theorem mem_ofString {c : Char} {s : String} : ofChar c ∈ ofString s ↔ c ∈ s.toList := by
  constructor
  · intro h
    obtain ⟨d, hd, he⟩ := List.mem_map.mp h
    rwa [ofChar_inj he] at hd
  · exact fun h => List.mem_map_of_mem h

/-- The letters of a stamp are digits and its separators. -/
private theorem not_mem_text {c : Char} (hc : c.isDigit = false) (h : c ∉ ['-', 'T', ':', '.'])
    (s : Stamp) {digits : List Char} (hd : digits.all Char.isDigit = true) :
    c ∉ (s.text ++ fractionText digits).toList := by
  have hpadded : ∀ width n, c ∉ (Go.padded width n).toList := by
    intro width n hmem
    have hdigit := List.all_eq_true.mp (Go.padded_isDigit width n) c hmem
    exact Bool.false_ne_true (hc.symm.trans hdigit)
  have hdigits : c ∉ digits := by
    intro hmem
    exact Bool.false_ne_true (hc.symm.trans (List.all_eq_true.mp hd c hmem))
  simp only [List.mem_cons, List.not_mem_nil, or_false, not_or] at h
  have hfraction : c ∉ (fractionText digits).toList := by
    unfold fractionText
    split
    · simp
    · simp [h.2.2.2, hdigits]
  simp [Stamp.text, hpadded, h, hfraction]

/-- Python reads what Go writes as the same instant, up to microseconds. -/
theorem parseTime_formatRFC3339Nano [IsoLib] {t : Time}
    (h : t / 1000000000 < Stamp.lastSecond) :
    parseTime (ofString (Go.formatRFC3339Nano t)) = some (DateTime.utc (t / 1000)) := by
  have hdigits := Go.fractionDigits_isDigit 9 (t % 1000000000)
  have hZ : ofString "Z" = [ofChar 'Z'] := rfl
  have hmem : ofChar 'Z' ∉ ofString ((Stamp.ofSeconds (t / 1000000000)).text ++
      fractionText (Go.fractionDigits 9 (t % 1000000000))) :=
    fun hmem => not_mem_text (by decide) (by decide) _ hdigits (mem_ofString.mp hmem)
  have hdecimals : decimals 6 (Go.fractionDigits 9 (t % 1000000000)) = t / 1000 % 1000000 := by
    have hlt : t % 1000000000 < 10 ^ 9 := Nat.mod_lt _ (by decide)
    rw [@Go.decimals_fractionDigits 9 _ (by decide) hlt 6 (by decide)]
    exact (Nat.mod_mul_right_div_self t 1000 1000000)
  have hseconds : t / 1000 / 1000000 = t / 1000000000 := Nat.div_div_eq_div_mul t 1000 1000000
  rw [parseTime, Go.formatRFC3339Nano_eq, ofString_append, hZ, replace_suffix hmem,
    ← ofString_append, IsoLib.reads _ _ (Stamp.ofSeconds_valid h) hdigits, hdecimals]
  simp only [DateTime.utc, hseconds, Stamp.ofSeconds]

/-- The decimals `isoformat` writes. -/
private def isoDigits (micros : Nat) : List Char :=
  if micros = 0 then [] else (Go.padded 6 micros).toList

private theorem isoformat_utc (micros : Nat) :
    isoformat (DateTime.utc micros) = ofString ((Stamp.ofSeconds (micros / 1000000)).text ++
      fractionText (isoDigits (micros % 1000000)) ++ "+00:00") := by
  have hfraction : (if micros % 1000000 = 0 then "" else "." ++ Go.padded 6 (micros % 1000000)) =
      fractionText (isoDigits (micros % 1000000)) := by
    unfold isoDigits fractionText
    by_cases hzero : micros % 1000000 = 0
    · simp [hzero]
    · have hlt : micros % 1000000 < 10 ^ 6 := Nat.mod_lt _ (by decide)
      have hlen := Go.padded_length (by decide) hlt
      have hne : (Go.padded 6 (micros % 1000000)).toList ≠ [] := by
        intro hnil
        rw [hnil] at hlen
        cases hlen
      simp only [hzero, ↓reduceIte, hne, String.ofList_toList]
  have hoffset : formatOffset 0 = "+00:00" := by decide
  rw [← hfraction, ← hoffset]
  rfl

/-- What `_timestamp` writes. -/
private theorem timestamp_eq (micros : Nat) :
    timestamp micros = ofString ((Stamp.ofSeconds (micros / 1000000)).text ++
      fractionText (isoDigits (micros % 1000000)) ++ "Z") := by
  have hdigits : (isoDigits (micros % 1000000)).all Char.isDigit = true := by
    unfold isoDigits
    split
    · rfl
    · exact Go.padded_isDigit 6 _
  have hoffset : ofString "+00:00" = ofChar '+' :: ofString "00:00" := rfl
  have hmem : ofChar '+' ∉ ofString ((Stamp.ofSeconds (micros / 1000000)).text ++
      fractionText (isoDigits (micros % 1000000))) :=
    fun hmem => not_mem_text (by decide) (by decide) _ hdigits (mem_ofString.mp hmem)
  rw [timestamp, isoformat_utc, ofString_append, hoffset, replace_suffix hmem, ← ofString_append]

end Py

namespace Go

private theorem not_surrogate (c : Char) : Py.isSurrogate (Py.ofChar c) = false := by
  have h := c.valid
  simp only [UInt32.isValidChar, Nat.isValidChar] at h
  have hval : (Py.ofChar c).val = c.val.toNat := rfl
  simp only [Py.isSurrogate, Py.isHighSurrogate, Py.isLowSurrogate, hval, Bool.or_eq_false_iff,
    Bool.and_eq_false_iff, decide_eq_false_iff_not]
  omega

/-- A text without surrogates in front of a string stays as it is. -/
theorem decodeCodePoints_append (cs : List Char) (p : Py.Str) :
    decodeCodePoints (cs.map Py.ofChar ++ p) = cs ++ decodeCodePoints p := by
  induction cs with
  | nil => rfl
  | cons c cs ih =>
    have hc := not_surrogate c
    have hhigh : Py.isHighSurrogate (Py.ofChar c) = false := by
      simp only [Py.isSurrogate, Bool.or_eq_false_iff] at hc
      exact hc.1
    have hchar : Char.ofNat (Py.ofChar c).val = c := Char.ofNat_toNat c
    rw [List.map_cons, List.cons_append, List.cons_append, ← ih]
    -- the decoder looks at the next code point only after a high surrogate
    cases cs.map Py.ofChar ++ p with
    | nil => simp only [decodeCodePoints, hc, Bool.false_eq_true, ↓reduceIte, hchar]
    | cons d rest =>
      simp only [decodeCodePoints, hhigh, hc, Bool.false_and, Bool.false_eq_true, ↓reduceIte,
        hchar]

theorem ofPython_ofString_append (s : String) (p : Py.Str) :
    ofPython (Py.ofString s ++ p) = s ++ ofPython p := by
  rw [ofPython, Py.ofString, decodeCodePoints_append, String.ofList_append, String.ofList_toList]
  rfl

@[simp] theorem ofPython_ofString (s : String) : ofPython (Py.ofString s) = s := by
  have h := ofPython_ofString_append s []
  rw [List.append_nil] at h
  rw [h]
  exact String.append_empty

/-- Go reads what `_timestamp` writes as the instant of the clock, in UTC. -/
theorem parseRFC3339_timestamp {micros : Nat} (h : micros / 1000000 < Stamp.lastSecond) :
    parseRFC3339 (ofPython (Py.timestamp micros)) = some (micros * 1000, 0) := by
  have hlt : micros % 1000000 < 1000000 := Nat.mod_lt _ (by decide)
  have hdecimals : (Py.isoDigits (micros % 1000000)).all Char.isDigit = true ∧
      decimals 9 (Py.isoDigits (micros % 1000000)) = micros % 1000000 * 1000 := by
    unfold Py.isoDigits
    split
    · rename_i hzero
      rw [hzero]
      exact ⟨rfl, rfl⟩
    · exact ⟨padded_isDigit 6 _, decimals_padded hlt⟩
  have hinstant : micros / 1000000 * 1000000000 + micros % 1000000 * 1000 = micros * 1000 := by
    omega
  rw [Py.timestamp_eq, ofPython_ofString,
    parseRFC3339_eq (Stamp.ofSeconds_valid h) hdecimals.1, Stamp.seconds_ofSeconds, hdecimals.2,
    hinstant]

/-- Go reads back the time it writes. -/
theorem parseRFC3339_formatRFC3339Nano {t : Time} (h : t / 1000000000 < Stamp.lastSecond) :
    parseRFC3339 (formatRFC3339Nano t) = some (t, 0) := by
  have hlt : t % 1000000000 < 10 ^ 9 := Nat.mod_lt _ (by decide)
  have hdecimals := @decimals_fractionDigits 9 _ (by decide) hlt 9 (by decide)
  rw [formatRFC3339Nano_eq, parseRFC3339_eq (Stamp.ofSeconds_valid h)
    (fractionDigits_isDigit 9 _), Stamp.seconds_ofSeconds, hdecimals]
  simp [Nat.div_add_mod']

end Go

namespace Py

/-- `fromisoformat` for the extended form alone. -/
def readExtended (s : Str) : Option DateTime := do
  let (stamp, cs) ← Go.readStamp (Go.decodeCodePoints s)
  let (digits, cs) ← Go.readFraction cs
  let offset ← Go.readZone cs
  if stamp.Valid then
    some { year := stamp.year, month := stamp.month, day := stamp.day, hour := stamp.hour
           minute := stamp.minute, second := stamp.second, microsecond := decimals 6 digits
           utcoffset := some (offset * 1000000) }
  else none

/-- Reading the extended form alone is one way to implement `fromisoformat`. -/
@[reducible] def extendedIso : IsoLib where
  fromisoformat := readExtended
  reads s digits hs hd := by
    have hlist : Go.decodeCodePoints (ofString (s.text ++ fractionText digits ++ "+00:00")) =
        s.text.toList ++ ((fractionText digits).toList ++ '+' :: "00:00".toList) := by
      have h := Go.decodeCodePoints_append (s.text ++ fractionText digits ++ "+00:00").toList []
      rw [List.append_nil] at h
      rw [ofString, h, String.toList_append, String.toList_append, List.append_assoc]
      simp [Go.decodeCodePoints]
    have hfraction := Go.readFraction_text hd (c := '+') (by decide) (by decide) "00:00".toList
    have hzone : Go.readZone ('+' :: "00:00".toList) = some 0 := by decide
    simp only [readExtended, hlist, Go.readStamp_text hs, hfraction, hzone, Option.bind_eq_bind,
      Option.bind_some, hs, ↓reduceIte, Int.zero_mul]

end Py

end EnjoyThings
