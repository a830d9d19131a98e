import Outbox.Proofs.Decimal.Digits
import Outbox.Proofs.Time.Calendar
import Outbox.Time.Format
import Outbox.Time.Read

/-!
# Version markers read back

The marker of a moment is in the strict format, and reading it gives the moment cut to microseconds,
a leap second included.

* `Scan.Takes` — a scanner takes a text from the front of every text that begins with it;
* `Timestamp.timestamp_fields` — date and time of day show the moment that they are made from;
* `Scan.year_yearText` — a year reads back, in four digits or with a sign;
* `readVersion?_version` — reading the marker of a moment in the years 0 to 9999;
* `readVersion?_version_of_sign` — the markers of other years do not read back.
-/

namespace Outbox.Time

open Outbox.Decimal Outbox.Text

/-! ### Scanning what was written -/

namespace Scan

variable {α β : Type}

/-- A scanner takes a text and gives a value, whatever follows. -/
def Takes (scan : Scanner α) (text : List Char) (a : α) : Prop :=
  ∀ rest, scan (text ++ rest) = .ok (a, rest)

/-- A scanner that has taken its text hands the rest to the next one. -/
theorem Takes.bind {scan : Scanner α} {text : List Char} {a : α} (h : Takes scan text a)
    (next : α → Scanner β) (rest : List Char) :
    (scan >>= next) (text ++ rest) = next a rest := by
  show Except.bind (scan (text ++ rest)) (fun p => next p.1 p.2) = _
  rw [h rest]
  rfl

theorem bind_ok {scan : Scanner α} {text rest : List Char} {a : α} (h : scan text = .ok (a, rest))
    (next : α → Scanner β) : (scan >>= next) text = next a rest := by
  show Except.bind (scan text) (fun p => next p.1 p.2) = _
  rw [h]
  rfl

theorem takes_char (c : Char) : Takes (char c) [c] () := by
  intro rest
  show (if c = c then _ else _) = _
  rw [if_pos rfl]
  rfl

theorem takes_oneOf {choices : List Char} {c : Char} (h : c ∈ choices) :
    Takes (oneOf choices) [c] () := by
  intro rest
  show (if c ∈ choices then _ else _) = _
  rw [if_pos h]
  rfl

theorem le_byteLength (cs : List Char) : cs.length ≤ Utf8.byteLength cs := by
  induction cs with
  | nil => exact Nat.le_refl 0
  | cons c cs ih =>
      have hpos := c.utf8Size_pos
      rw [Utf8.byteLength, List.length_cons]
      omega

/-- Digits are all there is to take of a text whose next character is none. -/
theorem leadingDigits_append {ds rest : List Char} (hds : ∀ c ∈ ds, c.isDigit = true)
    {most : Option Nat} (hend : (∃ n, most = some n ∧ ds.length = n) ∨
      ((∀ n, most = some n → ds.length ≤ n) ∧ rest.takeWhile Char.isDigit = [])) :
    leadingDigits most (ds ++ rest) = ds := by
  have hdigits : (ds ++ rest).takeWhile Char.isDigit = ds ++ rest.takeWhile Char.isDigit :=
    List.takeWhile_append_of_pos hds
  rcases hend with ⟨n, rfl, rfl⟩ | ⟨hmost, hrest⟩
  · show ((ds ++ rest).takeWhile Char.isDigit).take ds.length = ds
    rw [hdigits, List.take_left]
  · rw [hrest, List.append_nil] at hdigits
    cases most with
    | none => exact hdigits
    | some n =>
        show ((ds ++ rest).takeWhile Char.isDigit).take n = ds
        rw [hdigits, List.take_of_length_le (hmost n rfl)]

theorem number_append {least : Nat} {most : Option Nat} {ds rest : List Char}
    (hleast : least ≤ ds.length) (h : leadingDigits most (ds ++ rest) = ds) :
    number least most (ds ++ rest) = .ok (ofDigits ds, rest) := by
  have hlength := le_byteLength (ds ++ rest)
  rw [List.length_append] at hlength
  rw [number, h, if_neg (by omega), if_neg (by omega), List.drop_left]

/-- A number that was written in a width. -/
theorem takes_number {width n : Nat} (hwidth : 0 < width) (h : n < 10 ^ width) :
    Takes (number width (some width)) (padded width n) n := by
  intro rest
  have hlength := length_padded hwidth h
  have hdigits : leadingDigits (some width) (padded width n ++ rest) = padded width n :=
    leadingDigits_append (fun c => isDigit_of_mem_padded) (.inl ⟨_, rfl, hlength⟩)
  rw [number_append (by omega) hdigits, ofDigits_padded]

theorem takes_pair {low high n : Nat} (hn : low ≤ n ∧ n ≤ high) (hhigh : high < 100) :
    Takes (pair low high) (padded 2 n) n := by
  intro rest
  have hwidth : n < 10 ^ 2 := by omega
  have hnumber := takes_number (by decide) hwidth rest
  show Except.bind (number 2 (some 2) (padded 2 n ++ rest)) _ = _
  rw [hnumber]
  show (if low ≤ n ∧ n ≤ high then (pure n : Scanner Nat) else fail .outOfRange) rest = _
  rw [if_pos hn]
  rfl

/-- A fraction of some digits, up to nine, before a character that is none. -/
theorem fraction_padded {width n : Nat} {rest : List Char} (hwidth : 0 < width ∧ width ≤ 9)
    (h : n < 10 ^ width) (hrest : rest.takeWhile Char.isDigit = []) :
    fraction ('.' :: padded width n ++ rest) = .ok (n * 10 ^ (9 - width), rest) := by
  have hlength := length_padded hwidth.1 h
  have hdigits : leadingDigits (some 9) (padded width n ++ rest) = padded width n :=
    leadingDigits_append (fun c => isDigit_of_mem_padded)
      (.inr ⟨fun k hk => by cases hk; omega, hrest⟩)
  have hdrop : rest.dropWhile Char.isDigit = rest := by
    have happend := List.takeWhile_append_dropWhile (p := Char.isDigit) (l := rest)
    rwa [hrest] at happend
  show fractionDigits (padded width n ++ rest) = _
  rw [fractionDigits, number_append (by omega) hdigits, ofDigits_padded]
  dsimp only
  rw [hdigits, hlength, hdrop]
  rfl

theorem bind_error {scan : Scanner α} {text : List Char} {fault : Fault}
    (h : scan text = .error fault) (next : α → Scanner β) :
    (scan >>= next) text = .error fault := by
  show Except.bind (scan text) (fun p => next p.1 p.2) = _
  rw [h]
  rfl

theorem isBlank_of_isDigit {c : Char} (h : c.isDigit = true) : isBlank c = false := by
  rw [Char.isDigit, Bool.and_eq_true, decide_eq_true_iff, decide_eq_true_iff] at h
  have hlow : 48 ≤ c.toNat := h.1
  have hhigh : c.toNat ≤ 57 := h.2
  refine Bool.eq_false_iff.mpr ?_
  simp only [isBlank, ne_eq, Bool.or_eq_true, Bool.and_eq_true, decide_eq_true_iff, beq_iff_eq]
  omega

/-- Numbers have no blanks in front. -/
theorem trimStart_padded (width n : Nat) (rest : List Char) :
    trimStart (padded width n ++ rest) = padded width n ++ rest := by
  obtain ⟨c, cs, hpadded, hdigit⟩ := exists_padded width n
  rw [hpadded]
  exact List.dropWhile_cons_of_neg (by rw [isBlank_of_isDigit hdigit]; decide)

theorem takes_short {low high n : Nat} (hn : low ≤ n ∧ n ≤ high) (hhigh : high < 100) :
    Takes (short low high) (padded 2 n) n := by
  intro rest
  have hlength : (padded 2 n).length = 2 := length_padded (by decide) (by omega)
  have hdigits : leadingDigits (some 2) (padded 2 n ++ rest) = padded 2 n :=
    leadingDigits_append (fun c => isDigit_of_mem_padded) (.inl ⟨2, rfl, hlength⟩)
  have hnumber : number 1 (some 2) (padded 2 n ++ rest) = .ok (n, rest) := by
    rw [number_append (by omega) hdigits, ofDigits_padded]
  have hblanks : blanks (padded 2 n ++ rest) = .ok ((), padded 2 n ++ rest) := by
    rw [blanks, trimStart_padded]
  rw [short, bind_ok hblanks, bounded, bind_ok hnumber, if_pos hn]
  rfl

/-- A signed number is read up to the first character that is no digit. -/
theorem number_padded {width n : Nat} {rest : List Char}
    (hrest : rest.takeWhile Char.isDigit = []) :
    number 1 none (padded width n ++ rest) = .ok (n, rest) := by
  have hdigits : leadingDigits none (padded width n ++ rest) = padded width n :=
    leadingDigits_append (fun c => isDigit_of_mem_padded) (.inr ⟨nofun, hrest⟩)
  have hpos : 0 < (digits n).length := List.length_pos_iff.mpr (digits_ne_nil n)
  have hlength : 1 ≤ (padded width n).length := by
    rw [padded, List.length_append]
    omega
  rw [number_append hlength hdigits, ofDigits_padded]

theorem year_of_sign {sign : Char} {cs rest : List Char} {n : Nat} {y : Int}
    (hsign : sign = '-' ∧ y = -(n : Int) ∨ sign = '+' ∧ y = n)
    (h : number 1 none cs = .ok (n, rest)) :
    year (sign :: cs)
      = if -0x80000000 ≤ y ∧ y < 0x80000000 then .ok (y, rest) else .error .outOfRange := by
  rcases hsign with ⟨rfl, rfl⟩ | ⟨rfl, rfl⟩
  · have htrim : trimStart ('-' :: cs) = '-' :: cs := rfl
    simp only [year, htrim, h, Except.map]
  · have htrim : trimStart ('+' :: cs) = '+' :: cs := rfl
    simp only [year, htrim, h, Except.map]

theorem year_of_digit {c : Char} {cs rest : List Char} {n : Nat} (hc : c.isDigit = true)
    (htrim : trimStart (c :: cs) = c :: cs) (h : number 1 (some 4) (c :: cs) = .ok (n, rest)) :
    year (c :: cs)
      = if -0x80000000 ≤ (n : Int) ∧ (n : Int) < 0x80000000 then .ok ((n : Int), rest)
        else .error .outOfRange := by
  have hminus : c ≠ '-' := by
    rintro rfl
    cases hc
  have hplus : c ≠ '+' := by
    rintro rfl
    cases hc
  simp only [year, htrim]
  -- a digit is no sign, so only the last way of reading is left
  split
  · rename_i fault hscan
    split at hscan
    · exact absurd (List.cons.inj ‹_›).1 hminus
    · exact absurd (List.cons.inj ‹_›).1 hplus
    · rw [h] at hscan
      cases hscan
  · rename_i hscan
    split at hscan
    · exact absurd (List.cons.inj ‹_›).1 hminus
    · exact absurd (List.cons.inj ‹_›).1 hplus
    · rw [h] at hscan
      cases hscan
      rfl

/-- **Years**, in four digits or with a sign. -/
theorem year_yearText {y : Int} {rest : List Char} (hrest : rest.takeWhile Char.isDigit = []) :
    year (yearText y ++ rest)
      = if -0x80000000 ≤ y ∧ y < 0x80000000 then .ok (y, rest) else .error .outOfRange := by
  rw [yearText]
  by_cases hfour : 0 ≤ y ∧ y ≤ 9999
  · have hlength : (padded 4 y.toNat).length = 4 := length_padded (by decide) (by omega)
    have hdigits : leadingDigits (some 4) (padded 4 y.toNat ++ rest) = padded 4 y.toNat :=
      leadingDigits_append (fun c => isDigit_of_mem_padded) (.inl ⟨4, rfl, hlength⟩)
    have hnumber : number 1 (some 4) (padded 4 y.toNat ++ rest) = .ok (y.toNat, rest) := by
      rw [number_append (by omega) hdigits, ofDigits_padded]
    have htrim := trimStart_padded 4 y.toNat rest
    have hy : ((y.toNat : Nat) : Int) = y := by omega
    rw [if_pos hfour]
    cases hpadded : padded 4 y.toNat with
    | nil => simp [hpadded] at hlength
    | cons c cs =>
        have hdigit : c.isDigit = true := isDigit_of_mem_padded (hpadded ▸ List.mem_cons_self)
        rw [hpadded] at hnumber htrim
        have hyear := year_of_digit hdigit htrim hnumber
        rwa [hy] at hyear
  · rw [if_neg hfour]
    refine year_of_sign ?_ (number_padded hrest)
    split
    · exact .inl ⟨rfl, by omega⟩
    · exact .inr ⟨rfl, by omega⟩

end Scan

/-! ### Moments and their fields -/

/-- What the fields of a moment are between, whatever the nanoseconds. -/
structure Fields.InRange (f : Fields) : Prop where
  month : 1 ≤ f.date.month ∧ f.date.month ≤ 12
  day : 1 ≤ f.date.day ∧ f.date.day ≤ 31
  hour : f.hour ≤ 23
  minute : f.minute ≤ 59
  second : f.second ≤ 60

theorem daysInMonth_le (year : Int) (month : Nat) : daysInMonth year month ≤ 31 := by
  unfold daysInMonth
  split
  · split <;> decide
  all_goals decide

namespace Timestamp

variable {t : Timestamp}

theorem fields_second (h : t.Valid) :
    t.fields.second = (t.seconds % 60).toNat + t.nanos / nanosPerSecond ∧
      t.nanos / nanosPerSecond ≤ 1 ∧ (t.nanos / nanosPerSecond = 1 → t.seconds % 60 = 59) := by
  obtain ⟨-, -, hnanos, hleap⟩ := h
  have hsecond : (t.seconds % 86400).toNat % 60 = (t.seconds % 60).toNat := by omega
  refine ⟨?_, ?_, fun hone => hleap ?_⟩
  · rw [fields, hsecond]
  · rw [nanosPerSecond] at hnanos ⊢
    omega
  · rw [nanosPerSecond] at hone ⊢
    omega

theorem fields_inRange (h : t.Valid) : t.fields.InRange := by
  obtain ⟨hsecond, hone, hleap⟩ := fields_second h
  have hday := Date.ofDays_day (t.seconds / 86400)
  refine ⟨Date.ofDays_month _, ⟨hday.1, hday.2.trans (daysInMonth_le _ _)⟩, ?_, ?_, ?_⟩
  · show (t.seconds % 86400).toNat / 3600 ≤ 23
    omega
  · show (t.seconds % 86400).toNat / 60 % 60 ≤ 59
    omega
  · omega

/-- **Fields show their moment**, to whatever fraction they are cut. -/
theorem timestamp_fields (h : t.Valid) (nanos : Nat) :
    { t.fields with nanos }.timestamp
      = ⟨t.seconds, nanos + t.nanos / nanosPerSecond * nanosPerSecond⟩ := by
  obtain ⟨hsecond, hone, hleap⟩ := fields_second h
  have hseconds : { t.fields with nanos }.seconds = t.seconds := by
    show (Date.ofDays (t.seconds / 86400)).toDays * 86400
      + ((t.seconds % 86400).toNat / 3600 * 3600 + (t.seconds % 86400).toNat / 60 % 60 * 60
        + min t.fields.second 59 : Nat) = _
    rw [Date.toDays_ofDays, hsecond]
    generalize t.nanos / nanosPerSecond = leap at hone hleap
    obtain ⟨ofDay, hofDay⟩ : ∃ ofDay : Nat, t.seconds % 86400 = ofDay :=
      ⟨(t.seconds % 86400).toNat, by omega⟩
    have hmin : min ((t.seconds % 60).toNat + leap) 59 = ofDay % 60 := by omega
    rw [hofDay, Int.toNat_natCast, hmin]
    omega
  rw [Fields.timestamp, hseconds]
  show (⟨t.seconds, nanos + if t.fields.second = 60 then nanosPerSecond else 0⟩ : Timestamp) = _
  rw [hsecond]
  generalize t.nanos / nanosPerSecond = leap at hone hleap
  by_cases hlast : leap = 1
  · rw [if_pos (by omega), hlast, Nat.one_mul]
  · rw [if_neg (by omega), show leap = 0 by omega, Nat.zero_mul]

/-- The years whose moments have four digits. -/
def InFourDigits (t : Timestamp) : Prop := 0 ≤ t.fields.date.year ∧ t.fields.date.year ≤ 9999

instance (t : Timestamp) : Decidable t.InFourDigits := by unfold InFourDigits; infer_instance

theorem fields_date_valid (h : t.Valid) : t.fields.date.Valid := by
  obtain ⟨hfirst, hlast, -, -⟩ := h
  have hdays : firstDay ≤ t.seconds / 86400 ∧ t.seconds / 86400 ≤ lastDay := by omega
  have hyear := Date.ofDays_year hdays
  exact ⟨hyear.1, hyear.2, Date.ofDays_day _⟩

/-- The years of the calendar are small numbers. -/
theorem fields_year (h : t.Valid) :
    -0x80000000 ≤ t.fields.date.year ∧ t.fields.date.year < 0x80000000 := by
  obtain ⟨hleast, hgreatest, -⟩ := fields_date_valid h
  rw [show firstYear = -262143 from rfl] at hleast
  rw [show lastYear = 262142 from rfl] at hgreatest
  omega

/-! ### Reading markers -/

/-- Date and clock in the strict format, up to the fraction. -/
theorem scanStrictFields_append {f : Fields} (hf : f.InRange)
    (hyear : 0 ≤ f.date.year ∧ f.date.year ≤ 9999) {separator : Char}
    (hseparator : separator ∈ ['T', 't', ' ']) {tail rest : List Char} {nanos : Nat}
    (hfraction : Scan.fraction tail = .ok (nanos, rest)) :
    scanStrictFields (f.date.text ++ separator :: f.clockText ++ tail)
      = .ok ({ f with nanos }, rest) := by
  obtain ⟨year, hy⟩ : ∃ year : Nat, f.date.year = year := ⟨f.date.year.toNat, by omega⟩
  have htext : f.date.text ++ separator :: f.clockText ++ tail
      = padded 4 year ++ (['-'] ++ (padded 2 f.date.month ++ (['-'] ++ (padded 2 f.date.day ++
        ([separator] ++ (padded 2 f.hour ++ ([':'] ++ (padded 2 f.minute ++ ([':'] ++
        (padded 2 f.second ++ tail)))))))))) := by
    rw [Date.text, yearText, if_pos hyear, hy, Int.toNat_natCast, Fields.clockText]
    simp only [List.append_assoc, List.cons_append, List.nil_append]
  rw [htext, scanStrictFields,
    (Scan.takes_number (n := year) (by decide) (by omega)).bind,
    (Scan.takes_char '-').bind, (Scan.takes_pair hf.month (by decide)).bind,
    (Scan.takes_char '-').bind, (Scan.takes_pair hf.day (by decide)).bind,
    (Scan.takes_oneOf hseparator).bind, (Scan.takes_pair ⟨Nat.zero_le _, hf.hour⟩ (by decide)).bind,
    (Scan.takes_char ':').bind, (Scan.takes_pair ⟨Nat.zero_le _, hf.minute⟩ (by decide)).bind,
    (Scan.takes_char ':').bind, (Scan.takes_pair ⟨Nat.zero_le _, hf.second⟩ (by decide)).bind,
    Scan.bind_ok hfraction, ← hy]
  rfl

theorem version_eq (t : Timestamp) :
    t.version = t.fields.date.text ++ 'T' :: t.fields.clockText
      ++ ('.' :: padded 6 (t.fields.nanos / 1000) ++ ['Z']) := by
  rw [version]
  simp only [List.append_assoc, List.cons_append]

/-- The fraction of a marker, before the letter at its end. -/
theorem fraction_version (t : Timestamp) :
    Scan.fraction ('.' :: padded 6 (t.fields.nanos / 1000) ++ ['Z'])
      = .ok (t.fields.nanos / 1000 * 1000, ['Z']) := by
  refine Scan.fraction_padded (by decide) ?_ rfl
  show t.nanos % nanosPerSecond / 1000 < 10 ^ 6
  rw [nanosPerSecond]
  omega

/-- The moment that fields show on a clock, less its offset. -/
theorem atOffset_fields (h : t.Valid) {offset : Int} (hoffset : -86400 < offset ∧ offset < 86400)
    (hrange : firstDay * 86400 ≤ t.seconds - offset ∧ t.seconds - offset < (lastDay + 1) * 86400)
    (nanos : Nat) :
    Fields.atOffset { t.fields with nanos } offset
      = .ok ⟨t.seconds - offset, nanos + t.nanos / nanosPerSecond * nanosPerSecond⟩ := by
  rw [Fields.atOffset, if_neg (not_not.mpr (fields_date_valid h)), if_neg (by omega),
    timestamp_fields h]
  exact if_pos hrange

theorem readStrict_version (h : t.Valid) (hyear : t.InFourDigits) :
    readStrict t.version = .ok t.truncateMicros := by
  have hscan : Scan.run scanStrict t.version
      = .ok ({ t.fields with nanos := t.fields.nanos / 1000 * 1000 }, 0) := by
    rw [version_eq, Scan.run, scanStrict,
      Scan.bind_ok (scanStrictFields_append (fields_inRange h) hyear (by decide)
        t.fraction_version)]
    rfl
  have hnanos : t.nanos % nanosPerSecond / 1000 * 1000 + t.nanos / nanosPerSecond * nanosPerSecond
      = t.nanos / 1000 * 1000 := by
    rw [nanosPerSecond]
    omega
  have hrange : firstDay * 86400 ≤ t.seconds - 0 ∧ t.seconds - 0 < (lastDay + 1) * 86400 :=
    ⟨by have := h.1; omega, by have := h.2.1; omega⟩
  rw [readStrict, hscan]
  show Fields.atOffset { t.fields with nanos := _ } 0 = _
  rw [atOffset_fields h (by decide) hrange, Int.sub_zero, truncateMicros,
    show t.fields.nanos = t.nanos % nanosPerSecond from rfl, hnanos]

/-! ### Markers of other years -/

/-- The strict format has no signs. -/
theorem readStrict_version_of_sign (hyear : ¬t.InFourDigits) :
    ∃ fault, readStrict t.version = .error fault := by
  obtain ⟨sign, cs, hcs, hsign⟩ : ∃ sign cs, t.version = sign :: cs ∧ sign.isDigit = false := by
    rw [InFourDigits] at hyear
    rw [version_eq, Date.text, yearText, if_neg hyear]
    split
    · exact ⟨_, _, rfl, rfl⟩
    · exact ⟨_, _, rfl, rfl⟩
  obtain ⟨fault, hnumber⟩ : ∃ fault, Scan.number 4 (some 4) t.version = .error fault := by
    have hnone : Scan.leadingDigits (some 4) t.version = [] := by
      rw [hcs, Scan.leadingDigits, List.takeWhile_cons_of_neg (by simp [hsign])]
      rfl
    rw [Scan.number, hnone]
    split
    · exact ⟨_, rfl⟩
    · exact ⟨_, rfl⟩
  refine ⟨fault, ?_⟩
  have hscan : scanStrict t.version = .error fault :=
    Scan.bind_error (Scan.bind_error hnumber _) _
  rw [readStrict, Scan.run, hscan]
  rfl

/-- Date and clock without an offset, up to the fraction. -/
theorem scanNaive_append {f : Fields} (hf : f.InRange)
    (hyear : -0x80000000 ≤ f.date.year ∧ f.date.year < 0x80000000) {tail rest : List Char}
    {nanos : Nat} (hfraction : Scan.fraction tail = .ok (nanos, rest)) :
    scanNaive (f.date.text ++ 'T' :: f.clockText ++ tail) = .ok ({ f with nanos }, rest) := by
  have hdate : ∀ rest', scanDate (f.date.text ++ rest') = .ok (f.date, rest') := by
    intro rest'
    have htext : f.date.text ++ rest' = yearText f.date.year ++ (['-'] ++
        (padded 2 f.date.month ++ (['-'] ++ (padded 2 f.date.day ++ rest')))) := by
      rw [Date.text]
      simp only [List.append_assoc, List.cons_append, List.nil_append]
    have hscanned : Scan.year (yearText f.date.year ++ (['-'] ++ (padded 2 f.date.month ++
        (['-'] ++ (padded 2 f.date.day ++ rest'))))) = _ := Scan.year_yearText rfl
    rw [if_pos hyear] at hscanned
    rw [htext, scanDate, Scan.bind_ok hscanned, (Scan.takes_char '-').bind,
      (Scan.takes_short hf.month (by decide)).bind, (Scan.takes_char '-').bind,
      (Scan.takes_short hf.day (by decide)).bind]
    rfl
  have htext : f.date.text ++ 'T' :: f.clockText ++ tail
      = f.date.text ++ (['T'] ++ (padded 2 f.hour ++ ([':'] ++ (padded 2 f.minute ++ ([':'] ++
        (padded 2 f.second ++ tail)))))) := by
    rw [Fields.clockText]
    simp only [List.append_assoc, List.cons_append, List.nil_append]
  rw [htext, scanNaive, Scan.bind_ok (hdate _), (Scan.takes_char 'T').bind,
    (Scan.takes_short ⟨Nat.zero_le _, hf.hour⟩ (by decide)).bind, (Scan.takes_char ':').bind,
    (Scan.takes_short ⟨Nat.zero_le _, hf.minute⟩ (by decide)).bind, (Scan.takes_char ':').bind,
    (Scan.takes_short ⟨Nat.zero_le _, hf.second⟩ (by decide)).bind, Scan.bind_ok hfraction]
  rfl

/-- Without an offset there is no place for the letter at the end of a marker. -/
theorem readNaive_version (h : t.Valid) : readNaive t.version = .error .tooLong := by
  have hscan := scanNaive_append (fields_inRange h) (fields_year h) t.fraction_version
  rw [readNaive, Scan.run, version_eq, hscan]
  rfl

/-! ### Cutting to microseconds -/

theorem truncateMicros_eq_self : t.truncateMicros = t ↔ t.nanos % 1000 = 0 := by
  have hnanos : t.truncateMicros = t ↔ t.nanos / 1000 * 1000 = t.nanos :=
    ⟨congrArg Timestamp.nanos, fun hmicros => by rw [truncateMicros, hmicros]⟩
  rw [hnanos]
  omega

/-- A leap second stays one, and no other second becomes one. -/
theorem truncateMicros_leap : nanosPerSecond ≤ t.truncateMicros.nanos ↔ nanosPerSecond ≤ t.nanos := by
  rw [truncateMicros, nanosPerSecond]
  dsimp only
  omega

end Timestamp

/-- **Markers read back**, cut to microseconds. -/
theorem readVersion?_version {t : Timestamp} (h : t.Valid) (hyear : t.InFourDigits) :
    readVersion? t.version = some t.truncateMicros := by
  rw [readVersion?, Timestamp.readStrict_version h hyear]

/-- **Markers of other years** do not read back. -/
theorem readVersion?_version_of_sign {t : Timestamp} (h : t.Valid) (hyear : ¬t.InFourDigits) :
    readVersion? t.version = none := by
  obtain ⟨fault, hstrict⟩ := Timestamp.readStrict_version_of_sign hyear
  rw [readVersion?, hstrict, Timestamp.readNaive_version h]
  rfl

/-- **Every marker**, read back. -/
theorem readVersion?_version_eq {t : Timestamp} (h : t.Valid) :
    readVersion? t.version = if t.InFourDigits then some t.truncateMicros else none := by
  by_cases hyear : t.InFourDigits
  · rw [if_pos hyear, readVersion?_version h hyear]
  · rw [if_neg hyear, readVersion?_version_of_sign h hyear]

/-- A marker shows its moment exactly for whole microseconds, in the years of four digits. -/
theorem readVersion?_version_eq_some_iff {t : Timestamp} (h : t.Valid) :
    readVersion? t.version = some t ↔ t.nanos % 1000 = 0 ∧ t.InFourDigits := by
  rw [readVersion?_version_eq h]
  by_cases hyear : t.InFourDigits
  · rw [if_pos hyear, Option.some.injEq, Timestamp.truncateMicros_eq_self, and_iff_left hyear]
  · rw [if_neg hyear]
    exact ⟨nofun, fun hexact => absurd hexact.2 hyear⟩

end Outbox.Time
