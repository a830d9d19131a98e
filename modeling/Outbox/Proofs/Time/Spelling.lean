import Mathlib.Data.List.Basic
import Outbox.Proofs.Time.Version

/-!
# The spellings of a moment

A moment is shown by a clock that stands some whole minutes from UTC, with a fraction in as many digits
as the writer likes, and with the offset behind it; or by a clock in UTC with nothing behind it.  However
far the offset carries the clock, over midnight, the end of a year or a leap day, reading takes it away
again; and a leap second is one on every clock.

* `ShowsFraction`, `ShowsOffset` — the choices of a writer;
* `SpelledAt`, `SpelledBare` — the texts of a moment, with an offset and without;
* `readVersion?_spelledAt`, `readVersion?_spelledBare` — each of them reads back as the moment.
-/

namespace Outbox.Time

open Outbox.Decimal Outbox.Text

/-! ### What a writer chooses -/

/-- A fraction of a second in one to nine digits that show it exactly; none is needed for a whole
second. -/
inductive ShowsFraction : Nat → List Char → Prop
  | whole : ShowsFraction 0 []
  | digits {width n : Nat} (hwidth : 0 < width ∧ width ≤ 9) (hn : n < 10 ^ width) :
      ShowsFraction (n * 10 ^ (9 - width)) ('.' :: padded width n)

/-- An offset, in minutes east of UTC: a letter for none, or a sign, hours and minutes.  The minus sign
has a character of its own beside the hyphen. -/
inductive ShowsOffset : Int → List Char → Prop
  | letter {c : Char} (h : c ∈ ['Z', 'z']) : ShowsOffset 0 [c]
  | east {hours minutes : Nat} (hhours : hours ≤ 23) (hminutes : minutes ≤ 59) :
      ShowsOffset (hours * 60 + minutes : Nat)
        ('+' :: (padded 2 hours ++ ':' :: padded 2 minutes))
  | west {sign : Char} (hsign : sign ∈ ['-', '\u2212']) {hours minutes : Nat} (hhours : hours ≤ 23)
      (hminutes : minutes ≤ 59) :
      ShowsOffset (-(hours * 60 + minutes : Nat))
        (sign :: (padded 2 hours ++ ':' :: padded 2 minutes))

/-- Every offset of less than a day can be shown. -/
theorem exists_showsOffset {minutes : Int} (h : -1439 ≤ minutes ∧ minutes ≤ 1439) :
    ∃ text, ShowsOffset minutes text := by
  have hhours : minutes.natAbs / 60 ≤ 23 := by omega
  have hminutes : minutes.natAbs % 60 ≤ 59 := by omega
  by_cases hsign : 0 ≤ minutes
  · have heq : ((minutes.natAbs / 60 * 60 + minutes.natAbs % 60 : Nat) : Int) = minutes := by omega
    exact ⟨_, heq ▸ ShowsOffset.east hhours hminutes⟩
  · have heq : -((minutes.natAbs / 60 * 60 + minutes.natAbs % 60 : Nat) : Int) = minutes := by omega
    exact ⟨_, heq ▸ ShowsOffset.west List.mem_cons_self hhours hminutes⟩

namespace ShowsOffset

variable {minutes : Int} {text : List Char}

theorem lt_day (h : ShowsOffset minutes text) : -1439 ≤ minutes ∧ minutes ≤ 1439 := by
  cases h with
  | letter => omega
  | east hhours hminutes => omega
  | west _ hhours hminutes => omega

/-- An offset begins with a letter or a sign, so what holds of these holds of its first character. -/
theorem exists_first (h : ShowsOffset minutes text) {p : Char → Bool}
    (hp : ['Z', 'z', '+', '-', '\u2212'].all p = true) : ∃ c cs, text = c :: cs ∧ p c = true := by
  rw [List.all_eq_true] at hp
  cases h with
  | letter hc => exact ⟨_, _, rfl, hp _ (List.mem_append_left _ hc)⟩
  | east => exact ⟨_, _, rfl, hp '+' (by decide)⟩
  | west hsign => exact ⟨_, _, rfl, hp _ (List.mem_append_right ['Z', 'z', '+'] hsign)⟩

/-- An offset ends a fraction, and begins none. -/
theorem ends_digits (h : ShowsOffset minutes text) :
    ∃ c cs, text = c :: cs ∧ c.isDigit = false ∧ c ≠ '.' := by
  obtain ⟨c, cs, htext, hc⟩ := h.exists_first (p := fun c => !c.isDigit && c != '.') rfl
  rw [Bool.and_eq_true, Bool.not_eq_true', bne_iff_ne] at hc
  exact ⟨c, cs, htext, hc⟩

end ShowsOffset

/-! ### Scanning it -/

namespace Scan

/-- A fraction is read to the nanosecond, if what follows it is neither a digit nor a point. -/
theorem fraction_of_shows {nanos : Nat} {text : List Char} (h : ShowsFraction nanos text)
    {rest : List Char} (hdigits : rest.takeWhile Char.isDigit = [])
    (hpoint : ∀ cs, rest ≠ '.' :: cs) : fraction (text ++ rest) = .ok (nanos, rest) := by
  cases h with
  | whole =>
      rw [List.nil_append, fraction]
      exact hpoint
  | digits hwidth hn => exact fraction_padded hwidth hn hdigits

/-- A fraction is read up to the offset behind it. -/
theorem fraction_before_offset {nanos : Nat} {text offset : List Char} {minutes : Int}
    (h : ShowsFraction nanos text) (hoffset : ShowsOffset minutes offset) :
    fraction (text ++ offset) = .ok (nanos, offset) := by
  obtain ⟨c, cs, hends, hdigit, hpoint⟩ := hoffset.ends_digits
  refine fraction_of_shows h ?_ ?_
  · rw [hends, List.takeWhile_cons_of_neg (by simp [hdigit])]
  · rw [hends]
    exact fun cs' heq => hpoint (List.cons.inj heq).1

theorem takes_twoDigits {tens n : Nat} (hn : n < 10 * (tens + 1)) (htens : tens ≤ 9) :
    Takes (twoDigits tens) (padded 2 n) n := by
  intro rest
  have hlength : (padded 2 n).length = 2 := length_padded (by decide) (by omega)
  obtain ⟨a, b, hab⟩ := List.length_eq_two.mp hlength
  have hvalue : digitValue a * 10 + digitValue b = n := by
    have hread := ofDigits_padded 2 n
    rw [hab, ofDigits, ofDigitsFrom, List.foldl_cons, List.foldl_cons, List.foldl_nil] at hread
    omega
  have hdigits : ∀ c ∈ [a, b], c.isDigit = true := fun c hc => isDigit_of_mem_padded (hab ▸ hc)
  have ha : a.isDigit = true := hdigits a List.mem_cons_self
  have hb : b.isDigit = true := hdigits b (List.mem_cons_of_mem _ List.mem_cons_self)
  show (twoDigits tens) (padded 2 n ++ rest) = .ok (n, rest)
  rw [hab, List.cons_append, List.cons_append, List.nil_append, twoDigits, ha, hb, hvalue,
    Bool.and_self, if_pos rfl, if_pos (by omega)]

/-- What stands between hours and minutes is a colon, and no digit is taken with it. -/
def Separates (separator : Scanner Unit) : Prop :=
  ∀ width n rest, separator ([':'] ++ (padded width n ++ rest)) = .ok ((), padded width n ++ rest)

theorem separates_char : Separates (char ':') := fun _ _ _ => takes_char ':' _

section

variable {separator : Scanner Unit}

/-- A sign, hours and minutes. -/
theorem takes_signed (hseparator : Separates separator) (sign : Int) {hours minutes : Nat}
    (hhours : hours ≤ 23) (hminutes : minutes ≤ 59) :
    Takes (do
        let hours ← twoDigits 9
        separator
        let minutes ← twoDigits 5
        pure (sign * ((hours * 3600 + minutes * 60 : Nat) : Int)))
      (padded 2 hours ++ ':' :: padded 2 minutes)
      (sign * ((hours * 3600 + minutes * 60 : Nat) : Int)) := by
  intro rest
  have htext : padded 2 hours ++ ':' :: padded 2 minutes ++ rest
      = padded 2 hours ++ ([':'] ++ (padded 2 minutes ++ rest)) := by
    simp only [List.append_assoc, List.cons_append, List.nil_append]
  rw [htext, (takes_twoDigits (by omega) (by decide)).bind, bind_ok (hseparator 2 minutes rest),
    (takes_twoDigits (by omega) (by decide)).bind]
  rfl

/-- **Offsets**, in seconds. -/
theorem takes_offset (hseparator : Separates separator) {minutes : Int} {text : List Char}
    (h : ShowsOffset minutes text) : Takes (offset separator) text (minutes * 60) := by
  cases h with
  | letter hc =>
      simp only [List.mem_cons, List.not_mem_nil, or_false] at hc
      rcases hc with rfl | rfl
      · exact fun rest => rfl
      · exact fun rest => rfl
  | @east hours minutes hhours hminutes =>
      have hseconds : ((hours * 60 + minutes : Nat) : Int) * 60
          = 1 * ((hours * 3600 + minutes * 60 : Nat) : Int) := by omega
      rw [hseconds]
      exact takes_signed hseparator 1 hhours hminutes
  | @west sign hsign hours minutes hhours hminutes =>
      have hseconds : -((hours * 60 + minutes : Nat) : Int) * 60
          = -1 * ((hours * 3600 + minutes * 60 : Nat) : Int) := by omega
      rw [hseconds]
      simp only [List.mem_cons, List.not_mem_nil, or_false] at hsign
      rcases hsign with rfl | rfl
      · exact takes_signed hseparator (-1) hhours hminutes
      · exact takes_signed hseparator (-1) hhours hminutes

end

end Scan

/-! ### A clock away from UTC -/

/-- Dates in the years of four digits are well inside the calendar. -/
theorem Date.toDays_mem {d : Date} (hyear : 0 ≤ d.year ∧ d.year ≤ 9999) (hday : d.day ≤ 31) :
    firstDay < d.toDays ∧ d.toDays < lastDay := by
  rw [firstDay_eq, lastDay_eq, toDays]
  split <;> omega

namespace Timestamp

variable {t : Timestamp}

/-- What a clock shows that stands so many minutes east of UTC, as if it were in UTC. -/
def onClock (t : Timestamp) (minutes : Int) : Timestamp := t.addSeconds (minutes * 60)

theorem onClock_zero (t : Timestamp) : t.onClock 0 = t := by
  rw [onClock, addSeconds, Int.zero_mul, Int.add_zero]

/-- A clock that shows a year of four digits shows a moment of the calendar. -/
theorem onClock_valid (h : t.Valid) {minutes : Int} (hyear : (t.onClock minutes).InFourDigits) :
    (t.onClock minutes).Valid := by
  obtain ⟨-, -, hnanos, hleap⟩ := h
  have hday := Date.ofDays_day ((t.onClock minutes).seconds / 86400)
  have hmem := Date.toDays_mem hyear (hday.2.trans (daysInMonth_le _ _))
  rw [show (t.onClock minutes).fields.date = Date.ofDays ((t.onClock minutes).seconds / 86400)
    from rfl, Date.toDays_ofDays] at hmem
  refine ⟨by omega, by omega, hnanos, fun hbillion => ?_⟩
  have hseconds := hleap hbillion
  show (t.seconds + minutes * 60) % 60 = 59
  omega

/-- What a clock shows, less its offset, is the moment. -/
theorem atOffset_onClock (h : t.Valid) {minutes : Int} (hday : -1439 ≤ minutes ∧ minutes ≤ 1439)
    (hclock : (t.onClock minutes).Valid) :
    Fields.atOffset (t.onClock minutes).fields (minutes * 60) = .ok t := by
  have hseconds : (t.onClock minutes).seconds - minutes * 60 = t.seconds := by
    show t.seconds + minutes * 60 - minutes * 60 = t.seconds
    omega
  have hnanos : t.nanos % nanosPerSecond + t.nanos / nanosPerSecond * nanosPerSecond = t.nanos := by
    rw [nanosPerSecond]
    omega
  have hrange : firstDay * 86400 ≤ (t.onClock minutes).seconds - minutes * 60 ∧
      (t.onClock minutes).seconds - minutes * 60 < (lastDay + 1) * 86400 := by
    rw [hseconds]
    exact ⟨h.1, h.2.1⟩
  have hread := atOffset_fields hclock (by omega) hrange (t.onClock minutes).fields.nanos
  rw [hseconds] at hread
  exact hread.trans (congrArg (fun n => Except.ok (Timestamp.mk t.seconds n)) hnanos)

end Timestamp

/-! ### Texts -/

/-- The texts of a moment that show it on a clock so many minutes east of UTC. -/
def SpelledAt (t : Timestamp) (minutes : Int) (text : List Char) : Prop :=
  ∃ separator fraction offset, separator ∈ ['T', 't', ' '] ∧
    ShowsFraction (t.onClock minutes).fields.nanos fraction ∧ ShowsOffset minutes offset ∧
    text = (t.onClock minutes).fields.date.text ++ separator :: (t.onClock minutes).fields.clockText
      ++ (fraction ++ offset)

/-- The texts of a moment that show it in UTC without saying so. -/
def SpelledBare (t : Timestamp) (text : List Char) : Prop :=
  ∃ fraction, ShowsFraction t.fields.nanos fraction ∧
    text = t.fields.date.text ++ 'T' :: t.fields.clockText ++ fraction

theorem exists_showsFraction (t : Timestamp) : ∃ text, ShowsFraction t.fields.nanos text := by
  have hnanos : t.fields.nanos < 10 ^ 9 := Nat.mod_lt _ (by decide)
  have hexact : t.fields.nanos * 10 ^ (9 - 9) = t.fields.nanos := Nat.mul_one _
  exact ⟨_, hexact ▸ ShowsFraction.digits (by decide) hnanos⟩

/-- There is a text for every clock. -/
theorem exists_spelledAt (t : Timestamp) {minutes : Int} (h : -1439 ≤ minutes ∧ minutes ≤ 1439) :
    ∃ text, SpelledAt t minutes text := by
  obtain ⟨fraction, hfraction⟩ := exists_showsFraction (t.onClock minutes)
  obtain ⟨offset, hoffset⟩ := exists_showsOffset h
  exact ⟨_, 'T', fraction, offset, List.mem_cons_self, hfraction, hoffset, rfl⟩

theorem exists_spelledBare (t : Timestamp) : ∃ text, SpelledBare t text := by
  obtain ⟨fraction, hfraction⟩ := exists_showsFraction t
  exact ⟨_, fraction, hfraction, rfl⟩

section

variable {t : Timestamp} {text : List Char}

/-- **On every clock** the strict format gives the moment. -/
theorem readVersion?_spelledAt (h : t.Valid) {minutes : Int}
    (hyear : (t.onClock minutes).InFourDigits) (hspelled : SpelledAt t minutes text) :
    readVersion? text = some t := by
  obtain ⟨separator, fraction, offset, hseparator, hfraction, hoffset, rfl⟩ := hspelled
  have hday := hoffset.lt_day
  have hinRange := Timestamp.fields_inRange (Timestamp.onClock_valid h hyear)
  have hscanned := Scan.fraction_before_offset hfraction hoffset
  have htaken : Scan.offset (Scan.char ':') offset = .ok (minutes * 60, []) := by
    have htakes := Scan.takes_offset Scan.separates_char hoffset []
    rwa [List.append_nil] at htakes
  have hscan : Scan.run scanStrict ((t.onClock minutes).fields.date.text ++
      separator :: (t.onClock minutes).fields.clockText ++ (fraction ++ offset))
        = .ok ((t.onClock minutes).fields, minutes * 60) := by
    rw [Scan.run, scanStrict,
      Scan.bind_ok (Timestamp.scanStrictFields_append hinRange hyear hseparator hscanned),
      Scan.bind_ok htaken, if_pos (by omega)]
    rfl
  have hstrict : readStrict ((t.onClock minutes).fields.date.text ++
      separator :: (t.onClock minutes).fields.clockText ++ (fraction ++ offset)) = .ok t := by
    rw [readStrict, hscan]
    exact Timestamp.atOffset_onClock h hday (Timestamp.onClock_valid h hyear)
  rw [readVersion?, hstrict]

/-- **Without an offset** only the other format is left, and gives the moment. -/
theorem readVersion?_spelledBare (h : t.Valid) (hyear : t.InFourDigits)
    (hspelled : SpelledBare t text) : readVersion? text = some t := by
  obtain ⟨fraction, hfraction, rfl⟩ := hspelled
  have hscanned : Scan.fraction (fraction ++ []) = .ok (t.fields.nanos, []) :=
    Scan.fraction_of_shows hfraction rfl nofun
  rw [List.append_nil] at hscanned
  have hinRange := Timestamp.fields_inRange h
  have hstrict : readStrict (t.fields.date.text ++ 'T' :: t.fields.clockText ++ fraction)
      = .error .tooShort := by
    rw [readStrict, Scan.run, scanStrict,
      Scan.bind_ok (Timestamp.scanStrictFields_append hinRange hyear List.mem_cons_self hscanned)]
    rfl
  have hnaive : readNaive (t.fields.date.text ++ 'T' :: t.fields.clockText ++ fraction) = .ok t := by
    have hword : -0x80000000 ≤ t.fields.date.year ∧ t.fields.date.year < 0x80000000 :=
      ⟨by have := hyear.1; omega, by have := hyear.2; omega⟩
    rw [readNaive, Scan.run, Timestamp.scanNaive_append hinRange hword hscanned]
    have hread := Timestamp.atOffset_onClock h (show -1439 ≤ (0 : Int) ∧ _ by decide)
      (t.onClock_zero.symm ▸ h)
    rwa [Timestamp.onClock_zero] at hread
  rw [readVersion?, hstrict, hnaive]
  rfl

end

end Outbox.Time
