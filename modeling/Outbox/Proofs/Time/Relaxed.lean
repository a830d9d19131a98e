import Mathlib.Data.List.TakeWhile
import Outbox.Proofs.Reading
import Outbox.Proofs.Time.Spelling

/-!
# The times of tasks read back

The relaxed reader takes a moment from every text that shows it, on whatever clock of the calendar, and
the form in which a task keeps its times is one of these texts, with the fewest groups of digits and
with a sign before the years that need one.  Beside these texts it takes many others, but whatever it
takes, it gives a moment of the calendar: a fraction stays below a second, and an offset is in whole
minutes, so that a leap second stays at the end of its minute.

* `readRelaxed_spelledAt` — the texts of a moment;
* `readRelaxed_iso` — the form in which a task keeps its times;
* `Scan.Gives` — what a scanner gives, whatever it is given;
* `readRelaxed_valid` — what is read is a moment of the calendar.
-/

namespace Outbox.Time

open Outbox.Decimal Outbox.Text

/-! ### Scanning the texts of a moment -/

namespace Scan

theorem blanks_cons {c : Char} (hc : isBlank c = false) (rest : List Char) :
    blanks (c :: rest) = .ok ((), c :: rest) := by
  rw [blanks, trimStart, List.dropWhile_cons_of_neg (by rw [hc]; decide)]

theorem separates_colonsOrBlanks : Separates colonsOrBlanks := by
  intro width n rest
  obtain ⟨c, cs, hpadded, hdigit⟩ := exists_padded width n
  have hcolon : c ≠ ':' := by
    rintro rfl
    cases hdigit
  have hstop : (c == ':' || isBlank c) = false := by
    rw [isBlank_of_isDigit hdigit, beq_eq_false_iff_ne.mpr hcolon, Bool.or_false]
  show Except.ok ((), (':' :: (padded width n ++ rest)).dropWhile fun c => c == ':' || isBlank c) = _
  rw [List.dropWhile_cons_of_pos (by decide), hpadded, List.cons_append,
    List.dropWhile_cons_of_neg (by rw [hstop]; decide)]

/-- An offset stands where the name of UTC might. -/
theorem takes_zone {minutes : Int} {text : List Char} (h : ShowsOffset minutes text) :
    Takes scanZone text (minutes * 60) := by
  intro rest
  obtain ⟨c, cs, htext, hc⟩ := h.exists_first (p := fun c => c.toUpper != 'U') rfl
  have hname : ¬((text ++ rest).take 3).map Char.toUpper = ['U', 'T', 'C'] := by
    rw [htext]
    exact fun heq => bne_iff_ne.mp hc (List.cons.inj heq).1
  rw [scanZone, if_neg hname]
  exact takes_offset separates_colonsOrBlanks h rest

/-- Date and clock in the relaxed format, up to the fraction. -/
theorem scanRelaxed_append {f : Fields} (hf : f.InRange)
    (hyear : -0x80000000 ≤ f.date.year ∧ f.date.year < 0x80000000) {separator : Char}
    (hseparator : separator ∈ ['T', 't', ' ']) {tail rest : List Char} {nanos : Nat}
    (hfraction : fraction tail = .ok (nanos, rest)) :
    scanRelaxed (f.date.text ++ separator :: f.clockText ++ tail)
      = (do blanks; let offset ← scanZone; blanks; pure ({ f with nanos }, offset)
          : Scanner (Fields × Int)) rest := by
  have htext : f.date.text ++ separator :: f.clockText ++ tail
      = yearText f.date.year ++ (['-'] ++ (padded 2 f.date.month ++ (['-'] ++
        (padded 2 f.date.day ++ ([separator] ++ (padded 2 f.hour ++ ([':'] ++
        (padded 2 f.minute ++ ([':'] ++ (padded 2 f.second ++ tail)))))))))) := by
    rw [Date.text, Fields.clockText]
    simp only [List.append_assoc, List.cons_append, List.nil_append]
  have hhyphen : ∀ rest, blanks (['-'] ++ rest) = .ok ((), ['-'] ++ rest) := blanks_cons rfl
  have hcolon : ∀ rest, blanks ([':'] ++ rest) = .ok ((), [':'] ++ rest) := blanks_cons rfl
  have hscanned : year (yearText f.date.year ++ (['-'] ++ (padded 2 f.date.month ++ (['-'] ++
      (padded 2 f.date.day ++ ([separator] ++ (padded 2 f.hour ++ ([':'] ++
      (padded 2 f.minute ++ ([':'] ++ (padded 2 f.second ++ tail))))))))))) = _ :=
    year_yearText rfl
  rw [if_pos hyear] at hscanned
  rw [htext, scanRelaxed, bind_ok hscanned, bind_ok (hhyphen _), (takes_char '-').bind,
    (takes_short hf.month (by decide)).bind, bind_ok (hhyphen _), (takes_char '-').bind,
    (takes_short hf.day (by decide)).bind, (takes_oneOf hseparator).bind,
    (takes_short ⟨Nat.zero_le _, hf.hour⟩ (by decide)).bind, bind_ok (hcolon _),
    (takes_char ':').bind, (takes_short ⟨Nat.zero_le _, hf.minute⟩ (by decide)).bind,
    bind_ok (hcolon _), (takes_char ':').bind,
    (takes_short ⟨Nat.zero_le _, hf.second⟩ (by decide)).bind, bind_ok hfraction]

end Scan

/-! ### The texts of a moment read back -/

section

variable {t : Timestamp} {text : List Char}

/-- **On every clock** of the calendar the relaxed format gives the moment. -/
theorem readRelaxed_spelledAt (h : t.Valid) {minutes : Int} (hclock : (t.onClock minutes).Valid)
    (hspelled : SpelledAt t minutes text) : readRelaxed text = .ok t := by
  obtain ⟨separator, fraction, offset, hseparator, hfraction, hoffset, rfl⟩ := hspelled
  obtain ⟨c, cs, hbegins, hblank⟩ := hoffset.exists_first (p := fun c => !isBlank c) rfl
  rw [Bool.not_eq_true'] at hblank
  have hblanks : Scan.blanks offset = .ok ((), offset) := hbegins ▸ Scan.blanks_cons hblank cs
  have hzone : scanZone offset = .ok (minutes * 60, []) := by
    have htakes := Scan.takes_zone hoffset []
    rwa [List.append_nil] at htakes
  have hscan : Scan.run scanRelaxed ((t.onClock minutes).fields.date.text ++
      separator :: (t.onClock minutes).fields.clockText ++ (fraction ++ offset))
        = .ok ((t.onClock minutes).fields, minutes * 60) := by
    rw [Scan.run, Scan.scanRelaxed_append (Timestamp.fields_inRange hclock)
      (Timestamp.fields_year hclock) hseparator (Scan.fraction_before_offset hfraction hoffset),
      Scan.bind_ok hblanks, Scan.bind_ok hzone]
    rfl
  rw [readRelaxed, hscan]
  exact Timestamp.atOffset_onClock h hoffset.lt_day hclock

/-- The fewest groups of three digits show a fraction exactly. -/
theorem showsFraction_fractionText {nanos : Nat} (h : nanos < 10 ^ 9) :
    ShowsFraction nanos (fractionText nanos) := by
  rw [fractionText]
  split
  · rename_i hzero
    exact hzero ▸ ShowsFraction.whole
  · split
    · have hexact : nanos / 1000000 * 10 ^ (9 - 3) = nanos := by omega
      have hshows : ShowsFraction _ ('.' :: padded 3 (nanos / 1000000)) :=
        .digits (by decide) (by omega)
      rwa [hexact] at hshows
    · split
      · have hexact : nanos / 1000 * 10 ^ (9 - 6) = nanos := by omega
        have hshows : ShowsFraction _ ('.' :: padded 6 (nanos / 1000)) :=
          .digits (by decide) (by omega)
        rwa [hexact] at hshows
      · have hexact : nanos * 10 ^ (9 - 9) = nanos := Nat.mul_one _
        have hshows : ShowsFraction _ ('.' :: padded 9 nanos) := .digits (by decide) h
        rwa [hexact] at hshows

/-- The form in which a task keeps its times is a text of the moment in UTC. -/
theorem spelledAt_iso (t : Timestamp) : SpelledAt t 0 t.iso := by
  refine ⟨'T', fractionText t.fields.nanos, ['Z'], List.mem_cons_self, ?_,
    .letter List.mem_cons_self, ?_⟩
  · rw [Timestamp.onClock_zero]
    exact showsFraction_fractionText (Nat.mod_lt _ (by decide))
  · rw [Timestamp.onClock_zero, Timestamp.iso]
    simp only [List.append_assoc, List.cons_append]

/-- **The times of tasks read back.** -/
theorem readRelaxed_iso (h : t.Valid) : readRelaxed t.iso = .ok t :=
  readRelaxed_spelledAt h (t.onClock_zero.symm ▸ h) (spelledAt_iso t)

end

/-! ### What a scanner gives -/

namespace Scan

variable {α β : Type} {scan : Scanner α} {next : α → Scanner β} {P : α → Prop} {Q : β → Prop}

/-- Whatever a scanner gives has a property. -/
def Gives (scan : Scanner α) (P : α → Prop) : Prop :=
  ∀ cs a rest, scan cs = .ok (a, rest) → P a

theorem Gives.pure {a : α} (h : P a) : Gives (pure a) P := by
  intro cs b rest heq
  cases heq
  exact h

theorem Gives.bind (h : Gives scan P) (hnext : ∀ a, P a → Gives (next a) Q) :
    Gives (scan >>= next) Q := by
  intro cs b rest heq
  obtain ⟨⟨a, rest'⟩, hscan, hlast⟩ := bind_eq_ok_iff.mp heq
  exact hnext a (h cs a rest' hscan) rest' b rest hlast

/-- What comes first does not matter. -/
theorem Gives.after (hnext : ∀ a, Gives (next a) Q) : Gives (scan >>= next) Q :=
  Gives.bind (P := fun _ => True) (fun _ _ _ _ => trivial) fun a _ => hnext a

/-- A number has no more digits than it may have. -/
theorem number_lt {least most n : Nat} {cs rest : List Char}
    (h : number least (some most) cs = .ok (n, rest)) :
    n < 10 ^ (leadingDigits (some most) cs).length ∧
      (leadingDigits (some most) cs).length ≤ most := by
  have hdigits : ∀ c ∈ leadingDigits (some most) cs, c.isDigit = true := fun c hc =>
    List.mem_takeWhile_imp (List.mem_of_mem_take hc)
  rw [number] at h
  split at h
  · cases h
  · split at h
    · cases h
    · cases h
      exact ⟨ofDigits_lt hdigits, List.length_take_le _ _⟩

/-- A fraction is less than a second. -/
theorem gives_fraction : Gives fraction (· < nanosPerSecond) := by
  intro cs nanos rest h
  rw [fraction.eq_def] at h
  split at h
  · rename_i ds
    rw [fractionDigits] at h
    split at h
    · cases h
    · rename_i n rest' hnumber
      obtain ⟨hlt, hle⟩ := number_lt hnumber
      cases h
      generalize (leadingDigits (some 9) ds).length = width at hlt hle
      show n * 10 ^ (9 - width) < 10 ^ 9
      calc n * 10 ^ (9 - width) < 10 ^ width * 10 ^ (9 - width) :=
            Nat.mul_lt_mul_of_pos_right hlt (Nat.pow_pos (by decide))
        _ = 10 ^ 9 := by rw [← Nat.pow_add, Nat.add_sub_cancel' hle]
  · cases h
    decide

/-- An offset is in whole minutes. -/
theorem gives_offset (separator : Scanner Unit) : Gives (offset separator) (· % 60 = 0) := by
  have hsigned : ∀ sign : Int, Gives (do
      let hours ← twoDigits 9
      separator
      let minutes ← twoDigits 5
      pure (sign * ((hours * 3600 + minutes * 60 : Nat) : Int))) (· % 60 = 0) := by
    intro sign
    refine .after fun hours => .after fun _ => .after fun minutes => .pure ?_
    have hminutes : ((hours * 3600 + minutes * 60 : Nat) : Int) = (hours * 60 + minutes : Nat) * 60 := by
      omega
    rw [hminutes, ← Int.mul_assoc, Int.mul_emod_left]
  intro cs seconds rest h
  rw [offset.eq_def] at h
  split at h
  · cases h
  · cases h
    rfl
  · cases h
    rfl
  · exact hsigned 1 _ _ _ h
  · exact hsigned (-1) _ _ _ h
  · exact hsigned (-1) _ _ _ h
  · cases h

theorem gives_zone : Gives scanZone (· % 60 = 0) := by
  intro cs seconds rest h
  rw [scanZone] at h
  split at h
  · cases h
    rfl
  · exact gives_offset _ _ _ _ h

/-- Whatever stands between the parts, the relaxed format gives a fraction of a second and an offset in
whole minutes. -/
theorem gives_scanRelaxed :
    Gives scanRelaxed fun p => p.1.nanos < nanosPerSecond ∧ p.2 % 60 = 0 := by
  -- year, month, day, hour, minute and second, with the blanks and the signs between them
  refine .after fun _ => .after fun _ => .after fun _ => .after fun _ => .after fun _ =>
    .after fun _ => .after fun _ => .after fun _ => .after fun _ => .after fun _ => .after fun _ =>
    .after fun _ => .after fun _ => .after fun _ => .after fun _ => ?_
  exact gives_fraction.bind fun nanos hnanos => .after fun _ =>
    gives_zone.bind fun offset hoffset => .after fun _ => .pure ⟨hnanos, hoffset⟩

end Scan

/-- A clock that is whole minutes from UTC shows moments of the calendar, or none. -/
theorem Fields.valid_of_atOffset {f : Fields} {offset : Int} {t : Timestamp}
    (hnanos : f.nanos < nanosPerSecond) (hminutes : offset % 60 = 0)
    (h : f.atOffset offset = .ok t) : t.Valid := by
  rw [atOffset] at h
  split at h
  · cases h
  split at h
  · cases h
  dsimp only at h
  split at h
  · rename_i hrange
    obtain rfl := Except.ok.inj h
    refine ⟨hrange.1, hrange.2, ?_, fun hleap => ?_⟩
    · show f.nanos + (if f.second = 60 then nanosPerSecond else 0) < _
      split <;> omega
    · have hsixty : f.second = 60 := by
        by_contra hnot
        have hleap' : nanosPerSecond ≤ f.nanos + (if f.second = 60 then nanosPerSecond else 0) :=
          hleap
        rw [if_neg hnot] at hleap'
        omega
      show (f.date.toDays * 86400 + (f.hour * 3600 + f.minute * 60 + min f.second 59 : Nat)
        + -offset) % 60 = 59
      omega
  · cases h

/-- **What is read is a moment of the calendar.** -/
theorem readRelaxed_valid {cs : List Char} {t : Timestamp} (h : readRelaxed cs = .ok t) :
    t.Valid := by
  obtain ⟨⟨f, offset⟩, hrun, hread⟩ := bind_eq_ok_iff.mp h
  obtain ⟨⟨p, rest⟩, hscan, hend⟩ := bind_eq_ok_iff.mp hrun
  obtain ⟨hnanos, hminutes⟩ := Scan.gives_scanRelaxed cs p rest hscan
  have hall : p = (f, offset) := by
    dsimp only at hend
    split at hend
    · exact Except.ok.inj hend
    · cases hend
  subst hall
  exact Fields.valid_of_atOffset hnanos hminutes hread

end Outbox.Time
