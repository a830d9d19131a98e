import Mathlib.Data.List.Induction
import Outbox.Proofs.Uuid.Text

/-!
# The spellings of an identifier

An identifier is read from four spellings, in letters of either case, and from no other text: its 32
digits, its groups, its groups in braces, and its groups after a marker.  In lower case each of them is
made of the written form, so what is read is said by what is written.

* `Hex.ofDigits?_eq_some_iff` — digits stand for the number whose digits they are in lower case;
* `Uuid.ofText?_eq_some_iff` — an identifier is read exactly from its spellings.
-/

namespace Outbox

namespace Text

/-! ### Lower case -/

/-- What holds of the characters of ASCII, and of those that have no lower case, holds of all. -/
theorem toLower_induction {p : Char → Prop} (ascii : ∀ n < 128, p (Char.ofNat n))
    (other : ∀ c : Char, 127 < c.toNat → c.toLower = c → p c) (c : Char) : p c := by
  by_cases h : c.toNat < 128
  · rw [← Char.ofNat_toNat c]
    exact ascii c.toNat h
  · refine other c (by omega) (dif_neg ?_)
    rintro ⟨-, hle⟩
    have hz : c.toNat ≤ 90 := hle
    omega

theorem utf8Size_toLower (c : Char) : c.toLower.utf8Size = c.utf8Size := by
  induction c using toLower_induction with
  | ascii n hn =>
      revert n
      decide
  | other c _ h => rw [h]

/-- What is no small letter is the lower case of itself only. -/
theorem eq_of_toLower_eq {c d : Char} (h : c.toLower = d) (hd : d.toNat < 97 ∨ 122 < d.toNat) :
    c = d := by
  subst h
  induction c using toLower_induction with
  | ascii n hn =>
      revert n
      decide
  | other c _ h => exact h.symm

theorem byteLength_map_toLower (cs : List Char) :
    Utf8.byteLength (cs.map Char.toLower) = Utf8.byteLength cs := by
  induction cs with
  | nil => rfl
  | cons c cs ih => rw [List.map_cons, Utf8.byteLength, Utf8.byteLength, utf8Size_toLower, ih]

namespace Hex

/-! ### Digits in either case -/

theorem value?_toLower (c : Char) : value? c.toLower = value? c := by
  induction c using toLower_induction with
  | ascii n hn =>
      revert n
      decide
  | other c _ h => rw [h]

theorem toLower_eq_digit {c : Char} {d : Nat} (h : value? c = some d) :
    d < 16 ∧ c.toLower = digit d := by
  have hall : ∀ d ∈ value? c, d < 16 ∧ c.toLower = digit d := by
    clear h
    induction c using toLower_induction with
    | ascii n hn =>
        revert n
        decide
    | other c hc _ =>
        have hnone : value? c = none := by
          rw [value?, if_neg (by omega), if_neg (by omega), if_neg (by omega)]
        rw [hnone]
        exact nofun
  exact hall d h

theorem ofDigitsFrom?_map_toLower (n : Nat) (cs : List Char) :
    ofDigitsFrom? n (cs.map Char.toLower) = ofDigitsFrom? n cs := by
  induction cs generalizing n with
  | nil => rfl
  | cons c cs ih => simp only [List.map_cons, ofDigitsFrom?, value?_toLower, ih]

/-- What stands for a number is, in lower case, its digits.  The last of them is looked at first, as
`digits` writes it last. -/
theorem map_toLower_of_ofDigits? {cs : List Char} {n : Nat} (h : ofDigits? cs = some n) :
    cs.map Char.toLower = digits cs.length n ∧ n < Nat.pow 16 cs.length := by
  induction cs using List.reverseRecOn generalizing n with
  | nil =>
      cases h
      exact ⟨rfl, by decide⟩
  | append_singleton cs c ih =>
      rw [ofDigits?, ofDigitsFrom?_append] at h
      obtain ⟨m, hm, hlast⟩ := Option.bind_eq_some_iff.mp h
      obtain ⟨d, hd, hn⟩ := Option.bind_eq_some_iff.mp hlast
      obtain ⟨hlt, hdigit⟩ := toLower_eq_digit hd
      obtain ⟨hdigits, hpow⟩ := ih hm
      obtain rfl : m * 16 + d = n := Option.some.inj hn
      have hpow' : Nat.pow 16 (cs.length + 1) = Nat.pow 16 cs.length * 16 := rfl
      rw [List.length_append, List.length_singleton, hpow']
      refine ⟨?_, by omega⟩
      rw [List.map_append, hdigits, digits, show (m * 16 + d) / 16 = m by omega,
        show (m * 16 + d) % 16 = d by omega, List.map_singleton, hdigit]

/-- **Digits stand for the number** whose digits they are in lower case. -/
theorem ofDigits?_eq_some_iff {cs : List Char} {n : Nat} :
    ofDigits? cs = some n ↔ cs.map Char.toLower = digits cs.length n ∧ n < Nat.pow 16 cs.length := by
  refine ⟨map_toLower_of_ofDigits?, ?_⟩
  rintro ⟨hdigits, hpow⟩
  rw [ofDigits?, ← ofDigitsFrom?_map_toLower, hdigits]
  exact ofDigits?_digits hpow

end Hex

end Text

namespace Uuid

open Outbox.Text

/-! ### Groups -/

theorem map_grouped (ds : List Char) :
    (grouped ds).map Char.toLower = grouped (ds.map Char.toLower) := by
  have hhyphen : Char.toLower '-' = '-' := rfl
  simp only [grouped, List.map_append, List.map_cons, List.map_take, List.map_drop, hhyphen]

/-- Groups in lower case come from groups. -/
theorem exists_grouped {cs ds : List Char} (h : cs.map Char.toLower = grouped ds)
    (hds : ds.length = 32) : ∃ es, cs = grouped es ∧ es.map Char.toLower = ds := by
  have hhyphen : ∀ {c : Char}, c.toLower = '-' → c = '-' := fun h => eq_of_toLower_eq h (by decide)
  obtain ⟨a, b, c, d, e, rfl, ha, hb, hc, hd, -⟩ := exists_groups hds
  rw [grouped_append ha hb hc hd] at h
  obtain ⟨a', _, rfl, rfl, h₁⟩ := List.map_eq_append_iff.mp h
  obtain ⟨x, _, rfl, hx, h₂⟩ := List.map_eq_cons_iff.mp h₁
  obtain ⟨b', _, rfl, rfl, h₃⟩ := List.map_eq_append_iff.mp h₂
  obtain ⟨y, _, rfl, hy, h₄⟩ := List.map_eq_cons_iff.mp h₃
  obtain ⟨c', _, rfl, rfl, h₅⟩ := List.map_eq_append_iff.mp h₄
  obtain ⟨z, _, rfl, hz, h₆⟩ := List.map_eq_cons_iff.mp h₅
  obtain ⟨d', _, rfl, rfl, h₇⟩ := List.map_eq_append_iff.mp h₆
  obtain ⟨w, e', rfl, hw, rfl⟩ := List.map_eq_cons_iff.mp h₇
  rw [List.length_map] at ha hb hc hd
  refine ⟨a' ++ (b' ++ (c' ++ (d' ++ e'))), ?_, by simp only [List.map_append]⟩
  rw [grouped_append ha hb hc hd, hhyphen hx, hhyphen hy, hhyphen hz, hhyphen hw]

variable {cs inner : List Char} {u : Uuid}

theorem ofBare?_eq_some_iff :
    ofBare? cs = some u ↔ cs.map Char.toLower = Hex.digits 32 u.value := by
  rw [ofBare?]
  constructor
  · intro h
    split at h
    · rename_i hlength
      obtain ⟨n, hn, rfl⟩ := Option.map_eq_some_iff.mp h
      obtain ⟨hdigits, hlt⟩ := Hex.ofDigits?_eq_some_iff.mp hn
      rw [hlength] at hdigits hlt
      rw [hdigits, value_ofNat, Nat.mod_eq_of_lt hlt]
    · cases h
  · intro h
    have hlength : cs.length = 32 := by
      rw [← List.length_map (f := Char.toLower), h, Hex.length_digits]
    have hdigits : Hex.ofDigits? cs = some u.value := by
      rw [Hex.ofDigits?_eq_some_iff, hlength]
      exact ⟨h, u.value_lt⟩
    rw [if_pos hlength, hdigits, Option.map_some, ofNat_value]

theorem ofGroups?_eq_some_iff : ofGroups? cs = some u ↔ cs.map Char.toLower = u.chars := by
  constructor
  · intro h
    rw [ofGroups?] at h
    split at h
    · rename_i hgrouped
      rw [← hgrouped, map_grouped, ofBare?_eq_some_iff.mp h, chars]
    · cases h
  · intro h
    obtain ⟨ds, rfl, hds⟩ := exists_grouped h (Hex.length_digits 32 u.value)
    have hlength : ds.length = 32 := by
      rw [← List.length_map (f := Char.toLower), hds, Hex.length_digits]
    rw [ofGroups?_grouped hlength]
    exact ofBare?_eq_some_iff.mpr hds

/-! ### Around the groups -/

theorem unbrace?_eq_some_iff : unbrace? cs = some inner ↔ cs = '{' :: (inner ++ ['}']) := by
  constructor
  · intro h
    unfold unbrace? at h
    split at h
    · rename_i cs
      split at h
      · rename_i reversed hreverse
        cases h
        rw [← List.reverse_reverse cs, hreverse, List.reverse_cons]
      · cases h
    · cases h
  · rintro rfl
    simp [unbrace?]

theorem afterUrn?_eq_some_iff :
    afterUrn? cs = some inner ↔ ∃ marker, cs = marker ++ inner ∧ marker.map Char.toLower = urnMarker := by
  rw [afterUrn?]
  constructor
  · intro h
    split at h
    · rename_i hmarker
      cases h
      exact ⟨_, (List.take_append_drop 9 cs).symm, hmarker⟩
    · cases h
  · rintro ⟨marker, rfl, hmarker⟩
    have hlength : marker.length = 9 := by
      rw [← List.length_map (f := Char.toLower), hmarker]
      rfl
    rw [← hlength, List.take_left, List.drop_left, if_pos hmarker]

theorem exists_unbrace?_iff :
    (∃ inner, unbrace? cs = some inner ∧ ofGroups? inner = some u) ↔
      cs.map Char.toLower = '{' :: (u.chars ++ ['}']) := by
  simp only [unbrace?_eq_some_iff, ofGroups?_eq_some_iff]
  constructor
  · rintro ⟨inner, rfl, hinner⟩
    rw [List.map_cons, List.map_append, hinner]
    rfl
  · intro h
    obtain ⟨x, _, rfl, hx, h₁⟩ := List.map_eq_cons_iff.mp h
    obtain ⟨inner, _, rfl, hinner, h₂⟩ := List.map_eq_append_iff.mp h₁
    obtain ⟨y, _, rfl, hy, h₃⟩ := List.map_eq_cons_iff.mp h₂
    rw [eq_of_toLower_eq hx (by decide), eq_of_toLower_eq hy (by decide), List.map_eq_nil_iff.mp h₃]
    exact ⟨inner, rfl, hinner⟩

theorem exists_afterUrn?_iff :
    (∃ inner, afterUrn? cs = some inner ∧ ofGroups? inner = some u) ↔
      cs.map Char.toLower = urnMarker ++ u.chars := by
  simp only [afterUrn?_eq_some_iff, ofGroups?_eq_some_iff]
  constructor
  · rintro ⟨inner, ⟨marker, rfl, hmarker⟩, hinner⟩
    rw [List.map_append, hmarker, hinner]
  · intro h
    obtain ⟨marker, inner, rfl, hmarker, hinner⟩ := List.map_eq_append_iff.mp h
    exact ⟨inner, ⟨marker, rfl, hmarker⟩, hinner⟩

/-! ### All spellings -/

/-- The spellings of an identifier in lower case. -/
def spellings (u : Uuid) : List (List Char) :=
  [u.chars, Hex.digits 32 u.value, '{' :: (u.chars ++ ['}']), urnMarker ++ u.chars]

/-- The length of a text decides which spelling it is read as. -/
theorem parse_eq_ok_iff : parse cs = .ok u ↔
    Utf8.byteLength cs = 36 ∧ ofGroups? cs = some u ∨
    Utf8.byteLength cs = 32 ∧ ofBare? cs = some u ∨
    Utf8.byteLength cs = 38 ∧ (∃ inner, unbrace? cs = some inner ∧ ofGroups? inner = some u) ∨
    Utf8.byteLength cs = 45 ∧ (∃ inner, afterUrn? cs = some inner ∧ ofGroups? inner = some u) := by
  rw [parse]
  generalize Utf8.byteLength cs = size
  by_cases hgroups : size = 36
  · subst hgroups
    cases hread : ofGroups? cs <;> simp [hread]
  by_cases hbare : size = 32
  · subst hbare
    cases ofBare? cs <;> simp
  by_cases hbraces : size = 38
  · subst hbraces
    cases unbrace? cs with
    | none => simp
    | some inner => cases hinner : ofGroups? inner <;> simp [hinner]
  by_cases hurn : size = 45
  · subst hurn
    cases afterUrn? cs with
    | none => simp
    | some inner => cases hinner : ofGroups? inner <;> simp [hinner]
  · simp [hgroups, hbare, hbraces, hurn]

/-- No spelling has a character that takes more than a byte. -/
theorem utf8Size_of_mem_spellings {ds : List Char} (h : ds ∈ u.spellings) :
    ∀ c ∈ ds, c.utf8Size = 1 := by
  intro c hc
  have hall : urnMarker.all (·.utf8Size == 1) = true := rfl
  have hmarker : ∀ c ∈ urnMarker, c.utf8Size = 1 := fun c hc =>
    eq_of_beq (List.all_eq_true.mp hall c hc)
  simp only [spellings, List.mem_cons, List.not_mem_nil, or_false] at h
  rcases h with h | h | h | h <;> rw [h] at hc
  · exact utf8Size_of_mem_chars u c hc
  · obtain ⟨k, hk, rfl⟩ := Hex.exists_digit_of_mem hc
    exact (Hex.digit_ascii k hk).1
  · simp only [List.mem_cons, List.mem_append, List.not_mem_nil, or_false] at hc
    rcases hc with rfl | hc | rfl
    · rfl
    · exact utf8Size_of_mem_chars u c hc
    · rfl
  · exact (List.mem_append.mp hc).elim (hmarker c) (utf8Size_of_mem_chars u c)

/-- **An identifier is read exactly from its spellings.** -/
theorem ofText?_eq_some_iff {s : String} :
    ofText? s = some u ↔ s.toList.map Char.toLower ∈ u.spellings := by
  have hread : ofText? s = some u ↔ parse s.toList = .ok u := by
    rw [ofText?, ofText]
    cases parse s.toList <;> simp [Except.toOption]
  rw [hread, parse_eq_ok_iff, ofGroups?_eq_some_iff, ofBare?_eq_some_iff, exists_unbrace?_iff,
    exists_afterUrn?_iff]
  generalize s.toList = cs
  have hchars := length_grouped (Hex.length_digits 32 u.value)
  constructor
  · rintro (⟨-, h⟩ | ⟨-, h⟩ | ⟨-, h⟩ | ⟨-, h⟩) <;> simp [spellings, h]
  · intro h
    -- each spelling has a length of its own
    have hbytes := Utf8.byteLength_of_ascii (utf8Size_of_mem_spellings h)
    rw [byteLength_map_toLower] at hbytes
    simp only [spellings, List.mem_cons, List.not_mem_nil, or_false] at h
    rcases h with h | h | h | h <;> rw [h] at hbytes ⊢
    · exact .inl ⟨hbytes.trans (length_chars u), rfl⟩
    · exact .inr (.inl ⟨hbytes.trans (Hex.length_digits 32 u.value), rfl⟩)
    · rw [List.length_cons, List.length_append, length_chars] at hbytes
      exact .inr (.inr (.inl ⟨hbytes, rfl⟩))
    · rw [List.length_append, length_chars] at hbytes
      exact .inr (.inr (.inr ⟨hbytes, rfl⟩))

end Uuid

end Outbox
