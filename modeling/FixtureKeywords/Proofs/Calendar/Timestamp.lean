import FixtureKeywords.Calendar.Timestamp
import FixtureKeywords.Proofs.Calendar.Reading
import FixtureKeywords.Proofs.Text.Numeral

/-!
# Timestamps as they are printed

A reading is printed with a date, the letter T and a time of the day, in numbers of a fixed
width; behind it stands an offset. The reader of timestamps takes the calendar notation
first, and every number from its width alone, so it finds the same numbers again.

Two things have to be in place for that. The reading lies in the supported years, since the
year has four digits; and the offset is a number of whole minutes, less than a day of them,
since seconds of an offset are printed but not read.
-/
namespace FixtureKeywords
open Text

namespace Text

/-- So many digits write the number. -/
structure Pads (width n : Nat) (t : Text) : Prop where
  length_eq : t.length = width
  isDigit : ∀ c ∈ t, c.isDigit
  value_eq : value t = n

theorem value_zeros (count : Nat) (digits : Text) :
    value (List.replicate count '0' ++ digits) = value digits := by
  induction count with
  | zero => rfl
  | succ count ih =>
      rw [List.replicate_succ, List.cons_append]
      exact ih

theorem toList_padded (width n : Nat) : (padded width n).toList =
    List.replicate (width - (Nat.toDigits 10 n).length) '0' ++ Nat.toDigits 10 n := by
  have hdigits : (toString n).toList = Nat.toDigits 10 n := Nat.toList_repr
  have hlength : (toString n).length = (Nat.toDigits 10 n).length := by
    rw [← String.length_toList, hdigits]
  simp only [padded, String.toList_append, String.toList_ofList, hdigits, hlength]

theorem isDigit_of_mem_padded {width n : Nat} {c : Char} (hc : c ∈ (padded width n).toList) :
    c.isDigit := by
  rw [toList_padded] at hc
  rcases List.mem_append.mp hc with hc | hc
  · rw [List.eq_of_mem_replicate hc]
    decide
  · exact Nat.isDigit_of_mem_toDigits (by decide) (by decide) hc

theorem pads_padded {width n : Nat} (hwidth : 0 < width) (h : n < 10 ^ width) :
    Pads width n (padded width n).toList := by
  have hle : (Nat.toDigits 10 n).length ≤ width :=
    (Nat.length_toDigits_le_iff (by decide) hwidth).mpr h
  refine ⟨?_, fun c hc => isDigit_of_mem_padded hc, ?_⟩
  · rw [toList_padded, List.length_append, List.length_replicate]
    omega
  · rw [toList_padded, value_zeros]
    exact Nat.ofDigitChars_toDigits (by decide) (by decide)

end Text

namespace Timestamp
variable {width n hours minutes seconds micros : Nat} {t hs ms ss rest : Text}

theorem digits?_pads (h : Pads width n t) (rest : Text) :
    digits? width (t ++ rest) = some (n, rest) := by
  have htake : (t ++ rest).take width = t := by rw [← h.length_eq, List.take_left]
  have hdrop : (t ++ rest).drop width = rest := by rw [← h.length_eq, List.drop_left]
  have hall : t.length = width ∧ t.all Char.isDigit :=
    ⟨h.length_eq, List.all_eq_true.mpr h.isDigit⟩
  simp only [digits?, htake, hdrop, hall, h.value_eq, and_self, if_true]

theorem startsOffset_pads (h : Pads 2 n t) (rest : Text) : startsOffset (t ++ rest) = false := by
  obtain ⟨hlength, hdigits, -⟩ := h
  obtain ⟨c, d, rfl⟩ := List.length_eq_two.mp hlength
  have hc := hdigits c (by simp)
  simp only [List.cons_append, startsOffset, Bool.or_eq_false_iff, beq_eq_false_iff_ne]
  refine ⟨⟨⟨?_, ?_⟩, ?_⟩, ?_⟩ <;> rintro rfl <;> exact absurd hc (by decide)

theorem date?_written {year month day : Nat} {ys ds : Text} (hy : Pads 4 year ys)
    (hm : Pads 2 month ms) (hd : Pads 2 day ds) (rest : Text) :
    date? (ys ++ '-' :: (ms ++ '-' :: (ds ++ rest))) = some (⟨year, month, day⟩, rest) := by
  simp only [date?, calendarDate?, digits?_pads hy, digits?_pads hm, digits?_pads hd,
    Option.bind_eq_bind, Option.bind_some]
  rfl

/-- A time with colons is read up to its seconds, and then the fraction. -/
theorem clock?_written (hh : Pads 2 hours hs) (hm : Pads 2 minutes ms) (hsec : Pads 2 seconds ss)
    (rest : Text) : clock? (hs ++ ':' :: (ms ++ ':' :: (ss ++ rest))) =
      Clock.fraction? { hours, minutes, seconds } rest := by
  have hcolon (tail : Text) : startsOffset (':' :: tail) = false := rfl
  simp only [clock?, startsOffset_pads hh, digits?_pads hh, hcolon, dropChar?, if_true,
    Option.isSome_some, Option.getD_some, digits?_pads hm, digits?_pads hsec,
    Option.bind_eq_bind, Option.bind_some, Bool.false_eq_true, if_false, List.isEmpty_cons,
    Bool.or_false]

/-- An offset of whole minutes, less than a day of them. -/
def IsOffset (offset : Int) : Prop :=
  ∃ hours minutes : Nat, hours ≤ 23 ∧ minutes ≤ 59 ∧
    offset.natAbs = (60 * hours + minutes) * 60000000

theorem isOffset_zero : IsOffset 0 :=
  ⟨0, 0, by decide, by decide, by decide⟩

theorem ofClock_minutes (hours minutes : Nat) :
    Reading.ofClock hours minutes 0 0 = ((60 * hours + minutes) * 60000000 : Nat) := by
  simp only [Reading.ofClock, Reading.hour, Reading.minute, Reading.second]
  push_cast
  ring

theorem toList_offset {offset : Int} (hm : minutes ≤ 59)
    (h : offset.natAbs = (60 * hours + minutes) * 60000000) :
    (Iso.offset ":" offset).toList = (if offset < 0 then '-' else '+') ::
      ((padded 2 hours).toList ++ ':' :: (padded 2 minutes).toList) := by
  have htotal : offset.natAbs / 1000000 = (60 * hours + minutes) * 60 := by
    rw [h]
    omega
  have hseconds : (60 * hours + minutes) * 60 % 60 = 0 := by omega
  have hhours : (60 * hours + minutes) * 60 / 3600 = hours := by omega
  have hminutes : (60 * hours + minutes) * 60 / 60 % 60 = minutes := by omega
  have hparts : (":".intercalate [padded 2 hours, padded 2 minutes]).toList =
      (padded 2 hours).toList ++ ':' :: (padded 2 minutes).toList := by
    have hjoined : ":".intercalate [padded 2 hours, padded 2 minutes] =
      padded 2 hours ++ ":" ++ padded 2 minutes := rfl
    rw [hjoined, String.toList_append, String.toList_append, List.append_assoc]
    rfl
  have hsplit : Iso.offset ":" offset = (if offset < 0 then "-" else "+") ++
      ":".intercalate [padded 2 hours, padded 2 minutes] := by
    simp only [Iso.offset, htotal, hseconds, hhours, hminutes, if_true, List.append_nil,
      List.map_cons, List.map_nil]
  rw [hsplit, String.toList_append, hparts]
  split_ifs <;> simp

theorem offset?_sign {sign : Char} (hsign : sign = '-' ∨ sign = '+') (hh : Pads 2 hours hs)
    (hm : Pads 2 minutes ms) (hhours : hours ≤ 23) (hminutes : minutes ≤ 59) :
    offset? (sign :: (hs ++ ':' :: ms)) =
      some (if sign = '-' then -(Reading.ofClock hours minutes 0 0)
        else Reading.ofClock hours minutes 0 0) := by
  have hlast := digits?_pads hm []
  rw [List.append_nil] at hlast
  rcases hsign with rfl | rfl <;>
    simp [offset?, digits?_pads hh, dropChar?, hlast, hhours, hminutes]

theorem offset?_written {offset : Int} (h : IsOffset offset) :
    offset? (Iso.offset ":" offset).toList = some offset := by
  obtain ⟨hours, minutes, hh, hm, hsize⟩ := h
  have hpadHours : Pads 2 hours (padded 2 hours).toList := pads_padded (by decide) (by omega)
  have hpadMinutes : Pads 2 minutes (padded 2 minutes).toList := pads_padded (by decide) (by omega)
  rw [toList_offset hm hsize]
  split_ifs with hnegative
  · rw [offset?_sign (.inl rfl) hpadHours hpadMinutes hh hm, if_pos rfl, ofClock_minutes, ← hsize,
      Int.ofNat_natAbs_of_nonpos hnegative.le, neg_neg]
  · rw [offset?_sign (.inr rfl) hpadHours hpadMinutes hh hm, if_neg (by decide), ofClock_minutes,
      ← hsize, Int.natAbs_of_nonneg (not_lt.mp hnegative)]

theorem fraction?_written (c : Clock) (hc : c.micros = 0) (hmicros : micros < 1000000)
    {sign : Char} (hsign : sign = '-' ∨ sign = '+') (tail : Text) :
    c.fraction? ((Iso.fraction micros).toList ++ sign :: tail) =
      { c with micros }.finish? (sign :: tail) := by
  unfold Iso.fraction
  split_ifs with hzero
  · subst hzero
    rcases hsign with rfl | rfl <;> simp [Clock.fraction?, ← hc]
  · have hpad : Pads 6 micros (padded 6 micros).toList := pads_padded (by decide) hmicros
    have hstop : ∀ d, (sign :: tail).head? = some d → d.isDigit = false := by
      rintro d hd
      obtain rfl := Option.some.inj hd
      rcases hsign with rfl | rfl <;> decide
    obtain ⟨htake, hdrop⟩ := digits_append hpad.isDigit hstop
    have hne : (padded 6 micros).toList ≠ [] := by
      intro hnil
      simpa [hnil] using hpad.length_eq
    have hsix : (padded 6 micros).toList.take 6 = (padded 6 micros).toList := by
      exact List.take_of_length_le hpad.length_eq.le
    have hfront : ("." ++ padded 6 micros).toList = '.' :: (padded 6 micros).toList := by
      rw [String.toList_append]
      rfl
    rw [hfront, List.cons_append]
    simp [Clock.fraction?, htake, hdrop, hne, hsix, hpad.length_eq, hpad.value_eq]

theorem toList_reading (r : Reading) : (Iso.reading r).toList =
    (padded 4 (Reading.date r).year.toNat).toList ++ '-' ::
      ((padded 2 (Reading.date r).month).toList ++ '-' ::
        ((padded 2 (Reading.date r).day).toList ++ 'T' ::
          ((padded 2 (Reading.hours r)).toList ++ ':' ::
            ((padded 2 (Reading.minutes r)).toList ++ ':' ::
              ((padded 2 (Reading.seconds r)).toList ++
                (Iso.fraction (Reading.micros r)).toList))))) := by
  have hjoined (separator a b c : String) :
      separator.intercalate [a, b, c] = a ++ separator ++ b ++ separator ++ c := rfl
  have hdash : "-".toList = ['-'] := rfl
  have hcolon : ":".toList = [':'] := rfl
  have hletter : "T".toList = ['T'] := rfl
  simp only [Iso.reading, Iso.date, Iso.time, hjoined, String.toList_append, List.append_assoc,
    hdash, hcolon, hletter, List.cons_append, List.nil_append]

theorem ofClock_parts (r : Int) :
    Reading.ofClock (Reading.hours r) (Reading.minutes r) (Reading.seconds r) (Reading.micros r) =
      r % Reading.dayLength := by
  have hlength : Reading.dayLength = 86400000000 := by decide
  have hsince : (Reading.sinceMidnight r : Int) = r % 86400000000 := by
    rw [Reading.sinceMidnight, hlength]
    omega
  simp only [Reading.ofClock, Reading.hours, Reading.minutes, Reading.seconds, Reading.micros,
    Reading.hour, Reading.minute, Reading.second, hlength]
  omega

theorem isValid_date {r : Int} (h : Reading.inRange r) : (Reading.date r).isValid := by
  obtain ⟨hfirst, hlast⟩ := Reading.inRange_iff_year.mp h
  obtain ⟨h₁, h₂, h₃, h₄⟩ := Date.isProper_ofDays (r / Reading.dayLength)
  rw [Reading.year] at hfirst hlast
  simp only [Date.isValid, Bool.and_eq_true, decide_eq_true_eq]
  exact ⟨⟨⟨⟨⟨hfirst, hlast⟩, h₁⟩, h₂⟩, h₃⟩, h₄⟩

/-- Only digits and five other characters are printed. -/
def isPrinted (c : Char) : Bool :=
  c.isDigit || c == '-' || c == 'T' || c == ':' || c == '.' || c == '+'

theorem toNat_le_of_isPrinted {c : Char} (h : isPrinted c) : c.toNat ≤ 127 := by
  simp only [isPrinted, Bool.or_eq_true, beq_iff_eq] at h
  rcases h with ((((hc | rfl) | rfl) | rfl) | rfl) | rfl
  · simp only [Char.isDigit, Bool.and_eq_true, decide_eq_true_eq, UInt32.le_iff_toNat_le,
      Char.reduceVal, UInt32.reduceToNat] at hc
    exact hc.2.trans (by decide)
  all_goals decide

theorem isBlank_of_isPrinted {c : Char} (h : isPrinted c) : isBlank c = false := by
  simp only [isPrinted, Bool.or_eq_true, beq_iff_eq] at h
  rcases h with ((((hc | rfl) | rfl) | rfl) | rfl) | rfl
  · exact isBlank_of_isDigit hc
  all_goals decide

theorem isPrinted_padded (width n : Nat) : ∀ c ∈ (padded width n).toList, isPrinted c := by
  intro c hc
  simp [isPrinted, isDigit_of_mem_padded hc]

theorem isPrinted_fraction (micros : Nat) : ∀ c ∈ (Iso.fraction micros).toList, isPrinted c := by
  unfold Iso.fraction
  split_ifs
  · simp
  · rw [String.toList_append]
    exact List.forall_mem_append.mpr ⟨by simp [isPrinted], isPrinted_padded 6 micros⟩

theorem isPrinted_reading (r : Reading) : ∀ c ∈ (Iso.reading r).toList, isPrinted c := by
  rw [toList_reading]
  simp only [List.forall_mem_append, List.forall_mem_cons]
  exact ⟨isPrinted_padded _ _, by decide, isPrinted_padded _ _, by decide, isPrinted_padded _ _,
    by decide, isPrinted_padded _ _, by decide, isPrinted_padded _ _, by decide,
    isPrinted_padded _ _, isPrinted_fraction _⟩

theorem isPrinted_offset {offset : Int} (ho : IsOffset offset) :
    ∀ c ∈ (Iso.offset ":" offset).toList, isPrinted c := by
  obtain ⟨hours, minutes, -, hm, hsize⟩ := ho
  rw [toList_offset hm hsize]
  simp only [List.forall_mem_append, List.forall_mem_cons]
  exact ⟨by split_ifs <;> decide, isPrinted_padded _ _, by decide, isPrinted_padded _ _⟩

/-- The numbers of a reading in the supported years have room in their digits. -/
theorem parts_lt {r : Int} (h : Reading.inRange r) :
    (Reading.date r).year.toNat < 10 ^ 4 ∧ (Reading.date r).month < 10 ^ 2 ∧
      (Reading.date r).day < 10 ^ 2 ∧ Reading.hours r ≤ 23 ∧ Reading.minutes r ≤ 59 ∧
      Reading.seconds r ≤ 59 ∧ Reading.micros r < 1000000 := by
  have hlength : Reading.dayLength = 86400000000 := by decide
  obtain ⟨-, hlast⟩ := Reading.inRange_iff_year.mp h
  obtain ⟨-, hmonth, -, hday⟩ := Date.isProper_ofDays (r / Reading.dayLength)
  have hdays := Date.monthLength_le (Reading.date r).year (Reading.date r).month
  have hday : (Reading.date r).day ≤ 31 := hday.trans hdays
  have hmonth : (Reading.date r).month ≤ 12 := hmonth
  have hlast : (Reading.date r).year ≤ 9999 := hlast
  have hsince : Reading.sinceMidnight r < 86400000000 := by
    rw [Reading.sinceMidnight, hlength]
    omega
  simp only [Reading.hours, Reading.minutes, Reading.seconds, Reading.micros]
  omega

theorem finish?_offset (c : Clock) {offset : Int} (ho : IsOffset offset) :
    c.finish? (Iso.offset ":" offset).toList = some { c with offset := some offset } := by
  have hread := offset?_written ho
  obtain ⟨hours, minutes, -, hm, hsize⟩ := ho
  rw [toList_offset hm hsize] at hread ⊢
  simp only [Clock.finish?, List.isEmpty_cons, Bool.false_eq_true, if_false, hread,
    Option.bind_eq_bind, Option.bind_some]

theorem clock?_printed {r : Int} {offset : Int} (hr : Reading.inRange r) (ho : IsOffset offset) :
    clock? ((padded 2 (Reading.hours r)).toList ++ ':' ::
        ((padded 2 (Reading.minutes r)).toList ++ ':' :: ((padded 2 (Reading.seconds r)).toList ++
          ((Iso.fraction (Reading.micros r)).toList ++ (Iso.offset ":" offset).toList)))) =
      some ⟨Reading.hours r, Reading.minutes r, Reading.seconds r, Reading.micros r,
        some offset⟩ := by
  obtain ⟨-, -, -, hhours, hminutes, hseconds, hmicros⟩ := parts_lt hr
  rw [clock?_written (pads_padded (by decide) (by omega)) (pads_padded (by decide) (by omega))
    (pads_padded (by decide) (by omega))]
  have hfinish := finish?_offset
    ⟨Reading.hours r, Reading.minutes r, Reading.seconds r, Reading.micros r, none⟩ ho
  obtain ⟨hours, minutes, -, hm, hsize⟩ := ho
  rw [toList_offset hm hsize] at hfinish ⊢
  rw [fraction?_written _ rfl hmicros (by split_ifs <;> simp)]
  exact hfinish

theorem read?_printed {r : Int} {offset : Int} (hr : Reading.inRange r) (ho : IsOffset offset) :
    read? ((Iso.reading r).toList ++ (Iso.offset ":" offset).toList) = some ⟨r, some offset⟩ := by
  obtain ⟨hyear, hmonth, hday, hhours, hminutes, hseconds, hmicros⟩ := parts_lt hr
  have hascii : ((Iso.reading r).toList ++ (Iso.offset ":" offset).toList).any
      (127 < ·.toNat) = false := by
    rw [List.any_eq_false]
    intro c hc
    have hprinted := List.forall_mem_append.mpr ⟨isPrinted_reading r, isPrinted_offset ho⟩ c hc
    simpa using toNat_le_of_isPrinted hprinted
  have hdate : (⟨((Reading.date r).year.toNat : Int), (Reading.date r).month,
      (Reading.date r).day⟩ : Date) = Reading.date r := by
    have hfirst : 1 ≤ (Reading.date r).year := (Reading.inRange_iff_year.mp hr).1
    rw [Int.toNat_of_nonneg (by omega)]
  have hsince : Clock.sinceMidnight? ⟨Reading.hours r, Reading.minutes r, Reading.seconds r,
      Reading.micros r, some offset⟩ = some (r % Reading.dayLength) := by
    have hday : Reading.hours r ≠ 24 := by omega
    simp only [Clock.sinceMidnight?, if_neg hday, hhours, hminutes, hseconds, and_self, if_true,
      ofClock_parts]
  have hwhole : Reading.midnight (Reading.date r) + r % Reading.dayLength = r := by
    rw [Reading.midnight, Reading.date, Date.toDays_ofDays]
    exact Int.ediv_mul_add_emod r Reading.dayLength
  rw [read?, hascii, toList_reading]
  simp only [List.append_assoc, List.cons_append, Bool.false_eq_true, if_false]
  rw [date?_written (pads_padded (by decide) hyear) (pads_padded (by decide) hmonth)
    (pads_padded (by decide) hday)]
  have hlong (rest : Text) :
      ¬ ((padded 2 (Reading.hours r)).toList ++ ':' :: rest).length < 2 := by
    have hpad := pads_padded (show 0 < 2 by decide) (show Reading.hours r < 10 ^ 2 by omega)
    rw [List.length_append, hpad.length_eq]
    omega
  simp only [hdate, Option.bind_eq_bind, Option.bind_some, if_neg (hlong _), clock?_printed hr ho,
    hsince, hwhole, isValid_date hr, hr, Bool.and_self, if_true]

/-! ### Offsets that are read -/

/-- The offset of a time is one that can be printed, if there is one. -/
def Clock.IsProper (c : Clock) : Prop :=
  ∀ offset, c.offset = some offset → IsOffset offset

/-- Hours and minutes within their bounds are an offset, with either sign. -/
theorem isOffset_of_ofClock {offset : Int} (hours minutes : Nat) (negative : Bool)
    (h : (if hours ≤ 23 ∧ minutes ≤ 59 then
      some (if negative then -Reading.ofClock hours minutes 0 0
        else Reading.ofClock hours minutes 0 0) else none) = some offset) : IsOffset offset := by
  split_ifs at h with hbounds hnegative
  · refine ⟨hours, minutes, hbounds.1, hbounds.2, ?_⟩
    rw [← Option.some.inj h, ofClock_minutes, Int.natAbs_neg, Int.natAbs_natCast]
  · refine ⟨hours, minutes, hbounds.1, hbounds.2, ?_⟩
    rw [← Option.some.inj h, ofClock_minutes, Int.natAbs_natCast]

theorem isOffset_of_offset? {t : Text} {offset : Int} (h : offset? t = some offset) :
    IsOffset offset := by
  unfold offset? at h
  split at h
  · rw [← Option.some.inj h]
    exact isOffset_zero
  · rw [← Option.some.inj h]
    exact isOffset_zero
  · dsimp only at h
    split_ifs at h
    all_goals
      obtain ⟨negative, -, h⟩ := Option.bind_eq_some_iff.mp h
      obtain ⟨⟨hours, rest⟩, -, h⟩ := Option.bind_eq_some_iff.mp h
      dsimp only at h
      split at h
      · obtain ⟨minutes, -, h⟩ := Option.bind_eq_some_iff.mp h
        exact isOffset_of_ofClock hours minutes negative h
      · obtain ⟨⟨minutes, rest⟩, -, h⟩ := Option.bind_eq_some_iff.mp h
        dsimp only at h
        split at h
        all_goals
          obtain ⟨minutes, -, h⟩ := Option.bind_eq_some_iff.mp h
          exact isOffset_of_ofClock hours minutes negative h
  · cases h

namespace Clock
variable {c d : Clock} {t : Text}

theorem isProper_of_finish? (hc : c.IsProper) (h : c.finish? t = some d) : d.IsProper := by
  unfold finish? at h
  split_ifs at h
  · rwa [← Option.some.inj h]
  · obtain ⟨offset, hoffset, h⟩ := Option.bind_eq_some_iff.mp h
    rw [← Option.some.inj h]
    rintro _ ⟨⟩
    exact isOffset_of_offset? hoffset

theorem isProper_of_fraction? (hc : c.IsProper) (h : c.fraction? t = some d) : d.IsProper := by
  have hmicros (micros : Nat) : IsProper { c with micros } := hc
  unfold fraction? at h
  split at h
  · dsimp only at h
    split_ifs at h
    · exact isProper_of_finish? (hmicros _) h
    · exact isProper_of_finish? hc h
  · rwa [← Option.some.inj h]

end Clock

theorem isProper_of_clock? {t : Text} {c : Clock} (h : clock? t = some c) : c.IsProper := by
  have hnone (hours minutes seconds micros : Nat) :
      Clock.IsProper ⟨hours, minutes, seconds, micros, none⟩ := nofun
  unfold clock? at h
  split at h
  · exact Clock.isProper_of_finish? (hnone _ _ _ _) h
  obtain ⟨⟨hours, rest⟩, -, h⟩ := Option.bind_eq_some_iff.mp h
  dsimp only at h
  split at h
  · exact Clock.isProper_of_finish? (hnone _ _ _ _) h
  obtain ⟨⟨minutes, rest⟩, -, h⟩ := Option.bind_eq_some_iff.mp h
  dsimp only at h
  split at h
  · exact Clock.isProper_of_finish? (hnone _ _ _ _) h
  split at h
  all_goals
    obtain ⟨rest, -, h⟩ := Option.bind_eq_some_iff.mp h
    obtain ⟨⟨seconds, rest⟩, -, h⟩ := Option.bind_eq_some_iff.mp h
    exact Clock.isProper_of_fraction? (hnone _ _ _ _) h

theorem isOffset_of_read? {t : Text} {r : Reading} {offset : Int}
    (h : read? t = some ⟨r, some offset⟩) : IsOffset offset := by
  unfold read? at h
  split_ifs at h
  obtain ⟨⟨date, rest⟩, -, h⟩ := Option.bind_eq_some_iff.mp h
  have hsound (clock : Clock) (hclock : clock.IsProper)
      (h : (clock.sinceMidnight?.bind fun time =>
        if date.isValid && Reading.inRange (Reading.midnight date + time) then
          some (⟨Reading.midnight date + time, clock.offset⟩ : Timestamp)
        else none) = some ⟨r, some offset⟩) : IsOffset offset := by
    obtain ⟨time, -, h⟩ := Option.bind_eq_some_iff.mp h
    split_ifs at h
    exact hclock offset (congrArg Timestamp.offset (Option.some.inj h))
  have hdate : Clock.IsProper {} := by
    rintro _ ⟨⟩
  cases rest with
  | nil => exact hsound {} hdate h
  | cons c time =>
      dsimp only at h
      split_ifs at h
      · cases h
      · obtain ⟨clock, hclock, h⟩ := Option.bind_eq_some_iff.mp h
        exact hsound clock (isProper_of_clock? hclock) h

end Timestamp
end FixtureKeywords
