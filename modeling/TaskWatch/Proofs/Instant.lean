import TaskWatch.Instant
import TaskWatch.Proofs.Calendar
import TaskWatch.Proofs.Steps
import TaskWatch.Proofs.Text.Numeral

/-!
# Instants are read back

An instant is *on the clock* when its nanoseconds are less than a second, or less than two in the
last second of a minute, where they are a leap second. Every instant that is read is on the clock,
`onClock_of_ofText?`, and every instant on the clock is read back from its text, `ofText?_text`, if
its year has four digits (`InYears`). An offset may take an instant out of those years; its text
has a sign in front of the year and cannot be read.
-/

namespace TaskWatch.Instant

/-- The year of an instant in UTC. -/
def year (t : Instant) : Int := (Date.ofDays (t.seconds / secondsPerDay)).year

/-- The year of the instant has four digits. -/
def InYears (t : Instant) : Prop := 0 ≤ t.year ∧ t.year ≤ 9999

/-- The nanoseconds are less than a second, or a leap second at the end of a minute. -/
structure OnClock (t : Instant) : Prop where
  nanos : t.nanos < 2 * nanosPerSecond
  leap : nanosPerSecond ≤ t.nanos → t.seconds % 60 = 59

theorem inYears_zero : zero.InYears := by
  constructor <;> decide

/-- The years of four digits, from the first second of year 0 to that of year 10000. -/
theorem inYears_iff {t : Instant} :
    t.InYears ↔ -62167219200 ≤ t.seconds ∧ t.seconds < 253402300800 := by
  have hfirst : Date.toDays ⟨0, 1, 1⟩ = -719528 := rfl
  have hafter : Date.toDays ⟨10000, 1, 1⟩ = 2932897 := rfl
  have hlow := Date.le_year_iff 0 (t.seconds / secondsPerDay)
  have hhigh := Date.le_year_iff 10000 (t.seconds / secondsPerDay)
  rw [hfirst] at hlow
  rw [hafter] at hhigh
  simp only [InYears, year, secondsPerDay] at *
  omega

theorem onClock_zero : zero.OnClock :=
  ⟨by decide, fun h => absurd h (by decide)⟩

/-! ## Parts of a text -/

theorem readDigits?_padded {count n : Nat} (hcount : 0 < count) (hn : n < Nat.pow 10 count)
    (rest : List Char) : readDigits? count (Numeral.padded count n ++ rest) = some (n, rest) := by
  have hlength := Numeral.length_padded hcount hn
  simp only [readDigits?, List.take_left' hlength, List.drop_left' hlength, Numeral.value_padded]
  exact if_pos ⟨hlength, Numeral.padded_all count n⟩

theorem expect?_cons (c : Char) (rest : List Char) : expect? c (c :: rest) = some rest :=
  if_pos rfl

theorem readNanos?_padded {n : Nat} (hn : n < nanosPerSecond) :
    readNanos? ('.' :: Numeral.padded 9 n ++ ['Z']) = some (n, ['Z']) := by
  have hlength : (Numeral.padded 9 n).length = 9 := Numeral.length_padded (by decide) hn
  have hspan : (Numeral.padded 9 n ++ ['Z']).span Numeral.isDigit =
      (Numeral.padded 9 n, ['Z']) :=
    Numeral.span_digits (Numeral.padded_all 9 n) fun c hc => by cases hc; rfl
  have hne : Numeral.padded 9 n ≠ [] := by
    intro h
    rw [h] at hlength
    cases hlength
  rw [List.cons_append, readNanos?, hspan]
  split
  · next h => exact absurd (Prod.mk.inj h).1 hne
  · next h =>
    obtain ⟨rfl, rfl⟩ := Prod.mk.inj h
    have htake : (Numeral.padded 9 n).take 9 = Numeral.padded 9 n :=
      List.take_of_length_le (Nat.le_of_eq hlength)
    simp only [htake, hlength, Numeral.value_padded]
    rw [Nat.sub_self]
    exact congrArg (fun n => some (n, ['Z'])) (Nat.mul_one n)

theorem readSeparator?_cons (rest : List Char) : readSeparator? ('T' :: rest) = some rest :=
  rfl

theorem readOffset?_utc : readOffset? ['Z'] = some 0 := rfl

/-! ## Reading what was written -/

/-- What a time in UTC with nine decimal places is read as. -/
theorem ofChars?_utc {year month day hour minute second nanos : Nat} (hyear : year < 10000)
    (hmonth : month < 100) (hday : day < 100) (hhour : hour < 100) (hminute : minute < 100)
    (hsecond : second < 100) (hnanos : nanos < nanosPerSecond) :
    ofChars? (Numeral.padded 4 year ++ '-' :: (Numeral.padded 2 month ++ '-' ::
      (Numeral.padded 2 day ++ 'T' :: (Numeral.padded 2 hour ++ ':' ::
      (Numeral.padded 2 minute ++ ':' :: (Numeral.padded 2 second ++
      ('.' :: Numeral.padded 9 nanos ++ ['Z']))))))) =
      if (⟨year, month, day⟩ : Date).isValid ∧ hour ≤ 23 ∧ minute ≤ 59 ∧ second ≤ 60 then
        some ⟨secondsPerDay * (⟨year, month, day⟩ : Date).toDays +
          (3600 * hour + 60 * minute + (second - second / 60 : Nat)) - 0,
          nanos + nanosPerSecond * (second / 60)⟩
      else none := by
  have two : 0 < 2 := by decide
  rw [ofChars?]
  refine bind_of_eq_some (readDigits?_padded (by decide) hyear _) ?_
  refine bind_of_eq_some (expect?_cons '-' _) ?_
  refine bind_of_eq_some (readDigits?_padded two hmonth _) ?_
  refine bind_of_eq_some (expect?_cons '-' _) ?_
  refine bind_of_eq_some (readDigits?_padded two hday _) ?_
  refine bind_of_eq_some (readSeparator?_cons _) ?_
  refine bind_of_eq_some (readDigits?_padded two hhour _) ?_
  refine bind_of_eq_some (expect?_cons ':' _) ?_
  refine bind_of_eq_some (readDigits?_padded two hminute _) ?_
  refine bind_of_eq_some (expect?_cons ':' _) ?_
  refine bind_of_eq_some (readDigits?_padded two hsecond _) ?_
  refine bind_of_eq_some (readNanos?_padded hnanos) ?_
  exact bind_of_eq_some readOffset?_utc rfl

theorem chars_eq {t : Instant} (hyear : t.InYears) :
    chars t =
      let date := Date.ofDays (t.seconds / secondsPerDay)
      let second := (t.seconds % secondsPerDay).toNat
      Numeral.padded 4 date.year.toNat ++ '-' :: (Numeral.padded 2 date.month ++ '-' ::
        (Numeral.padded 2 date.day ++ 'T' :: (Numeral.padded 2 (second / 3600) ++ ':' ::
        (Numeral.padded 2 (second / 60 % 60) ++ ':' ::
        (Numeral.padded 2 (second % 60 + t.nanos / nanosPerSecond) ++
        ('.' :: Numeral.padded 9 (t.nanos % nanosPerSecond) ++ ['Z'])))))) := by
  have hchars : yearChars (Date.ofDays (t.seconds / secondsPerDay)).year =
      Numeral.padded 4 (Date.ofDays (t.seconds / secondsPerDay)).year.toNat := if_pos hyear
  simp only [chars, secondChars, hchars, List.append_assoc, List.cons_append]

/-- The seconds of the day, with the leap second, are those of the instant. -/
theorem OnClock.seconds_eq {t : Instant} (hclock : t.OnClock) :
    let second := (t.seconds % secondsPerDay).toNat
    let leap := t.nanos / nanosPerSecond
    second < 86400 ∧ second % 60 + leap ≤ 60 ∧ (second % 60 + leap) / 60 = leap ∧
      secondsPerDay * (t.seconds / secondsPerDay) + (3600 * (second / 3600 : Nat) +
        60 * (second / 60 % 60 : Nat) + (second % 60 + leap - leap : Nat)) - 0 = t.seconds := by
  have hnanos := hclock.nanos
  have hleap := hclock.leap
  simp only [nanosPerSecond, secondsPerDay] at *
  omega

theorem ofChars?_chars {t : Instant} (hyear : t.InYears) (hclock : t.OnClock) :
    ofChars? (chars t) = some t := by
  have hvalid := Date.isValid_ofDays (t.seconds / secondsPerDay)
  have hdays := Date.toDays_ofDays (t.seconds / secondsPerDay)
  obtain ⟨hmonth, hday⟩ := Date.le_of_isValid hvalid
  obtain ⟨hsecond, hle, hleap, hsum⟩ := hclock.seconds_eq
  rw [chars_eq hyear]
  obtain ⟨hlow, hhigh⟩ := hyear
  rw [year] at hlow hhigh
  dsimp only at *
  rw [ofChars?_utc (by omega) (by omega) (by omega) (by omega) (by omega) (by omega)
    (Nat.mod_lt t.nanos (by decide)), Int.toNat_of_nonneg hlow, hdays, hleap, hsum,
    Nat.mod_add_div, if_pos ⟨hvalid, by omega, by omega, hle⟩]

/-! ## The ends of a text -/

theorem isBlankChar_of_isDigit {c : Char} (h : Numeral.isDigit c = true) :
    Text.isBlankChar c = false := by
  simp only [Numeral.isDigit, Bool.and_eq_true, decide_eq_true_iff] at h
  simp [Text.isBlankChar]
  omega

/-- A year of four digits starts with a digit, and any other with its sign. -/
theorem exists_yearChars_eq_cons (year : Int) :
    ∃ c cs, yearChars year = c :: cs ∧ Text.isBlankChar c = false ∧
      (Numeral.isDigit c = true ↔ 0 ≤ year ∧ year ≤ 9999) := by
  rw [yearChars]
  by_cases h : 0 ≤ year ∧ year ≤ 9999
  · have hall := Numeral.padded_all 4 year.toNat
    have hne : Numeral.padded 4 year.toNat ≠ [] :=
      List.append_ne_nil_of_right_ne_nil _ (Numeral.digits_ne_nil _)
    obtain ⟨c, cs, hcons⟩ := List.exists_cons_of_ne_nil hne
    rw [hcons, List.all_cons, Bool.and_eq_true] at hall
    exact ⟨c, cs, by rw [if_pos h, hcons], isBlankChar_of_isDigit hall.1, iff_of_true hall.1 h⟩
  · refine ⟨_, _, if_neg h, ?_, iff_of_false ?_ h⟩
    all_goals split <;> decide

theorem exists_chars_eq_cons (t : Instant) :
    ∃ c cs, chars t = c :: cs ∧ Text.isBlankChar c = false ∧
      (Numeral.isDigit c = true ↔ t.InYears) := by
  obtain ⟨c, cs, hcons, hc⟩ := exists_yearChars_eq_cons t.year
  rw [year] at hcons
  simp only [chars, secondChars, hcons, List.cons_append]
  exact ⟨c, _, rfl, hc⟩

theorem trimChars_chars (t : Instant) :
    (chars t).all Text.isBlankChar = false ∧ Text.trimChars (chars t) = chars t := by
  obtain ⟨c, cs, hcons, hblank, -⟩ := exists_chars_eq_cons t
  rw [hcons]
  refine ⟨by rw [List.all_cons, hblank, Bool.false_and], ?_⟩
  exact Text.trimChars_of_ends hblank (by decide) hcons.symm

theorem isBlank_text (t : Instant) : Text.isBlank t.text = decide (t = zero) := by
  rw [text, isZero]
  by_cases hzero : t = zero
  · rw [if_pos (decide_eq_true hzero), decide_eq_true hzero]
    rfl
  · rw [if_neg (by simpa using hzero), Text.isBlank, String.toList_ofList, (trimChars_chars t).1,
      decide_eq_false hzero]

/-! ## Texts -/

instance (t : Instant) : Decidable t.InYears :=
  inferInstanceAs (Decidable (0 ≤ t.year ∧ t.year ≤ 9999))

/-- A year with a sign cannot be read. -/
theorem ofChars?_chars_eq_none {t : Instant} (hyear : ¬t.InYears) : ofChars? (chars t) = none := by
  obtain ⟨c, cs, hcons, -, hdigit⟩ := exists_chars_eq_cons t
  have hc : Numeral.isDigit c = false := Bool.eq_false_iff.mpr (mt hdigit.mp hyear)
  have hread : readDigits? 4 (c :: cs) = none := by
    rw [readDigits?, List.take_succ_cons, List.all_cons, hc]
    exact if_neg fun h => absurd h.2 Bool.false_ne_true
  rw [hcons, ofChars?, hread]
  rfl

/-- An instant on the clock is read back from its text if its year has four digits, and otherwise
the text cannot be read. -/
theorem ofText?_text {t : Instant} (hclock : t.OnClock) :
    ofText? t.text = if t.InYears then some t else none := by
  rw [ofText?, isBlank_text]
  by_cases hzero : t = zero
  · rw [if_pos (decide_eq_true hzero), hzero, if_pos inYears_zero]
  · rw [if_neg (by simpa using hzero), text, isZero, if_neg (by simpa using hzero),
      String.toList_ofList, (trimChars_chars t).2]
    split
    · next hyear => exact ofChars?_chars hyear hclock
    · next hyear => exact ofChars?_chars_eq_none hyear

/-! ## What is read -/

theorem readNanos?_lt {cs rest : List Char} {n : Nat} (h : readNanos? cs = some (n, rest)) :
    n < nanosPerSecond := by
  unfold readNanos? at h
  split at h
  · next cs =>
    split at h
    · cases h
    · next ds _ _ hspan =>
      obtain ⟨rfl, -⟩ := Prod.mk.inj (Option.some.inj h)
      rw [List.span_eq_takeWhile_dropWhile] at hspan
      have hdigits : (ds.take 9).all Numeral.isDigit = true := by
        have hall : (cs.takeWhile Numeral.isDigit).all Numeral.isDigit = true :=
          List.all_takeWhile
        rw [(Prod.mk.inj hspan).1, List.all_eq_true] at hall
        exact List.all_eq_true.mpr fun c hc => hall c (List.mem_of_mem_take hc)
      have hlength : (ds.take 9).length ≤ 9 := List.length_take_le 9 ds
      have hpow : Nat.pow 10 (ds.take 9).length * Nat.pow 10 (9 - (ds.take 9).length) =
          nanosPerSecond := by
        refine (Nat.pow_add 10 _ _).symm.trans ?_
        rw [Nat.add_sub_cancel' hlength]
        rfl
      exact hpow ▸ Nat.mul_lt_mul_of_pos_right (Numeral.value_lt hdigits) (Nat.pow_pos (by decide))
  · cases h
    exact Nat.zero_lt_succ _

theorem readOffset?_mod {cs : List Char} {offset : Int} (h : readOffset? cs = some offset) :
    offset % 60 = 0 := by
  unfold readOffset? at h
  split at h
  · cases h
  · split at h
    · split at h <;> cases h
      rfl
    · simp only [Option.bind_eq_bind, Option.bind_eq_some_iff] at h
      obtain ⟨sign, hsign, ⟨hours, _⟩, -, _, -, ⟨minutes, _⟩, -, h⟩ := h
      dsimp only at h
      split at h
      · cases h
        have hdvd : (60 : Int) ∣ 3600 * hours + 60 * minutes := by omega
        exact Int.emod_eq_zero_of_dvd (Int.dvd_trans hdvd (Int.dvd_mul_left sign _))
      · cases h

/-- An offset is a number of minutes, so it does not move the end of a minute. -/
theorem onClock_of_parts (days : Int) (hour minute : Nat) {second nanos : Nat} {offset : Int}
    (hsecond : second ≤ 60) (hnanos : nanos < nanosPerSecond) (hoffset : offset % 60 = 0) :
    OnClock ⟨secondsPerDay * days + (3600 * hour + 60 * minute + (second - second / 60 : Nat)) -
      offset, nanos + nanosPerSecond * (second / 60)⟩ := by
  constructor
  all_goals simp only [nanosPerSecond, secondsPerDay] at *
  · omega
  · intro h
    obtain rfl : second = 60 := by omega
    omega

/-- An instant that is read is on the clock. -/
theorem onClock_of_ofText? {s : String} {t : Instant} (h : ofText? s = some t) : t.OnClock := by
  rw [ofText?] at h
  split at h
  · cases h
    exact onClock_zero
  · simp only [ofChars?, Option.bind_eq_bind, Option.bind_eq_some_iff] at h
    obtain ⟨_, -, _, -, _, -, _, -, _, -, _, -, ⟨hour, _⟩, -, _, -, ⟨minute, _⟩, -, _, -,
      ⟨second, _⟩, -, ⟨nanos, _⟩, hnanos, offset, hoffset, h⟩ := h
    dsimp only at *
    split at h
    · next hvalid =>
      cases h
      exact onClock_of_parts _ hour minute hvalid.2.2.2 (readNanos?_lt hnanos)
        (readOffset?_mod hoffset)
    · cases h

end TaskWatch.Instant
