import Mathlib.Data.List.TakeWhile
import QualityGate.Proofs.DecimalText
import QualityGate.Time.Reading

/-!
# Reading back instants

The ISO text of an instant is read as the instant (`Instant.ofText?_text`): the parts of the text are its numbers at fixed lengths and
the signs between them, and the date of a day count counts the same days.
-/

namespace QualityGate.Instant

/-! ## Dates -/

/-- A day of an era is in one of its 400 years, on one of the days of that year. -/
theorem yearOfEra_bounds {d y : Int} (hlow : 0 ≤ d) (hhigh : d < 146097)
    (hy : y = (d - d / 1460 + d / 36524 - d / 146096) / 365) :
    0 ≤ y ∧ y < 400 ∧ 0 ≤ d - (365 * y + y / 4 - y / 100) ∧ d - (365 * y + y / 4 - y / 100) < 366 := by
  have hcentury : d / 36524 = 0 ∨ d / 36524 = 1 ∨ d / 36524 = 2 ∨ d / 36524 = 3 ∨ d / 36524 = 4 := by omega
  have hrange : 0 ≤ y ∧ y < 400 := by omega
  have hhundred : y / 100 = 0 ∨ y / 100 = 1 ∨ y / 100 = 2 ∨ y / 100 = 3 := by omega
  refine ⟨hrange.1, hrange.2, ?_⟩
  rcases hcentury with h | h | h | h | h <;> rcases hhundred with h' | h' | h' | h' <;> rw [h] at hy <;> rw [h'] <;> omega

/-- The date of a day count is one that a calendar has, and counts the same days. -/
theorem dateFromDays_spec (days : Int) : ∃ year month day, dateFromDays days = (year, month, day) ∧
    1 ≤ month ∧ month ≤ 12 ∧ 1 ≤ day ∧ day ≤ 31 ∧ daysFromDate year month day = days ∧
    (-100000000 ≤ days → days ≤ 100000000 → -999999 ≤ year ∧ year ≤ 999999) := by
  have hfdiv : ∀ {a b : Int}, 0 < b → a.fdiv b = a / b := fun h => Int.fdiv_eq_ediv_of_nonneg _ h.le
  unfold dateFromDays
  dsimp only
  rw [hfdiv (by decide)]
  generalize hz : days + 719468 = z
  generalize hera : z / 146097 = era
  generalize hdoe : z - era * 146097 = doe
  generalize hyoe : (doe - doe / 1460 + doe / 36524 - doe / 146096) / 365 = yoe
  have hdoeLow : 0 ≤ doe := by omega
  have hdoeHigh : doe < 146097 := by omega
  obtain ⟨hlow, hhigh, hfirst, hlast⟩ := yearOfEra_bounds hdoeLow hdoeHigh hyoe.symm
  generalize hdoy : doe - (365 * yoe + yoe / 4 - yoe / 100) = doy at hfirst hlast ⊢
  generalize hshifted : (5 * doy + 2) / 153 = shifted
  have hshift : 0 ≤ shifted ∧ shifted ≤ 11 := by omega
  have hday : 0 ≤ doy - (153 * shifted + 2) / 5 ∧ doy - (153 * shifted + 2) / 5 ≤ 30 := by omega
  have hera' : (yoe + era * 400) / 400 = era := by omega
  -- The year begins in March, so January and February belong to the year before.
  have hback : ∀ (year : Int) (month day : Nat), (if month ≤ 2 then year - 1 else year) = yoe + era * 400 →
      (if month > 2 then (month : Int) - 3 else (month : Int) + 9) = shifted → (day : Int) = doy - (153 * shifted + 2) / 5 + 1 →
      daysFromDate year month day = days := by
    intro year month day hyear hmonth hday
    unfold daysFromDate
    dsimp only
    rw [hyear, hmonth, hday, hfdiv (by decide), hera', add_sub_cancel_right]
    omega
  by_cases hspring : shifted < 10
  · rw [if_pos hspring]
    refine ⟨_, _, _, rfl, by omega, by omega, by omega, by omega, hback _ _ _ ?_ ?_ ?_, fun _ _ => ?_⟩
    · rw [if_neg (by omega), if_neg (by omega), add_zero]
    · rw [if_pos (by omega)]
      omega
    · omega
    · rw [if_neg (by omega)]
      omega
  · rw [if_neg hspring]
    refine ⟨_, _, _, rfl, by omega, by omega, by omega, by omega, hback _ _ _ ?_ ?_ ?_, fun _ _ => ?_⟩
    · rw [if_pos (by omega), if_pos (by omega), add_sub_cancel_right]
    · rw [if_neg (by omega)]
      omega
    · omega
    · rw [if_pos (by omega)]
      omega

/-! ## The parts of a text -/

theorem length_pad {width n : Nat} (h : n < 10 ^ width) (hwidth : 0 < width) : (pad width n).toList.length = width := by
  have := (Nat.length_toDigits_le_iff (b := 10) (by decide) hwidth).mpr h
  unfold pad Number.digits
  simp only [String.toList_ofList, List.length_append, List.length_replicate]
  omega

theorem isDigit_of_mem_pad {width n : Nat} {c : Char} (h : c ∈ (pad width n).toList) : c.isDigit := by
  unfold pad at h
  simp only [String.toList_ofList, List.mem_append] at h
  rcases h with h | h
  · rw [List.eq_of_mem_replicate h]
    rfl
  · exact Number.isDigit_of_mem_digits h

theorem dropWhile_zeros (count : Nat) (ds : List Char) :
    (List.replicate count '0' ++ ds).dropWhile (· = '0') = ds.dropWhile (· = '0') := by
  refine List.dropWhile_append_of_pos fun c hc => ?_
  rw [List.eq_of_mem_replicate hc]
  rfl

/-- Digits that are padded with zeros count as the number. -/
theorem valueOfDigits_pad {width n : Nat} (h : n < 10 ^ width) (hwidth : width ≤ 9) : valueOfDigits (pad width n).toList = n := by
  unfold valueOfDigits pad
  simp only [String.toList_ofList]
  rw [dropWhile_zeros]
  rcases Nat.eq_zero_or_pos n with rfl | hpos
  · rfl
  · have hkept : (Number.digits n).dropWhile (· = '0') = Number.digits n := by
      have hhead := Number.head?_digits hpos.ne'
      cases hds : Number.digits n with
      | nil => rfl
      | cons c ds =>
        rw [hds] at hhead
        exact List.dropWhile_cons_of_neg fun hc => hhead (by simpa using hc)
    have hlength : (Number.digits n).length ≤ 9 :=
      (Nat.length_toDigits_le_iff (by decide) (by decide)).mpr (h.trans_le (Nat.pow_le_pow_right (by decide) hwidth))
    rw [hkept, List.take_of_length_le hlength, Number.ofDigits_digits]

/-- A padded number is one part of a text. -/
theorem dateTokens_pad {width n : Nat} (h : n < 10 ^ width) (hwidth : 0 < width) (hshort : width ≤ 9) {rest : List Char}
    (hstop : Number.StopsDigits rest) : dateTokens ((pad width n).toList ++ rest) = .number n width :: dateTokens rest := by
  have hlength := length_pad h hwidth
  have hvalue := valueOfDigits_pad h hshort
  have hdigits : ∀ c ∈ (pad width n).toList, c.isDigit := fun _ hc => isDigit_of_mem_pad hc
  generalize (pad width n).toList = ds at hlength hvalue hdigits ⊢
  cases ds with
  | nil => simp at hlength; omega
  | cons c ds =>
    have hrest : ∀ c ∈ ds, c.isDigit := fun _ hc => hdigits _ (.tail _ hc)
    have htoken : tokenAt c (ds ++ rest) = (.number n width, rest) := by
      unfold tokenAt
      rw [if_pos (hdigits c (.head _)), hstop.takeWhile_append hrest, hstop.dropWhile_append hrest]
      dsimp only
      rw [hvalue, hlength]
    rw [List.cons_append, dateTokens, htoken]

/-- A sign is one part of a text. -/
theorem dateTokens_sign {c : Char} (h : c = ':' ∨ c = '-' ∨ c = '+' ∨ c = '.') (rest : List Char) :
    dateTokens (c :: rest) = .sign c :: dateTokens rest := by
  have htoken : tokenAt c rest = (.sign c, rest) := by rcases h with rfl | rfl | rfl | rfl <;> rfl
  rw [dateTokens, htoken]

/-- The letter between date and time is one part of a text, as digits follow. -/
theorem dateTokens_separator (width n : Nat) (rest : List Char) :
    dateTokens ('T' :: ((pad width n).toList ++ rest)) = .word .separator :: dateTokens ((pad width n).toList ++ rest) := by
  have hdigits : ∀ c ∈ (pad width n).toList, c.isDigit := fun _ hc => isDigit_of_mem_pad hc
  have hne : (pad width n).toList ≠ [] := by
    unfold pad
    rw [String.toList_ofList]
    exact List.append_ne_nil_of_right_ne_nil _ (Number.digits_ne_nil n)
  obtain ⟨c, ds, hcons⟩ := List.exists_cons_of_ne_nil hne
  have hword : ¬ isWordChar c = true := by
    have hrange : '0' ≤ c ∧ c ≤ '9' := by simpa [Char.isDigit, Char.le_def] using hdigits c (hcons ▸ .head _)
    have hle : c.toNat ≤ 57 := hrange.2
    have hfalse : ¬ 65 ≤ c.toNat := by omega
    unfold isWordChar
    rw [show 'A'.toNat = 65 by rfl, decide_eq_false hfalse, Bool.false_and]
    exact Bool.false_ne_true
  have htoken : tokenAt 'T' (c :: (ds ++ rest)) = (.word .separator, c :: (ds ++ rest)) := by
    have hread : tokenAt 'T' (c :: (ds ++ rest)) = (.word (DateWord.ofLetters ('T' :: (c :: (ds ++ rest)).takeWhile isWordChar)),
        (c :: (ds ++ rest)).dropWhile isWordChar) := rfl
    rw [hread, List.takeWhile_cons_of_neg hword, List.dropWhile_cons_of_neg hword]
    rfl
  rw [hcons, List.cons_append, dateTokens, htoken]

/-- The year at the start of an ISO text is read as the year. -/
theorem isoYear_yearText {year : Int} (hlow : -999999 ≤ year) (hhigh : year ≤ 999999) {rest : List Char}
    (hstop : Number.StopsDigits rest) :
    isoYear (dateTokens ((yearText year).toList ++ rest)) = .ok ({ date := [year] }, dateTokens rest) := by
  unfold yearText
  split
  · rw [dateTokens_pad (by omega) (by decide) (by decide) hstop, isoYear, Int.toNat_of_nonneg (by omega)]
  · rename_i hlong
    rw [String.toList_append, List.append_assoc]
    have hpad : dateTokens ((pad 6 year.natAbs).toList ++ rest) = .number year.natAbs 6 :: dateTokens rest :=
      dateTokens_pad (by omega) (by decide) (by decide) hstop
    split
    · rename_i hneg
      have htokens : dateTokens ("-".toList ++ ((pad 6 year.natAbs).toList ++ rest)) =
          .sign '-' :: .number year.natAbs 6 :: dateTokens rest := 
          (dateTokens_sign (.inr (.inl rfl)) _).trans (congrArg (DateToken.sign '-' :: ·) hpad)
      rw [htokens, isoYear, if_neg (by omega), show -(year.natAbs : Int) = year by omega]
    · rename_i hpos
      have htokens : dateTokens ("+".toList ++ ((pad 6 year.natAbs).toList ++ rest)) =
          .sign '+' :: .number year.natAbs 6 :: dateTokens rest := 
          (dateTokens_sign (.inr (.inr (.inl rfl))) _).trans (congrArg (DateToken.sign '+' :: ·) hpad)
      rw [htokens, isoYear, show (year.natAbs : Int) = year by omega]

/-- The characters of the text of an instant. -/
theorem toList_text (t : Instant) {year : Int} {month day : Nat} (hdate : dateFromDays (t.fdiv 86400000) = (year, month, day)) :
    (text t).toList = (yearText year).toList ++ ('-' :: ((pad 2 month).toList ++ ('-' :: ((pad 2 day).toList ++ ('T' ::
      ((pad 2 ((t.fmod 86400000).toNat / 1000 / 3600)).toList ++ (':' :: ((pad 2 ((t.fmod 86400000).toNat / 1000 / 60 % 60)).toList ++
      (':' :: ((pad 2 ((t.fmod 86400000).toNat / 1000 % 60)).toList ++ ('.' ::
      ((pad 3 ((t.fmod 86400000).toNat % 1000)).toList ++ ['Z'])))))))))))) := by
  unfold text
  rw [hdate]
  simp [toString, String.toList_append]

/-- No NUL stands in the text of an instant. -/
theorem ne_nul_of_mem_text {t : Instant} {c : Char} (h : c ∈ (text t).toList) : c ≠ '\x00' := by
  have hpad : ∀ {width n : Nat}, c ∈ (pad width n).toList → c ≠ '\x00' := by
    rintro width n hc rfl
    exact absurd (isDigit_of_mem_pad hc) (by decide)
  have hyear : ∀ {year : Int}, c ∈ (yearText year).toList → c ≠ '\x00' := by
    intro year hc
    unfold yearText at hc
    split at hc
    · exact hpad hc
    · rw [String.toList_append, List.mem_append] at hc
      rcases hc with hc | hc
      · rintro rfl
        split at hc <;> simp at hc
      · exact hpad hc
  obtain ⟨year, month, day, hdate, -⟩ := dateFromDays_spec (t.fdiv 86400000)
  rw [toList_text t hdate] at h
  simp only [List.mem_append, List.mem_cons, List.not_mem_nil, or_false] at h
  rcases h with h | rfl | h | rfl | h | rfl | h | rfl | h | rfl | h | rfl | h | rfl
  · exact hyear h
  all_goals first | decide | exact hpad h

/-- The draft of a whole ISO text in universal time. -/
def stamp (year : Int) (month day hour minute second milli : Nat) : Draft :=
  { date := [year, month, day], time := [hour, minute, second, milli], negative := some false, zoneHours := some 0,
    zoneMinutes := some 0, iso := true }

/-- A date and a time that a calendar and a clock have amount to their instant. -/
theorem instant?_stamp {year : Int} {month day hour minute second milli : Nat} (hmonth : 1 ≤ month ∧ month ≤ 12)
    (hday : 1 ≤ day ∧ day ≤ 31) (hhour : hour < 24) (hminute : minute < 60) (hsecond : second < 60) (hmilli : milli < 1000)
    (h : inRange (daysFromDate year month day * 86400000 + (((hour * 60 + minute) * 60 + second) * 1000 + milli : Int)))
    (zone : Zone) : (stamp year month day hour minute second milli).instant? zone =
      some (daysFromDate year month day * 86400000 + (((hour * 60 + minute) * 60 + second) * 1000 + milli : Int)) := by
  have hcalendar : (isMonth month && isDay day) = true := by
    simp only [isMonth, isDay, Bool.and_eq_true, decide_eq_true_eq]
    omega
  have hdate : (stamp year month day hour minute second milli).date? = some (year, month, day) := by
    simp [Draft.date?, stamp, hcalendar]
  have htime : (stamp year month day hour minute second milli).time? =
      some (((hour * 60 + minute) * 60 + second) * 1000 + milli : Int) := by
    simp [Draft.time?, stamp, hhour, hminute, hsecond, hmilli]
  have hoffset : ∀ time, (stamp year month day hour minute second milli).offset zone time = 0 := fun _ => rfl
  unfold Draft.instant?
  rw [hdate, htime]
  simp only [Option.bind_eq_bind, Option.bind_some, hoffset, zero_mul, sub_zero, if_pos h]

/-- The parts of an ISO text after its year. -/
def stampTokens (month day hour minute second milli : Nat) : List DateToken :=
  [.sign '-', .number month 2, .sign '-', .number day 2, .word .separator, .number hour 2, .sign ':', .number minute 2, .sign ':',
    .number second 2, .sign '.', .number milli 3, .word (.zone 0 true)]

theorem draft?_stampTokens {year : Int} {month day hour minute second milli : Nat} {tokens : List DateToken}
    (hyear : isoYear tokens = .ok ({ date := [year] }, stampTokens month day hour minute second milli))
    (hmonth : 1 ≤ month ∧ month ≤ 12) (hday : 1 ≤ day ∧ day ≤ 31) (hhour : hour < 24) (hminute : minute < 60) (hsecond : second < 60) :
    draft? tokens = some (stamp year month day hour minute second milli) := by
  have hmonthFits : isMonth month = true := by
    simp only [isMonth, Bool.and_eq_true, decide_eq_true_eq]
    omega
  have hdayFits : isDay day = true := by
    simp only [isDay, Bool.and_eq_true, decide_eq_true_eq]
    omega
  have hdate : isoDate tokens = .ok ({ date := [year, month, day] }, .word .separator :: [.number hour 2, .sign ':',
      .number minute 2, .sign ':', .number second 2, .sign '.', .number milli 3, .word (.zone 0 true)]) := by
    unfold isoDate
    rw [hyear]
    simp [stampTokens, isoPart, hmonthFits, hdayFits, bind, Except.bind, pure, Except.pure]
  have htime : isoTime { date := [year, month, day], iso := true } [.number hour 2, .sign ':', .number minute 2, .sign ':',
      .number second 2, .sign '.', .number milli 3, .word (.zone 0 true)] = some (stamp year month day hour minute second milli) := by
    simp [isoTime, isoSeconds, isoZone, stamp, Draft.inZone, fractionMillis, hhour.le, hhour.ne, hminute, hsecond, power]
  unfold draft?
  rw [hdate]
  exact htime

/-- The ISO text of an instant is read as the instant, in whatever zone. -/
theorem ofText?_text {t : Int} (h : inRange t) (zone : Zone := .universal) : ofText? (text t) zone = some t := by
  have hbounds : -8640000000000000 ≤ t ∧ t ≤ 8640000000000000 := by simpa [inRange] using h
  obtain ⟨year, month, day, hdate, hmonthLow, hmonthHigh, hdayLow, hdayHigh, hdays, hyear⟩ :=
    dateFromDays_spec (t.fdiv 86400000)
  have hchars := toList_text t hdate
  rw [Int.fdiv_eq_ediv_of_nonneg _ (by decide)] at hdays hyear
  rw [Int.fmod_eq_emod_of_nonneg _ (by decide)] at hchars
  obtain ⟨hyearLow, hyearHigh⟩ := hyear (by omega) (by omega)
  generalize hms : (t % 86400000).toNat = ms at hchars
  have hmsHigh : ms < 86400000 := by omega
  have hsum : t = daysFromDate year month day * 86400000 +
      ((((ms / 1000 / 3600 : Nat) * 60 + (ms / 1000 / 60 % 60 : Nat)) * 60 + (ms / 1000 % 60 : Nat)) * 1000 + (ms % 1000 : Nat) : Int) := by
    rw [hdays]
    omega
  have hwhole : (text t).toList.takeWhile (· ≠ '\x00') = (text t).toList :=
    List.takeWhile_eq_self_iff.mpr fun c hc => decide_eq_true (ne_nul_of_mem_text hc)
  have htokens : isoYear (dateTokens (text t).toList) = .ok ({ date := [year] }, stampTokens month day (ms / 1000 / 3600)
      (ms / 1000 / 60 % 60) (ms / 1000 % 60) (ms % 1000)) := by
    have hstop : ∀ {c : Char}, ¬ c.isDigit → ∀ rest, Number.StopsDigits (c :: rest) := fun h _ => Number.stopsDigits_cons h
    rw [hchars, isoYear_yearText hyearLow hyearHigh (hstop (by decide) _), dateTokens_sign (.inr (.inl rfl)),
      dateTokens_pad (by omega) (by decide) (by decide) (hstop (by decide) _), dateTokens_sign (.inr (.inl rfl)),
      dateTokens_pad (by omega) (by decide) (by decide) (hstop (by decide) _)]
    rw [dateTokens_separator, dateTokens_pad (by omega) (by decide) (by decide) (hstop (by decide) _),
      dateTokens_sign (.inl rfl), dateTokens_pad (by omega) (by decide) (by decide) (hstop (by decide) _),
      dateTokens_sign (.inl rfl), dateTokens_pad (by omega) (by decide) (by decide) (hstop (by decide) _),
      dateTokens_sign (.inr (.inr (.inr rfl))), dateTokens_pad (by omega) (by decide) (by decide) (hstop (by decide) _)]
    have hzone : dateTokens ['Z'] = [.word (.zone 0 true)] := by
      rw [dateTokens, show tokenAt 'Z' [] = (.word (.zone 0 true), []) by rfl, dateTokens.eq_def]
    rw [hzone]
    rfl
  have hdraft := draft?_stampTokens htokens ⟨hmonthLow, hmonthHigh⟩ ⟨hdayLow, hdayHigh⟩ (by omega) (by omega) (by omega)
  unfold ofText?
  rw [hwhole, hdraft, Option.bind_some, hsum]
  exact instant?_stamp ⟨hmonthLow, hmonthHigh⟩ ⟨hdayLow, hdayHigh⟩ (by omega) (by omega) (by omega) (by omega) (hsum ▸ h) zone

end QualityGate.Instant
