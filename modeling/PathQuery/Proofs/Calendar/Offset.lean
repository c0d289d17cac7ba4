import PathQuery.Calendar.Reader

/-!
# Offsets from UTC

* `Zone` : the offsets as they are written, with the minutes that each is ahead of UTC;
* `DateTime.IsEarlier` : whether a date and time is another one some minutes earlier.

The day after a day has the next number, the day before it the number before (`dayNumber_next?`,
`dayNumber_previous?`), across the ends of months and years, and no two days have the same
(`eq_of_dayNumber_eq`). So one date and time is another one some minutes earlier
(`isEarlier_iff_of_earlier?`). What is read with an offset ends in it, and its moment in UTC is that
much earlier (`isEarlier_iff_of_readOffsetDateTime?`).
-/

namespace PathQuery.Calendar

/-- The offsets from UTC as they are written, in minutes ahead of UTC. -/
inductive Zone : List Char → Int → Prop where
  | utc {c : Char} (hc : c = 'Z' ∨ c = 'z') : Zone [c] 0
  | ahead {hours minutes : List Char} (hh : hours.length = 2 ∧ hours.all Char.isDigit)
    (hm : minutes.length = 2 ∧ minutes.all Char.isDigit)
    (hbound : Numeral.digitsValue hours < 24 ∧ Numeral.digitsValue minutes < 60) :
    Zone ('+' :: hours ++ ':' :: minutes) (Numeral.digitsValue hours * 60 + Numeral.digitsValue minutes)
  | behind {sign : Char} (hsign : sign = '-' ∨ sign = '\u2212') {hours minutes : List Char}
    (hh : hours.length = 2 ∧ hours.all Char.isDigit) (hm : minutes.length = 2 ∧ minutes.all Char.isDigit)
    (hbound : Numeral.digitsValue hours < 24 ∧ Numeral.digitsValue minutes < 60) :
    Zone (sign :: hours ++ ':' :: minutes) (-(Numeral.digitsValue hours * 60 + Numeral.digitsValue minutes))

/-- Whether a date and time is another one some minutes earlier. -/
def DateTime.IsEarlier (u t : DateTime) (minutes : Int) : Prop :=
  u.nanosSince2000 = t.nanosSince2000 - minutes * 60 * 1000000000 ∧ u.time.nanos = t.time.nanos

/-! ## Days -/

namespace Date

theorem daysBeforeMonth_succ (year : Int) {month : Nat} (h : 1 ≤ month) :
    daysBeforeMonth year (month + 1) = daysBeforeMonth year month + daysInMonth year month := by
  unfold daysBeforeMonth
  rw [List.range_succ, List.drop_append_of_le_length (by rw [List.length_range]; exact h), List.foldl_append]
  rfl

theorem daysBeforeYear_succ (year : Int) :
    daysBeforeYear (year + 1) = daysBeforeYear year + daysBeforeMonth year 12 + daysInMonth year 12 := by
  have hmonths : daysBeforeMonth year 12 + daysInMonth year 12 = 337 + daysInMonth year 2 := by
    show 0 + 31 + daysInMonth year 2 + 31 + 30 + 31 + 30 + 31 + 31 + 30 + 31 + 30 + 31 = _
    omega
  have hyear : daysBeforeYear (year + 1) = daysBeforeYear year + 337 + daysInMonth year 2 := by
    have hfebruary : daysInMonth year 2 = if isLeapYear year then 29 else 28 := rfl
    simp only [hfebruary, daysBeforeYear, isLeapYear, Bool.and_eq_true, Bool.or_eq_true, beq_iff_eq, bne_iff_ne]
    split <;> omega
  omega

theorem eq_of_of?_eq_some {year : Int} {month day : Nat} {d : Date} (h : of? year month day = some d) :
    d.year = year ∧ d.month = month ∧ d.day = day := by
  unfold of? at h
  split at h
  · obtain rfl := Option.some.inj h
    exact ⟨rfl, rfl, rfl⟩
  · exact absurd h (by simp)

theorem bounds (d : Date) : 1 ≤ d.month ∧ d.month ≤ 12 ∧ 1 ≤ d.day ∧ d.day ≤ daysInMonth d.year d.month := by
  have h := d.valid
  simp only [isDate, Bool.and_eq_true, decide_eq_true_iff] at h
  obtain ⟨⟨⟨⟨-, hlow⟩, hhigh⟩, hday⟩, hdays⟩ := h
  exact ⟨hlow, hhigh, hday, hdays⟩

theorem dayNumber_next? {d e : Date} (h : d.next? = some e) : e.dayNumber = d.dayNumber + 1 := by
  obtain ⟨hlow, hhigh, hday, hdays⟩ := d.bounds
  unfold next? at h
  unfold dayNumber
  split at h
  next =>
    obtain ⟨hy, hm, hd⟩ := eq_of_of?_eq_some h
    rw [hy, hm, hd]
    omega
  next hlast =>
    split at h
    next =>
      obtain ⟨hy, hm, hd⟩ := eq_of_of?_eq_some h
      have hmonth := daysBeforeMonth_succ d.year hlow
      rw [hy, hm, hd]
      omega
    next hdecember =>
      obtain ⟨hy, hm, hd⟩ := eq_of_of?_eq_some h
      have htwelve : d.month = 12 := by omega
      have hjanuary : daysBeforeMonth (d.year + 1) 1 = 0 := rfl
      rw [htwelve] at hlast hdays ⊢
      rw [hy, hm, hd, daysBeforeYear_succ, hjanuary]
      omega

theorem dayNumber_previous? {d e : Date} (h : d.previous? = some e) : e.dayNumber = d.dayNumber - 1 := by
  obtain ⟨hlow, -, hday, -⟩ := d.bounds
  unfold previous? at h
  unfold dayNumber
  split at h
  next =>
    obtain ⟨hy, hm, hd⟩ := eq_of_of?_eq_some h
    rw [hy, hm, hd]
    omega
  next hfirst =>
    split at h
    next hmonth =>
      obtain ⟨hy, hm, hd⟩ := eq_of_of?_eq_some h
      have hone : 1 ≤ d.month - 1 := by omega
      have hbefore := daysBeforeMonth_succ d.year hone
      rw [Nat.sub_add_cancel hlow] at hbefore
      rw [hy, hm, hd, hbefore]
      omega
    next hjanuary =>
      obtain ⟨hy, hm, hd⟩ := eq_of_of?_eq_some h
      have hone : d.month = 1 := by omega
      have hyear := daysBeforeYear_succ (d.year - 1)
      have hdecember : daysInMonth (d.year - 1) 12 = 31 := rfl
      have hjanuary : daysBeforeMonth d.year 1 = 0 := rfl
      rw [Int.sub_add_cancel] at hyear
      rw [hy, hm, hd, hone, hyear, hdecember, hjanuary]
      omega

/-- What comes before a month is less than what comes before a later one by the days of the month,
at least. -/
theorem daysBeforeMonth_add_le (year : Int) {m n : Nat} (hm : 1 ≤ m) (h : m < n) :
    daysBeforeMonth year m + daysInMonth year m ≤ daysBeforeMonth year n := by
  induction h with
  | refl => exact Nat.le_of_eq (daysBeforeMonth_succ year hm).symm
  | @step n hn ih =>
    rw [daysBeforeMonth_succ year (Nat.le_trans hm (Nat.le_of_lt hn))]
    exact Nat.le_add_right_of_le ih

theorem daysBeforeYear_le {y z : Int} (h : y ≤ z) : daysBeforeYear y ≤ daysBeforeYear z := by
  unfold daysBeforeYear
  omega

theorem dayNumber_lt_of_year_lt {d e : Date} (h : d.year < e.year) : d.dayNumber < e.dayNumber := by
  obtain ⟨hlow, hhigh, -, hdays⟩ := d.bounds
  obtain ⟨-, -, hday, -⟩ := e.bounds
  have hyear := daysBeforeYear_succ d.year
  have hlater := daysBeforeYear_le (show d.year + 1 ≤ e.year from h)
  have hmonth : daysBeforeMonth d.year d.month + daysInMonth d.year d.month ≤
      daysBeforeMonth d.year 12 + daysInMonth d.year 12 := by
    rcases Nat.lt_or_eq_of_le hhigh with hlt | heq
    · exact Nat.le_trans (daysBeforeMonth_add_le d.year hlow hlt) (Nat.le_add_right _ _)
    · exact Nat.le_of_eq (by rw [heq])
  unfold dayNumber
  omega

theorem dayNumber_lt_of_month_lt {d e : Date} (hyear : d.year = e.year) (h : d.month < e.month) :
    d.dayNumber < e.dayNumber := by
  obtain ⟨hlow, -, -, hdays⟩ := d.bounds
  obtain ⟨-, -, hday, -⟩ := e.bounds
  have hmonth := daysBeforeMonth_add_le d.year hlow h
  unfold dayNumber
  rw [← hyear]
  omega

theorem eq_of_dayNumber_eq {d e : Date} (h : d.dayNumber = e.dayNumber) : d = e := by
  have hyear : d.year = e.year := by
    rcases Int.lt_trichotomy d.year e.year with hlt | heq | hgt
    · exact absurd h (Int.ne_of_lt (dayNumber_lt_of_year_lt hlt))
    · exact heq
    · exact absurd h.symm (Int.ne_of_lt (dayNumber_lt_of_year_lt hgt))
  have hmonth : d.month = e.month := by
    rcases Nat.lt_trichotomy d.month e.month with hlt | heq | hgt
    · exact absurd h (Int.ne_of_lt (dayNumber_lt_of_month_lt hyear hlt))
    · exact heq
    · exact absurd h.symm (Int.ne_of_lt (dayNumber_lt_of_month_lt hyear.symm hgt))
  have hday : d.day = e.day := by
    unfold dayNumber at h
    rw [hyear, hmonth] at h
    omega
  cases d
  cases e
  dsimp only at hyear hmonth hday
  subst hyear hmonth hday
  rfl

end Date

theorem TimeOfDay.lt_day (t : TimeOfDay) : t.seconds < 86400 := by
  have hvalid := t.valid
  rw [isTimeOfDay, Bool.and_eq_true, decide_eq_true_iff] at hvalid
  exact hvalid.1

theorem TimeOfDay.eq_of_of?_eq_some {seconds nanos : Nat} {t : TimeOfDay} (h : of? seconds nanos = some t) :
    t.seconds = seconds ∧ t.nanos = nanos := by
  unfold of? at h
  split at h
  · obtain rfl := Option.some.inj h
    exact ⟨rfl, rfl⟩
  · exact absurd h (by simp)

/-- The nanoseconds since 2000, and those within the second, tell dates and times apart. -/
theorem DateTime.eq_of_nanosSince2000_eq {t u : DateTime} (h : t.nanosSince2000 = u.nanosSince2000)
    (hnanos : t.time.nanos = u.time.nanos) : t = u := by
  have ht := t.time.lt_day
  have hu := u.time.lt_day
  unfold nanosSince2000 at h
  have hdate : t.date = u.date := Date.eq_of_dayNumber_eq (by omega)
  rw [hdate] at h
  have hseconds : t.time.seconds = u.time.seconds := by omega
  obtain ⟨date, seconds, nanos, _⟩ := t
  obtain ⟨date', seconds', nanos', _⟩ := u
  dsimp only at hdate hseconds hnanos
  subst hdate hseconds hnanos
  rfl

/-- Some minutes earlier is that many minutes less, whatever day it falls on. -/
theorem DateTime.isEarlier_of_earlier? {t u : DateTime} {minutes : Int} (h : t.earlier? minutes = some u)
    (hlow : -1440 < minutes) (hhigh : minutes < 1440) : u.IsEarlier t minutes := by
  have hday := t.time.lt_day
  have hclock {date : Date} {seconds : Nat}
      (h : (TimeOfDay.of? seconds t.time.nanos).bind (fun time => some (DateTime.mk date time)) = some u) :
      u.nanosSince2000 = (date.dayNumber * 86400 + seconds) * 1000000000 + t.time.nanos ∧
        u.time.nanos = t.time.nanos := by
    obtain ⟨time, htime, h⟩ := Option.bind_eq_some_iff.1 h
    obtain rfl := Option.some.inj h
    obtain ⟨hseconds, hnanos⟩ := TimeOfDay.eq_of_of?_eq_some htime
    refine ⟨?_, hnanos⟩
    show (date.dayNumber * 86400 + time.seconds) * 1000000000 + (time.nanos : Int) = _
    rw [hseconds, hnanos]
  unfold earlier? at h
  unfold IsEarlier
  unfold nanosSince2000 at hclock ⊢
  dsimp only at h
  -- it falls on the day before, on the day after or on the same day
  split at h
  next hearly =>
    obtain ⟨date, hdate, h⟩ := Option.bind_eq_some_iff.1 h
    obtain ⟨hnanos, hsame⟩ := hclock h
    have hnumber := Date.dayNumber_previous? hdate
    exact ⟨by omega, hsame⟩
  next hearly =>
    split at h
    next hlate =>
      obtain ⟨date, hdate, h⟩ := Option.bind_eq_some_iff.1 h
      obtain ⟨hnanos, hsame⟩ := hclock h
      have hnumber := Date.dayNumber_next? hdate
      exact ⟨by omega, hsame⟩
    next hlate =>
      obtain ⟨hnanos, hsame⟩ := hclock h
      exact ⟨by omega, hsame⟩

theorem DateTime.isEarlier_iff_of_earlier? {t u v : DateTime} {minutes : Int} (h : t.earlier? minutes = some u)
    (hlow : -1440 < minutes) (hhigh : minutes < 1440) : v.IsEarlier t minutes ↔ v = u := by
  have hu := isEarlier_of_earlier? h hlow hhigh
  constructor
  · exact fun hv => eq_of_nanosSince2000_eq (hv.1.trans hu.1.symm) (hv.2.trans hu.2.symm)
  · rintro rfl
    exact hu

/-! ## Readers -/

section

variable {s r : Rest}

theorem eq_append_of_takeDigits? {n k : Nat} (h : takeDigits? n s = some (k, r)) :
    ∃ ds, s = ds ++ r ∧ (ds.length = n ∧ ds.all Char.isDigit) ∧ k = Numeral.digitsValue ds := by
  unfold takeDigits? at h
  dsimp only at h
  split at h
  next hds =>
    obtain ⟨rfl, rfl⟩ := Prod.mk.inj (Option.some.inj h)
    exact ⟨s.take n, (List.take_append_drop n s).symm, hds, rfl⟩
  next => exact absurd h (by simp)

theorem eq_cons_of_expect? {c : Char} (h : expect? c s = some r) : s = c :: r := by
  unfold expect? at h
  split at h
  next d s =>
    split at h
    next hc => rw [hc, Option.some.inj h]
    next => exact absurd h (by simp)
  next => exact absurd h (by simp)

theorem suffix_of_takeDigits? {n k : Nat} (h : takeDigits? n s = some (k, r)) : r <:+ s := by
  obtain ⟨ds, rfl, -⟩ := eq_append_of_takeDigits? h
  exact List.suffix_append ds r

theorem suffix_of_expect? {c : Char} (h : expect? c s = some r) : r <:+ s :=
  eq_cons_of_expect? h ▸ List.suffix_cons c r

theorem suffix_of_takeSeparator? (h : takeSeparator? s = some r) : r <:+ s := by
  unfold takeSeparator? at h
  split at h
  next c s =>
    split at h
    next =>
      obtain rfl := Option.some.inj h
      exact List.suffix_cons c s
    next => exact absurd h (by simp)
  next => exact absurd h (by simp)

theorem suffix_of_takeFraction? {nanos : Nat} (h : takeFraction? s = some (nanos, r)) : r <:+ s := by
  unfold takeFraction? at h
  split at h
  next s =>
    dsimp only at h
    split at h
    next => exact absurd h (by simp)
    next =>
      obtain ⟨-, rfl⟩ := Prod.mk.inj (Option.some.inj h)
      exact (List.dropWhile_suffix Char.isDigit).trans (List.suffix_cons '.' s)
  next =>
    obtain ⟨-, rfl⟩ := Prod.mk.inj (Option.some.inj h)
    exact List.suffix_rfl

/-- An offset is taken off the front as it is written. -/
theorem zone_of_takeOffset? {minutes : Int} (h : takeOffset? s = some (minutes, r)) :
    ∃ zone, s = zone ++ r ∧ Zone zone minutes := by
  unfold takeOffset? at h
  split at h
  next => exact absurd h (by simp)
  next c s =>
    split at h
    next hc =>
      obtain ⟨rfl, rfl⟩ := Prod.mk.inj (Option.some.inj h)
      exact ⟨[c], rfl, .utc hc⟩
    next =>
      split at h
      next hsign =>
        obtain ⟨⟨hours, r₁⟩, hhours, h⟩ := Option.bind_eq_some_iff.1 h
        obtain ⟨r₂, hcolon, h⟩ := Option.bind_eq_some_iff.1 h
        obtain ⟨⟨minutes, r₃⟩, hminutes, h⟩ := Option.bind_eq_some_iff.1 h
        obtain ⟨hs, rfl, hhs, rfl⟩ := eq_append_of_takeDigits? hhours
        obtain rfl := eq_cons_of_expect? hcolon
        obtain ⟨ms, rfl, hms, rfl⟩ := eq_append_of_takeDigits? hminutes
        dsimp only at h
        split at h
        next hbound =>
          obtain ⟨rfl, rfl⟩ := Prod.mk.inj (Option.some.inj h)
          refine ⟨c :: hs ++ ':' :: ms, by simp, ?_⟩
          split
          next hplus => exact hplus ▸ .ahead hhs hms hbound
          next hplus => exact .behind (hsign.resolve_left hplus) hhs hms hbound
        next => exact absurd h (by simp)
      next => exact absurd h (by simp)

end

theorem Zone.lt_day {zone : List Char} {minutes : Int} (h : Zone zone minutes) : -1440 < minutes ∧ minutes < 1440 := by
  cases h with
  | utc => exact ⟨by decide, by decide⟩
  | ahead _ _ hbound | behind _ _ _ hbound =>
    obtain ⟨hhours, hminutes⟩ := hbound
    omega

/-- A date and time with an offset ends in its offset, and its moment in UTC is that much
earlier. -/
theorem isEarlier_iff_of_readOffsetDateTime? {s : String} {t : OffsetDateTime} (h : readOffsetDateTime? s = some t) :
    (∃ zone, zone <:+ s.toList ∧ Zone zone t.minutes) ∧ ∀ u : DateTime, u.IsEarlier t.civil t.minutes ↔ u = t.utc := by
  unfold readOffsetDateTime? at h
  obtain ⟨⟨year, r₁⟩, h₁, h⟩ := Option.bind_eq_some_iff.1 h
  obtain ⟨r₂, h₂, h⟩ := Option.bind_eq_some_iff.1 h
  obtain ⟨⟨month, r₃⟩, h₃, h⟩ := Option.bind_eq_some_iff.1 h
  obtain ⟨r₄, h₄, h⟩ := Option.bind_eq_some_iff.1 h
  obtain ⟨⟨day, r₅⟩, h₅, h⟩ := Option.bind_eq_some_iff.1 h
  obtain ⟨r₆, h₆, h⟩ := Option.bind_eq_some_iff.1 h
  obtain ⟨⟨hour, r₇⟩, h₇, h⟩ := Option.bind_eq_some_iff.1 h
  obtain ⟨r₈, h₈, h⟩ := Option.bind_eq_some_iff.1 h
  obtain ⟨⟨minute, r₉⟩, h₉, h⟩ := Option.bind_eq_some_iff.1 h
  obtain ⟨r₁₀, h₁₀, h⟩ := Option.bind_eq_some_iff.1 h
  obtain ⟨⟨second, r₁₁⟩, h₁₁, h⟩ := Option.bind_eq_some_iff.1 h
  obtain ⟨⟨nanos, r₁₂⟩, h₁₂, h⟩ := Option.bind_eq_some_iff.1 h
  obtain ⟨⟨offset, r₁₃⟩, h₁₃, h⟩ := Option.bind_eq_some_iff.1 h
  dsimp only at h
  split at h
  next hend =>
    subst hend
    obtain ⟨date, -, h⟩ := Option.bind_eq_some_iff.1 h
    obtain ⟨time, -, h⟩ := Option.bind_eq_some_iff.1 h
    obtain ⟨utc, hutc, h⟩ := Option.bind_eq_some_iff.1 h
    obtain rfl := Option.some.inj h
    obtain ⟨zone, hzone, hspelled⟩ := zone_of_takeOffset? h₁₃
    rw [List.append_nil] at hzone
    refine ⟨⟨zone, ?_, hspelled⟩, fun _ =>
      DateTime.isEarlier_iff_of_earlier? hutc hspelled.lt_day.1 hspelled.lt_day.2⟩
    have hdate : r₆ <:+ s.toList :=
      (suffix_of_takeSeparator? h₆).trans <| (suffix_of_takeDigits? h₅).trans <| (suffix_of_expect? h₄).trans <|
        (suffix_of_takeDigits? h₃).trans <| (suffix_of_expect? h₂).trans <| suffix_of_takeDigits? h₁
    have htime : r₁₂ <:+ r₆ :=
      (suffix_of_takeFraction? h₁₂).trans <| (suffix_of_takeDigits? h₁₁).trans <| (suffix_of_expect? h₁₀).trans <|
        (suffix_of_takeDigits? h₉).trans <| (suffix_of_expect? h₈).trans <| suffix_of_takeDigits? h₇
    exact hzone ▸ htime.trans hdate
  next => exact absurd h (by simp)

end PathQuery.Calendar
