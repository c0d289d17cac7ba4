import PathQuery.Cast
import PathQuery.Proofs.Calendar.Offset
import PathQuery.Proofs.Outcome

/-!
# One text in fields of dates, times and timestamps

* `IsDateTime` : the texts that write a date and a time of day, with an offset or without;
* `FieldType.ofMoment?` : what the fields of moments make of one.

Fields of dates, of dates and times and of timestamps take the same texts, and what they make of one
fits together: the day, the date and time, and the moment in UTC, which is earlier by the offset if
the text has one. A text with a date and a time of day is also one for a field of times
(`castValue_moments`).
-/

namespace PathQuery

open Calendar

/-- Whether a text writes a date and a time of day, with an offset from UTC or without. -/
def Calendar.IsDateTime (s : String) : Prop :=
  (readOffsetDateTime? s).isSome = true ∨ (readDateTime? s).isSome = true

variable {s : String}

/-! ## Moments that are read -/

namespace Cast

theorem moment_of_read? {m : Moment} (h : Moment.read? s = some m) : moment s = .ok m := by
  rw [moment, h]

theorem timeOfDay_of_read? {m : Moment} (h : Moment.read? s = some m) : timeOfDay s = .ok m.civil.time := by
  rw [timeOfDay, h]

theorem read?_of_offset {t : OffsetDateTime} (h : readOffsetDateTime? s = some t) :
    Moment.read? s = some (.offset t) := by
  rw [Moment.read?, h]

theorem exists_read?_of_isDateTime (h : IsDateTime s) : ∃ m, Moment.read? s = some m := by
  unfold Moment.read?
  split
  next t ht => exact ⟨.offset t, rfl⟩
  next hnone =>
    have hplain : (readDateTime? s).isSome = true := h.resolve_left (by simp [hnone])
    obtain ⟨t, ht⟩ := Option.isSome_iff_exists.1 hplain
    exact ⟨.plain t, by rw [ht]; rfl⟩

/-- A text without offset is taken as UTC, also a date alone. -/
theorem eq_plain_of_moment {m : Moment} (hnone : readOffsetDateTime? s = none) (h : moment s = .ok m) :
    ∃ t, m = .plain t := by
  unfold moment at h
  split at h
  next m' hm =>
    obtain rfl := Except.ok.inj h
    rw [Moment.read?, hnone] at hm
    obtain ⟨t, -, rfl⟩ := Option.map_eq_some_iff.1 hm
    exact ⟨t, rfl⟩
  next =>
    split at h
    next d _ =>
      obtain rfl := Except.ok.inj h
      exact ⟨⟨d, .midnight⟩, rfl⟩
    next => exact absurd h (by simp)

end Cast

/-! ## Fields -/

/-- What fields of dates, of dates and times and of timestamps make of a moment. -/
def FieldType.ofMoment? : FieldType → Option (Cast.Moment → Param)
  | .date => some fun m => .date m.civil.date
  | .dateTime => some fun m => .dateTime m.civil
  | .timestamp => some fun m => .timestamp m.utc
  | _ => none

section

variable {type : FieldType} {f : Cast.Moment → Param}

theorem castValue_eq_map_moment (s : String) (h : type.ofMoment? = some f) :
    castValue (.string s) (some type) = (Cast.moment s).map f := by
  cases type with
  | date | dateTime | timestamp =>
    obtain rfl := Option.some.inj h
    show (Cast.moment s >>= fun m => pure _) = _
    cases Cast.moment s <;> rfl
  | _ => exact absurd h (by simp [FieldType.ofMoment?])

/-- Fields of moments take the texts that moments are read from. -/
theorem exists_castValue_iff (h : type.ofMoment? = some f) :
    (∃ p, castValue (.string s) (some type) = .ok p) ↔ ∃ m, Cast.moment s = .ok m := by
  constructor
  · rintro ⟨p, hp⟩
    rw [castValue_eq_map_moment s h] at hp
    obtain ⟨m, hm, -⟩ := exists_of_map_eq_ok hp
    exact ⟨m, hm⟩
  · rintro ⟨m, hm⟩
    rw [castValue_eq_map_moment s h, hm]
    exact ⟨f m, rfl⟩

/-- A date, a date and time and a timestamp of one moment. -/
theorem castValue_of_moment {m : Cast.Moment} (hm : Cast.moment s = .ok m) :
    castValue (.string s) (some .date) = .ok (.date m.civil.date) ∧
      castValue (.string s) (some .dateTime) = .ok (.dateTime m.civil) ∧
      castValue (.string s) (some .timestamp) = .ok (.timestamp m.utc) := by
  refine ⟨?_, ?_, ?_⟩
  · rw [castValue_eq_map_moment s rfl, hm]
    rfl
  · rw [castValue_eq_map_moment s rfl, hm]
    rfl
  · rw [castValue_eq_map_moment s rfl, hm]
    rfl

theorem castValue_time {t : TimeOfDay} (h : Cast.timeOfDay s = .ok t) :
    castValue (.string s) (some .time) = .ok (.time t) := by
  show (Cast.timeOfDay s >>= fun t => pure (Param.time t)) = _
  rw [h]
  rfl

end

/-- A text is taken by a field of dates, of dates and times and of timestamps alike. The date is
that of the date and time; the timestamp is the date and time itself if the text has no offset, and
otherwise it is earlier by the offset that the text ends in. A text with a date and a time of day is
taken by a field of times as well, as the same time of day. -/
theorem castValue_moments (s : String) :
    ((∃ p, castValue (.string s) (some .date) = .ok p) ↔ ∃ p, castValue (.string s) (some .dateTime) = .ok p) ∧
    ((∃ p, castValue (.string s) (some .dateTime) = .ok p) ↔ ∃ p, castValue (.string s) (some .timestamp) = .ok p) ∧
    (∀ p, castValue (.string s) (some .dateTime) = .ok p → ∃ t, p = .dateTime t ∧
      castValue (.string s) (some .date) = .ok (.date t.date) ∧
      (readOffsetDateTime? s = none → castValue (.string s) (some .timestamp) = .ok (.timestamp t)) ∧
      ∀ o, readOffsetDateTime? s = some o → o.civil = t ∧ (∃ zone, zone <:+ s.toList ∧ Zone zone o.minutes) ∧
        castValue (.string s) (some .timestamp) = .ok (.timestamp o.utc) ∧
        ∀ u : DateTime, u.IsEarlier t o.minutes ↔ u = o.utc) ∧
    (IsDateTime s → ∃ t, castValue (.string s) (some .dateTime) = .ok (.dateTime t) ∧
      castValue (.string s) (some .time) = .ok (.time t.time)) := by
  have hdateTime : (∃ p, castValue (.string s) (some .dateTime) = .ok p) ↔ ∃ m, Cast.moment s = .ok m :=
    exists_castValue_iff rfl
  refine ⟨(exists_castValue_iff rfl).trans hdateTime.symm, hdateTime.trans (exists_castValue_iff rfl).symm, ?_, ?_⟩
  · intro p h
    obtain ⟨m, hm⟩ := hdateTime.1 ⟨p, h⟩
    obtain ⟨hdate, hcivil, htimestamp⟩ := castValue_of_moment hm
    obtain rfl := Except.ok.inj (hcivil.symm.trans h)
    refine ⟨m.civil, rfl, hdate, ?_, ?_⟩
    · intro hnone
      obtain ⟨t, rfl⟩ := Cast.eq_plain_of_moment hnone hm
      exact htimestamp
    · intro o ho
      obtain rfl := Except.ok.inj ((Cast.moment_of_read? (Cast.read?_of_offset ho)).symm.trans hm)
      obtain ⟨hzone, hearlier⟩ := isEarlier_iff_of_readOffsetDateTime? ho
      exact ⟨rfl, hzone, htimestamp, hearlier⟩
  · intro h
    obtain ⟨m, hm⟩ := Cast.exists_read?_of_isDateTime h
    obtain ⟨-, hcivil, -⟩ := castValue_of_moment (Cast.moment_of_read? hm)
    exact ⟨m.civil, hcivil, castValue_time (Cast.timeOfDay_of_read? hm)⟩

/-- Half past midnight two hours ahead of UTC is on the day before in UTC, a leap day. -/
theorem castValue_moments_midnight : ∃ t u : DateTime,
    castValue (.string "2024-03-01T00:30:00+02:00") (some .dateTime) = .ok (.dateTime t) ∧
    castValue (.string "2024-03-01T00:30:00+02:00") (some .date) = .ok (.date t.date) ∧
    castValue (.string "2024-03-01T00:30:00+02:00") (some .timestamp) = .ok (.timestamp u) ∧
    u.IsEarlier t 120 ∧ t.date.month = 3 ∧ t.date.day = 1 ∧ u.date.month = 2 ∧ u.date.day = 29 := by
  obtain ⟨-, -, hfields, htime⟩ := castValue_moments "2024-03-01T00:30:00+02:00"
  have hread : (readOffsetDateTime? "2024-03-01T00:30:00+02:00").map (fun o =>
      (o.minutes, o.civil.date.month, o.civil.date.day, o.utc.date.month, o.utc.date.day)) =
      some (120, 3, 1, 2, 29) := by
    decide +kernel
  obtain ⟨o, ho, hparts⟩ := Option.map_eq_some_iff.1 hread
  simp only [Prod.mk.injEq] at hparts
  obtain ⟨hminutes, hdates⟩ := hparts
  obtain ⟨t, ht, -⟩ := htime (.inl (by rw [ho]; rfl))
  obtain ⟨t', heq, hdate, -, hoffset⟩ := hfields _ ht
  obtain rfl := Param.dateTime.inj heq
  obtain ⟨rfl, -, htimestamp, hearlier⟩ := hoffset o ho
  rw [hminutes] at hearlier
  exact ⟨o.civil, o.utc, ht, hdate, htimestamp, (hearlier o.utc).2 rfl, hdates⟩

end PathQuery
