/-
This file proves that text is a faithful detour for values. A value that is brought to text is
written as it is shown, and what is shown of a truth value, a whole number, an identifier, a day, a
time or a moment is read back as the very same value: signs, long years, leap seconds at the end of
a minute and all nine digits of a fraction survive. Any other leap second is shown like the second
after it, and comes back as that. Instants are shown with their offset, and such a text is read in
the years of four digits and in no others.
-/

import RecordMapper.Proofs.Value.StoredText
import RecordMapper.Proofs.Value.Transport

namespace RecordMapper

/-! ### Times and moments -/

namespace Calendar

open RecordMapper.Text

theorem isSolid_shownTime (time : TimeOfDay) : IsSolid time.text.toList := by
  have point : IsSolid ".".toList := by decide
  unfold TimeOfDay.text
  rcases time.fraction_cases with ⟨-, unwritten⟩ | ⟨places, value, -, -, -, -, shown⟩
  · rw [unwritten, String.append_empty]
    exact isSolid_clock time
  · rw [shown, String.toList_append, String.toList_append]
    exact (isSolid_clock time).append (point.append (isSolid_paddedText places value))

/-- What is written in place of a time is read from its shown text in full. -/
theorem readTime_shown (time : TimeOfDay) : readTime time.text.toList = .ok time.asShown := by
  have trimmed : trim time.text.toList = time.text.toList :=
    trim_of_isSolid (isSolid_shownTime time)
  have read : readPattern {} timePattern time.text.toList = .ok (({} : Reading).atTime time) := by
    rw [← List.append_nil time.text.toList]
    exact readPattern_shownTime (takesPair_part (by decide)) (takesPair_part (by decide))
      (takesPair_part (by decide)) rfl endsNumber_nil nofun
  simp only [readTime, trimmed, readAs, read, Reading.time_atTime]

theorem trim_shownMoment (moment : Moment) : trim moment.text.toList = moment.text.toList := by
  unfold Moment.text
  simp only [String.toList_append]
  exact trim_of_solid _ (isSolid_dateText moment.date) (isSolid_shownTime moment.time)

/-- What is written in place of a moment is read from its shown text in full, in whatever year it
lies. -/
theorem moment?_shown (moment : Moment) : moment? moment.text.toList = some moment.asShown := by
  have space : " ".toList = [' '] := by decide
  have read : readPattern {} spacedPattern moment.text.toList =
      .ok (({} : Reading).atMoment moment) := by
    unfold Moment.text
    simp only [String.toList_append, space, List.append_assoc, List.cons_append, List.nil_append]
    rw [← List.append_nil moment.time.text.toList]
    exact (readPattern_date moment.date.takesYear_part (takesPair_part (by decide))
        (takesPair_part (by decide))).trans
      ((readPattern_blanks (isSolid_shownTime moment.time)).trans
        (readPattern_shownTime (takesPair_part (by decide)) (takesPair_part (by decide))
          (takesPair_part (by decide)) rfl endsNumber_nil nofun))
  simp only [moment?, trim_shownMoment, firstFit, readAs, read, Reading.moment_atMoment,
    List.findSome?_cons, Except.toOption]

end Calendar

/-! ### Shown texts -/

section

open Conversion

variable {value : Value}

/-- A number of 64 bits is read from its text. -/
theorem Value.asInteger_integerText (number : Int64) :
    (Value.text (Text.integerText number.toInt)).asInteger = some number := by
  have least := number.le_toInt
  have most := number.toInt_lt
  have inside : -Int.pow 2 63 ≤ number.toInt ∧ number.toInt < Int.pow 2 63 := ⟨least, most⟩
  rw [asInteger, Text.trim_of_isSolid (Text.isSolid_integerText _), Text.integer?_integerText,
    Option.bind_some, int64?, if_pos inside, Int64.ofInt_toInt]

theorem ScalarType.convert_shownTime (time : Calendar.TimeOfDay) :
    ScalarType.time.convert (.text time.text) = .ok (.time time.asShown) := by
  simp only [convert, toTime, timeOfText, Calendar.readTime_shown, Except.map]

theorem ScalarType.convert_shownMoment (moment : Calendar.Moment) :
    dateTime.convert (.text moment.text) = .ok (.dateTime moment.asShown) := by
  simp only [convert, toDateTime, momentOfText, Calendar.moment?_shown, Except.map]

/-- What is written in place of an instant is read from its shown text in the years of four digits,
and in other years nothing is. -/
theorem ScalarType.convert_shownInstant (moment : Calendar.Moment) :
    instant.convert (.text moment.internet) =
      if 0 ≤ moment.date.year ∧ moment.date.year ≤ 9999 then .ok (.timestamp moment.asShown)
      else .error (.instantText moment.internet) := by
  simp only [convert, toInstant, instantOfText_internet]
  split <;> rfl

/-- An integer type reads its values from what is shown of them. -/
theorem IntegerType.toInteger_shown {type : IntegerType} (named : type.kind.names value = true)
    (reached : type.reaches value = true) : toInteger type (.text value.shown) = .ok value := by
  obtain ⟨number, counted, stores⟩ := type.exists_number named
  have shown : value.shown = Text.integerText number.toInt := by
    cases type <;> cases value <;> cases named <;> cases counted <;> simp [Value.shown]
  have inside := (reaches_iff counted).mp reached
  simp only [toInteger, shown, Value.asInteger_integerText, inside, and_self, if_true, stores]

/-- Whether values of a kind are shown in full, so that the kind can be told from text. -/
def Kind.isLegible (kind : Kind) : Bool :=
  kind == .bool || kind.isInteger || kind.isTextual

/-- Bringing a value of a legible kind to text gives what is shown of the value. -/
theorem Value.coerce_text_of_isLegible {kind : Kind} (legible : kind.isLegible = true)
    (named : kind.names value = true) : value.coerce .text = .ok (.text value.shown) := by
  cases kind <;> cases legible <;> cases value <;> cases named <;> rfl

/-- The type that carries a legible kind reads what is written in place of its values from what is
shown of them, and fails if that is an instant in a year that is not of four digits. -/
theorem Kind.convert_shown {kind : Kind} {type : ScalarType} (legible : kind.isLegible = true)
    (carried : kind.carrier? = some type) (named : kind.names value = true) :
    (value.hasPlainYear = true → type.convert (.text value.shown) = .ok value.asShown) ∧
      (value.hasPlainYear = false → ∃ cause, type.convert (.text value.shown) = .error cause) := by
  have held := Kind.holds_of_carrier? carried named
  cases kind with
  | bool =>
    cases carried
    cases value <;> cases named
    rename_i truth
    exact ⟨fun _ => by cases truth <;> rfl, nofun⟩
  | smallInt | int | bigInt =>
    cases carried
    obtain ⟨sameVariant, reached⟩ := Bool.and_eq_true_iff.mp held
    cases value <;> cases named
    exact ⟨fun _ => IntegerType.toInteger_shown sameVariant reached, nofun⟩
  | uuid =>
    cases carried
    cases value <;> cases named
    exact ⟨fun _ => ScalarType.convert_uuidText _, nofun⟩
  | date =>
    cases carried
    cases value <;> cases named
    exact ⟨fun _ => ScalarType.convert_dateText _, nofun⟩
  | time =>
    cases carried
    cases value <;> cases named
    exact ⟨fun _ => ScalarType.convert_shownTime _, nofun⟩
  | dateTime =>
    cases carried
    cases value <;> cases named
    exact ⟨fun _ => ScalarType.convert_shownMoment _, nofun⟩
  | timestamp =>
    cases carried
    cases value <;> cases named
    rename_i moment
    have read := ScalarType.convert_shownInstant moment
    constructor
    · intro plain
      rw [if_pos (of_decide_eq_true plain)] at read
      exact read
    · intro signed
      rw [if_neg (of_decide_eq_false signed)] at read
      exact ⟨_, read⟩
  | real | double | text | blob | other name => cases legible

/-- Text is a faithful detour. A truth value, a whole number, an identifier, a day, a time or a
moment has a text, and bringing that text to the kind of the value gives what is written in place of
the value; so it is with instants, but in the years of four digits only. The value itself comes back
exactly if its leap second, where it has one, is in its place besides. -/
theorem Value.coerce_text_rereads {kind : Kind} (legible : kind.isLegible = true)
    (named : kind.names value = true) :
    ∃ text, value.coerce .text = .ok (.text text) ∧
      (value.hasPlainYear = true → (Value.text text).coerce kind = .ok value.asShown) ∧
      ((Value.text text).coerce kind = .ok value ↔
        value.hasPlainYear = true ∧ value.hasPlainSecond = true) := by
  obtain ⟨type, carried⟩ : ∃ type, kind.carrier? = some type := by
    cases kind <;> first | exact ⟨_, rfl⟩ | cases legible
  have present : Value.text value.shown ≠ .null := nofun
  obtain ⟨read, refused⟩ := Kind.convert_shown legible carried named
  refine ⟨value.shown, Value.coerce_text_of_isLegible legible named, ?_⟩
  rw [Value.coerce_of_carrier? carried present]
  refine ⟨read, ?_⟩
  cases year : value.hasPlainYear with
  | true =>
    rw [read year, Except.ok.injEq, Value.asShown_eq_self_iff]
    exact (and_iff_right rfl).symm
  | false =>
    obtain ⟨cause, fails⟩ := refused year
    rw [fails]
    exact iff_of_false nofun fun both => Bool.false_ne_true both.1

/-- A leap second survives the detour with all nine digits of its fraction. -/
theorem Value.coerce_text_rereads_leapSecond :
    Kind.timestamp.isLegible = true ∧
      Kind.timestamp.names (.timestamp (leapSecond 1 (by decide))) = true ∧
      (Value.timestamp (leapSecond 1 (by decide))).coerce .text =
        .ok (.text "2016-12-31T23:59:60.000000001+00:00") ∧
      (Value.text "2016-12-31T23:59:60.000000001+00:00").coerce .timestamp =
        .ok (.timestamp (leapSecond 1 (by decide))) := by
  obtain ⟨text, written, -, rereads⟩ := @coerce_text_rereads
    (.timestamp (leapSecond 1 (by decide))) .timestamp rfl rfl
  have shown : (Value.timestamp (leapSecond 1 (by decide))).coerce .text =
      .ok (.text "2016-12-31T23:59:60.000000001+00:00") := by decide +kernel
  cases shown.symm.trans written
  exact ⟨rfl, rfl, shown, rereads.mpr (by decide)⟩

/-- A time in a leap second after the fifth second of a minute. -/
def strayTime : Calendar.TimeOfDay := ⟨23, 56, 4, 1333333333, by decide⟩

/-- Not every time survives the detour: a leap second that does not end a minute comes back as the
second after it. -/
theorem Value.strayTime_changed :
    (Value.time strayTime).coerce .text = .ok (.text "23:56:05.333333333") ∧
      (Value.text "23:56:05.333333333").coerce .time =
        .ok (.time ⟨23, 56, 5, 333333333, by decide⟩) ∧
      ¬ ∀ time : Calendar.TimeOfDay, ∃ text, (Value.time time).coerce .text = .ok (.text text) ∧
        (Value.text text).coerce .time = .ok (.time time) := by
  have shown : (Value.time strayTime).coerce .text = .ok (.text "23:56:05.333333333") := by
    decide +kernel
  have read : (Value.text "23:56:05.333333333").coerce .time =
      .ok (.time ⟨23, 56, 5, 333333333, by decide⟩) := by
    decide +kernel
  refine ⟨shown, read, fun survives => ?_⟩
  obtain ⟨text, written, same⟩ := survives strayTime
  cases shown.symm.trans written
  exact absurd (read.symm.trans same) (by decide)

end

end RecordMapper
