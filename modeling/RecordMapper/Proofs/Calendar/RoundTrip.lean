/-
This file proves that dates and times survive being written and read. Every item of a pattern is
shown to read what was written for it and to leave what follows, so that a pattern reads a text
written along it part by part. A day comes back whatever its year; the stored text of a time comes
back to the microsecond, and the internet timestamp of an instant comes back in full. A leap second
after the last second of a minute is written as second sixty and read as a leap second again. Texts
have no other leap seconds: one after any other second is written like the next second, and is read
as that.
-/

import RecordMapper.Calendar.Text
import RecordMapper.Proofs.Text.Digits

namespace RecordMapper.Calendar

open RecordMapper.Text

/-! ### Numbers at the front of a text -/

/-- A text that does not begin with a digit, so that a number before it ends there. -/
def EndsNumber (text : List Char) : Prop :=
  ∀ character ∈ text.head?, character.isDigit = false

theorem endsNumber_nil : EndsNumber [] :=
  fun _ member => absurd member (by simp)

/-- A run of digits at the front of a text is taken if it is as long as may be or ends there. -/
theorem takeNumber_of_isDigits {least most value : Nat} {digits rest : List Char}
    (areDigits : IsDigits digits) (read : readDigits 0 digits = some value)
    (enough : least ≤ digits.length) (room : digits.length ≤ most)
    (ends : digits.length = most ∨ EndsNumber rest) (small : value < Nat.pow 2 63) :
    takeNumber least most (digits ++ rest) = .ok (value, rest) := by
  have taken : ((digits ++ rest).take most).takeWhile Char.isDigit = digits := by
    rw [List.take_append, List.take_of_length_le room, List.takeWhile_append_of_pos areDigits]
    rcases ends with full | ends
    · rw [full, Nat.sub_self, List.take_zero, List.takeWhile_nil, List.append_nil]
    · cases rest with
      | nil => simp
      | cons first rest =>
        have nonDigit := ends first rfl
        cases most - digits.length <;> simp [nonDigit]
  unfold takeNumber
  simp only [taken, Nat.not_lt.mpr enough, if_false, read, small, if_true, List.drop_left]

/-- A padded number is taken at its width, whatever follows. -/
theorem takeNumber_paddedText {least width value : Nat} (room : value < Nat.pow 10 width)
    (positive : 0 < width) (enough : least ≤ width) (short : width ≤ 18) (rest : List Char) :
    takeNumber least width ((paddedText width value).toList ++ rest) = .ok (value, rest) := by
  have length := length_paddedText room positive
  have small : value < Nat.pow 2 63 :=
    Nat.lt_of_lt_of_le room (Nat.le_trans (Nat.pow_le_pow_right (by omega) short) (by decide))
  exact takeNumber_of_isDigits (isDigits_paddedText width value) (readDigits_paddedText width value)
    (by omega) (by omega) (.inl length) small

/-! ### Items of patterns -/

section

variable {reading further : Reading} {which : Part} {value : Nat}

/-- A padded number of two digits is read as any part but the year. -/
theorem read_part (notYear : which ≠ .year) (room : value < 100)
    (noted : reading.note which value = .ok further) (rest : List Char) :
    (Item.part which).read reading ((paddedText 2 value).toList ++ rest) = .ok (further, rest) := by
  have untrimmed := trimStart_of_solid (isSolid_paddedText 2 value) rest
  have taken : takeNumber 1 2 ((paddedText 2 value).toList ++ rest) = .ok (value, rest) :=
    takeNumber_paddedText room (by omega) (by omega) (by omega) rest
  cases which with
  | year => exact absurd rfl notYear
  | _ => simp [Item.read, untrimmed, taken, noted, bind, Except.bind, pure, Except.pure]

/-- A padded number is read as a part whose width the pattern fixes. -/
theorem read_fixed {digits : Nat} (positive : 0 < digits) (short : digits ≤ 18)
    (room : value < Nat.pow 10 digits) (noted : reading.note which value = .ok further)
    (rest : List Char) :
    (Item.fixed which digits).read reading ((paddedText digits value).toList ++ rest) =
      .ok (further, rest) := by
  have taken : takeNumber digits digits ((paddedText digits value).toList ++ rest) =
      .ok (value, rest) :=
    takeNumber_paddedText room positive (by omega) short rest
  simp [Item.read, taken, noted, bind, Except.bind, pure, Except.pure]

/-- A literal is read where it stands. -/
theorem read_oneOf {characters : List Char} {character : Char} (member : character ∈ characters)
    (rest : List Char) :
    (Item.oneOf characters).read reading (character :: rest) = .ok (reading, rest) := by
  simp [Item.read, member, pure, Except.pure]

/-- Without a point in front no fraction is read. -/
theorem read_fraction_of_head {rest : List Char} (noPoint : rest.head? ≠ some '.') :
    Item.fraction.read reading rest = .ok (reading, rest) := by
  simp only [Item.read]
  split
  · exact absurd rfl noPoint
  · rfl

/-- A text that begins with a digit is no year with a sign. -/
theorem takeYear_of_isDigits {digits : List Char} (areDigits : IsDigits digits)
    (nonempty : digits ≠ []) (rest : List Char) :
    takeYear (digits ++ rest) =
      (takeNumber 1 4 (digits ++ rest)).map fun (value, after) => ((value : Int), after) := by
  cases digits with
  | nil => exact absurd rfl nonempty
  | cons first others =>
    have isDigit := areDigits first List.mem_cons_self
    rw [List.cons_append]
    unfold takeYear
    split
    · rename_i same
      cases same
      cases isDigit
    · rename_i same
      cases same
      cases isDigit
    · rfl

theorem takeYear_minus (rest : List Char) :
    takeYear ('-' :: rest) =
      (takeNumber 1 rest.length rest).map fun (value, after) => (-(value : Int), after) := rfl

theorem takeYear_plus (rest : List Char) :
    takeYear ('+' :: rest) =
      (takeNumber 1 rest.length rest).map fun (value, after) => ((value : Int), after) := rfl

/-- A year is taken however it is written. -/
theorem takeYear_yearText {year : Int} (least : firstYear ≤ year) (most : year ≤ lastYear)
    {rest : List Char} (ends : EndsNumber rest) :
    takeYear ((yearText year).toList ++ rest) = .ok (year, rest) := by
  unfold firstYear at least
  unfold lastYear at most
  unfold yearText
  have same {number : Int} (equal : number = year) :
      (Except.ok (number, rest) : Except Fault _) = .ok (year, rest) := by rw [equal]
  by_cases plain : 0 ≤ year ∧ year ≤ 9999
  · have room : year.toNat < 10000 := by omega
    rw [if_pos plain, takeYear_of_isDigits (isDigits_paddedText 4 _) (paddedText_ne_nil 4 _),
      takeNumber_paddedText room (by omega) (by omega) (by omega)]
    exact same (Int.toNat_of_nonneg plain.1)
  · have taken : takeNumber 1 ((paddedText 4 year.natAbs).toList ++ rest).length
        ((paddedText 4 year.natAbs).toList ++ rest) = .ok (year.natAbs, rest) := by
      have wide : 4 ≤ (paddedText 4 year.natAbs).toList.length := length_paddedText_ge
      refine takeNumber_of_isDigits (isDigits_paddedText _ _) (readDigits_paddedText _ _)
        (by omega) (by rw [List.length_append]; omega) (.inr ends) ?_
      have : Nat.pow 2 63 = 9223372036854775808 := by decide
      omega
    rw [if_neg plain, String.toList_append, List.append_assoc]
    by_cases negative : year < 0
    · have sign : "-".toList = ['-'] := by decide
      rw [if_pos negative, sign, List.singleton_append, takeYear_minus, taken]
      exact same (by omega)
    · have sign : "+".toList = ['+'] := by decide
      rw [if_neg negative, sign, List.singleton_append, takeYear_plus, taken]
      exact same (by omega)

theorem isSolid_yearText (year : Int) : IsSolid (yearText year).toList := by
  unfold yearText
  split
  · exact isSolid_paddedText 4 _
  · have sign : IsSolid (if year < 0 then "-" else "+").toList := by split <;> decide
    rw [String.toList_append]
    exact sign.append (isSolid_paddedText 4 _)

/-- A year is read however it is written. -/
theorem read_year {year : Int} (least : firstYear ≤ year) (most : year ≤ lastYear)
    {rest : List Char} (ends : EndsNumber rest) :
    (Item.part .year).read reading ((yearText year).toList ++ rest) =
      .ok ({ reading with year := year }, rest) := by
  have noted : reading.note .year year = .ok { reading with year := year } := by
    unfold firstYear at least
    unfold lastYear at most
    have : Int.pow 2 31 = 2147483648 := by decide
    exact if_pos (by omega)
  simp [Item.read, trimStart_of_solid (isSolid_yearText year), takeYear_yearText least most ends,
    noted, bind, Except.bind, pure, Except.pure]

end

/-! ### Patterns -/

section

variable {reading further : Reading} {item : Item} {items : List Item} {rest : List Char}

/-- A pattern reads its first item and goes on with what follows. -/
theorem readPattern_cons {text : List Char} (read : item.read reading text = .ok (further, rest)) :
    readPattern reading (item :: items) text = readPattern further items rest := by
  simp only [readPattern, read]

theorem readPattern_oneOf {characters : List Char} {character : Char}
    (member : character ∈ characters) :
    readPattern reading (.oneOf characters :: items) (character :: rest) =
      readPattern reading items rest :=
  readPattern_cons (read_oneOf member rest)

/-- Blanks are skipped up to where a solid text begins. -/
theorem readPattern_blanks {first : List Char} (solid : IsSolid first) :
    readPattern reading (.blanks :: items) (' ' :: (first ++ rest)) =
      readPattern reading items (first ++ rest) := by
  have skipped : trimStart (' ' :: (first ++ rest)) = first ++ rest :=
    trimStart_of_solid solid rest
  refine readPattern_cons ?_
  simp only [Item.read, skipped, pure, Except.pure]

/-- Whether an item reads a padded number of two digits as a part. -/
def Item.TakesPair (item : Item) (which : Part) : Prop :=
  ∀ {reading further : Reading} {value : Nat}, value < 100 →
    reading.note which value = .ok further → ∀ rest : List Char,
      item.read reading ((paddedText 2 value).toList ++ rest) = .ok (further, rest)

theorem takesPair_part {which : Part} (notYear : which ≠ .year) :
    (Item.part which).TakesPair which :=
  fun room noted => read_part notYear room noted

theorem takesPair_fixed (which : Part) : (Item.fixed which 2).TakesPair which :=
  fun room noted => read_fixed (by omega) (by omega) room noted

/-! ### Days -/

/-- The reading with the parts of a day. -/
def Reading.onDay (reading : Reading) (date : Date) : Reading :=
  { reading with year := date.year, month := date.month, day := date.day }

/-- Whether an item reads a year however it is written. -/
def Item.TakesYear (item : Item) (year : Int) : Prop :=
  ∀ (reading : Reading) {rest : List Char}, EndsNumber rest →
    item.read reading ((yearText year).toList ++ rest) = .ok ({ reading with year := year }, rest)

theorem Date.month_range (date : Date) : 1 ≤ date.month ∧ date.month ≤ 12 := by
  obtain ⟨-, -, first, last⟩ := date.isDay
  unfold monthLength at last
  split at last <;> omega

theorem monthLength_le (year : Int) (month : Nat) : monthLength year month ≤ 31 := by
  unfold monthLength
  split
  case h_12 => split <;> omega
  all_goals omega

theorem Date.day_range (date : Date) : 1 ≤ date.day ∧ date.day ≤ 31 := by
  obtain ⟨-, -, first, last⟩ := date.isDay
  exact ⟨first, Nat.le_trans last (monthLength_le date.year date.month)⟩

/-- The parts of a day are read from its text. -/
theorem readPattern_date {date : Date} {yearItem monthItem dayItem : Item}
    (year : yearItem.TakesYear date.year) (month : monthItem.TakesPair .month)
    (day : dayItem.TakesPair .day) :
    readPattern reading
        (yearItem :: .oneOf ['-'] :: monthItem :: .oneOf ['-'] :: dayItem :: items)
        (date.text.toList ++ rest) =
      readPattern (reading.onDay date) items rest := by
  have hyphen : "-".toList = ['-'] := by decide
  have monthNoted (reading : Reading) :
      reading.note .month date.month = .ok { reading with month := date.month } := by
    have range := date.month_range
    exact if_pos (by omega)
  have dayNoted (reading : Reading) :
      reading.note .day date.day = .ok { reading with day := date.day } := by
    have range := date.day_range
    exact if_pos (by omega)
  unfold Date.text
  simp only [String.toList_append, hyphen, List.append_assoc, List.cons_append, List.nil_append]
  rw [readPattern_cons (year reading fun _ member => by cases member; rfl),
    readPattern_oneOf (by simp),
    readPattern_cons (month (by have := date.month_range; omega) (monthNoted _) _),
    readPattern_oneOf (by simp),
    readPattern_cons (day (by have := date.day_range; omega) (dayNoted _) _)]
  rfl

theorem Date.takesYear_part (date : Date) : (Item.part .year).TakesYear date.year :=
  fun _ _ ends => read_year date.isDay.1 date.isDay.2.1 ends

/-- A year of four digits is read at that width. -/
theorem takesYear_fixed {year : Int} (least : 0 ≤ year) (most : year ≤ 9999) :
    (Item.fixed .year 4).TakesYear year := by
  intro reading rest _
  have noted : reading.note .year year.toNat = .ok { reading with year := year } := by
    have same : ((year.toNat : Nat) : Int) = year := Int.toNat_of_nonneg least
    have bound : Int.pow 2 31 = 2147483648 := by decide
    rw [same]
    exact if_pos (by omega)
  have written : yearText year = paddedText 4 year.toNat := if_pos ⟨least, most⟩
  have room : year.toNat < 10000 := by omega
  rw [written]
  exact read_fixed (by omega) (by omega) room noted rest

/-! ### Times of day -/

/-- The reading with hour, minute and second of a time, as they are written. -/
def Reading.onClock (reading : Reading) (time : TimeOfDay) : Reading :=
  { reading with hour := time.hour, minute := time.minute, second := time.shownSecond }

/-- A second is written as sixty at most. -/
theorem TimeOfDay.shownSecond_le (time : TimeOfDay) : time.shownSecond ≤ 60 := by
  obtain ⟨-, -, second, nano⟩ := time.isTime
  unfold shownSecond
  unfold nanosPerSecond at *
  omega

/-- Hour, minute and second are read from the text of a time. -/
theorem readPattern_clock {time : TimeOfDay} {hourItem minuteItem secondItem : Item}
    (hour : hourItem.TakesPair .hour) (minute : minuteItem.TakesPair .minute)
    (second : secondItem.TakesPair .second) :
    readPattern reading
        (hourItem :: .oneOf [':'] :: minuteItem :: .oneOf [':'] :: secondItem :: items)
        (time.clock.toList ++ rest) =
      readPattern (reading.onClock time) items rest := by
  have colon : ":".toList = [':'] := by decide
  obtain ⟨hours, minutes, -, -⟩ := time.isTime
  have seconds := time.shownSecond_le
  have hourNoted (reading : Reading) :
      reading.note .hour time.hour = .ok { reading with hour := time.hour } :=
    if_pos (by omega)
  have minuteNoted (reading : Reading) :
      reading.note .minute time.minute = .ok { reading with minute := time.minute } :=
    if_pos (by omega)
  have secondNoted (reading : Reading) :
      reading.note .second time.shownSecond = .ok { reading with second := time.shownSecond } :=
    if_pos (by omega)
  unfold TimeOfDay.clock
  simp only [String.toList_append, colon, List.append_assoc, List.cons_append, List.nil_append]
  rw [readPattern_cons (hour (by omega) (hourNoted _) _), readPattern_oneOf (by simp),
    readPattern_cons (minute (by omega) (minuteNoted _) _), readPattern_oneOf (by simp),
    readPattern_cons (second (by omega) (secondNoted _) _)]
  rfl

/-- A fraction that is written with so many digits is read as nanoseconds. -/
theorem readPattern_fraction {places value : Nat} (positive : 0 < places) (short : places ≤ 9)
    (room : value < Nat.pow 10 places) (ends : EndsNumber rest) :
    readPattern reading (.fraction :: items) ('.' :: ((paddedText places value).toList ++ rest)) =
      readPattern { reading with nano := value * Nat.pow 10 (9 - places) } items rest := by
  have length := length_paddedText room positive
  have small : value < Nat.pow 2 63 :=
    Nat.lt_of_lt_of_le room
      (Nat.le_trans (Nat.pow_le_pow_right (by omega) short) (by decide))
  have taken : takeNumber 1 9 ((paddedText places value).toList ++ rest) = .ok (value, rest) :=
    takeNumber_of_isDigits (isDigits_paddedText places value) (readDigits_paddedText places value)
      (by omega) (by omega) (.inr ends) small
  have skipped : rest.dropWhile Char.isDigit = rest := by
    cases rest with
    | nil => rfl
    | cons first rest => exact List.dropWhile_cons_of_neg (by simp [ends first rfl])
  have fraction : takeFraction ((paddedText places value).toList ++ rest) =
      .ok (value * Nat.pow 10 (9 - places), rest) := by
    simp only [takeFraction, taken, skipped, List.length_append, length, Nat.add_sub_cancel]
  refine readPattern_cons ?_
  simp only [Item.read, fraction, bind, Except.bind, pure, Except.pure]

end

/-! ### What was read -/

/-- The time to the microsecond, the rest being cut off. -/
def TimeOfDay.toMicroseconds (time : TimeOfDay) : TimeOfDay where
  hour := time.hour
  minute := time.minute
  second := time.second
  nano := time.nano / 1000 * 1000
  isTime := by
    obtain ⟨hour, minute, second, nano⟩ := time.isTime
    unfold IsTime nanosPerSecond at *
    omega

/-- The moment to the microsecond, the rest being cut off. -/
def Moment.toMicroseconds (moment : Moment) : Moment :=
  { moment with time := moment.time.toMicroseconds }

theorem TimeOfDay.shownSecond_toMicroseconds (time : TimeOfDay) :
    time.toMicroseconds.shownSecond = time.shownSecond := by
  simp only [shownSecond, toMicroseconds, nanosPerSecond]
  omega

theorem TimeOfDay.shownNano_toMicroseconds (time : TimeOfDay) :
    time.toMicroseconds.shownNano = time.shownNano / 1000 * 1000 := by
  simp only [shownNano, toMicroseconds, nanosPerSecond]
  omega

/-- Whether the leap second of a time, if it has one, is in its place. -/
def TimeOfDay.HasPlainSecond (time : TimeOfDay) : Prop :=
  IsPlainSecond time.second time.nano

instance (time : TimeOfDay) : Decidable time.HasPlainSecond :=
  inferInstanceAs (Decidable (IsPlainSecond _ _))

/-- The time that is written in place of a time: a leap second that is not in its place is written
like the second after it, and all else as it is. -/
def TimeOfDay.asShown (time : TimeOfDay) : TimeOfDay :=
  if plain : time.HasPlainSecond then time
  else
    { time with
      second := time.second + 1
      nano := time.nano - nanosPerSecond
      isTime := by
        obtain ⟨hour, minute, second, nano⟩ := time.isTime
        unfold HasPlainSecond IsPlainSecond at plain
        exact ⟨hour, minute, by omega, by omega⟩ }

/-- The moment that is written in place of a moment. -/
def Moment.asShown (moment : Moment) : Moment :=
  { moment with time := moment.time.asShown }

section

variable (time : TimeOfDay)

theorem TimeOfDay.asShown_of_plain {time : TimeOfDay} (plain : time.HasPlainSecond) :
    time.asShown = time :=
  dif_pos plain

theorem TimeOfDay.asShown_of_not_plain {time : TimeOfDay} (out : ¬ time.HasPlainSecond) :
    time.asShown.second = time.second + 1 ∧ time.asShown.nano = time.nano - nanosPerSecond := by
  rw [asShown, dif_neg out]
  exact ⟨rfl, rfl⟩

theorem TimeOfDay.hour_asShown : time.asShown.hour = time.hour := by
  unfold asShown
  split <;> rfl

theorem TimeOfDay.minute_asShown : time.asShown.minute = time.minute := by
  unfold asShown
  split <;> rfl

/-- Time and time written in its place are written with the same second and fraction. -/
theorem TimeOfDay.shown_asShown :
    time.asShown.shownSecond = time.shownSecond ∧ time.asShown.shownNano = time.shownNano := by
  by_cases plain : time.HasPlainSecond
  · rw [asShown_of_plain plain]
    exact ⟨rfl, rfl⟩
  · obtain ⟨second, nano⟩ := asShown_of_not_plain plain
    obtain ⟨-, -, -, most⟩ := time.isTime
    unfold HasPlainSecond IsPlainSecond at plain
    simp only [shownSecond, shownNano, second, nano]
    unfold nanosPerSecond at *
    omega

/-- What is written has its leap second in its place. -/
theorem TimeOfDay.hasPlainSecond_asShown : time.asShown.HasPlainSecond := by
  by_cases plain : time.HasPlainSecond
  · rwa [asShown_of_plain plain]
  · obtain ⟨-, nano⟩ := asShown_of_not_plain plain
    obtain ⟨-, -, -, most⟩ := time.isTime
    refine .inl ?_
    rw [nano]
    omega

/-- What is written in place of a time is the time exactly if its leap second is in its place. -/
theorem TimeOfDay.asShown_eq_self_iff {time : TimeOfDay} :
    time.asShown = time ↔ time.HasPlainSecond :=
  ⟨fun same => same ▸ time.hasPlainSecond_asShown, asShown_of_plain⟩

theorem Moment.asShown_eq_self_iff {moment : Moment} :
    moment.asShown = moment ↔ moment.time.HasPlainSecond := by
  rw [← TimeOfDay.asShown_eq_self_iff]
  cases moment
  simp [asShown]

theorem TimeOfDay.hasPlainSecond_toMicroseconds :
    time.toMicroseconds.HasPlainSecond ↔ time.HasPlainSecond := by
  simp only [HasPlainSecond, IsPlainSecond, toMicroseconds, nanosPerSecond]
  omega

theorem TimeOfDay.asShown_toMicroseconds :
    time.toMicroseconds.asShown = time.asShown.toMicroseconds := by
  by_cases plain : time.HasPlainSecond
  · rw [asShown_of_plain plain, asShown_of_plain (time.hasPlainSecond_toMicroseconds.mpr plain)]
  · have plainToo := mt time.hasPlainSecond_toMicroseconds.mp plain
    rw [asShown, dif_neg plainToo, asShown, dif_neg plain]
    simp only [toMicroseconds, TimeOfDay.mk.injEq, true_and]
    unfold nanosPerSecond
    omega

/-- A leap second that is not in its place is lost even if no more than the microseconds count. -/
theorem TimeOfDay.toMicroseconds_asShown_eq_iff {time : TimeOfDay} :
    time.asShown.toMicroseconds = time.toMicroseconds ↔ time.HasPlainSecond := by
  rw [← asShown_toMicroseconds, asShown_eq_self_iff, hasPlainSecond_toMicroseconds]

theorem Moment.asShown_toMicroseconds (moment : Moment) :
    moment.toMicroseconds.asShown = moment.asShown.toMicroseconds :=
  congrArg (Moment.mk moment.date) moment.time.asShown_toMicroseconds

theorem Moment.toMicroseconds_asShown_eq_iff {moment : Moment} :
    moment.asShown.toMicroseconds = moment.toMicroseconds ↔ moment.time.HasPlainSecond := by
  rw [← TimeOfDay.toMicroseconds_asShown_eq_iff]
  simp [asShown, toMicroseconds]

end

/-- The reading with all parts of a time, as they are written. -/
def Reading.atTime (reading : Reading) (time : TimeOfDay) : Reading :=
  { reading.onClock time with nano := time.shownNano }

/-- The day whose parts were read is the day. -/
theorem Reading.date_onDay (reading : Reading) (date : Date) :
    (reading.onDay date).date = .ok date := by
  have found : Date.of? date.year date.month date.day = some date := dif_pos date.isDay
  simp only [Reading.date, onDay, found]

/-- A time whose leap second is in its place is the one whose parts were read. -/
theorem Reading.time_atTime_of_plain (reading : Reading) {time : TimeOfDay}
    (plain : time.HasPlainSecond) : (reading.atTime time).time = .ok time := by
  obtain ⟨-, -, seconds, nanos⟩ := time.isTime
  have hour : (reading.atTime time).hour = time.hour := rfl
  have minute : (reading.atTime time).minute = time.minute := rfl
  have second : (reading.atTime time).second = time.second + time.nano / 1000000000 := rfl
  have nano : (reading.atTime time).nano = time.nano % 1000000000 := rfl
  have bound : nanosPerSecond = 1000000000 := rfl
  have found : TimeOfDay.of? time.hour time.minute time.second time.nano = some time :=
    dif_pos ⟨time.isTime, plain⟩
  -- The two branches of the reading are those of the writing: second sixty is a leap second.
  by_cases leap : nanosPerSecond ≤ time.nano
  · have last : time.second = 59 := plain.resolve_left (Nat.not_lt.mpr leap)
    have sixty : (reading.atTime time).second = 60 := by omega
    have same : nanosPerSecond + (reading.atTime time).nano = time.nano := by omega
    rw [last] at found
    simp only [Reading.time, sixty, if_true, hour, minute, same, found]
  · have plain : (reading.atTime time).second = time.second := by omega
    have same : (reading.atTime time).nano = time.nano := by omega
    have noSixty : time.second ≠ 60 := by omega
    simp only [Reading.time, plain, noSixty, if_false, hour, minute, same, found]

/-- The time whose parts were read is the one that is written in place of a time. -/
theorem Reading.time_atTime (reading : Reading) (time : TimeOfDay) :
    (reading.atTime time).time = .ok time.asShown := by
  have same : reading.atTime time.asShown = reading.atTime time := by
    simp only [atTime, onClock, time.hour_asShown, time.minute_asShown, time.shown_asShown]
  rw [← same]
  exact time_atTime_of_plain reading time.hasPlainSecond_asShown

/-- The reading with all parts of a moment, as they are written. -/
def Reading.atMoment (reading : Reading) (moment : Moment) : Reading :=
  (reading.onDay moment.date).atTime moment.time

theorem Reading.moment_atMoment (reading : Reading) (moment : Moment) :
    (reading.atMoment moment).moment = .ok moment.asShown := by
  have day : (reading.atMoment moment).date = .ok moment.date := reading.date_onDay moment.date
  have time : (reading.atMoment moment).time = .ok moment.time.asShown :=
    Reading.time_atTime _ moment.time
  simp only [Reading.moment, day, time, Moment.asShown]

/-- A moment that is moved by no minutes stays where it is. -/
theorem Moment.minutesEarlier?_zero (moment : Moment) : moment.minutesEarlier? 0 = some moment := by
  obtain ⟨hours, minutes, -, -⟩ := moment.time.isTime
  have total : ((60 * (moment.time.hour : Int) + moment.time.minute - 0) % 1440).toNat =
      60 * moment.time.hour + moment.time.minute := by omega
  have hour : (60 * moment.time.hour + moment.time.minute) / 60 = moment.time.hour := by omega
  have minute : (60 * moment.time.hour + moment.time.minute) % 60 = moment.time.minute := by omega
  simp only [Moment.minutesEarlier?, TimeOfDay.atMinute, total, hour, minute]
  rw [if_neg (by omega), if_pos (by omega)]
  rfl

/-- A moment that was read with no offset is the instant. -/
theorem Reading.instant_atMoment {reading : Reading} {moment : Moment}
    (noOffset : reading.offset = 0) :
    (reading.atMoment moment).instant = .ok moment.asShown := by
  have offset : (reading.atMoment moment).offset = 0 := noOffset
  simp only [Reading.instant, Reading.moment_atMoment, offset, Moment.minutesEarlier?_zero]

/-! ### Written times and moments -/

theorem isSolid_clock (time : TimeOfDay) : IsSolid time.clock.toList := by
  have colon : IsSolid ":".toList := by decide
  unfold TimeOfDay.clock
  simp only [String.toList_append]
  exact ((((isSolid_paddedText 2 _).append colon).append (isSolid_paddedText 2 _)).append
    colon).append (isSolid_paddedText 2 _)

theorem isSolid_storedTime (time : TimeOfDay) : IsSolid time.stored.toList := by
  have point : IsSolid ".".toList := by decide
  unfold TimeOfDay.stored
  simp only [String.toList_append]
  exact ((isSolid_clock time).append point).append (isSolid_paddedText 6 _)

theorem isSolid_dateText (date : Date) : IsSolid date.text.toList := by
  have hyphen : IsSolid "-".toList := by decide
  unfold Date.text
  simp only [String.toList_append]
  exact ((((isSolid_yearText date.year).append hyphen).append (isSolid_paddedText 2 _)).append
    hyphen).append (isSolid_paddedText 2 _)

/-- The fraction of a second is left out if there is none, and else written with as many digits as
stand for it. -/
theorem TimeOfDay.fraction_cases (time : TimeOfDay) :
    (time.shownNano = 0 ∧ time.fraction = "") ∨
      ∃ places value, 0 < places ∧ places ≤ 9 ∧ value < Nat.pow 10 places ∧
        value * Nat.pow 10 (9 - places) = time.shownNano ∧
          time.fraction = "." ++ paddedText places value := by
  have bound : time.shownNano < 1000000000 := Nat.mod_lt _ (by decide)
  simp only [TimeOfDay.fraction]
  split
  · exact .inl ⟨‹_›, rfl⟩
  · split
    · refine .inr ⟨3, time.shownNano / 1000000, by omega, by omega, ?_, ?_, rfl⟩
      · show _ < 1000
        omega
      · show _ * 1000000 = _
        omega
    · split
      · refine .inr ⟨6, time.shownNano / 1000, by omega, by omega, ?_, ?_, rfl⟩
        · show _ < 1000000
          omega
        · show _ * 1000 = _
          omega
      · exact .inr ⟨9, time.shownNano, by omega, by omega, bound, Nat.mul_one _, rfl⟩

section

variable {reading : Reading} {items : List Item} {rest : List Char}
variable {hourItem minuteItem secondItem : Item}

/-- A time is read from its stored text to the microsecond. -/
theorem readPattern_storedTime {time : TimeOfDay} (hour : hourItem.TakesPair .hour)
    (minute : minuteItem.TakesPair .minute) (second : secondItem.TakesPair .second)
    (ends : EndsNumber rest) :
    readPattern reading
        (hourItem :: .oneOf [':'] :: minuteItem :: .oneOf [':'] :: secondItem :: .fraction :: items)
        (time.stored.toList ++ rest) =
      readPattern (reading.atTime time.toMicroseconds) items rest := by
  have point : ".".toList = ['.'] := by decide
  have room : time.shownNano / 1000 < 1000000 := by
    have : time.shownNano < 1000000000 := Nat.mod_lt _ (by decide)
    omega
  unfold TimeOfDay.stored
  simp only [String.toList_append, point, List.append_assoc, List.cons_append, List.nil_append]
  rw [readPattern_clock hour minute second,
    readPattern_fraction (by omega) (by omega) room ends]
  unfold Reading.atTime
  rw [time.shownNano_toMicroseconds]
  unfold Reading.onClock
  rw [time.shownSecond_toMicroseconds]
  rfl

/-- A fraction is read from its shown text in full, whatever number of digits it needs. -/
theorem readPattern_shownFraction {time : TimeOfDay} (noNano : reading.nano = 0)
    (ends : EndsNumber rest) (noPoint : rest.head? ≠ some '.') :
    readPattern reading (.fraction :: items) (time.fraction.toList ++ rest) =
      readPattern { reading with nano := time.shownNano } items rest := by
  have point : ".".toList = ['.'] := by decide
  rcases time.fraction_cases with
    ⟨zero, unwritten⟩ | ⟨places, value, positive, short, room, same, shown⟩
  · refine readPattern_cons ?_
    rw [unwritten, zero, ← noNano]
    exact read_fraction_of_head noPoint
  · rw [shown, String.toList_append, point, List.append_assoc, List.singleton_append,
      readPattern_fraction positive short room ends, same]

/-- A time is read from its shown text in full. -/
theorem readPattern_shownTime {time : TimeOfDay} (hour : hourItem.TakesPair .hour)
    (minute : minuteItem.TakesPair .minute) (second : secondItem.TakesPair .second)
    (noNano : reading.nano = 0) (ends : EndsNumber rest) (noPoint : rest.head? ≠ some '.') :
    readPattern reading
        (hourItem :: .oneOf [':'] :: minuteItem :: .oneOf [':'] :: secondItem :: .fraction :: items)
        (time.text.toList ++ rest) =
      readPattern (reading.atTime time) items rest := by
  unfold TimeOfDay.text
  rw [String.toList_append, List.append_assoc, readPattern_clock hour minute second]
  exact readPattern_shownFraction noNano ends noPoint

/-- A moment is read from its stored text to the microsecond. -/
theorem readPattern_storedMoment {moment : Moment} (ends : EndsNumber rest) :
    readPattern reading (spacedPattern ++ items) (moment.stored.toList ++ rest) =
      readPattern (reading.atMoment moment.toMicroseconds) items rest := by
  have space : " ".toList = [' '] := by decide
  have solid : IsSolid moment.time.stored.toList := isSolid_storedTime moment.time
  unfold Moment.stored
  simp only [String.toList_append, space, List.append_assoc, List.cons_append, List.nil_append]
  exact (readPattern_date moment.date.takesYear_part (takesPair_part (by decide))
      (takesPair_part (by decide))).trans
    ((readPattern_blanks solid).trans (readPattern_storedTime (takesPair_part (by decide))
      (takesPair_part (by decide)) (takesPair_part (by decide)) ends))

end

/-! ### Offsets -/

/-- The offset of universal time is read as none. -/
theorem readPattern_universal {reading : Reading} (noOffset : reading.offset = 0) :
    readPattern reading [.offset .strict] "+00:00".toList = .ok reading := by
  have read : (Item.offset .strict).read reading "+00:00".toList =
      .ok ({ reading with offset := 0 }, []) := by
    have text : "+00:00".toList = ['+', '0', '0', ':', '0', '0'] := by decide
    rw [text]
    rfl
  rw [readPattern_cons read, ← noOffset]
  rfl

/-- A text that ends where an offset is wanted is too short. -/
theorem readPattern_noOffset {reading : Reading} {style : OffsetStyle} :
    readPattern reading [.offset style] [] = .error .tooShort := by
  cases style <;> rfl

/-! ### Dates and times survive being written and read -/

theorem date?_text (date : Date) : date? date.text.toList = some date := by
  have trimmed : trim date.text.toList = date.text.toList := trim_of_isSolid (isSolid_dateText date)
  have read : readPattern {} datePattern date.text.toList = .ok (({} : Reading).onDay date) := by
    rw [← List.append_nil date.text.toList]
    exact readPattern_date date.takesYear_part (takesPair_part (by decide))
      (takesPair_part (by decide))
  simp only [date?, trimmed, firstFit, readAs, read, Reading.date_onDay, List.findSome?_cons,
    Except.toOption]

theorem readTime_stored (time : TimeOfDay) :
    readTime time.stored.toList = .ok time.asShown.toMicroseconds := by
  have trimmed : trim time.stored.toList = time.stored.toList :=
    trim_of_isSolid (isSolid_storedTime time)
  have read : readPattern {} timePattern time.stored.toList =
      .ok (({} : Reading).atTime time.toMicroseconds) := by
    rw [← List.append_nil time.stored.toList]
    exact readPattern_storedTime (takesPair_part (by decide)) (takesPair_part (by decide))
      (takesPair_part (by decide)) endsNumber_nil
  simp only [readTime, trimmed, readAs, read, Reading.time_atTime,
    TimeOfDay.asShown_toMicroseconds]

theorem trim_storedMoment (moment : Moment) : trim moment.stored.toList = moment.stored.toList := by
  unfold Moment.stored
  simp only [String.toList_append]
  exact trim_of_solid _ (isSolid_dateText moment.date) (isSolid_storedTime moment.time)

theorem moment?_stored (moment : Moment) :
    moment? moment.stored.toList = some moment.asShown.toMicroseconds := by
  have read : readPattern {} spacedPattern moment.stored.toList =
      .ok (({} : Reading).atMoment moment.toMicroseconds) := by
    rw [← List.append_nil moment.stored.toList, ← List.append_nil spacedPattern]
    exact readPattern_storedMoment endsNumber_nil
  simp only [moment?, trim_storedMoment, firstFit, readAs, read, Reading.moment_atMoment,
    Moment.asShown_toMicroseconds, List.findSome?_cons, Except.toOption]

/-! ### Texts that a pattern does not fit -/

section

variable {reading : Reading} {item : Item} {items : List Item} {text : List Char}

/-- Where no digit stands no number is read. -/
theorem takeNumber_eq_none {least most : Nat} (positive : 0 < least) (ends : EndsNumber text) :
    (takeNumber least most text).toOption = none := by
  have noDigits : (text.take most).takeWhile Char.isDigit = [] := by
    cases text with
    | nil => rw [List.take_nil, List.takeWhile_nil]
    | cons first rest =>
      cases most with
      | zero => rw [List.take_zero, List.takeWhile_nil]
      | succ most => simp [ends first rfl]
  simp only [takeNumber, noDigits, List.length_nil, positive, if_true]
  split <;> rfl

/-- A pattern does not fit a text that its first item does not fit. -/
theorem readPattern_eq_none (refused : (item.read reading text).toOption = none) :
    (readPattern reading (item :: items) text).toOption = none := by
  unfold readPattern
  cases read : item.read reading text with
  | ok _ => rw [read] at refused; cases refused
  | error fault => rfl

/-- Nothing is read along a pattern that does not fit. -/
theorem readAs_eq_none {Value : Type} {pattern : List Item} {finish : Reading → Except Fault Value}
    (refused : (readPattern {} pattern text).toOption = none) :
    (readAs pattern finish text).toOption = none := by
  unfold readAs
  cases read : readPattern {} pattern text with
  | ok _ => rw [read] at refused; cases refused
  | error fault => rfl

/-- A number of a fixed width is not read where no digit stands. -/
theorem read_fixed_eq_none {which : Part} {digits : Nat} (positive : 0 < digits)
    (ends : EndsNumber text) : ((Item.fixed which digits).read reading text).toOption = none := by
  have refused : (takeNumber digits digits text).toOption = none :=
    takeNumber_eq_none positive ends
  simp only [Item.read, bind, Except.bind]
  cases taken : takeNumber digits digits text with
  | ok _ => rw [taken] at refused; cases refused
  | error fault => rfl

/-- A part of a time is not read where no digit stands. -/
theorem read_part_eq_none {which : Part} (notYear : which ≠ .year)
    (ends : EndsNumber (trimStart text)) :
    ((Item.part which).read reading text).toOption = none := by
  have refused : (takeNumber 1 2 (trimStart text)).toOption = none :=
    takeNumber_eq_none Nat.one_pos ends
  cases taken : takeNumber 1 2 (trimStart text) with
  | ok _ => rw [taken] at refused; cases refused
  | error fault =>
    cases which with
    | year => exact absurd rfl notYear
    | _ => simp [Item.read, taken, bind, Except.bind, Except.toOption]

/-- A year that has more or fewer than four digits, or lies before the first, is written with a
sign. -/
theorem endsNumber_yearText {year : Int} (signed : ¬ (0 ≤ year ∧ year ≤ 9999))
    (rest : List Char) : EndsNumber ((yearText year).toList ++ rest) := by
  unfold yearText
  rw [if_neg signed, String.toList_append, List.append_assoc]
  split
  all_goals exact fun _ member => by cases member; rfl

/-- A pattern that begins with a year of four digits does not fit a year with a sign. -/
theorem readPattern_signedYear {date : Date} (signed : ¬ (0 ≤ date.year ∧ date.year ≤ 9999))
    (rest : List Char) :
    (readPattern reading (.fixed .year 4 :: items) (date.text.toList ++ rest)).toOption = none := by
  refine readPattern_eq_none (read_fixed_eq_none (by omega) ?_)
  unfold Date.text
  simp only [String.toList_append, List.append_assoc]
  exact endsNumber_yearText signed _

/-- A pattern that wants blanks or nothing between day and hour does not fit a letter there. -/
theorem readPattern_letter (date : Date) (rest : List Char) :
    (readPattern reading (datePattern ++ .blanks :: .part .hour :: items)
      (date.text.toList ++ 'T' :: rest)).toOption = none := by
  have solid : trimStart ('T' :: rest) = 'T' :: rest :=
    trimStart_of_head fun _ member => by cases member; rfl
  have skipped (reading : Reading) :
      Item.blanks.read reading ('T' :: rest) = .ok (reading, 'T' :: rest) := by
    simp only [Item.read, solid, pure, Except.pure]
  refine (congrArg Except.toOption ((readPattern_date date.takesYear_part
    (takesPair_part (by decide)) (takesPair_part (by decide))).trans
      (readPattern_cons (skipped _)))).trans ?_
  refine readPattern_eq_none (read_part_eq_none (by decide) ?_)
  rw [solid]
  exact fun _ member => by cases member; rfl

end

theorem trim_internet (moment : Moment) : trim moment.internet.toList = moment.internet.toList := by
  unfold Moment.internet
  simp only [String.toList_append]
  rw [List.append_assoc moment.date.text.toList]
  exact trim_of_solid _ (isSolid_dateText moment.date) (by decide)

/-- An instant is read from its stored text to the microsecond. The patterns that want an offset
come first. The text of a year with a sign does not fit the one for internet timestamps; apart from
that both find the text too short. -/
theorem instant?_stored (moment : Moment) :
    instant? moment.stored.toList = some moment.asShown.toMicroseconds := by
  have internet : (readPattern {} internetPattern moment.stored.toList).toOption = none := by
    have space : " ".toList = [' '] := by decide
    unfold Moment.stored
    simp only [String.toList_append, space, List.append_assoc, List.cons_append, List.nil_append]
    by_cases plain : 0 ≤ moment.date.year ∧ moment.date.year ≤ 9999
    · rw [← List.append_nil moment.time.stored.toList]
      refine congrArg Except.toOption ((readPattern_date (takesYear_fixed plain.1 plain.2)
        (takesPair_fixed .month) (takesPair_fixed .day)).trans
          ((readPattern_oneOf (by simp)).trans ((readPattern_storedTime (takesPair_fixed .hour)
            (takesPair_fixed .minute) (takesPair_fixed .second) endsNumber_nil).trans
              readPattern_noOffset)))
    · exact readPattern_signedYear plain _
  have offset : (readPattern {} spacedOffsetPattern moment.stored.toList).toOption = none := by
    rw [← List.append_nil moment.stored.toList]
    exact congrArg Except.toOption ((readPattern_storedMoment endsNumber_nil).trans
      readPattern_noOffset)
  have read := moment?_stored moment
  simp only [instant?, trim_storedMoment, firstFit, readAs_eq_none internet, readAs_eq_none offset,
    List.findSome?_cons, List.findSome?_nil, read]

/-! ### Instants with their offset -/

section

variable {moment : Moment} (least : 0 ≤ moment.date.year) (most : moment.date.year ≤ 9999)

include least most

/-- An internet timestamp is read as the instant that it was written for, or the one that is written
in its place. -/
theorem instant?_internet : instant? moment.internet.toList = some moment.asShown := by
  have zone : "+00:00".toList = ['+', '0', '0', ':', '0', '0'] := by decide
  have read : readPattern {} internetPattern moment.internet.toList =
      .ok (({} : Reading).atMoment moment) := by
    have separator : "T".toList = ['T'] := by decide
    unfold Moment.internet
    simp only [String.toList_append, separator, List.append_assoc, List.cons_append,
      List.nil_append]
    refine (readPattern_date (takesYear_fixed least most) (takesPair_fixed .month)
      (takesPair_fixed .day)).trans ?_
    refine (readPattern_oneOf (by simp)).trans ?_
    refine (readPattern_shownTime (takesPair_fixed .hour) (takesPair_fixed .minute)
      (takesPair_fixed .second) rfl ?_ ?_).trans (readPattern_universal rfl)
    · rw [zone]
      exact fun _ member => by cases member; rfl
    · rw [zone]
      decide
  have instant : (({} : Reading).atMoment moment).instant = .ok moment.asShown :=
    Reading.instant_atMoment rfl
  simp only [instant?, trim_internet, firstFit, readAs, read, instant, List.findSome?_cons,
    Except.toOption]

end

/-- No pattern fits the internet timestamp of an instant in a year with a sign: the one for internet
timestamps wants four digits, and the others either want no letter between day and hour or nothing
behind the time. -/
theorem instant?_internet_eq_none {moment : Moment}
    (signed : ¬ (0 ≤ moment.date.year ∧ moment.date.year ≤ 9999)) :
    instant? moment.internet.toList = none := by
  have separator : "T".toList = ['T'] := by decide
  have zone : "+00:00".toList = ['+', '0', '0', ':', '0', '0'] := by decide
  have text : moment.internet.toList =
      moment.date.text.toList ++ 'T' :: (moment.time.text.toList ++ "+00:00".toList) := by
    unfold Moment.internet
    simp only [String.toList_append, separator, List.append_assoc, List.cons_append,
      List.nil_append]
  have internet : (readPattern {} internetPattern moment.internet.toList).toOption = none := by
    rw [text]
    exact readPattern_signedYear signed _
  have offset : (readPattern {} spacedOffsetPattern moment.internet.toList).toOption = none := by
    rw [text]
    exact readPattern_letter moment.date _
  have spaced : (readPattern {} spacedPattern moment.internet.toList).toOption = none := by
    rw [text]
    exact readPattern_letter moment.date _
  have minute : (readPattern {} spacedMinutePattern moment.internet.toList).toOption = none := by
    rw [text]
    exact readPattern_letter moment.date _
  have tooLong : readPattern {} letteredPattern moment.internet.toList = .error .tooLong := by
    rw [text]
    refine (readPattern_date moment.date.takesYear_part (takesPair_part (by decide))
      (takesPair_part (by decide))).trans ?_
    refine (readPattern_oneOf (by simp)).trans ?_
    refine (readPattern_shownTime (takesPair_part (by decide)) (takesPair_part (by decide))
      (takesPair_part (by decide)) rfl ?_ ?_).trans ?_
    · rw [zone]
      exact fun _ member => by cases member; rfl
    · rw [zone]
      decide
    · rw [zone]
      rfl
  have lettered : (readPattern {} letteredPattern moment.internet.toList).toOption = none := by
    rw [tooLong]
    rfl
  simp only [instant?, moment?, trim_internet, firstFit, readAs_eq_none internet,
    readAs_eq_none offset, readAs_eq_none spaced, readAs_eq_none minute, readAs_eq_none lettered,
    List.findSome?_cons, List.findSome?_nil]

end RecordMapper.Calendar
