import Fulfilment.Calendar.Unix
import Fulfilment.Proofs.Number.Digit

/-!
# Reading written datetimes

The text of a datetime is read as that datetime: the wall clock to the microsecond, and the offset
or its absence.  It is never taken for a Unix time, because a hyphen follows the year.
-/

namespace Fulfilment
namespace DateTime

open Number

/-! ## Padded digits -/

/-- The last of at least two padded digits. -/
theorem paddedDigits_succ
    {width : Nat}
    (positive : 0 < width)
    (value : Nat) :
    paddedDigits (width + 1) value =
      paddedDigits width (value / 10) ++ [(value % 10).digitChar] := by
  by_cases small : value < 10
  · have rest : value / 10 = 0 := by omega
    have last : value % 10 = value := by omega
    have zeros : List.replicate width '0' = List.replicate (width - 1) '0' ++ ['0'] := by
      rw [← List.replicate_succ']
      congr
      omega
    simp [paddedDigits, padLeft, decimalDigits_of_lt_ten small, rest, last, zeros,
      decimalDigits_of_lt_ten (by decide : 0 < 10), Nat.digitChar]
  · have split := decimalDigits_of_ten_le (Nat.le_of_not_lt small)
    simp [paddedDigits, padLeft, split]

/-- One padded digit. -/
theorem paddedDigits_one
    {value : Nat}
    (small : value < 10) :
    paddedDigits 1 value = [value.digitChar] := by
  simp [paddedDigits, padLeft, decimalDigits_of_lt_ten small]

/-- Two padded digits. -/
theorem paddedDigits_two
    {value : Nat}
    (small : value < 100) :
    paddedDigits 2 value = [(value / 10).digitChar, (value % 10).digitChar] := by
  rw [paddedDigits_succ (by decide), paddedDigits_one (by omega)]
  rfl

/-- Two more padded digits. -/
theorem paddedDigits_add_two
    {width : Nat}
    (positive : 0 < width)
    (value : Nat) :
    paddedDigits (width + 2) value =
      paddedDigits width (value / 100) ++ paddedDigits 2 (value % 100) := by
  have tens : value % 100 / 10 = value / 10 % 10 := by omega
  have units : value % 100 % 10 = value % 10 := by omega
  have hundreds : value / 10 / 10 = value / 100 := by omega
  rw [paddedDigits_succ (Nat.lt_add_right 1 positive), paddedDigits_succ positive,
    paddedDigits_two (by omega : value % 100 < 100), tens, units, hundreds]
  simp

/-- Padded digits are digits. -/
theorem all_isDigit_paddedDigits (width value : Nat) :
    ∀ character ∈ paddedDigits width value, character.isDigit = true := by
  intro character isMember
  simp only [paddedDigits, padLeft, List.mem_append, List.mem_replicate] at isMember
  rcases isMember with ⟨-, rfl⟩ | isMember
  · rfl
  · exact Nat.isDigit_of_mem_toDigits (by decide) (by decide) isMember

/-- Two padded digits are read as their number. -/
theorem twoDigits?_paddedDigits
    {value : Nat}
    (small : value < 100)
    (rest : List Char) :
    twoDigits? (paddedDigits 2 value ++ rest) = some (value, rest) := by
  have tens := digitValue?_digitChar (by omega : value / 10 < 10)
  have units := digitValue?_digitChar (by omega : value % 10 < 10)
  have composed : value / 10 * 10 + value % 10 = value := by omega
  rw [paddedDigits_two small]
  simp [twoDigits?, tens, units, composed]

/-- Four padded digits are read as their number. -/
theorem fourDigits?_paddedDigits
    {value : Nat}
    (small : value < 10000)
    (rest : List Char) :
    fourDigits? (paddedDigits 4 value ++ rest) = some (value, rest) := by
  have composed : value / 100 * 100 + value % 100 = value := by omega
  rw [paddedDigits_add_two (by decide), List.append_assoc]
  simp [fourDigits?, twoDigits?_paddedDigits (by omega : value / 100 < 100),
    twoDigits?_paddedDigits (by omega : value % 100 < 100), composed]

/-- Six padded digits of a second are that many microseconds. -/
theorem fractionValue_paddedDigits
    {value : Nat}
    (small : value < 1000000) :
    fractionValue 6 (paddedDigits 6 value) = value := by
  have code {digit : Nat} (below : digit < 10) : digit.digitChar.toNat - 48 = digit :=
    Nat.toNat_digitChar_sub_48_of_lt_ten below
  rw [paddedDigits_add_two (by decide), paddedDigits_add_two (by decide),
    paddedDigits_two (by omega), paddedDigits_two (by omega), paddedDigits_two (by omega)]
  simp only [List.cons_append, List.nil_append, fractionValue]
  rw [code (by omega), code (by omega), code (by omega), code (by omega), code (by omega),
    code (by omega)]
  change _ * 100000 + (_ * 10000 + (_ * 1000 + (_ * 100 + (_ * 10 + (_ * 1 + 0))))) = value
  omega

/-! ## Wall clocks and offsets -/

/-- A text that no digit, point or comma begins, as the offset of a datetime. -/
def EndsTime (characters : List Char) : Prop :=
  ∀ first rest, characters = first :: rest →
    first.isDigit = false ∧ first ≠ '.' ∧ first ≠ ','

/-- The digits in front of what ends a time. -/
theorem takeWhile_isDigit_append
    {digits rest : List Char}
    (allDigits : ∀ character ∈ digits, character.isDigit = true)
    (ends : ∀ first others, rest = first :: others → first.isDigit = false) :
    (digits ++ rest).takeWhile Char.isDigit = digits ∧
      (digits ++ rest).dropWhile Char.isDigit = rest := by
  have none : rest.takeWhile Char.isDigit = [] ∧ rest.dropWhile Char.isDigit = rest := by
    cases rest with
    | nil => exact ⟨rfl, rfl⟩
    | cons first others => simp [ends first others rfl]
  rw [List.takeWhile_append_of_pos allDigits, List.dropWhile_append_of_pos allDigits, none.1,
    none.2, List.append_nil]
  exact ⟨rfl, rfl⟩

/-- The written fraction of a second. -/
def fractionText (microsecond : Nat) : List Char :=
  if microsecond = 0 then [] else '.' :: paddedDigits 6 microsecond

/-- A written fraction of a second is read as its microseconds. -/
theorem fraction?_fractionText
    {microsecond : Nat}
    {rest : List Char}
    (small : microsecond < 1000000)
    (ends : EndsTime rest) :
    fraction? (fractionText microsecond ++ rest) = some (microsecond, rest) := by
  unfold fractionText
  split
  · next zero =>
    subst zero
    cases rest with
    | nil => rfl
    | cons first others =>
        obtain ⟨-, notPoint, notComma⟩ := ends first others rfl
        simp [fraction?, notPoint, notComma]
  · obtain ⟨digits, behind⟩ := takeWhile_isDigit_append (all_isDigit_paddedDigits 6 microsecond)
      fun first others equal => (ends first others equal).1
    have some : paddedDigits 6 microsecond ≠ [] := by
      rw [paddedDigits_succ (by decide)]
      simp
    simp only [List.cons_append, fraction?, digits, behind]
    simp [some, fractionValue_paddedDigits small]

/-- A written time of day is read back. -/
theorem time?_written
    (time : TimeOfDay)
    {rest : List Char}
    (ends : EndsTime rest) :
    time? (paddedDigits 2 time.hour.val ++ ':' :: (paddedDigits 2 time.minute.val
        ++ ':' :: (paddedDigits 2 time.second.val
          ++ (fractionText time.microsecond.val ++ rest)))) = some (time, rest) := by
  obtain ⟨⟨hour, hourBound⟩, ⟨minute, minuteBound⟩, ⟨second, secondBound⟩,
    ⟨microsecond, microsecondBound⟩⟩ := time
  simp [time?, twoDigits?_paddedDigits (Nat.lt_trans hourBound (by decide)), after?,
    twoDigits?_paddedDigits (Nat.lt_trans minuteBound (by decide)), seconds?,
    twoDigits?_paddedDigits (Nat.lt_trans secondBound (by decide)),
    fraction?_fractionText microsecondBound ends, hourBound, minuteBound, secondBound,
    microsecondBound]

/-- Hours and minutes of an offset are read as its size. -/
theorem offsetSize?_written
    {size : Nat}
    (small : size < 1440) :
    offsetSize? (paddedDigits 2 (size / 60) ++ ':' :: paddedDigits 2 (size % 60)) = some size := by
  have hours : size / 60 < 24 := by omega
  have minutes : size % 60 < 60 := by omega
  have minutesRead : twoDigits? (paddedDigits 2 (size % 60)) = some (size % 60, []) := by
    simpa using twoDigits?_paddedDigits (by omega : size % 60 < 100) []
  have composed : size / 60 * 60 + size % 60 = size := by omega
  simp [offsetSize?, twoDigits?_paddedDigits (by omega : size / 60 < 100), after?, minutesRead,
    hours, minutes, composed]

/-- The minutes of an offset give the offset. -/
theorem of?_minutes (offset : Offset) :
    Offset.of? offset.minutes = some offset := by
  rw [Offset.of?, dif_pos offset.bounds]

/-- A written offset is read back. -/
theorem offset?_offsetText (offset : Offset) :
    offset? (offsetText .letter offset) = some (some offset) := by
  have bounds := offset.bounds
  have size := offsetSize?_written (by omega : offset.minutes.natAbs < 1440)
  have given := of?_minutes offset
  by_cases zero : offset.minutes = 0
  · have utc : Offset.utc = offset := by
      rw [zero] at given
      exact Option.some.inj given
    simp [offsetText, zero, offset?, utc]
  · by_cases negative : offset.minutes < 0
    · have same : -(offset.minutes.natAbs : Int) = offset.minutes := by omega
      simp only [offsetText, zero, negative, if_true, false_and, if_false, List.cons_append]
      rw [offset?, size]
      simp only [Option.bind_some, same, given]
      simp
    · have same : (offset.minutes.natAbs : Int) = offset.minutes := by omega
      simp only [offsetText, zero, negative, if_false, false_and, List.cons_append]
      rw [offset?, size]
      simp only [Option.bind_some, same, given]
      simp

/-- A written offset ends a time. -/
theorem endsTime_offsetText (offset : Option Offset) :
    EndsTime (offset.elim [] (offsetText .letter)) := by
  intro first rest equal
  cases offset with
  | none => simp at equal
  | some offset =>
      have signed : first = 'Z' ∨ first = '-' ∨ first = '+' := by
        simp only [Option.elim_some, offsetText] at equal
        split at equal
        · cases equal
          exact .inl rfl
        · split at equal <;> cases equal
          · exact .inr (.inl rfl)
          · exact .inr (.inr rfl)
      rcases signed with rfl | rfl | rfl <;> decide

/-- A written offset, or its absence, is read back. -/
theorem offset?_written (offset : Option Offset) :
    offset? (offset.elim [] (offsetText .letter)) = some offset := by
  cases offset with
  | none => rfl
  | some offset => exact offset?_offsetText offset

/-! ## Datetimes -/

/-- The text of a datetime, part by part. -/
theorem text_eq (datetime : DateTime) :
    datetime.text .letter =
      paddedDigits 4 datetime.wall.date.year
        ++ '-' :: (paddedDigits 2 datetime.wall.date.month
          ++ '-' :: (paddedDigits 2 datetime.wall.date.day
            ++ 'T' :: (paddedDigits 2 datetime.wall.time.hour.val
              ++ ':' :: (paddedDigits 2 datetime.wall.time.minute.val
                ++ ':' :: (paddedDigits 2 datetime.wall.time.second.val
                  ++ (fractionText datetime.wall.time.microsecond.val
                    ++ datetime.offset.elim [] (offsetText .letter))))))) := by
  simp only [text, wallText, fractionText, List.append_assoc, List.cons_append]

/-- Only twelve months have days, and none has more than thirty-one. -/
theorem month_and_days_le
    {year month day : Nat}
    (positive : 0 < day)
    (within : day ≤ daysInMonth year month) :
    month ≤ 12 ∧ day ≤ 31 := by
  unfold daysInMonth at within
  generalize isLeapYear year = leap at within
  cases leap <;>
    match month with
    | 0 | 1 | 2 | 3 | 4 | 5 | 6 | 7 | 8 | 9 | 10 | 11 | 12 =>
        simp [monthLengths] at within
        omega
    | _ + 13 =>
        simp [monthLengths] at within
        omega

/-- The text of a datetime is read as that datetime. -/
theorem ofText_text (datetime : DateTime) :
    ofText (datetime.text .letter) = .ok datetime := by
  obtain ⟨⟨⟨year, month, day, isDate⟩, time⟩, offset⟩ := datetime
  obtain ⟨⟨yearPositive, yearBound⟩, -, dayPositive, within⟩ := id isDate
  obtain ⟨monthBound, dayBound⟩ := month_and_days_le dayPositive within
  have positive : year ≠ 0 := by omega
  have timeRead := time?_written time (endsTime_offsetText offset)
  rw [text_eq]
  simp only [ofText, dateParts?, fourDigits?_paddedDigits (by omega : year < 10000), after?,
    twoDigits?_paddedDigits (by omega : month < 100),
    twoDigits?_paddedDigits (by omega : day < 100), if_true,
    Option.bind_eq_bind, Option.bind_some, Option.pure_def]
  simp [timeAndOffset?, isSeparator, timeRead, offset?_written, positive, Date.of?, isDate]

/-- A text that a digit begins has no sign. -/
theorem splitSign_of_isDigit
    {first : Char}
    (digit : first.isDigit = true)
    (rest : List Char) :
    splitSign (first :: rest) = (false, first :: rest) := by
  unfold splitSign
  split
  · next equal =>
    cases equal
    cases digit
  · next equal =>
    cases equal
    cases digit
  · rfl

/-- The text of a datetime is no Unix time: a hyphen follows its first digits. -/
theorem unixMicrosecondsOfText?_text (datetime : DateTime) :
    unixMicrosecondsOfText? (datetime.text .letter) = none := by
  obtain ⟨tail, equal⟩ :
      ∃ tail, datetime.text .letter = paddedDigits 4 datetime.wall.date.year ++ '-' :: tail :=
    ⟨_, text_eq datetime⟩
  have allDigits := all_isDigit_paddedDigits 4 datetime.wall.date.year
  have hyphen (first : Char) (others : List Char) (same : '-' :: tail = first :: others) :
      first.isDigit = false := by
    cases same
    rfl
  obtain ⟨digits, behind⟩ := takeWhile_isDigit_append allDigits hyphen
  have unsigned : splitSign (datetime.text .letter) = (false, datetime.text .letter) := by
    rw [equal]
    cases padded : paddedDigits 4 datetime.wall.date.year with
    | nil => simp [paddedDigits_succ] at padded
    | cons first others =>
        rw [padded] at allDigits
        exact splitSign_of_isDigit (allDigits first (by simp)) _
  rw [unixMicrosecondsOfText?, unsigned, equal]
  simp only [digits, behind]
  cases digitsValue? digitValue? (paddedDigits 4 datetime.wall.date.year) with
  | none => rfl
  | some whole => simp

/-- The text of a datetime is read as that datetime, whatever else it might be. -/
theorem ofTextOrUnix_text (datetime : DateTime) :
    ofTextOrUnix (datetime.text .letter) = .ok datetime := by
  rw [ofTextOrUnix, unixMicrosecondsOfText?_text]
  exact ofText_text datetime

end DateTime
end Fulfilment
