import PageUpkeep.Proofs.Age.Markup
import PageUpkeep.Proofs.Calendar.DayCount

/-! The title of a span, read as what it tells.

A title is a date, a time of day and an offset from UTC, in numbers of a fixed width. Its seconds are counted
on the calendar, day for day, and the offset that it shows leaves out what is less than a minute.
-/

set_option autoImplicit false

namespace PageUpkeep

open Text (takeNumber takeMark takeMinus takeNumber_padded)

structure Title where
  date : Date
  hour : Nat
  minute : Nat
  second : Nat
  /-- Whether local time is behind UTC. -/
  behind : Bool
  offsetHour : Nat
  offsetMinute : Nat
  deriving DecidableEq, Repr

namespace Title

def takeDate (cs : List Char) : Option (Date × List Char) := do
  let signed := takeMinus cs
  let (year, cs) ← takeNumber 4 signed.2
  let cs ← takeMark '-' cs
  let (month, cs) ← takeNumber 2 cs
  let cs ← takeMark '-' cs
  let (day, cs) ← takeNumber 2 cs
  return (⟨if signed.1 then -year else year, month, day⟩, cs)

def takeClock (cs : List Char) : Option ((Nat × Nat × Nat) × List Char) := do
  let (hour, cs) ← takeNumber 2 cs
  let cs ← takeMark ':' cs
  let (minute, cs) ← takeNumber 2 cs
  let cs ← takeMark ':' cs
  let (second, cs) ← takeNumber 2 cs
  return ((hour, minute, second), cs)

def takeOffset (cs : List Char) : Option ((Bool × Nat × Nat) × List Char) := do
  let (behind, cs) ← match cs with
    | '+' :: rest => some (false, rest)
    | '-' :: rest => some (true, rest)
    | _ => none
  let (hour, cs) ← takeNumber 2 cs
  let (minute, cs) ← takeNumber 2 cs
  return ((behind, hour, minute), cs)

/-- Date, time of day and offset with a blank between them, and nothing else. -/
def read? (text : String) : Option Title := do
  let (date, cs) ← takeDate text.toList
  let cs ← takeMark ' ' cs
  let ((hour, minute, second), cs) ← takeClock cs
  let cs ← takeMark ' ' cs
  let ((behind, offsetHour, offsetMinute), cs) ← takeOffset cs
  if cs = [] then some ⟨date, hour, minute, second, behind, offsetHour, offsetMinute⟩ else none

def datePart (title : String) : String :=
  String.ofList (title.toList.takeWhile (· != ' '))

structure IsValid (title : Title) : Prop where
  date : title.date.IsValid
  hour : title.hour < 24
  minute : title.minute < 60
  second : title.second < 60
  offsetMinute : title.offsetMinute < 60

def seconds (title : Title) : Int :=
  title.date.daysFromEpoch * (24 * 60 * 60) + title.hour * (60 * 60) + title.minute * 60 + title.second

/-- The seconds by which local time is ahead of UTC, as far as they are shown. -/
def offset (title : Title) : Int :=
  let size := title.offsetHour * (60 * 60) + title.offsetMinute * 60
  if title.behind then -size else size

variable {date : Date} {time : LocalTime} (offset : UtcOffset) (rest : List Char)

theorem takeMinus_year (year : Int) (fits : year.natAbs < 10 ^ 4) :
    takeMinus ((if year < 0 then "-" else "").toList ++ ((Text.padded 4 year.natAbs).toList ++ rest)) =
      (decide (year < 0), (Text.padded 4 year.natAbs).toList ++ rest) := by
  by_cases negative : year < 0
  · simp [negative, takeMinus]
  · simp [negative, Text.takeMinus_padded (by decide) fits rest]

theorem takeDate_text (valid : date.IsValid) (first : -9999 ≤ date.year) (last : date.year ≤ 9999) :
    takeDate (date.text.toList ++ rest) = some (date, rest) := by
  obtain ⟨_, monthLast, _, dayLast⟩ := valid
  have days := Date.daysInMonth_le date.year date.month
  have year : date.year.natAbs < 10000 := by omega
  have month : date.month < 100 := by omega
  have day : date.day < 100 := by omega
  have signed : (if date.year < 0 then -(date.year.natAbs : Int) else date.year.natAbs) = date.year := by
    split <;> omega
  simp only [takeDate, Date.text, String.toList_append, List.append_assoc, takeMinus_year _ _ (by omega)]
  simp [takeNumber_padded, year, month, day, signed, -Nat.cast_natAbs]

theorem takeClock_clockText (within : time.second < 24 * 60 * 60) :
    takeClock (time.clockText.toList ++ rest) =
      some ((time.second / 3600, time.second / 60 % 60, time.second % 60), rest) := by
  have hour : time.second / 3600 < 100 := by omega
  have minute : time.second / 60 % 60 < 100 := by omega
  have second : time.second % 60 < 100 := by omega
  simp [takeClock, LocalTime.clockText, takeNumber_padded, hour, minute, second]

theorem takeOffset_text :
    takeOffset (offset.text.toList ++ rest) =
      some ((decide (offset.seconds < 0), offset.seconds.natAbs / 3600,
        offset.seconds.natAbs / 60 % 60), rest) := by
  have within := offset.within
  have hour : offset.seconds.natAbs / 3600 < 100 := by omega
  have minute : offset.seconds.natAbs / 60 % 60 < 100 := by omega
  by_cases behind : offset.seconds < 0
  · simp [takeOffset, UtcOffset.text, takeNumber_padded, hour, minute, behind]
  · simp [takeOffset, UtcOffset.text, takeNumber_padded, hour, minute, behind]

def of (offset : UtcOffset) (time : LocalTime) : Title where
  date := time.date
  hour := time.second / 3600
  minute := time.second / 60 % 60
  second := time.second % 60
  behind := decide (offset.seconds < 0)
  offsetHour := offset.seconds.natAbs / 3600
  offsetMinute := offset.seconds.natAbs / 60 % 60

theorem read?_title (valid : time.date.IsValid) (first : -9999 ≤ time.date.year)
    (last : time.date.year ≤ 9999) (within : time.second < 24 * 60 * 60) :
    read? (AgeSpan.title offset time) = some (of offset time) := by
  have ending := takeOffset_text offset []
  rw [List.append_nil] at ending
  simp [read?, AgeSpan.title, takeDate_text _ valid first last, takeClock_clockText _ within, ending, of]

theorem isValid_of (valid : time.date.IsValid) (within : time.second < 24 * 60 * 60) :
    (of offset time).IsValid where
  date := valid
  hour := by
    simp only [of]
    omega
  minute := Nat.mod_lt _ (by decide)
  second := Nat.mod_lt _ (by decide)
  offsetMinute := Nat.mod_lt _ (by decide)

theorem seconds_of (valid : time.date.IsValid) : (of offset time).seconds = time.toSeconds := by
  simp only [seconds, of, LocalTime.toSeconds, Date.toDays_eq_daysFromEpoch valid, LocalTime.daySeconds]
  omega

theorem offset_of (time : LocalTime) (wholeMinutes : 60 ∣ offset.seconds) :
    (of offset time).offset = offset.seconds := by
  simp only [Title.offset, of, decide_eq_true_iff]
  split <;> omega

theorem datePart_title (time : LocalTime) : datePart (AgeSpan.title offset time) = time.date.text := by
  have digits := Text.notMem_padded (by decide : ' '.isDigit = false)
  have quiet : ' ' ∉ time.date.text.toList := by
    unfold Date.text
    split <;> simp [digits]
  simp [datePart, AgeSpan.title, Text.takeWhile_mark quiet]

end Title

namespace AgeSpan

variable {offset : UtcOffset} {timestamp : Timestamp}

def titleOf (offset : UtcOffset) (timestamp : Timestamp) : String :=
  title offset (.ofSeconds (timestamp.toInt + offset.seconds))

theorem told_of_isTellable (tellable : IsTellable offset timestamp) :
    ∃ told, Title.read? (titleOf offset timestamp) = some told ∧ told.IsValid ∧
      told.seconds = timestamp.toInt + offset.seconds ∧
      (60 ∣ offset.seconds → told.offset = offset.seconds) := by
  obtain ⟨first, last⟩ := tellable (timestamp.toInt + offset.seconds) (by simp)
  have valid := Date.isValid_ofDays ((timestamp.toInt + offset.seconds) / LocalTime.daySeconds)
  have within := LocalTime.second_ofSeconds_lt (timestamp.toInt + offset.seconds)
  refine ⟨_, Title.read?_title offset valid first last within, Title.isValid_of offset valid within, ?_, ?_⟩
  · rw [Title.seconds_of offset valid, LocalTime.toSeconds_ofSeconds]
  · exact Title.offset_of offset _

theorem titleOf_inj {other : Timestamp} (tellable : IsTellable offset timestamp)
    (otherTellable : IsTellable offset other) (same : titleOf offset other = titleOf offset timestamp) :
    other = timestamp := by
  obtain ⟨told, read, _, seconds, _⟩ := told_of_isTellable tellable
  obtain ⟨otherTold, otherRead, _, otherSeconds, _⟩ := told_of_isTellable otherTellable
  rw [same, read] at otherRead
  cases otherRead
  apply Int64.toInt_inj.mp
  omega

/-- The title of a span tells its moment: it is read as a date and a time of day that there are, and these
are as many seconds from the epoch as the timestamp is, and the offset. Whatever the moment it is seen at and
the greatest age for a label, the title is the same, and no other moment has it at this offset. -/
theorem title_tells_moment (nonzero : timestamp ≠ 0) (tellable : IsTellable offset timestamp) :
    ∃ title told, Title.read? title = some told ∧ told.IsValid ∧
      told.seconds = timestamp.toInt + offset.seconds ∧
      (60 ∣ offset.seconds → told.seconds - told.offset = timestamp.toInt) ∧
      (∀ now longest, ∃ html, render offset timestamp now longest = .ok html ∧
        Html.attribute? "title" html = some title ∧
        (Html.attribute? "class" html = none ↔ isTooOld longest (timestamp.age now) = true) ∧
        (Html.attribute? "class" html = none → Html.content html = Title.datePart title)) ∧
      ∀ other now longest html, other ≠ timestamp → render offset other now longest = .ok html →
        Html.attribute? "title" html ≠ some title := by
  obtain ⟨told, read, valid, seconds, shown⟩ := told_of_isTellable tellable
  refine ⟨titleOf offset timestamp, told, read, valid, seconds, ?_, ?_, ?_⟩
  · intro wholeMinutes
    rw [seconds, shown wholeMinutes, Int.add_sub_cancel]
  · intro now longest
    obtain ⟨html, made, titled, classless, date⟩ := render_reads nonzero tellable now longest
    refine ⟨html, made, titled, classless, ?_⟩
    rw [titleOf, Title.datePart_title]
    exact date
  · intro other now longest html different made titled
    by_cases zero : other = 0
    · -- No moment, no markup, and no title.
      rw [render, if_pos zero] at made
      cases made
      have untitled : Html.attribute? "title" "" = none := by decide
      cases untitled.symm.trans titled
    · have otherTellable := isTellable_of_render zero made
      obtain ⟨_, otherMade, otherTitled, _⟩ := render_reads zero otherTellable now longest
      cases made.symm.trans otherMade
      have same := Option.some.inj (otherTitled.symm.trans titled)
      exact different (titleOf_inj tellable otherTellable same)

theorem title_tells_moment_on_leap_day :
    let offset : UtcOffset := ⟨-1800, by decide⟩
    let timestamp : Timestamp := -62288263801
    let title := "-0004-02-29 23:59:59 -0030"
    timestamp ≠ 0 ∧ IsTellable offset timestamp ∧
      render offset timestamp 0 (some 60) = .ok ("<span title='" ++ title ++ "'>-0004-02-29</span>") ∧
      Html.attribute? "title" ("<span title='" ++ title ++ "'>-0004-02-29</span>") = some title ∧
      (∃ told, Title.read? title = some told ∧ told.IsValid ∧
        told.seconds = timestamp.toInt - 1800 ∧ told.seconds - told.offset = timestamp.toInt) ∧
      ∀ other now longest html, other ≠ timestamp → render offset other now longest = .ok html →
        Html.attribute? "title" html ≠ some title := by
  intro offset timestamp title
  have nonzero : timestamp ≠ 0 := by decide
  have tellable : IsTellable offset timestamp := by
    unfold IsTellable
    decide
  have made : render offset timestamp 0 (some 60) =
      .ok ("<span title='" ++ title ++ "'>-0004-02-29</span>") := by decide
  have titled : Html.attribute? "title" ("<span title='" ++ title ++ "'>-0004-02-29</span>") = some title := by
    decide
  obtain ⟨found, told, read, valid, seconds, exactly, shown, others⟩ := title_tells_moment nonzero tellable
  obtain ⟨html, rendered, foundThere, _⟩ := shown 0 (some 60)
  cases made.symm.trans rendered
  cases titled.symm.trans foundThere
  exact ⟨nonzero, tellable, made, titled, ⟨told, read, valid, seconds, exactly (by decide)⟩, others⟩

end AgeSpan

end PageUpkeep
