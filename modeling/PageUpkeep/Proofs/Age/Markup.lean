import PageUpkeep.Age.Span
import PageUpkeep.Proofs.Calendar.Years
import PageUpkeep.Proofs.Html.Attributes

/-! The markup of a label, exactly.

It is made of four texts, of which none has anything in it to be escaped: they are classes and units by
name, and decimal numbers with marks between them. So each of them can be read off the markup again.
-/

set_option autoImplicit false

namespace PageUpkeep

open Html (IsPlain)

@[simp] theorem Text.isPlain_repr (n : Nat) : IsPlain n.repr := by
  apply IsPlain.ofDecimals
  intro c member
  rw [Nat.toList_repr] at member
  exact .inr (Integer.isDigit_of_mem_toDigits member)

@[simp] theorem Text.isPlain_padded (width n : Nat) : IsPlain (padded width n) :=
  .ofDecimals fun _ member => .inr (isDigit_of_mem_padded member)

theorem Timestamp.isPlain_toAttribute (timestamp : Timestamp) : IsPlain timestamp.toAttribute :=
  .ofDecimals fun _ => Text.Integer.isDecimal_of_mem_print

theorem AgeBucket.isPlain_className (bucket : AgeBucket) : IsPlain bucket.className := by
  cases bucket <;> decide

@[simp] theorem AgeBucket.isPlain_unit (bucket : AgeBucket) : IsPlain bucket.unit := by
  cases bucket <;> decide

theorem AgeLabel.isPlain_text (label : AgeLabel) : IsPlain label.text := by
  simp +decide [AgeLabel.text]

@[simp] theorem Date.isPlain_text (date : Date) : IsPlain date.text := by
  unfold Date.text
  split <;> simp +decide

@[simp] theorem LocalTime.isPlain_clockText (time : LocalTime) : IsPlain time.clockText := by
  simp +decide [LocalTime.clockText]

@[simp] theorem UtcOffset.isPlain_text (offset : UtcOffset) : IsPlain offset.text := by
  unfold UtcOffset.text
  dsimp only
  split <;> simp +decide

namespace AgeSpan

theorem isPlain_title (offset : UtcOffset) (time : LocalTime) : IsPlain (title offset time) := by
  simp +decide [title]

/-- The texts of a span: its class, the number and the title in its attributes, and what it shows. -/
structure Parts where
  className : String
  moment : String
  title : String
  text : String

namespace Parts

def of (offset : UtcOffset) (timestamp now : Timestamp) : Parts where
  className := (AgeLabel.ofAge (timestamp.age now)).className
  moment := timestamp.toAttribute
  title := AgeSpan.title offset (.ofSeconds (timestamp.toInt + offset.seconds))
  text := (AgeLabel.ofAge (timestamp.age now)).text

def all (parts : Parts) : List String :=
  [parts.className, parts.moment, parts.title, parts.text]

def markup (parts : Parts) : String :=
  "<span class='" ++ parts.className ++ "' data-ut='" ++ parts.moment ++ "' title='" ++ parts.title ++
    "'>" ++ parts.text ++ "</span>"

theorem isPlain_of {offset : UtcOffset} {timestamp now : Timestamp} {part : String}
    (member : part ∈ (of offset timestamp now).all) : IsPlain part := by
  simp only [all, List.mem_cons, List.not_mem_nil, or_false] at member
  rcases member with rfl | rfl | rfl | rfl
  · exact AgeBucket.isPlain_className _
  · exact timestamp.isPlain_toAttribute
  · exact isPlain_title offset _
  · exact AgeLabel.isPlain_text _

end Parts

theorem relative_eq_markup (label : AgeLabel) (timestamp : Timestamp) {title : String}
    (plain : IsPlain title) :
    relative label timestamp title =
      Parts.markup ⟨label.className, timestamp.toAttribute, title, label.text⟩ := by
  have className : Html.escape label.className = label.className :=
    label.bucket.isPlain_className.escape
  unfold relative Parts.markup
  rw [className, timestamp.isPlain_toAttribute.escape, plain.escape, label.isPlain_text.escape]

def IsTellable (offset : UtcOffset) (timestamp : Timestamp) : Prop :=
  ∀ seconds ∈ [timestamp.toInt, timestamp.toInt + offset.seconds],
    -9999 ≤ (LocalTime.ofSeconds seconds).date.year ∧ (LocalTime.ofSeconds seconds).date.year ≤ 9999

theorem localTime_of_isTellable {offset : UtcOffset} {timestamp : Timestamp}
    (tellable : IsTellable offset timestamp) :
    localTime offset timestamp = .ok (.ofSeconds (timestamp.toInt + offset.seconds)) := by
  have universal := (LocalTime.isTellable_iff _).mpr (tellable timestamp.toInt (by simp))
  have shifted := (LocalTime.isTellable_iff _).mpr
    (tellable (timestamp.toInt + offset.seconds) (by simp))
  simp [localTime, universal, shifted]

theorem render_of_isTellable {offset : UtcOffset} {timestamp now : Timestamp} {longest : Option Int64}
    (nonzero : timestamp ≠ 0) (tellable : IsTellable offset timestamp)
    (recent : isTooOld longest (timestamp.age now) = false) :
    render offset timestamp now longest = .ok (Parts.of offset timestamp now).markup := by
  simp only [render, nonzero, if_false, localTime_of_isTellable tellable, Except.map, recent,
    Bool.false_eq_true, relative_eq_markup _ _ (isPlain_title offset _)]
  rfl

theorem isTellable_of_localTime {offset : UtcOffset} {timestamp : Timestamp} {time : LocalTime}
    (told : localTime offset timestamp = .ok time) : IsTellable offset timestamp := by
  simp only [localTime, Bool.not_eq_true'] at told
  split at told
  · contradiction
  · rename_i universal
    split at told
    · contradiction
    · rename_i shifted
      simp only [Bool.not_eq_false, LocalTime.isTellable_iff] at universal shifted
      simpa [IsTellable] using And.intro universal shifted

theorem isTellable_of_render {offset : UtcOffset} {timestamp now : Timestamp} {longest : Option Int64}
    {html : String} (nonzero : timestamp ≠ 0) (made : render offset timestamp now longest = .ok html) :
    IsTellable offset timestamp := by
  rw [render, if_neg nonzero] at made
  cases told : localTime offset timestamp with
  | error fault =>
    rw [told] at made
    contradiction
  | ok time => exact isTellable_of_localTime told

theorem Parts.markup_eq_element (parts : Parts) :
    parts.markup = Html.element "span"
      [("class", parts.className), ("data-ut", parts.moment), ("title", parts.title)] parts.text := by
  unfold Parts.markup
  apply String.toList_inj.mp
  simp

theorem absolute_eq_element (date : Date) {title : String} (plain : IsPlain title) :
    absolute date title = Html.element "span" [("title", title)] date.text := by
  unfold absolute
  rw [plain.escape, date.isPlain_text.escape]
  apply String.toList_inj.mp
  simp

theorem isClear_of_name {name value : String} (known : name ∈ ["class", "data-ut", "title"])
    (plain : IsPlain value) : Html.IsClear (name, value) := by
  have names : ∀ name ∈ ["class", "data-ut", "title"], IsPlain name ∧ ' ' ∉ name.toList := by decide
  exact ⟨(names name known).1, plain, (names name known).2⟩

theorem Parts.attribute?_markup {parts : Parts} {name : String} (plain : ∀ part ∈ parts.all, IsPlain part)
    (word : ' ' ∉ name.toList) :
    Html.attribute? name parts.markup =
      [("class", parts.className), ("data-ut", parts.moment), ("title", parts.title)].lookup name := by
  simp only [all, List.forall_mem_cons] at plain
  obtain ⟨className, moment, title, text, _⟩ := plain
  rw [parts.markup_eq_element]
  refine Html.attribute?_element word (by decide) ?_ text
  simp only [List.forall_mem_cons, List.not_mem_nil, false_imp_iff, implies_true, and_true]
  exact ⟨isClear_of_name (by decide) className, isClear_of_name (by decide) moment,
    isClear_of_name (by decide) title⟩

theorem isClear_title {title : String} (plain : IsPlain title) :
    ∀ entry ∈ [("title", title)], Html.IsClear entry :=
  List.forall_mem_singleton.mpr (isClear_of_name (by decide) plain)

theorem attribute?_absolute (date : Date) {title name : String} (plain : IsPlain title)
    (word : ' ' ∉ name.toList) :
    Html.attribute? name (absolute date title) = [("title", title)].lookup name := by
  rw [absolute_eq_element date plain]
  exact Html.attribute?_element word (by decide) (isClear_title plain) date.isPlain_text

theorem content_absolute (date : Date) {title : String} (plain : IsPlain title) :
    Html.content (absolute date title) = date.text := by
  rw [absolute_eq_element date plain]
  exact Html.content_element (by decide) (isClear_title plain) date.isPlain_text

theorem render_reads {offset : UtcOffset} {timestamp : Timestamp} (nonzero : timestamp ≠ 0)
    (tellable : IsTellable offset timestamp) (now : Timestamp) (longest : Option Int64) :
    let time := LocalTime.ofSeconds (timestamp.toInt + offset.seconds)
    ∃ html, render offset timestamp now longest = .ok html ∧
      Html.attribute? "title" html = some (title offset time) ∧
      (Html.attribute? "class" html = none ↔ isTooOld longest (timestamp.age now) = true) ∧
      (Html.attribute? "class" html = none → Html.content html = time.date.text) := by
  intro time
  have plain := isPlain_title offset time
  cases old : isTooOld longest (timestamp.age now) with
  | true =>
    -- The span with a date is the one without a class.
    refine ⟨absolute time.date (title offset time), ?_, ?_, ?_, ?_⟩
    · simp [render, nonzero, localTime_of_isTellable tellable, Except.map, old, time]
    · exact attribute?_absolute _ plain (by decide)
    · have classless : Html.attribute? "class" (absolute time.date (title offset time)) = none :=
        attribute?_absolute _ plain (by decide)
      simp [classless]
    · exact fun _ => content_absolute _ plain
  | false =>
    have parts := @Parts.isPlain_of offset timestamp now
    have className : Html.attribute? "class" (Parts.of offset timestamp now).markup ≠ none := by
      rw [Parts.attribute?_markup (fun _ => parts) (by decide)]
      exact Option.some_ne_none _
    refine ⟨_, render_of_isTellable nonzero tellable old, ?_, ?_, ?_⟩
    · exact Parts.attribute?_markup (fun _ => parts) (by decide)
    · simp [className]
    · exact fun missing => absurd missing className

end AgeSpan

end PageUpkeep
