import PageUpkeep.Proofs.Age.Markup
import PageUpkeep.Proofs.Program.LabelLines
import PageUpkeep.Proofs.Sweep.Settled

/-! One label, wherever it is shown: in the markup of a page, on a line of the program, and by the sweeps.

So a page that is served with its labels is left alone by the first sweep over it.
-/

set_option autoImplicit false

namespace PageUpkeep

/-- An element made of the parts of a span: their class, number and text, whatever else it has. -/
structure Element.IsMadeOf (element : Element) (parts : AgeSpan.Parts) : Prop where
  className : element.className = parts.className
  moment : element.attributes.get? "data-ut" = some parts.moment
  text : element.text = parts.text

theorem Element.IsMadeOf.isSettled {element : Element} {offset : UtcOffset} {timestamp now : Timestamp}
    (made : element.IsMadeOf (.of offset timestamp now)) :
    ({} : AgeSettings).IsSettled now element := by
  have readable : ({} : AgeSettings).label? now element = some (AgeLabel.ofAge (timestamp.age now)) := by
    simp [AgeSettings.label?, AgeSettings.moment?, made.moment, AgeSpan.Parts.of,
      Timestamp.ofAttribute?_toAttribute]
  obtain ⟨className, _, text⟩ := made
  rw [AgeSettings.IsSettled, AgeSettings.relabel_of_some _ now readable]
  cases element
  cases className
  cases text
  rfl

namespace AgeSpan

theorem isTooOld_eq_false {longest : Option Int64} {age : UInt64}
    (recent : ∀ bound, longest = some bound → bound.toInt < 0 ∨ (age.toNat : Int) ≤ bound.toInt) :
    isTooOld longest age = false := by
  cases longest with
  | none => rfl
  | some bound =>
    have bounded := recent bound rfl
    simp only [isTooOld, Bool.and_eq_false_iff, decide_eq_false_iff_not]
    omega

def Parts.line (parts : Parts) : String :=
  parts.moment ++ "\t" ++ parts.text ++ "\t" ++ parts.className ++ "\n"

end AgeSpan

namespace Program

theorem out_run_labels {environment : Environment} (plain : environment.color = false) (files : FileTree)
    (offset : UtcOffset) (now timestamp : Timestamp) (before after : List Timestamp) :
    (run environment files (ageWords now (before ++ timestamp :: after))).out =
      String.join (before.map (labelLine false now)) ++ (AgeSpan.Parts.of offset timestamp now).line ++
        String.join (after.map (labelLine false now)) := by
  have line : labelLine false now timestamp = (AgeSpan.Parts.of offset timestamp now).line := rfl
  rw [run_labels environment files now (List.append_ne_nil_of_right_ne_nil _ (List.cons_ne_nil _ _)), plain]
  dsimp only
  rw [List.map_append, List.map_cons, String.join_append, String.join_cons, line, String.append_assoc]

/-- The label of a timestamp is the same in all three places. Markup, line and elements have the same parts;
none of them is changed by escaping, and no sweep writes to any element made of them. -/
theorem markup_line_and_sweep_agree {offset : UtcOffset} {timestamp now : Timestamp}
    {longest : Option Int64} (nonzero : timestamp ≠ 0) (tellable : AgeSpan.IsTellable offset timestamp)
    (recent : ∀ bound, longest = some bound →
      bound.toInt < 0 ∨ ((timestamp.age now).toNat : Int) ≤ bound.toInt) :
    let parts := AgeSpan.Parts.of offset timestamp now
    AgeSpan.render offset timestamp now longest = .ok parts.markup ∧
      parts.moment = toString timestamp.toInt ∧
      (∀ part ∈ parts.all, ∀ c ∈ part.toList, Html.escapeChar c = [c]) ∧
      (∀ (environment : Environment) (files : FileTree) (before after : List Timestamp),
        environment.color = false →
          (run environment files (ageWords now (before ++ timestamp :: after))).out =
            String.join (before.map (labelLine false now)) ++ parts.line ++
              String.join (after.map (labelLine false now))) ∧
      ∀ document : Document,
        (∀ handle element, document.element? handle = some element → element.IsMadeOf parts →
          (Sweep.run {} now document).document.element? handle = some element ∧
            ∀ sweep, Sweep.Visits {} now document sweep handle →
              (Sweep.visit {} now sweep handle).document = sweep.document) ∧
        ∀ served : Element → Bool,
          (∀ element ∈ document.elements, served element = true →
            ∃ offset timestamp, element.IsMadeOf (.of offset timestamp now)) →
          (Sweep.run {} now (document.without served)).document.textWrites =
              (Sweep.run {} now document).document.textWrites ∧
            (Sweep.run {} now (document.without served)).document.classWrites =
              (Sweep.run {} now document).document.classWrites := by
  intro parts
  refine ⟨AgeSpan.render_of_isTellable nonzero tellable (AgeSpan.isTooOld_eq_false recent), rfl, ?_, ?_, ?_⟩
  · intro part member c occurs
    exact (AgeSpan.Parts.isPlain_of member).escapeChar occurs
  · intro environment files before after plain
    exact out_run_labels plain files offset now timestamp before after
  · intro document
    constructor
    · intro handle element found made
      exact ⟨Sweep.element?_run_of_settled found made.isSettled,
        fun sweep visits => Sweep.document_visit_of_visits visits found made.isSettled⟩
    · intro served madeOf
      have settled : ∀ element ∈ document.elements, served element = true →
          ({} : AgeSettings).IsSettled now element := by
        intro element member isServed
        obtain ⟨_, _, made⟩ := madeOf element member isServed
        exact made.isSettled
      exact ⟨Sweep.textWrites_run_without settled, Sweep.classWrites_run_without settled⟩

theorem markup_line_and_sweep_agree_before_epoch :
    let offset : UtcOffset := ⟨-5400, by decide⟩
    let timestamp : Timestamp := -1
    let now : Timestamp := 90
    let served : Element := { Element.labelled "age-mins" "data-ut" "-1" with text := "2 min." }
    timestamp ≠ 0 ∧ AgeSpan.IsTellable offset timestamp ∧
      (∀ bound : Int64, some 91 = some bound →
        bound.toInt < 0 ∨ ((timestamp.age now).toNat : Int) ≤ bound.toInt) ∧
      AgeSpan.render offset timestamp now (some 91) =
        .ok "<span class='age-mins' data-ut='-1' title='1969-12-31 22:29:59 -0130'>2 min.</span>" ∧
      (∀ environment files, environment.color = false →
        (run environment files ["age", "--now=90", "-1", "100"]).out =
          "-1\t2 min.\tage-mins\n100\t0 min.\tage-mins\n") ∧
      ∀ document handle, document.element? handle = some served →
        (Sweep.run {} now document).document.element? handle = some served := by
  intro offset timestamp now served
  have nonzero : timestamp ≠ 0 := by decide
  have tellable : AgeSpan.IsTellable offset timestamp := by
    unfold AgeSpan.IsTellable
    decide
  have recent : ∀ bound : Int64, some 91 = some bound →
      bound.toInt < 0 ∨ ((timestamp.age now).toNat : Int) ≤ bound.toInt := by
    rintro bound same
    cases same
    decide
  have agree := markup_line_and_sweep_agree nonzero tellable recent
  refine ⟨nonzero, tellable, recent, ?_, ?_, ?_⟩
  · have markup : (AgeSpan.Parts.of offset timestamp now).markup =
        "<span class='age-mins' data-ut='-1' title='1969-12-31 22:29:59 -0130'>2 min.</span>" := by decide
    exact agree.1.trans (congrArg Except.ok markup)
  · intro environment files plain
    have words : ageWords now ([] ++ timestamp :: [100]) = ["age", "--now=90", "-1", "100"] := by decide
    have lines : String.join (List.map (labelLine false now) []) ++
        (AgeSpan.Parts.of offset timestamp now).line ++ String.join ([100].map (labelLine false now)) =
          "-1\t2 min.\tage-mins\n100\t0 min.\tage-mins\n" := by decide
    exact words ▸ (agree.2.2.2.1 environment files [] [100] plain).trans lines
  · intro document handle found
    have made : served.IsMadeOf (.of offset timestamp now) := ⟨by decide, by decide, by decide⟩
    exact ((agree.2.2.2.2 document).1 handle served found made).1

end Program

end PageUpkeep
