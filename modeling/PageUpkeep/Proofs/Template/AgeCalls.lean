import PageUpkeep.Proofs.Template.Documented
import PageUpkeep.Template.AgeFilter

/-! What templates make of a timestamp: its span, or the first fault there is.

With any engine that keeps to its documentation, a call succeeds just if each of its arguments stands for what is
wanted there and the span can be made. What goes before goes first: a timestamp that cannot be read, a greatest age
that cannot, then the span.
-/

set_option autoImplicit false

namespace PageUpkeep

namespace AgeSpan

theorem append_tag_ne_empty (front : String) : front ++ "</span>" ≠ "" := by
  rw [ne_eq, String.append_eq_empty_iff]
  rintro ⟨_, closing⟩
  exact absurd closing (by decide)

theorem eq_empty_iff_of_render {offset : UtcOffset} {timestamp now : Timestamp} {longest : Option Int64}
    {html : String} (made : render offset timestamp now longest = .ok html) :
    html = "" ↔ timestamp = 0 := by
  rw [render] at made
  split at made
  · rename_i zero
    cases made
    simp [zero]
  · rename_i nonzero
    cases told : localTime offset timestamp with
    | error fault =>
      rw [told] at made
      contradiction
    | ok time =>
      simp only [told, Except.map, Except.ok.injEq] at made
      subst made
      rw [iff_false_right nonzero]
      split
      · exact append_tag_ne_empty _
      · exact append_tag_ne_empty _

end AgeSpan

namespace Template

def Datum.StandsFor (datum : Datum) (n : Int64) : Prop :=
  datum.number? = some n.toInt

inductive Bounds : Datum → Option Int64 → Prop where
  | absent {datum : Datum} (absent : datum.isAbsent = true) : Bounds datum none
  | some {datum : Datum} {n : Int64} (stands : datum.StandsFor n) : Bounds datum (some n)

/-- The greatest age that the arguments after the timestamp give; there may be one, or none. -/
inductive Longest : List Datum → Option Int64 → Prop where
  | absent : Longest [] none
  | given {datum : Datum} {longest : Option Int64} (bounds : Bounds datum longest) : Longest [datum] longest

/-- What a call with at most one argument after the timestamp comes to: the text of a span, or a fault. -/
inductive Answer (engine : Engine) (offset : UtcOffset) (now : Timestamp) (subject : Datum)
    (given : List Datum) : Except (Fault engine.Failure) String → Prop where
  | span {n : Int64} {longest : Option Int64} {text : String} (stands : subject.StandsFor n)
      (bounds : Longest given longest) (made : AgeSpan.render offset n now longest = .ok text) :
      Answer engine offset now subject given (.ok text)
  | subject {failure : engine.Failure} (unreadable : ∀ n, ¬ subject.StandsFor n)
      (failed : engine.toInt64 (engine.ofDatum subject) = .error failure) :
      Answer engine offset now subject given (.error (.failure failure))
  | bound {datum : Datum} {n : Int64} {failure : engine.Failure} (stands : subject.StandsFor n)
      (single : given = [datum]) (unreadable : ∀ longest, ¬ Bounds datum longest)
      (failed : engine.toInt64 (engine.ofDatum datum) = .error failure) :
      Answer engine offset now subject given (.error (.failure failure))
  | failed {n : Int64} {longest : Option Int64} {error : SpanError} (stands : subject.StandsFor n)
      (bounds : Longest given longest) (failed : AgeSpan.render offset n now longest = .error error) :
      Answer engine offset now subject given (.error (spanFault engine error))

variable {engine : Engine} {offset : UtcOffset} {now : Timestamp} {subject datum : Datum} {given : List Datum}

theorem toOptional_of_bounds (documented : engine.IsDocumented) {longest : Option Int64}
    (bounds : Bounds datum longest) : engine.toOptional (engine.ofDatum datum) = .ok longest := by
  cases bounds with
  | absent absent => exact documented.toOptional_absent datum absent
  | @some n stands =>
    have present : datum.isAbsent = false := by
      cases datum with
      | undefined | none => cases stands
      | _ => rfl
    rw [documented.toOptional_present datum present, documented.toInt64_number datum n stands]
    rfl

theorem toOptional_of_unreadable (documented : engine.IsDocumented) {failure : engine.Failure}
    (unreadable : ∀ longest, ¬ Bounds datum longest)
    (failed : engine.toInt64 (engine.ofDatum datum) = .error failure) :
    engine.toOptional (engine.ofDatum datum) = .error failure := by
  have present : datum.isAbsent = false :=
    Bool.eq_false_iff.mpr fun absent => unreadable none (.absent absent)
  rw [documented.toOptional_present datum present, failed]
  rfl

theorem filter_of_longest (documented : engine.IsDocumented) {n : Int64} {longest : Option Int64}
    (stands : subject.StandsFor n) (bounds : Longest given longest)
    (function : Int64 → Option Int64 → Except (Fault engine.Failure) engine.Value) :
    engine.filter function (engine.ofDatum subject :: given.map engine.ofDatum) = function n longest := by
  have read := documented.toInt64_number subject n stands
  cases bounds with
  | absent =>
    rw [List.map_nil, documented.filter_alone, read]
    rfl
  | given bounds =>
    rw [List.map_cons, List.map_nil, documented.filter_beside, read, toOptional_of_bounds documented bounds]
    rfl

theorem filter_of_unreadable (documented : engine.IsDocumented) {failure : engine.Failure}
    (failed : engine.toInt64 (engine.ofDatum subject) = .error failure) (single : given.length ≤ 1)
    (function : Int64 → Option Int64 → Except (Fault engine.Failure) engine.Value) :
    engine.filter function (engine.ofDatum subject :: given.map engine.ofDatum) =
      .error (.failure failure) := by
  match given, single with
  | [], _ =>
    rw [List.map_nil, documented.filter_alone, failed]
    rfl
  | [datum], _ =>
    rw [List.map_cons, List.map_nil, documented.filter_beside, failed]
    rfl

theorem filter_of_answer (documented : engine.IsDocumented) (single : given.length ≤ 1)
    {answer : Except (Fault engine.Failure) String} (is : Answer engine offset now subject given answer) :
    engine.filter (ageSpan engine offset now) (engine.ofDatum subject :: given.map engine.ofDatum) =
      answer.map engine.safe := by
  cases is with
  | span stands bounds made =>
    rw [filter_of_longest documented stands bounds, ageSpan, made]
    rfl
  | subject unreadable failed =>
    rw [filter_of_unreadable documented failed single]
    rfl
  | @bound datum n _ stands given unreadable failed =>
    subst given
    rw [List.map_cons, List.map_nil, documented.filter_beside, documented.toInt64_number subject n stands,
      toOptional_of_unreadable documented unreadable failed]
    rfl
  | failed stands bounds failed =>
    rw [filter_of_longest documented stands bounds, ageSpan, failed]
    rfl

theorem exists_answer (documented : engine.IsDocumented) (offset : UtcOffset) (now : Timestamp) (subject : Datum)
    (single : given.length ≤ 1) : ∃ answer, Answer engine offset now subject given answer := by
  by_cases readable : ∃ n, subject.StandsFor n
  · obtain ⟨n, stands⟩ := readable
    by_cases told : ∃ longest, Longest given longest
    · obtain ⟨longest, bounds⟩ := told
      cases made : AgeSpan.render offset n now longest with
      | ok text => exact ⟨_, .span stands bounds made⟩
      | error error => exact ⟨_, .failed stands bounds made⟩
    · match given, single with
      | [], _ => exact absurd ⟨none, .absent⟩ told
      | [datum], _ =>
        have unreadable : ∀ longest, ¬ Bounds datum longest := fun longest bounds =>
          told ⟨longest, .given bounds⟩
        obtain ⟨failure, failed, _⟩ := documented.toInt64_other datum fun n stands =>
          unreadable (some n) (.some stands)
        exact ⟨_, .bound stands rfl unreadable failed⟩
  · have unreadable : ∀ n, ¬ subject.StandsFor n := fun n stands => readable ⟨n, stands⟩
    obtain ⟨failure, failed, _⟩ := documented.toInt64_other subject unreadable
    exact ⟨_, .subject unreadable failed⟩

theorem fault_of_answer (documented : engine.IsDocumented) {fault : Fault engine.Failure}
    (is : Answer engine offset now subject given (.error fault)) :
    (∃ failure, fault = .failure failure ∧ engine.kind failure = engine.invalidOperation) ∨
      fault = .panic ∧ ∃ n longest, subject.StandsFor n ∧ Longest given longest ∧
        AgeSpan.render offset n now longest = .error .localTimeOutOfRange := by
  have refused : ∀ {datum : Datum} {failure}, (∀ n, ¬ datum.StandsFor n) →
      engine.toInt64 (engine.ofDatum datum) = .error failure →
        engine.kind failure = engine.invalidOperation := by
    intro datum failure unreadable failed
    obtain ⟨other, same, kind⟩ := documented.toInt64_other datum unreadable
    rw [failed] at same
    cases same
    exact kind
  cases is with
  | subject unreadable failed => exact .inl ⟨_, rfl, refused unreadable failed⟩
  | bound _ _ unreadable failed =>
    exact .inl ⟨_, rfl, refused (fun n stands => unreadable (some n) (.some stands)) failed⟩
  | @failed n longest error stands bounds failed =>
    cases error with
    | timestampOutOfRange => exact .inl ⟨_, rfl, documented.kind_failure _ _⟩
    | localTimeOutOfRange => exact .inr ⟨rfl, n, longest, stands, bounds, failed⟩

theorem filter_of_keyed (documented : engine.IsDocumented) (subject : engine.Value)
    (positional : List engine.Value) (entries : List (String × engine.Value))
    (function : Int64 → Option Int64 → Except (Fault engine.Failure) engine.Value) (answer : engine.Value) :
    engine.filter function (subject :: (positional ++ [engine.keyed entries])) ≠ .ok answer := by
  -- What is given by name is one argument more, and as the only one it is no number.
  match positional with
  | [] =>
    obtain ⟨failure, failed⟩ := documented.toOptional_keyed entries
    rw [List.nil_append, documented.filter_beside, failed]
    cases engine.toInt64 subject <;> exact nofun
  | [first] => exact documented.filter_crowd function subject first _ [] answer
  | first :: second :: rest => exact documented.filter_crowd function subject first second _ answer

/-! ## Templates -/

def Operand.datumIn (data : String → Datum) : Operand → Datum
  | read name => data name
  | literal datum => datum

section

variable (documented : engine.IsDocumented) (filters : Filters engine.Value engine.Failure) (name : String)
  (data : String → Datum) (positional : List Operand) (keyed : List (String × Operand))

def Engine.scope (engine : Engine) (data : String → Datum) (name : String) : engine.Value :=
  engine.ofDatum (data name)

theorem arguments_positional :
    engine.arguments (engine.scope data) positional [] =
      (positional.map (Operand.datumIn data)).map engine.ofDatum := by
  rw [Runtime.arguments, List.isEmpty_nil, if_pos rfl, List.append_nil, List.map_map]
  refine List.map_congr_left fun operand _ => ?_
  cases operand <;> rfl

include documented

theorem evaluate_ageCall (scope : String → engine.Value) :
    engine.evaluate (registerAge engine offset now filters) scope (ageCall positional keyed) =
      engine.filter (ageSpan engine offset now) (scope "ts" :: engine.arguments scope positional keyed) :=
  documented.evaluate_filtered _ _ _ _ _ _ _ _ (documented.evaluate_operand _ _ _) (if_pos rfl)

theorem render_ageCell (scope : String → engine.Value) :
    engine.render filters name scope (ageCell positional keyed) =
      ((engine.evaluate filters scope (ageCall positional keyed)).mapError
        (Fault.map (engine.located name))).map fun value => "<td>" ++ engine.written name value ++ "</td>" := by
  rw [ageCell, documented.render_verbatim, documented.render_shown, documented.render_verbatim,
    documented.render_nil]
  cases engine.evaluate filters scope (ageCall positional keyed) with
  | error fault => rfl
  | ok value =>
    show Except.ok ("<td>" ++ (engine.written name value ++ ("</td>" ++ ""))) = _
    rw [String.append_empty, ← String.append_assoc]
    rfl

theorem render_agePresence (scope : String → engine.Value) :
    engine.render filters name scope (agePresence positional) =
      ((engine.evaluate filters scope (ageCall positional [])).mapError
        (Fault.map (engine.located name))).map fun value => if engine.isTrue value then "shown" else "empty" := by
  rw [agePresence, documented.render_choice, documented.render_nil]
  cases engine.evaluate filters scope (ageCall positional []) with
  | error fault => rfl
  | ok value => exact congrArg Except.ok String.append_empty

end

section

variable {outcome : Except (Fault engine.Failure) String} {locate : engine.Failure → engine.Failure}
  {arrange : String → String}

theorem eq_ok_iff_of_answers (documented : engine.IsDocumented) (single : given.length ≤ 1)
    (whole : ∀ answer, Answer engine offset now subject given answer →
      outcome = (answer.mapError (Fault.map locate)).map arrange) (html : String) :
    outcome = .ok html ↔ ∃ n longest span, subject.StandsFor n ∧ Longest given longest ∧
      AgeSpan.render offset n now longest = .ok span ∧ html = arrange span := by
  constructor
  · intro made
    obtain ⟨answer, is⟩ := exists_answer documented offset now subject single
    rw [whole answer is] at made
    cases is with
    | span stands bounds rendered =>
      cases made
      exact ⟨_, _, _, stands, bounds, rendered, rfl⟩
    | subject _ _ => cases made
    | bound _ _ _ _ => cases made
    | failed _ _ _ => cases made
  · rintro ⟨n, longest, span, stands, bounds, rendered, rfl⟩
    exact whole _ (.span stands bounds rendered)

theorem eq_error_iff_of_answers (documented : engine.IsDocumented) (single : given.length ≤ 1)
    (whole : ∀ answer, Answer engine offset now subject given answer →
      outcome = (answer.mapError (Fault.map locate)).map arrange) (fault : Fault engine.Failure) :
    outcome = .error fault ↔
      ∃ met, Answer engine offset now subject given (.error met) ∧ fault = met.map locate := by
  constructor
  · intro failed
    obtain ⟨answer, is⟩ := exists_answer documented offset now subject single
    rw [whole answer is] at failed
    cases answer with
    | ok span => cases failed
    | error met =>
      cases failed
      exact ⟨met, is, rfl⟩
  · rintro ⟨met, is, rfl⟩
    exact whole _ is

end

section

variable (documented : engine.IsDocumented) (filters : Filters engine.Value engine.Failure) (name : String)
  (data : String → Datum) {positional : List Operand} (single : positional.length ≤ 1)
  {answer : Except (Fault engine.Failure) String}
  (is : Answer engine offset now (data "ts") (positional.map (Operand.datumIn data)) answer)

include documented single is

theorem evaluate_of_answer :
    engine.evaluate (registerAge engine offset now filters) (engine.scope data) (ageCall positional []) =
      answer.map engine.safe := by
  have called := filter_of_answer documented (by rwa [List.length_map]) is
  rw [evaluate_ageCall documented, arguments_positional]
  exact called

theorem render_ageCell_of_answer :
    engine.render (registerAge engine offset now filters) name (engine.scope data) (ageCell positional []) =
      (answer.mapError (Fault.map (engine.located name))).map fun span => "<td>" ++ span ++ "</td>" := by
  rw [render_ageCell documented, evaluate_of_answer documented filters data single is]
  cases answer with
  | error fault => rfl
  | ok span => exact congrArg (fun text => Except.ok ("<td>" ++ text ++ "</td>")) (documented.written_safe _ _)

theorem render_agePresence_of_answer :
    engine.render (registerAge engine offset now filters) name (engine.scope data) (agePresence positional) =
      (answer.mapError (Fault.map (engine.located name))).map
        fun span => if span = "" then "empty" else "shown" := by
  rw [render_agePresence documented, evaluate_of_answer documented filters data single is]
  cases answer with
  | error fault => rfl
  | ok span =>
    have shown : engine.isTrue (engine.safe span) = true ↔ span ≠ "" := by
      rw [documented.isTrue_safe, Bool.not_eq_true', Bool.eq_false_iff, ne_eq, String.isEmpty_iff]
    refine congrArg Except.ok ?_
    simp only [shown, ne_eq, ite_not]

end

theorem located_of_answer (documented : engine.IsDocumented) (name : String) {met : Fault engine.Failure}
    (is : Answer engine offset now subject given (.error met)) :
    (∃ failure, met.map (engine.located name) = .failure failure ∧
        engine.kind failure = engine.invalidOperation) ∨
      met.map (engine.located name) = .panic ∧ ∃ n longest, subject.StandsFor n ∧ Longest given longest ∧
        AgeSpan.render offset n now longest = .error .localTimeOutOfRange := by
  rcases fault_of_answer documented is with ⟨failure, rfl, kind⟩ | ⟨rfl, silent⟩
  · exact .inl ⟨_, rfl, (documented.kind_located name failure).trans kind⟩
  · exact .inr ⟨rfl, silent⟩

theorem render_ne_ok (documented : engine.IsDocumented) (filters : Filters engine.Value engine.Failure)
    (name : String) (scope : String → engine.Value) {positional : List Operand}
    {keyed : List (String × Operand)}
    (refused : ∀ answer, engine.filter (ageSpan engine offset now)
      (scope "ts" :: engine.arguments scope positional keyed) ≠ .ok answer) (html : String) :
    engine.render (registerAge engine offset now filters) name scope (ageCell positional keyed) ≠ .ok html := by
  rw [render_ageCell documented, evaluate_ageCall documented]
  cases called : engine.filter (ageSpan engine offset now)
      (scope "ts" :: engine.arguments scope positional keyed) with
  | error fault => exact nofun
  | ok answer => exact absurd called (refused answer)

/-- Templates agree with the span, whatever their names are and whatever their variables stand for, with any engine
that keeps to its documentation and beside any other filters.

With no argument or one, a cell succeeds just if the timestamp stands for an integer, the greatest age is absent or
stands for one, and there is a span for the two; it holds this span as it is. A condition succeeds in the same cases
and holds for all timestamps but zero. Otherwise the first fault, in the order of the arguments and then of the
span, is one of the operation, save where there is no answer. With an argument more, or with any given by name,
there is no cell. -/
theorem cells_hold_span (documented : engine.IsDocumented) (filters : Filters engine.Value engine.Failure)
    (offset : UtcOffset) (now : Timestamp) (name : String) (data : String → Datum) :
    let render := engine.render (registerAge engine offset now filters) name (engine.scope data)
    (∀ positional : List Operand, positional.length ≤ 1 →
      let given := positional.map (Operand.datumIn data)
      (∀ html, render (ageCell positional []) = .ok html ↔
        ∃ n longest span, (data "ts").StandsFor n ∧ Longest given longest ∧
          AgeSpan.render offset n now longest = .ok span ∧ html = "<td>" ++ span ++ "</td>") ∧
      (∀ word, render (agePresence positional) = .ok word ↔
        ∃ n longest span, (data "ts").StandsFor n ∧ Longest given longest ∧
          AgeSpan.render offset n now longest = .ok span ∧ word = if n = 0 then "empty" else "shown") ∧
      (∀ template ∈ [ageCell positional [], agePresence positional], ∀ fault,
        (render template = .error fault ↔
          ∃ met, Answer engine offset now (data "ts") given (.error met) ∧
            fault = met.map (engine.located name)) ∧
        (render template = .error fault →
          (∃ failure, fault = .failure failure ∧ engine.kind failure = engine.invalidOperation) ∨
            fault = .panic ∧ ∃ n longest, (data "ts").StandsFor n ∧ Longest given longest ∧
              AgeSpan.render offset n now longest = .error .localTimeOutOfRange))) ∧
      (∀ first second rest keyed html, render (ageCell (first :: second :: rest) keyed) ≠ .ok html) ∧
      (∀ positional keyed, keyed ≠ [] → ∀ html, render (ageCell positional keyed) ≠ .ok html) := by
  intro render
  refine ⟨?_, ?_, ?_⟩
  · intro positional single given
    have short : given.length ≤ 1 := by rwa [List.length_map]
    have cell := fun answer =>
      @render_ageCell_of_answer engine offset now documented filters name data positional single answer
    have presence := fun answer =>
      @render_agePresence_of_answer engine offset now documented filters name data positional single answer
    have faults : ∀ template ∈ [ageCell positional [], agePresence positional], ∀ fault,
        render template = .error fault ↔
          ∃ met, Answer engine offset now (data "ts") given (.error met) ∧
            fault = met.map (engine.located name) := by
      intro template listed
      simp only [List.mem_cons, List.not_mem_nil, or_false] at listed
      rcases listed with rfl | rfl
      · exact eq_error_iff_of_answers documented short cell
      · exact eq_error_iff_of_answers documented short presence
    refine ⟨eq_ok_iff_of_answers documented short cell, ?_, ?_⟩
    · intro word
      have empty : ∀ {n longest span}, AgeSpan.render offset n now longest = .ok span →
          (if span = "" then "empty" else "shown") = if n = 0 then "empty" else "shown" := by
        intro n longest span rendered
        simp only [AgeSpan.eq_empty_iff_of_render rendered]
      rw [eq_ok_iff_of_answers documented short presence word]
      constructor
      · rintro ⟨n, longest, span, stands, bounds, rendered, rfl⟩
        exact ⟨n, longest, span, stands, bounds, rendered, empty rendered⟩
      · rintro ⟨n, longest, span, stands, bounds, rendered, rfl⟩
        exact ⟨n, longest, span, stands, bounds, rendered, (empty rendered).symm⟩
    · intro template listed fault
      refine ⟨faults template listed fault, fun failed => ?_⟩
      obtain ⟨met, is, rfl⟩ := (faults template listed fault).mp failed
      exact located_of_answer documented name is
  · intro first second rest keyed
    exact render_ne_ok documented filters name _ (documented.filter_crowd _ _ _ _ _)
  · intro positional keyed named
    refine render_ne_ok documented filters name _ ?_
    rw [Runtime.arguments, if_neg (by simpa using named)]
    exact filter_of_keyed documented _ _ _ _

/-- A bound of true is one second, after which a cell holds a date; false is zero, for which no condition holds; and an
integer of more than 64 bits is a fault. -/
theorem cells_hold_span_of_truth :
    let engine := standardEngine Value.kind
    let data (subject : Datum) (name : String) : Datum := if name = "ts" then subject else .bool true
    let render (subject : Datum) := engine.render (registerAge engine .utc 1700000125 fun _ => none) "row.html"
      (engine.scope (data subject))
    engine.IsDocumented ∧
      render (.signed 1700000000) (ageCell [.read "max"] []) =
        .ok "<td><span title='2023-11-14 22:13:20 +0000'>2023-11-14</span></td>" ∧
      render (.bool false) (agePresence [.read "max"]) = .ok "empty" ∧
      (∃ failure, render (.unsigned 18446744073709551616) (ageCell [] []) = .error (.failure failure) ∧
        engine.kind failure = .invalidOperation) ∧
      ∀ html, render (.signed 1700000000) (ageCell [] [("max_relative", .read "max")]) ≠ .ok html := by
  intro engine data render
  have documented : engine.IsDocumented := isDocumented_standardEngine Value.kind
  have holds := fun subject =>
    cells_hold_span documented (fun _ => none) .utc 1700000125 "row.html" (data subject)
  have bounds : Longest [Datum.bool true] (some 1) := .given (.some rfl)
  refine ⟨documented, ?_, ?_, ?_, ?_⟩
  · exact (((holds (.signed 1700000000)).1 [.read "max"] (by decide)).1 _).mpr
      ⟨1700000000, some 1, _, congrArg some (by decide), bounds, rfl, rfl⟩
  · exact (((holds (.bool false)).1 [.read "max"] (by decide)).2.1 _).mpr
      ⟨0, some 1, "", rfl, bounds, rfl, rfl⟩
  · obtain ⟨_, _, faults⟩ := (holds (.unsigned 18446744073709551616)).1 [] (by decide)
    have unreadable : ∀ n : Int64, ¬ (Datum.unsigned 18446744073709551616).StandsFor n := by
      intro n stands
      have within := n.toInt_le
      rw [← Option.some.inj stands] at within
      exact absurd within (by decide +kernel)
    obtain ⟨failure, failed, kind⟩ := documented.toInt64_other _ unreadable
    have fault := ((faults _ List.mem_cons_self (.failure (engine.located "row.html" failure))).1).mpr
      ⟨_, .subject unreadable failed, rfl⟩
    exact ⟨_, fault, kind⟩
  · exact (holds (.signed 1700000000)).2.2 [] _ nofun

end Template
end PageUpkeep
