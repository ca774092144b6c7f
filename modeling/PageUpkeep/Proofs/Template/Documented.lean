import Mathlib.Algebra.Group.Int.Defs
import PageUpkeep.Template.Standard

/-! What a template engine documents of itself, and that the standard engine keeps to it.

Arguments of filters are converted one by one, from left to right; a text that is called safe is put out as it is; and
templates put out their pieces in order, up to the first failure.
-/

set_option autoImplicit false

namespace PageUpkeep.Template

/-- Where arguments by name stand for one value, this value is neither absent nor a number. An integer is converted
where it has 64 bits, and a truth value as 0 or 1. -/
structure Runtime.IsDocumented (runtime : Runtime) : Prop where
  kind_failure : ∀ kind detail, runtime.kind (runtime.failure kind detail) = kind
  kind_located : ∀ name failure, runtime.kind (runtime.located name failure) = runtime.kind failure
  written_safe : ∀ name text, runtime.written name (runtime.safe text) = text
  isTrue_safe : ∀ text, runtime.isTrue (runtime.safe text) = !text.isEmpty
  toInt64_number : ∀ (datum : Datum) (n : Int64), datum.number? = some n.toInt →
    runtime.toInt64 (runtime.ofDatum datum) = .ok n
  toInt64_other : ∀ datum : Datum, (∀ n : Int64, datum.number? ≠ some n.toInt) →
    ∃ failure, runtime.toInt64 (runtime.ofDatum datum) = .error failure ∧
      runtime.kind failure = runtime.invalidOperation
  toOptional_absent : ∀ datum : Datum, datum.isAbsent = true →
    runtime.toOptional (runtime.ofDatum datum) = .ok none
  toOptional_present : ∀ datum : Datum, datum.isAbsent = false →
    runtime.toOptional (runtime.ofDatum datum) = (runtime.toInt64 (runtime.ofDatum datum)).map some
  toOptional_keyed : ∀ entries, ∃ failure, runtime.toOptional (runtime.keyed entries) = .error failure
  filter_alone : ∀ function subject, runtime.filter function [subject] = do
    let integer ← (runtime.toInt64 subject).mapError Fault.failure
    function integer none
  filter_beside : ∀ function subject value, runtime.filter function [subject, value] = do
    let integer ← (runtime.toInt64 subject).mapError Fault.failure
    let read ← (runtime.toOptional value).mapError Fault.failure
    function integer read
  filter_crowd : ∀ function subject first second rest answer,
    runtime.filter function (subject :: first :: second :: rest) ≠ .ok answer

structure Engine.IsDocumented (engine : Engine) : Prop extends engine.toRuntime.IsDocumented where
  evaluate_operand : ∀ filters scope operand,
    engine.evaluate filters scope (.operand operand) = .ok (engine.operand scope operand)
  evaluate_filtered : ∀ filters scope subject name positional keyed value filter,
    engine.evaluate filters scope subject = .ok value → filters name = some filter →
      engine.evaluate filters scope (.filtered subject name positional keyed) =
        filter (value :: engine.arguments scope positional keyed)
  render_nil : ∀ filters name scope, engine.render filters name scope [] = .ok ""
  render_verbatim : ∀ filters name scope text rest,
    engine.render filters name scope (.verbatim text :: rest) =
      (engine.render filters name scope rest).map (text ++ ·)
  render_shown : ∀ filters name scope expression rest,
    engine.render filters name scope (.shown expression :: rest) = do
      let value ← (engine.evaluate filters scope expression).mapError (Fault.map (engine.located name))
      (engine.render filters name scope rest).map (engine.written name value ++ ·)
  render_choice : ∀ filters name scope condition holds fails rest,
    engine.render filters name scope (.choice condition holds fails :: rest) = do
      let value ← (engine.evaluate filters scope condition).mapError (Fault.map (engine.located name))
      (engine.render filters name scope rest).map ((if engine.isTrue value then holds else fails) ++ ·)

theorem toInt64?_of_number {datum : Datum} {n : Int64} (counts : datum.number? = some n.toInt) :
    (Value.ofDatum datum).toInt64? = some n := by
  have integer : ∀ {value : Int}, value = n.toInt → (Value.integer value).toInt64? = some n := by
    rintro value rfl
    rw [Value.toInt64?, if_pos ⟨n.minValue_le_toInt, n.toInt_le⟩, Int64.ofInt_toInt]
  cases datum with
  | undefined | none | text _ | list _ => cases counts
  | signed value | unsigned value =>
    rw [Value.ofDatum]
    exact integer (Option.some.inj counts)
  | bool value =>
    rw [Value.ofDatum]
    have same := Option.some.inj counts
    cases value with
    | false => exact congrArg some (Int64.toInt_inj.mp same)
    | true => exact congrArg some (Int64.toInt_inj.mp same)

theorem number?_of_toInt64? {datum : Datum} {n : Int64}
    (read : (Value.ofDatum datum).toInt64? = some n) : datum.number? = some n.toInt := by
  have integer : ∀ {value : Int}, (Value.integer value).toInt64? = some n → value = n.toInt := by
    intro value read
    rw [Value.toInt64?] at read
    split at read
    · rename_i within
      cases read
      exact (Int64.toInt_ofInt_of_le within.1 (Int.lt_of_le_of_lt within.2 (by decide))).symm
    · cases read
  cases datum with
  | undefined | none | text _ | list _ => cases read
  | signed value | unsigned value => exact congrArg some (integer read)
  | bool value =>
    cases read
    cases value <;> rfl

theorem isAbsent_ofDatum (datum : Datum) : (Value.ofDatum datum).isAbsent = datum.isAbsent := by
  cases datum <;> rfl

theorem readInteger_of_uncounted {datum : Datum} (uncounted : ∀ n : Int64, datum.number? ≠ some n.toInt) :
    ∃ failure : Failure, readInteger (Value.ofDatum datum) = .error failure ∧
      failure.kind = .invalidOperation := by
  cases read : (Value.ofDatum datum).toInt64? with
  | none => exact ⟨⟨.invalidOperation, _, none⟩, by rw [readInteger, read], rfl⟩
  | some n => exact absurd (number?_of_toInt64? read) (uncounted n)

section

variable (function : Int64 → Option Int64 → Except (Fault Failure) Value) (subject first second : Value)

theorem callFilter_alone : callFilter function [subject] =
    ((readInteger subject).mapError Fault.failure >>= fun integer => function integer none) := by
  rw [callFilter]
  cases readInteger subject <;> rfl

theorem callFilter_beside : callFilter function [subject, first] =
    ((readInteger subject).mapError Fault.failure >>= fun integer =>
      (readOptional first).mapError Fault.failure >>= fun read => function integer read) := by
  rw [callFilter, readRest]
  cases readInteger subject <;> cases readOptional first <;> rfl

theorem callFilter_crowd (rest : List Value) (answer : Value) :
    callFilter function (subject :: first :: second :: rest) ≠ .ok answer := by
  rw [callFilter, readRest]
  cases readInteger subject <;> cases readOptional first <;> exact nofun

end

section

variable (other : Value → String) (filters : Filters Value Failure) (scope : String → Value)

theorem evaluate_filtered {subject : Expression} {value : Value} {name : String} {filter : Filter Value Failure}
    (positional : List Operand) (keyed : List (String × Operand))
    (found : evaluate other filters scope subject = .ok value) (known : filters name = some filter) :
    evaluate other filters scope (.filtered subject name positional keyed) =
      filter (value :: (standardRuntime other).arguments scope positional keyed) := by
  rw [evaluate, found]
  simp only [bind, Except.bind, known]

variable (name : String) (expression : Expression) (rest : List Piece)

theorem renderPieces_verbatim (text : String) :
    renderPieces other filters scope name (.verbatim text :: rest) =
      (renderPieces other filters scope name rest).map (text ++ ·) := by
  rw [renderPieces]
  cases renderPieces other filters scope name rest <;> rfl

theorem renderPieces_shown :
    renderPieces other filters scope name (.shown expression :: rest) =
      ((evaluate other filters scope expression).mapError (Fault.map ((standardRuntime other).located name)) >>=
        fun value => (renderPieces other filters scope name rest).map (value.written other name ++ ·)) := by
  rw [renderPieces, renderPiece]
  cases evaluate other filters scope expression <;> cases renderPieces other filters scope name rest <;> rfl

theorem renderPieces_choice (holds fails : String) :
    renderPieces other filters scope name (.choice expression holds fails :: rest) =
      ((evaluate other filters scope expression).mapError (Fault.map ((standardRuntime other).located name)) >>=
        fun value => (renderPieces other filters scope name rest).map
          ((if value.isTrue then holds else fails) ++ ·)) := by
  rw [renderPieces, renderPiece]
  cases evaluate other filters scope expression <;> cases renderPieces other filters scope name rest <;> rfl

end

theorem isDocumented_standardRuntime (other : Value → String) : (standardRuntime other).IsDocumented where
  kind_failure _ _ := rfl
  kind_located _ _ := rfl
  written_safe _ _ := rfl
  isTrue_safe _ := rfl
  toInt64_number datum n counts := by
    show readInteger (Value.ofDatum datum) = .ok n
    rw [readInteger, toInt64?_of_number counts]
  toInt64_other _ := readInteger_of_uncounted
  toOptional_absent datum absent := if_pos ((isAbsent_ofDatum datum).trans absent)
  toOptional_present datum present := if_neg (Bool.eq_false_iff.mp ((isAbsent_ofDatum datum).trans present))
  toOptional_keyed _ := ⟨_, rfl⟩
  filter_alone := callFilter_alone
  filter_beside := callFilter_beside
  filter_crowd := callFilter_crowd

theorem isDocumented_standardEngine (other : Value → String) : (standardEngine other).IsDocumented where
  toIsDocumented := isDocumented_standardRuntime other
  evaluate_operand _ _ _ := rfl
  evaluate_filtered filters scope _ _ positional keyed _ _ :=
    evaluate_filtered other filters scope positional keyed
  render_nil _ _ _ := rfl
  render_verbatim filters name scope text rest := renderPieces_verbatim other filters scope name rest text
  render_shown filters name scope := renderPieces_shown other filters scope name
  render_choice filters name scope condition holds fails rest :=
    renderPieces_choice other filters scope name condition rest holds fails

end PageUpkeep.Template
