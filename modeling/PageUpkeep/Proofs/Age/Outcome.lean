import PageUpkeep.Proofs.Age.Markup

/-! When there is markup for a timestamp, and what there is otherwise.

Three things decide it: whether the timestamp is zero, whether it lies in the years that can be told, and
whether its local time does. The moment of seeing it and the greatest age for a label decide nothing. Only
the first two are checked for; where a timestamp can be told and its local time cannot, there is no answer.
-/

set_option autoImplicit false

namespace PageUpkeep.AgeSpan

variable {offset : UtcOffset} {timestamp : Timestamp}

theorem isTellable_utc_iff :
    IsTellable .utc timestamp ↔ LocalTime.isTellable timestamp.toInt = true := by
  simp [IsTellable, LocalTime.isTellable_iff, UtcOffset.utc]

theorem isTellable_utc_of_isTellable (tellable : IsTellable offset timestamp) :
    IsTellable .utc timestamp :=
  isTellable_utc_iff.mpr ((LocalTime.isTellable_iff _).mpr (tellable timestamp.toInt (by simp)))

theorem localTime_of_not_universal (outside : ¬ IsTellable .utc timestamp) :
    localTime offset timestamp = .error .timestampOutOfRange := by
  rw [isTellable_utc_iff, Bool.not_eq_true] at outside
  simp [localTime, outside]

theorem localTime_of_not_local (universal : IsTellable .utc timestamp)
    (outside : ¬ IsTellable offset timestamp) :
    localTime offset timestamp = .error .localTimeOutOfRange := by
  have shifted : LocalTime.isTellable (timestamp.toInt + offset.seconds) = false := by
    apply Bool.eq_false_iff.mpr
    intro inside
    have years := (LocalTime.isTellable_iff _).mp inside
    simp only [IsTellable, List.forall_mem_cons] at universal outside
    exact outside ⟨universal.1, years, List.forall_mem_nil _⟩
  rw [isTellable_utc_iff] at universal
  simp [localTime, universal, shifted]

theorem render_of_localTime {fault : SpanError} (nonzero : timestamp ≠ 0)
    (failed : localTime offset timestamp = .error fault) (now : Timestamp) (longest : Option Int64) :
    render offset timestamp now longest = .error fault := by
  rw [render, if_neg nonzero, failed]
  rfl

theorem render_cases (offset : UtcOffset) (nonzero : timestamp ≠ 0) (now : Timestamp)
    (longest : Option Int64) :
    (IsTellable offset timestamp ∧ ∃ html, render offset timestamp now longest = .ok html) ∨
      (IsTellable .utc timestamp ∧ ¬ IsTellable offset timestamp ∧
        render offset timestamp now longest = .error .localTimeOutOfRange) ∨
      (¬ IsTellable .utc timestamp ∧
        render offset timestamp now longest = .error .timestampOutOfRange) := by
  by_cases universal : IsTellable .utc timestamp
  · by_cases tellable : IsTellable offset timestamp
    · obtain ⟨html, made, _⟩ := render_reads nonzero tellable now longest
      exact .inl ⟨tellable, html, made⟩
    · exact .inr (.inl ⟨universal, tellable,
        render_of_localTime nonzero (localTime_of_not_local universal tellable) now longest⟩)
  · exact .inr (.inr ⟨universal,
      render_of_localTime nonzero (localTime_of_not_universal universal) now longest⟩)

/-- Whatever the offset, the moment of seeing it and the greatest age for a label: a timestamp has markup if
it is zero or if it and its local time lie in the years -9999 to 9999, it is refused if it is not zero and
lies outside of them in UTC, and there is no answer just where it lies inside and its local time outside. -/
theorem render_outcome (offset : UtcOffset) (timestamp now : Timestamp) (longest : Option Int64) :
    ((∃ html, render offset timestamp now longest = .ok html) ↔
        timestamp = 0 ∨ IsTellable offset timestamp) ∧
      (render offset timestamp now longest = .error .timestampOutOfRange ↔
        timestamp ≠ 0 ∧ ¬ IsTellable .utc timestamp) ∧
      (render offset timestamp now longest = .error .localTimeOutOfRange ↔
        timestamp ≠ 0 ∧ IsTellable .utc timestamp ∧ ¬ IsTellable offset timestamp) ∧
      (IsTellable .utc timestamp ↔ -377705116800 ≤ timestamp.toInt ∧ timestamp.toInt ≤ 253402300799) := by
  have bounds : IsTellable .utc timestamp ↔
      -377705116800 ≤ timestamp.toInt ∧ timestamp.toInt ≤ 253402300799 := by
    rw [isTellable_utc_iff, LocalTime.isTellable, Bool.and_eq_true, decide_eq_true_eq, decide_eq_true_eq]
    rfl
  by_cases zero : timestamp = 0
  · subst zero
    have made : render offset 0 now longest = .ok "" := if_pos rfl
    simp [made, bounds]
  · rcases render_cases offset zero now longest with
      ⟨tellable, html, made⟩ | ⟨universal, untellable, failed⟩ | ⟨outside, failed⟩
    · simp [made, zero, tellable, isTellable_utc_of_isTellable tellable, ← bounds]
    · simp [failed, zero, universal, untellable, ← bounds]
    · have untellable : ¬ IsTellable offset timestamp := fun tellable =>
        outside (isTellable_utc_of_isTellable tellable)
      simp [failed, zero, outside, untellable, ← bounds]

/-- In the last second of the year 9999 there is no answer an hour ahead of UTC, though there is in UTC. -/
theorem no_answer_in_last_second :
    let ahead : UtcOffset := ⟨3600, by decide⟩
    let timestamp : Timestamp := 253402300799
    (-377705116800 ≤ timestamp.toInt ∧ timestamp.toInt ≤ 253402300799) ∧
      (∃ html, render .utc timestamp timestamp none = .ok html) ∧
      ¬ ((∃ html, render ahead timestamp timestamp none = .ok html) ∨
        render ahead timestamp timestamp none = .error .timestampOutOfRange) := by
  intro ahead timestamp
  have there : ∃ html, render .utc timestamp timestamp none = .ok html := by
    have universal : IsTellable .utc timestamp := isTellable_utc_iff.mpr (by decide)
    obtain ⟨html, made, _⟩ := render_reads (by decide) universal timestamp none
    exact ⟨html, made⟩
  have missing : render ahead timestamp timestamp none = .error .localTimeOutOfRange := by decide
  refine ⟨by decide, there, ?_⟩
  simp [missing]

end PageUpkeep.AgeSpan
