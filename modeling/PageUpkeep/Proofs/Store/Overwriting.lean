import PageUpkeep.Proofs.Store.Sharing

/-! What processes that share a file do to each other's entries.

What one process writes between the read and the write of another one's call is missing from the table that
this call is about to write, and is lost. So it can happen that the last call on a key has no effect. But an
entry that one process alone uses never holds anything that this process has not left there, and it is what
its last call left unless the last write for the key falls between the two halves of a call of another one.
-/

set_option autoImplicit false

namespace PageUpkeep

/-- What the last of some edits of an entry leaves there; without one it is as before. -/
def Edit.lastLeft (edits : List Edit) (key : String) (before : Option String) : Option String :=
  match (edits.filter fun edit => edit.key == key).getLast? with
  | some last => last.value?
  | none => before

namespace Edit

variable {edits : List Edit} {key : String} {before : Option String}

theorem lastLeft_append (made edits : List Edit) :
    lastLeft (made ++ edits) key before = lastLeft edits key (lastLeft made key before) := by
  unfold lastLeft
  rw [List.filter_append, List.getLast?_append]
  cases (edits.filter fun edit => edit.key == key).getLast? <;> rfl

theorem lastLeft_cons (edit : Edit) :
    lastLeft (edit :: edits) key before =
      lastLeft edits key (if key = edit.key then edit.value? else before) := by
  unfold lastLeft
  by_cases same : key = edit.key
  · rw [List.filter_cons_of_pos (by simp [same]), List.getLast?_cons, if_pos same]
    cases (edits.filter fun edit => edit.key == key).getLast? <;> rfl
  · rw [List.filter_cons_of_neg (by simpa using Ne.symm same), if_neg same]

theorem lastLeft_concat (edit : Edit) :
    lastLeft (edits ++ [edit]) key before =
      if key = edit.key then edit.value? else lastLeft edits key before := by
  rw [lastLeft_append, lastLeft_cons]
  rfl

end Edit

namespace SharedStore

variable {ι : Type} {programs : ι → List Edit} {callers : ι → Caller} {owner who : ι} {key : String}
  {before goal : Option String} {caller : Caller} {table after : Table}

/-- Nobody but the owner has a call on a key. -/
def IsPrivate (programs : ι → List Edit) (owner : ι) (key : String) : Prop :=
  ∀ other, other ≠ owner → ∀ call ∈ programs other, call.key ≠ key

/-- A value that the owner of a key has left there: at the start, or with one of its calls. -/
def LeftEarlier (program : List Edit) (key : String) (before value : Option String) : Prop :=
  ∃ made, made <+: program ∧ value = Edit.lastLeft made key before

/-- Whatever stands in the file or is about to be written there, the owner has left earlier. -/
structure TracesBack (program : List Edit) (key : String) (before : Option String) (table : Table)
    (callers : ι → Caller) : Prop where
  stored : LeftEarlier program key before (table.get? key)
  planned : ∀ who planned, (callers who).planned = some planned →
    LeftEarlier program key before (planned.get? key)

theorem LeftEarlier.apply (underway : Underway programs callers) (alone : IsPrivate programs owner key)
    {call : Edit} {rest : List Edit} (ahead : (callers who).calls = call :: rest)
    (earlier : LeftEarlier (programs owner) key before (table.get? key)) :
    LeftEarlier (programs owner) key before ((call.apply table).get? key) := by
  rw [Edit.get?_apply]
  by_cases touched : key = call.key
  · -- Only the owner calls on the key, and what it leaves there now it leaves with its next call.
    have own : who = owner := by
      by_contra other
      exact alone who other call (underway.mem_of_next ahead) touched.symm
    subst own
    obtain ⟨made, whole⟩ := underway.calls who
    refine ⟨made ++ [call], ⟨rest, ?_⟩, ?_⟩
    · rw [← whole, ahead, List.append_assoc, List.singleton_append]
    · rw [Edit.lastLeft_concat]
      simp [touched]
  · rwa [if_neg touched]

theorem getElem?_answers (underway : Underway programs callers) {planned : Table}
    (held : (callers who).planned = some planned) {made rest : List Edit} {call : Edit}
    (whole : programs who = made ++ call :: rest) (ahead : (callers who).calls = rest) :
    (programs who)[(callers who).answers.length]? = some call := by
  have outlook := congrArg List.length (underway.outlook who)
  simp only [Caller.outlook, held, whole, ahead, List.length_append, List.length_map, List.length_cons,
    Option.toList_some, List.length_nil] at outlook
  -- The call is under way with all before it answered.
  have answered : (callers who).answers.length = made.length := by omega
  rw [whole, answered, List.getElem?_append_right (Nat.le_refl _), Nat.sub_self]
  rfl

variable [DecidableEq ι]

theorem TracesBack.access (underway : Underway programs callers) (alone : IsPrivate programs owner key)
    (traces : TracesBack (programs owner) key before table callers)
    (access : Access (callers who) table caller after) :
    TracesBack (programs owner) key before after (Function.update callers who caller) := by
  have others : ∀ {next : Caller},
      (∀ planned, next.planned = some planned →
        LeftEarlier (programs owner) key before (planned.get? key)) →
      ∀ other planned, (Function.update callers who next other).planned = some planned →
        LeftEarlier (programs owner) key before (planned.get? key) := by
    intro next own
    exact (Function.forall_update_iff callers fun _ (caller : Caller) => ∀ planned,
      caller.planned = some planned → LeftEarlier (programs owner) key before (planned.get? key)).mpr
        ⟨own, fun other _ => traces.planned other⟩
  cases access with
  | done _ => exact ⟨traces.stored, others (traces.planned who)⟩
  | idle free ahead same => exact ⟨traces.stored, others nofun⟩
  | read free ahead =>
    refine ⟨traces.stored, others ?_⟩
    rintro planned ⟨⟩
    exact traces.stored.apply underway alone ahead
  | write held => exact ⟨traces.planned who _ held, others nofun⟩

/-- A process is about to write what it has made of a call on a key. -/
def IsWriting (program : List Edit) (key : String) (caller : Caller) : Prop :=
  caller.planned ≠ none ∧ ∃ call, program[caller.answers.length]? = some call ∧ call.key = key

def WritesOn (programs : ι → List Edit) (owner : ι) (key : String) : SharedStore ι → List ι → Prop
  | _, [] => False
  | shared, who :: rest =>
    who = owner ∧ IsWriting (programs owner) key (shared.callers owner) ∨
      WritesOn programs owner key (shared.turn who) rest

def IsClear (owner : ι) (callers : ι → Caller) : Prop :=
  ∀ other, other ≠ owner → (callers other).planned = none

/-- The last write of the owner for a key does not fall between the read and the write of a call of another process. -/
def LastWriteClear (programs : ι → List Edit) (owner : ι) (key : String) : SharedStore ι → List ι → Prop
  | _, [] => True
  | shared, who :: rest =>
    (who = owner → IsWriting (programs owner) key (shared.callers owner) →
        ¬ WritesOn programs owner key (shared.turn who) rest → IsClear owner shared.callers) ∧
      LastWriteClear programs owner key (shared.turn who) rest

/-- The owner of a key has nothing to fear: its calls to come lead to the goal, and nobody is about to write anything
under the key but what stands there, save the owner for a call on it. -/
structure IsKept (programs : ι → List Edit) (owner : ι) (key : String) (goal : Option String) (table : Table)
    (callers : ι → Caller) : Prop where
  own : Edit.lastLeft (callers owner).calls key (((callers owner).planned.getD table).get? key) = goal
  idle : ∀ planned, (callers owner).planned = some planned →
    ¬ IsWriting (programs owner) key (callers owner) → planned.get? key = table.get? key
  others : ∀ other, other ≠ owner → ∀ planned, (callers other).planned = some planned →
    planned.get? key = table.get? key

theorem isKept_update
    (own : Edit.lastLeft caller.calls key ((caller.planned.getD table).get? key) = goal)
    (idle : ∀ planned, caller.planned = some planned → ¬ IsWriting (programs owner) key caller →
      planned.get? key = table.get? key)
    (others : ∀ other, other ≠ owner → ∀ planned, (callers other).planned = some planned →
      planned.get? key = table.get? key) :
    IsKept programs owner key goal table (Function.update callers owner caller) := by
  refine ⟨?_, ?_, ?_⟩
  · rw [Function.update_self]
    exact own
  · rw [Function.update_self]
    exact idle
  · intro other elsewhere
    rw [Function.update_of_ne elsewhere]
    exact others other elsewhere

theorem IsKept.access_own (underway : Underway programs callers)
    (silent : ¬ IsWriting (programs owner) key (callers owner))
    (kept : IsKept programs owner key goal table callers)
    (access : Access (callers owner) table caller after) :
    IsKept programs owner key goal after (Function.update callers owner caller) := by
  have next := underway.access access
  have own := kept.own
  cases access with
  | done _ => rwa [Function.update_eq_self]
  | idle free ahead same =>
    rw [ahead, Edit.lastLeft_cons, free, Option.getD_none, ← Edit.get?_apply, same] at own
    exact isKept_update own nofun kept.others
  | @read call rest free ahead =>
    rw [ahead, Edit.lastLeft_cons, free, Option.getD_none, ← Edit.get?_apply] at own
    refine isKept_update own ?_ kept.others
    -- What it is about to write differs under the key only if the call is on the key, and then it is a write for it.
    obtain ⟨made, whole⟩ := underway.calls owner
    rw [ahead] at whole
    have acting := Function.update_self owner
      { callers owner with calls := rest, planned := some (call.apply table) } callers
    have index := getElem?_answers next (congrArg Caller.planned acting) whole.symm
      (congrArg Caller.calls acting)
    rw [acting] at index
    rintro planned ⟨⟩ still
    have untouched : key ≠ call.key := fun touched =>
      still ⟨Option.some_ne_none _, call, index, touched.symm⟩
    rw [Edit.get?_apply, if_neg untouched]
  | write held =>
    have same := kept.idle after held silent
    rw [held, Option.getD_some] at own
    refine isKept_update own nofun ?_
    rw [same]
    exact kept.others

theorem IsKept.access_other (underway : Underway programs callers) (alone : IsPrivate programs owner key)
    (elsewhere : who ≠ owner) (kept : IsKept programs owner key goal table callers)
    (access : Access (callers who) table caller after) :
    IsKept programs owner key goal after (Function.update callers who caller) := by
  -- Another process leaves the entry in the file as it is, and prepares nothing else for it.
  have facts : after.get? key = table.get? key ∧
      ∀ planned, caller.planned = some planned → planned.get? key = table.get? key := by
    cases access with
    | done _ => exact ⟨rfl, kept.others who elsewhere⟩
    | idle _ _ _ => exact ⟨rfl, nofun⟩
    | read _ ahead =>
      refine ⟨rfl, ?_⟩
      rintro planned ⟨⟩
      have untouched := alone who elsewhere _ (underway.mem_of_next ahead)
      rw [Edit.get?_apply, if_neg (Ne.symm untouched)]
    | write held => exact ⟨kept.others who elsewhere _ held, nofun⟩
  obtain ⟨same, prepared⟩ := facts
  refine ⟨?_, ?_, ?_⟩
  · rw [Function.update_of_ne (Ne.symm elsewhere), ← kept.own]
    cases (callers owner).planned with
    | none => rw [Option.getD_none, Option.getD_none, same]
    | some planned => rfl
  · rw [Function.update_of_ne (Ne.symm elsewhere), same]
    exact kept.idle
  · rw [same]
    intro other foreign
    by_cases acting : other = who
    · rw [acting, Function.update_self]
      exact prepared
    · rw [Function.update_of_ne acting]
      exact kept.others other foreign

theorem isKept_of_write (underway : Underway programs callers)
    (writing : IsWriting (programs owner) key (callers owner)) (clear : IsClear owner callers)
    (access : Access (callers owner) table caller after) :
    IsKept programs owner key (Edit.lastLeft (programs owner) key before) after
      (Function.update callers owner caller) := by
  obtain ⟨busy, call, index, touched⟩ := writing
  cases access with
  | done finished => exact absurd finished.2 busy
  | idle free _ _ => exact absurd free busy
  | read free _ => exact absurd free busy
  | write held =>
    obtain ⟨made, last, whole, prepared⟩ := underway.planned owner after held
    obtain rfl : call = last :=
      Option.some.inj (index.symm.trans (getElem?_answers underway held whole rfl))
    refine isKept_update ?_ nofun ?_
    · rw [whole, Edit.lastLeft_append, Edit.lastLeft_cons, if_pos touched.symm, ← prepared, touched]
      rfl
    · intro other elsewhere held
      rw [clear other elsewhere]
      exact nofun

variable {store : FileStore}

theorem tracesBack_run (serves : store.Serves table) (programs : ι → List Edit) (schedule : List ι) :
    ∃ final, ((start store programs).run schedule).store.Serves final ∧
      Underway programs ((start store programs).run schedule).callers ∧
      ∀ owner key, IsPrivate programs owner key →
        LeftEarlier (programs owner) key (table.get? key) (final.get? key) := by
  let Keeps : Table → (ι → Caller) → Prop := fun file callers =>
    Underway programs callers ∧ ∀ owner key, IsPrivate programs owner key →
      TracesBack (programs owner) key (table.get? key) file callers
  have initial : Keeps table (start store programs).callers := by
    refine ⟨underway_start store programs, ?_⟩
    intro owner key _
    exact ⟨⟨[], List.nil_prefix, rfl⟩, nofun⟩
  have access : ∀ {file callers who caller after}, Keeps file callers →
      Access (callers who) file caller after → Keeps after (Function.update callers who caller) := by
    intro file callers who caller after kept access
    refine ⟨kept.1.access access, ?_⟩
    intro owner key alone
    exact (kept.2 owner key alone).access kept.1 alone access
  obtain ⟨final, still, underway, traces⟩ := run_keeps access schedule serves initial
  exact ⟨final, still, underway, fun owner key alone => (traces owner key alone).stored⟩

omit [DecidableEq ι] in
theorem isKept_start (store : FileStore) (programs : ι → List Edit) (owner : ι) (key : String) (table : Table) :
    IsKept programs owner key (Edit.lastLeft (programs owner) key (table.get? key)) table
      (start store programs).callers where
  own := rfl
  idle _ held := absurd held.symm (Option.some_ne_none _)
  others _ _ _ held := absurd held.symm (Option.some_ne_none _)

/-- The entry is the owner's from the last write for it on, and all along where there is no such write. -/
theorem isKept_run {shared : SharedStore ι} (alone : IsPrivate programs owner key) {schedule : List ι}
    (clear : LastWriteClear programs owner key shared schedule) (serves : shared.store.Serves table)
    (underway : Underway programs shared.callers)
    (kept : IsKept programs owner key (Edit.lastLeft (programs owner) key before) table shared.callers ∨
      WritesOn programs owner key shared schedule) :
    ∃ final, (shared.run schedule).store.Serves final ∧
      IsKept programs owner key (Edit.lastLeft (programs owner) key before) final
        (shared.run schedule).callers := by
  induction schedule generalizing shared table with
  | nil => exact ⟨table, serves, kept.resolve_right id⟩
  | cons who rest ih =>
    obtain ⟨store, caller, after, accessed, still, turned⟩ := access_turn serves who
    obtain ⟨clearNow, clearLater⟩ := clear
    rw [run_cons]
    refine ih clearLater (by rwa [turned]) (by rw [turned]; exact underway.access accessed) ?_
    -- As long as a write for the key is still to come, nothing that happens before it counts.
    by_cases later : WritesOn programs owner key (shared.turn who) rest
    · exact .inr later
    · left
      rw [turned]
      by_cases own : who = owner
      · subst own
        by_cases writing : IsWriting (programs who) key (shared.callers who)
        · exact isKept_of_write underway writing (clearNow rfl writing later) accessed
        · have now := kept.resolve_right (not_or.mpr ⟨fun write => writing write.2, later⟩)
          exact now.access_own underway writing accessed
      · have now := kept.resolve_right (not_or.mpr ⟨fun write => own write.1, later⟩)
        exact now.access_other underway alone own accessed

def newStore : FileStore :=
  ⟨⟨"prefs.json", []⟩, .empty⟩

theorem newStore_canBeWritten : newStore.CanBeWritten := by
  have located : FileTree.empty.locate ⟨"prefs.json", []⟩ = .ok ⟨.above 0, ["prefs.json"]⟩ := by rfl
  have free : FileTree.empty.Writable ⟨"prefs.json", []⟩ ⟨.above 0, ["prefs.json"]⟩ :=
    ⟨rfl, located, nofun, rfl⟩
  exact FileStore.canBeWritten_of_writable free rfl

theorem newStore_serves : newStore.Serves .empty :=
  ⟨FileStore.load_of_missing rfl, newStore_canBeWritten⟩

/-- However processes take turns on a file, all their calls succeed, and in the end an entry that one process
alone uses holds what this process has left there at some time; and it holds what the last call left there, unless
the last write for the key falls between the read and the write of a call of another one. -/
theorem kept_unless_overwritten (store : FileStore) (entries : List (String × String))
    (holds : store.Holds entries) (writable : store.CanBeWritten) (programs : ι → List Edit)
    (schedule : List ι) (finished : ∀ who, (((start store programs).run schedule).callers who).IsDone) :
    let before := fun key => (Table.ofList entries).get? key
    let final := (start store programs).run schedule
    (∀ who, (final.callers who).answers = (programs who).map fun _ => .ok ()) ∧
    ∃ table, final.store.load = .ok table ∧ ∀ owner key, IsPrivate programs owner key →
      LeftEarlier (programs owner) key (before key) (table.get? key) ∧
      (LastWriteClear programs owner key (start store programs) schedule →
        table.get? key = Edit.lastLeft (programs owner) key (before key)) := by
  intro before final
  have serves : store.Serves (Table.ofList entries) := ⟨FileStore.load_of_holds holds, writable⟩
  obtain ⟨table, still, underway, traces⟩ := tracesBack_run serves programs schedule
  refine ⟨?_, table, still.load, ?_⟩
  · intro who
    obtain ⟨none, free⟩ := finished who
    have outlook := underway.outlook who
    rw [Caller.outlook, none, free] at outlook
    simpa using outlook
  · intro owner key alone
    refine ⟨traces owner key alone, ?_⟩
    intro clear
    obtain ⟨again, loaded, kept⟩ := isKept_run alone clear serves (underway_start store programs)
      (.inl (isKept_start store programs owner key _))
    -- There is one table in the file, and with nothing left to do the calls to come are none.
    obtain rfl : again = table := Except.ok.inj (loaded.load.symm.trans still.load)
    obtain ⟨none, free⟩ := finished owner
    have own := kept.own
    rw [none, free] at own
    exact own

/-- Calls of two processes with no write between the halves of a call: all that falls between the halves of the
first one is a removal that has nothing to remove. -/
theorem kept_beside_idle_removal :
    let programs : Bool → List Edit := fun who =>
      if who then [.remove "z", .set "b" "2"] else [.set "a" "1"]
    let schedule := [false, true, false, true, true]
    let final := (start newStore programs).run schedule
    newStore.Holds [] ∧ newStore.CanBeWritten ∧ (∀ who, (final.callers who).IsDone) ∧
      IsPrivate programs false "a" ∧ IsPrivate programs true "b" ∧
      LastWriteClear programs false "a" (start newStore programs) schedule ∧
      LastWriteClear programs true "b" (start newStore programs) schedule ∧
      (final.callers true).answers = [.ok (), .ok ()] ∧
      ∃ table, final.store.load = .ok table ∧ table.get? "a" = some "1" ∧ table.get? "b" = some "2" := by
  intro programs schedule final
  let ones : Table := (Edit.set "a" "1").apply .empty
  let both : Table := (Edit.set "b" "2").apply ones
  let began := start newStore programs
  let oneRead : SharedStore Bool := ⟨newStore, Function.update began.callers false ⟨[], some ones, []⟩⟩
  let removed : SharedStore Bool :=
    ⟨newStore, Function.update oneRead.callers true ⟨[.set "b" "2"], none, [.ok ()]⟩⟩
  have first : began.turn false = oneRead :=
    @turn_of_call _ _ began _ newStore_serves false (.set "a" "1") [] rfl rfl
  have second : oneRead.turn true = removed :=
    @turn_of_call _ _ oneRead _ newStore_serves true (.remove "z") [.set "b" "2"] rfl rfl
  obtain ⟨between, held, third⟩ : ∃ after : FileStore, after.Serves ones ∧ removed.turn false =
      ⟨after, Function.update removed.callers false ⟨[], none, [.ok ()]⟩⟩ :=
    turn_of_planned newStore_serves rfl
  let oneWritten : SharedStore Bool :=
    ⟨between, Function.update removed.callers false ⟨[], none, [.ok ()]⟩⟩
  let otherRead : SharedStore Bool :=
    ⟨between, Function.update oneWritten.callers true ⟨[], some both, [.ok ()]⟩⟩
  have fourth : oneWritten.turn true = otherRead :=
    @turn_of_call _ _ oneWritten _ held true (.set "b" "2") [] rfl rfl
  obtain ⟨after, _, fifth⟩ : ∃ after : FileStore, after.Serves both ∧ otherRead.turn true =
      ⟨after, Function.update otherRead.callers true ⟨[], none, [.ok (), .ok ()]⟩⟩ :=
    turn_of_planned held rfl
  have whole : final =
      ⟨after, Function.update otherRead.callers true ⟨[], none, [.ok (), .ok ()]⟩⟩ := by
    have turns : final = began.run [false, true, false, true, true] := rfl
    rw [turns, run_cons, first, run_cons, second, run_cons, third, run_cons, fourth, run_cons, fifth]
    rfl
  have finished : ∀ who, (final.callers who).IsDone := by
    rw [whole]
    intro who
    cases who <;> exact ⟨rfl, rfl⟩
  -- Of the turns of a process one is a write, and then the other one is not between the halves of a call.
  have firstClear : LastWriteClear programs false "a" began schedule := by
    simp only [LastWriteClear, schedule, first, second, third, and_true]
    refine ⟨fun _ writing => absurd rfl writing.1, nofun, fun _ _ _ other elsewhere => ?_, nofun, nofun⟩
    cases other
    · exact absurd rfl elsewhere
    · rfl
  have secondClear : LastWriteClear programs true "b" began schedule := by
    simp only [LastWriteClear, schedule, first, second, third, and_true]
    refine ⟨nofun, fun _ writing => absurd rfl writing.1, nofun, fun _ writing => absurd rfl writing.1,
      fun _ _ _ other elsewhere => ?_⟩
    cases other
    · rfl
    · exact absurd rfl elsewhere
  have firstAlone : IsPrivate programs false "a" := by
    unfold IsPrivate
    decide
  have secondAlone : IsPrivate programs true "b" := by
    unfold IsPrivate
    decide
  obtain ⟨answers, table, loaded, kept⟩ := kept_unless_overwritten newStore [] (.missing rfl)
    newStore_canBeWritten programs schedule finished
  exact ⟨.missing rfl, newStore_canBeWritten, finished, firstAlone, secondAlone, firstClear, secondClear,
    answers true, table, loaded, (kept false "a" firstAlone).2 firstClear,
    (kept true "b" secondAlone).2 secondClear⟩

/-- Not every last call is kept: here one process has read the missing file before the other one makes its
whole call, and then writes a table with its own entry alone. -/
theorem update_lost_between_halves :
    let programs : Bool → List Edit := fun who => if who then [.set "b" "2"] else [.set "a" "1"]
    let final := (start newStore programs).run [true, false, false, true]
    newStore.Holds [] ∧ newStore.CanBeWritten ∧
      (∀ owner, ∀ call ∈ programs owner, IsPrivate programs owner call.key) ∧
      (∀ who, (final.callers who).IsDone) ∧
      ∃ table, final.store.load = .ok table ∧
        Edit.lastLeft (programs false) "a" none = some "1" ∧ table.get? "a" = none := by
  intro programs final
  have apart : ∀ owner, ∀ call ∈ programs owner, IsPrivate programs owner call.key := by
    unfold IsPrivate
    decide
  let ones : Table := (Edit.set "a" "1").apply .empty
  let twos : Table := (Edit.set "b" "2").apply .empty
  let began := start newStore programs
  let oneRead : SharedStore Bool := ⟨newStore, Function.update began.callers true ⟨[], some twos, []⟩⟩
  let bothRead : SharedStore Bool :=
    ⟨newStore, Function.update oneRead.callers false ⟨[], some ones, []⟩⟩
  have first : began.turn true = oneRead :=
    @turn_of_call _ _ began _ newStore_serves true (.set "b" "2") [] rfl rfl
  have second : oneRead.turn false = bothRead :=
    @turn_of_call _ _ oneRead _ newStore_serves false (.set "a" "1") [] rfl rfl
  obtain ⟨between, held, third⟩ : ∃ after : FileStore, after.Serves ones ∧ bothRead.turn false =
      ⟨after, Function.update bothRead.callers false ⟨[], none, [.ok ()]⟩⟩ :=
    turn_of_planned newStore_serves rfl
  let oneWritten : SharedStore Bool :=
    ⟨between, Function.update bothRead.callers false ⟨[], none, [.ok ()]⟩⟩
  obtain ⟨after, holds, fourth⟩ : ∃ after : FileStore, after.Serves twos ∧ oneWritten.turn true =
      ⟨after, Function.update oneWritten.callers true ⟨[], none, [.ok ()]⟩⟩ :=
    turn_of_planned held rfl
  have whole : final = ⟨after, Function.update oneWritten.callers true ⟨[], none, [.ok ()]⟩⟩ := by
    have turns : final = began.run [true, false, false, true] := rfl
    rw [turns, run_cons, first, run_cons, second, run_cons, third, run_cons, fourth]
    rfl
  rw [whole]
  refine ⟨.missing rfl, newStore_canBeWritten, apart, ?_, twos, holds.load, rfl, ?_⟩
  · intro who
    cases who <;> exact ⟨rfl, rfl⟩
  · decide

end SharedStore

end PageUpkeep
