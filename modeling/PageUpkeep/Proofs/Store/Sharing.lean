import Mathlib.Logic.Function.Basic
import PageUpkeep.Proofs.Store.Entries
import PageUpkeep.Proofs.Store.Refinement

/-! Processes that share the file of a store, one access to the file at a time.

A call reads the whole file and then, if it changes anything, writes the whole file anew. Between the two
the other processes have their turns, and nothing locks them out. A schedule says whose turn it is; what
holds of a run is shown for one access to the file and carried along the schedule.
-/

set_option autoImplicit false

namespace PageUpkeep

/-- A store that can be read and written, and the table it holds. -/
structure FileStore.Serves (store : FileStore) (table : Table) : Prop where
  load : store.load = .ok table
  writable : store.CanBeWritten

/-- A process with calls to make. Between the two halves of a call it has a table to write. -/
structure Caller where
  calls : List Edit
  planned : Option Table := none
  answers : List (Except StoreError Unit) := []

namespace Caller

def IsDone (caller : Caller) : Prop :=
  caller.calls = [] ∧ caller.planned = none

/-- The reading half of the next call. With nothing to write the call is over. -/
def read (caller : Caller) (store : FileStore) : Caller :=
  match caller.calls with
  | [] => caller
  | call :: rest =>
    match store.plan call with
    | .error error => { caller with calls := rest, answers := caller.answers ++ [.error error] }
    | .ok none => { caller with calls := rest, answers := caller.answers ++ [.ok ()] }
    | .ok (some table) => { caller with calls := rest, planned := some table }

def finish (caller : Caller) (answer : Except StoreError Unit) : Caller :=
  { caller with planned := none, answers := caller.answers ++ [answer] }

/-- All answers there will be if the calls to come succeed. -/
def outlook (caller : Caller) : List (Except StoreError Unit) :=
  caller.answers ++ caller.planned.toList.map (fun _ => .ok ()) ++ caller.calls.map fun _ => .ok ()

end Caller

structure SharedStore (ι : Type) where
  store : FileStore
  callers : ι → Caller

namespace SharedStore

variable {ι : Type} [DecidableEq ι] {shared : SharedStore ι} {table : Table}

def start (store : FileStore) (programs : ι → List Edit) : SharedStore ι :=
  ⟨store, fun who => { calls := programs who }⟩

/-- One access to the file: the writing half of the call under way, or the reading half of the next one. -/
def turn (shared : SharedStore ι) (who : ι) : SharedStore ι :=
  let caller := shared.callers who
  match caller.planned with
  | none => { shared with callers := Function.update shared.callers who (caller.read shared.store) }
  | some table =>
    let (after, answer) := shared.store.commit (some table)
    ⟨after, Function.update shared.callers who (caller.finish answer)⟩

def run (shared : SharedStore ι) (schedule : List ι) : SharedStore ι :=
  schedule.foldl turn shared

theorem run_cons (shared : SharedStore ι) (who : ι) (rest : List ι) :
    shared.run (who :: rest) = (shared.turn who).run rest :=
  rfl

/-- A call that nobody interrupts is an edit of the store. -/
theorem run_uninterrupted {who : ι} {call : Edit} {rest : List Edit}
    (free : (shared.callers who).planned = none) (next : (shared.callers who).calls = call :: rest) :
    ∃ turns, (turns = [who] ∨ turns = [who, who]) ∧
      shared.run turns =
        ⟨(shared.store.edit call).1, Function.update shared.callers who
          { shared.callers who with
            calls := rest, answers := (shared.callers who).answers ++ [(shared.store.edit call).2] }⟩ := by
  have first : shared.turn who = { shared with
      callers := Function.update shared.callers who ((shared.callers who).read shared.store) } := by
    simp [turn, free]
  cases planned : shared.store.plan call with
  | error error =>
    refine ⟨[who], .inl rfl, ?_⟩
    simp [run, first, Caller.read, next, planned, FileStore.edit]
  | ok table =>
    cases table with
    | none =>
      refine ⟨[who], .inl rfl, ?_⟩
      simp [run, first, Caller.read, next, planned, FileStore.edit, FileStore.commit]
    | some table =>
      refine ⟨[who, who], .inr rfl, ?_⟩
      have second : (shared.callers who).read shared.store =
          { shared.callers who with calls := rest, planned := some table } := by
        simp [Caller.read, next, planned]
      simp [run, second, turn, Caller.finish, free, FileStore.edit, planned]

/-- The accesses of a process to a file that holds a table, and what they leave of both. -/
inductive Access (caller : Caller) (table : Table) : Caller → Table → Prop where
  | done (finished : caller.IsDone) : Access caller table caller table
  | idle {call : Edit} {rest : List Edit} (free : caller.planned = none)
      (next : caller.calls = call :: rest) (same : call.apply table = table) :
      Access caller table ({ caller with calls := rest }.finish (.ok ())) table
  | read {call : Edit} {rest : List Edit} (free : caller.planned = none)
      (next : caller.calls = call :: rest) :
      Access caller table { caller with calls := rest, planned := some (call.apply table) } table
  | write {planned : Table} (held : caller.planned = some planned) :
      Access caller table (caller.finish (.ok ())) planned

theorem turn_of_call (serves : shared.store.Serves table) {who : ι} {call : Edit} {rest : List Edit}
    (free : (shared.callers who).planned = none) (next : (shared.callers who).calls = call :: rest) :
    shared.turn who = { shared with
      callers := Function.update shared.callers who
        (if call.isIdle table then { shared.callers who with calls := rest }.finish (.ok ())
        else { shared.callers who with calls := rest, planned := some (call.apply table) }) } := by
  have planned : shared.store.plan call =
      .ok (if call.isIdle table then none else some (call.apply table)) := by
    simp [FileStore.plan, serves.load, Except.map]
  cases idle : call.isIdle table <;>
    simp [turn, free, Caller.read, Caller.finish, next, planned, idle]

theorem turn_of_planned (serves : shared.store.Serves table) {who : ι} {planned : Table}
    (held : (shared.callers who).planned = some planned) :
    ∃ after : FileStore, after.Serves planned ∧
      shared.turn who =
        ⟨after, Function.update shared.callers who ((shared.callers who).finish (.ok ()))⟩ := by
  obtain ⟨after, saved, writable⟩ := FileStore.save_of_canBeWritten serves.writable planned
  have load := FileStore.load_of_save saved
  exact ⟨after, ⟨load, writable⟩, by simp [turn, held, FileStore.commit, saved]⟩

theorem access_turn (serves : shared.store.Serves table) (who : ι) :
    ∃ store caller after, Access (shared.callers who) table caller after ∧ store.Serves after ∧
      shared.turn who = ⟨store, Function.update shared.callers who caller⟩ := by
  cases held : (shared.callers who).planned with
  | some planned =>
    obtain ⟨after, serves, turned⟩ := turn_of_planned serves held
    exact ⟨after, _, planned, .write held, serves, turned⟩
  | none =>
    cases next : (shared.callers who).calls with
    | nil =>
      have turned : shared.turn who = shared := by simp [turn, held, Caller.read, next]
      exact ⟨shared.store, _, table, .done ⟨next, held⟩, serves, by simp [turned]⟩
    | cons call rest =>
      have turned := turn_of_call serves held next
      cases idle : call.isIdle table with
      | true =>
        rw [if_pos idle] at turned
        exact ⟨_, _, table, .idle held next (Edit.apply_of_isIdle idle), serves, turned⟩
      | false =>
        rw [if_neg (by simp [idle])] at turned
        exact ⟨_, _, table, .read held next, serves, turned⟩

theorem run_keeps {Keeps : Table → (ι → Caller) → Prop}
    (access : ∀ {table callers who caller after}, Keeps table callers →
      Access (callers who) table caller after → Keeps after (Function.update callers who caller))
    (schedule : List ι) (serves : shared.store.Serves table) (keeps : Keeps table shared.callers) :
    ∃ final, (shared.run schedule).store.Serves final ∧ Keeps final (shared.run schedule).callers := by
  induction schedule generalizing shared table with
  | nil => exact ⟨table, serves, keeps⟩
  | cons who rest ih =>
    obtain ⟨store, caller, after, accessed, still, turned⟩ := access_turn serves who
    rw [run_cons, turned]
    exact ih still (access keeps accessed)

/-- The processes go through their programs in order, and nothing has failed. What one of them is about to write is
what it has made of the call before those to come. -/
structure Underway (programs : ι → List Edit) (callers : ι → Caller) : Prop where
  calls : ∀ who, (callers who).calls <:+ programs who
  planned : ∀ who planned, (callers who).planned = some planned →
    ∃ made call, programs who = made ++ call :: (callers who).calls ∧ planned.get? call.key = call.value?
  outlook : ∀ who, (callers who).outlook = (programs who).map fun _ => .ok ()

section

variable {programs : ι → List Edit} {callers : ι → Caller} {who : ι}

omit [DecidableEq ι]

theorem underway_start (store : FileStore) (programs : ι → List Edit) :
    Underway programs (start store programs).callers :=
  ⟨fun _ => List.suffix_refl _, nofun, fun _ => rfl⟩

theorem Underway.mem_of_next (underway : Underway programs callers) {call : Edit} {rest : List Edit}
    (ahead : (callers who).calls = call :: rest) : call ∈ programs who :=
  (underway.calls who).subset (ahead ▸ List.mem_cons_self)

end

variable {programs : ι → List Edit} {callers : ι → Caller} {who : ι} {caller next : Caller}
  {after : Table} {program : List Edit}

theorem Access.calls_suffix (access : Access caller table next after) : next.calls <:+ caller.calls := by
  cases access with
  | done _ => exact List.suffix_refl _
  | idle _ ahead _ => exact ahead ▸ List.suffix_cons _ _
  | read _ ahead => exact ahead ▸ List.suffix_cons _ _
  | write _ => exact List.suffix_refl _

theorem Access.outlook_eq (access : Access caller table next after) : next.outlook = caller.outlook := by
  cases access with
  | done _ => rfl
  | idle free ahead _ => simp [Caller.outlook, Caller.finish, free, ahead]
  | read free ahead => simp [Caller.outlook, free, ahead]
  | write held => simp [Caller.outlook, Caller.finish, held]

theorem Access.planned_eq (access : Access caller table next after)
    (ahead : caller.calls <:+ program)
    (prepared : ∀ planned, caller.planned = some planned →
      ∃ made call, program = made ++ call :: caller.calls ∧ planned.get? call.key = call.value?) :
    ∀ planned, next.planned = some planned →
      ∃ made call, program = made ++ call :: next.calls ∧ planned.get? call.key = call.value? := by
  cases access with
  | done _ => exact prepared
  | idle _ _ _ => exact nofun
  | @read call rest _ first =>
    rintro planned ⟨⟩
    rw [first] at ahead
    obtain ⟨made, whole⟩ := ahead
    exact ⟨made, call, whole.symm, by rw [Edit.get?_apply, if_pos rfl]⟩
  | write _ => exact nofun

theorem Underway.access (underway : Underway programs callers)
    (access : Access (callers who) table caller after) :
    Underway programs (Function.update callers who caller) where
  calls := (Function.forall_update_iff callers fun who (caller : Caller) => caller.calls <:+ programs who).mpr
    ⟨access.calls_suffix.trans (underway.calls who), fun other _ => underway.calls other⟩
  planned := (Function.forall_update_iff callers fun who (caller : Caller) =>
      ∀ planned, caller.planned = some planned →
        ∃ made call, programs who = made ++ call :: caller.calls ∧ planned.get? call.key = call.value?).mpr
    ⟨access.planned_eq (underway.calls who) (underway.planned who), fun other _ => underway.planned other⟩
  outlook := (Function.forall_update_iff callers fun who (caller : Caller) =>
      caller.outlook = (programs who).map fun _ => .ok ()).mpr
    ⟨access.outlook_eq.trans (underway.outlook who), fun other _ => underway.outlook other⟩

end SharedStore

end PageUpkeep
