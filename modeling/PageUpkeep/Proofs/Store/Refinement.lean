import PageUpkeep.Proofs.Store.Saving
import PageUpkeep.Store

/-! A file answers as memory does.

Any number of stores may be opened on one file; all they share is the file, and none of them keeps
anything between two calls. A store in memory that holds the entries of the file gives the same answers to
the same calls, whichever of the stores in the file is called.
-/

set_option autoImplicit false

namespace PageUpkeep

inductive Call where
  | get (key : String)
  | change (edit : Edit)
  deriving DecidableEq, Repr

inductive Answer where
  | found (value : Option String)
  | done
  deriving DecidableEq, Repr

/-- A call, put to a store that is read and changed in the two ways given. -/
def Call.perform {σ : Type} (get : σ → String → Except StoreError (Option String))
    (edit : σ → Edit → σ × Except StoreError Unit) (store : σ) : Call → σ × Except StoreError Answer
  | .get key => (store, (get store key).map .found)
  | .change wanted => (edit store wanted).map id fun answer => answer.map fun _ => .done

def MemoryStore.run (store : MemoryStore) : List Call → MemoryStore × List (Except StoreError Answer)
  | [] => (store, [])
  | call :: rest =>
    let (after, answer) := call.perform MemoryStore.get MemoryStore.edit store
    let (final, answers) := after.run rest
    (final, answer :: answers)

namespace FileStore

/-- The answers to a run of calls, each put to one of several stores opened on paths, and the files after
them. -/
def runOpened {ι : Type} (opened : ι → Path) (files : FileTree) :
    List (ι × Call) → FileTree × List (Except StoreError Answer)
  | [] => (files, [])
  | (handle, call) :: rest =>
    let (after, answer) := call.perform FileStore.get FileStore.edit ⟨opened handle, files⟩
    let (final, answers) := runOpened opened after.files rest
    (final, answer :: answers)

/-- What a file can hold for a store to be opened on it: nothing, if it is missing or blank, or an object
of texts, with its members in the order in which they are written. -/
inductive Holds (store : FileStore) : List (String × String) → Prop where
  | missing (absent : store.files.readText store.path = .error .notFound) : Holds store []
  | blank {content : String} (read : store.files.readText store.path = .ok content)
      (blank : ∀ c ∈ content.toList, Text.isBlank c = true) : Holds store []
  | object {content : String} {entries : List (String × String)}
      (read : store.files.readText store.path = .ok content)
      (form : Json.TableForm entries content.toList) : Holds store entries

theorem load_of_holds {store : FileStore} {entries : List (String × String)}
    (holds : store.Holds entries) : store.load = .ok (Table.ofList entries) := by
  cases holds with
  | missing absent => exact load_of_missing absent
  | @blank content read blank =>
    have onlyBlank : Text.isBlankText content.toList = true := List.all_eq_true.mpr blank
    apply load_of_text read
    rw [tableOfText, if_pos onlyBlank]
    rfl
  | object read form => exact load_of_text read (tableOfText_of_form form)

/-- The files that can be loaded are just the ones a store can be opened on. -/
theorem load_eq_ok_iff {store : FileStore} {table : Table} :
    store.load = .ok table ↔ ∃ entries, store.Holds entries ∧ Table.ofList entries = table := by
  constructor
  · intro loaded
    unfold load at loaded
    split at loaded
    · rename_i absent
      cases loaded
      exact ⟨[], .missing absent, rfl⟩
    · cases loaded
    · rename_i content read
      split at loaded
      · rename_i held meant
        cases loaded
        unfold tableOfText at meant
        -- A text that has a meaning is blank or an object.
        split at meant
        · rename_i blank
          cases meant
          exact ⟨[], .blank read (List.all_eq_true.mp blank), rfl⟩
        · obtain ⟨entries, form, same⟩ := Json.form_of_readAll meant
          exact ⟨entries, .object read form, same⟩
      · cases loaded
  · rintro ⟨entries, holds, rfl⟩
    exact load_of_holds holds

structure Simulates (store : FileStore) (memory : MemoryStore) : Prop where
  entries : store.load = .ok memory.entries
  healthy : memory.failing = false
  writable : store.CanBeWritten

variable {store : FileStore} {memory : MemoryStore}

theorem Simulates.get (alike : store.Simulates memory) (key : String) :
    store.get key = .ok (memory.entries.get? key) ∧ memory.get key = .ok (memory.entries.get? key) := by
  constructor
  · simp [FileStore.get, alike.entries, Except.map]
  · simp [MemoryStore.get, alike.healthy]

theorem Simulates.edit (alike : store.Simulates memory) (edit : Edit) :
    ∃ after, store.edit edit = (after, .ok ()) ∧ after.path = store.path ∧
      memory.edit edit = ({ memory with entries := edit.apply memory.entries }, .ok ()) ∧
      after.Simulates { memory with entries := edit.apply memory.entries } := by
  have changed : memory.edit edit = ({ memory with entries := edit.apply memory.entries }, .ok ()) := by
    simp [MemoryStore.edit, alike.healthy]
  cases idle : edit.isIdle memory.entries with
  | true =>
    -- Nothing is written, and the table in memory is what it was.
    refine ⟨store, ?_, rfl, changed, ?_⟩
    · simp [FileStore.edit, plan, alike.entries, Except.map, idle, commit]
    · rw [Edit.apply_of_isIdle idle]
      exact alike
  | false =>
    obtain ⟨saved, success, writable⟩ := save_of_canBeWritten alike.writable (edit.apply memory.entries)
    have samePath := path_save store (edit.apply memory.entries)
    rw [success] at samePath
    refine ⟨saved, ?_, samePath, changed, load_of_save success, alike.healthy, writable⟩
    simp [FileStore.edit, plan, alike.entries, Except.map, idle, commit, success]

theorem Simulates.perform (alike : store.Simulates memory) (call : Call) :
    ∃ after answer, call.perform FileStore.get FileStore.edit store = (after, .ok answer) ∧
      after.path = store.path ∧
      (call.perform MemoryStore.get MemoryStore.edit memory).2 = .ok answer ∧
      after.Simulates (call.perform MemoryStore.get MemoryStore.edit memory).1 := by
  cases call with
  | get key =>
    obtain ⟨inFile, inMemory⟩ := alike.get key
    refine ⟨store, .found (memory.entries.get? key), ?_, rfl, ?_, alike⟩
    · rw [Call.perform, inFile]
      rfl
    · rw [Call.perform, inMemory]
      rfl
  | change wanted =>
    obtain ⟨after, inFile, samePath, inMemory, still⟩ := alike.edit wanted
    refine ⟨after, .done, ?_, samePath, ?_, ?_⟩
    · rw [Call.perform, inFile]
      rfl
    · rw [Call.perform, inMemory]
      rfl
    · rw [Call.perform, inMemory]
      exact still

theorem Simulates.run {ι : Type} {opened : ι → Path} {path : Path} (same : ∀ handle, opened handle = path)
    {files : FileTree} (alike : (FileStore.mk path files).Simulates memory) (calls : List (ι × Call)) :
    (runOpened opened files calls).2 = (memory.run (calls.map Prod.snd)).2 ∧
      (∀ answer ∈ (runOpened opened files calls).2, ∃ success, answer = .ok success) ∧
      (FileStore.mk path (runOpened opened files calls).1).Simulates
        (memory.run (calls.map Prod.snd)).1 := by
  -- Induction on the calls, with files and memory free: the relation carries it from call to call.
  induction calls generalizing files memory with
  | nil => exact ⟨rfl, nofun, alike⟩
  | cons entry rest ih =>
    obtain ⟨handle, call⟩ := entry
    obtain ⟨⟨between, after⟩, answer, inFile, samePath, inMemory, still⟩ := alike.perform call
    -- The path stays, so the next call finds the files where this one left them.
    cases samePath
    obtain ⟨answers, succeeded, last⟩ := ih still
    rw [← same handle] at inFile
    simp only [runOpened, inFile, List.map_cons, MemoryStore.run, inMemory]
    refine ⟨congrArg _ answers, ?_, last⟩
    intro given member
    rcases List.mem_cons.mp member with first | later
    · exact ⟨answer, first⟩
    · exact succeeded given later

/-- Every call to a store in a file succeeds, and is answered as a store in memory answers it that was
started with the entries of the file. -/
theorem answers_as_memory {ι : Type} (opened : ι → Path) (path : Path)
    (same : ∀ handle, opened handle = path) (files : FileTree) (entries : List (String × String))
    (holds : (FileStore.mk path files).Holds entries) (writable : (FileStore.mk path files).CanBeWritten)
    (calls : List (ι × Call)) :
    (runOpened opened files calls).2 =
        ((MemoryStore.ofEntries entries).run (calls.map Prod.snd)).2 ∧
      ∀ answer ∈ (runOpened opened files calls).2, ∃ success, answer = .ok success := by
  have alike : (FileStore.mk path files).Simulates (MemoryStore.ofEntries entries) :=
    ⟨load_of_holds holds, rfl, writable⟩
  obtain ⟨answers, succeeded, _⟩ := alike.run same calls
  exact ⟨answers, succeeded⟩

theorem answers_of_repeated_key :
    let source := "\x7b \"k\": \"1\", \"k\":\"\\u0032\" \x7d\n"
    let files := FileTree.empty.put ⟨.above 0, ["s"]⟩ (.file source.toUTF8)
    let path : Path := ⟨"s", []⟩
    (FileStore.mk path files).Holds [("k", "1"), ("k", "2")] ∧ (FileStore.mk path files).CanBeWritten ∧
      (runOpened (fun _ : Bool => path) files
        [(true, .get "k"), (false, .change (.remove "k")), (true, .get "k")]).2 =
          [.ok (.found (some "2")), .ok .done, .ok (.found none)] := by
  intro source files path
  have located : FileTree.empty.locate ⟨"s", []⟩ = .ok ⟨.above 0, ["s"]⟩ := by rfl
  have free : FileTree.empty.Writable path ⟨.above 0, ["s"]⟩ := ⟨rfl, located, nofun, rfl⟩
  have read : files.read path = .ok source.toUTF8 := FileTree.read_put free _
  have key : Json.TextForm "k".toList ['k'] := by
    simpa using Json.TextForm.cons (.plain (c := 'k') (by decide) (by decide) (by decide)) .nil
  have once : Json.TextForm "1".toList ['1'] := by
    simpa using Json.TextForm.cons (.plain (c := '1') (by decide) (by decide) (by decide)) .nil
  have twice : Json.TextForm "2".toList ['\\', 'u', '0', '0', '3', '2'] := by
    have digits : Json.HexForm '2'.toNat ['0', '0', '3', '2'] :=
      @Json.HexForm.digits '0' '0' '3' '2' 0 0 3 2 rfl rfl rfl rfl
    simpa using Json.TextForm.cons (.number digits) .nil
  have first := @Json.MemberForm.member "k" "1" [' '] _ [] [' '] _ [] (by decide) (.quotes key) .nil
    (by decide) (.quotes once) .nil
  have last := @Json.MemberForm.member "k" "2" [' '] _ [] [] _ [' '] (by decide) (.quotes key) .nil
    .nil (.quotes twice) (by decide)
  have form : Json.TableForm [("k", "1"), ("k", "2")] source.toList := by
    simpa [source] using @Json.TableForm.filled _ [] _ ['\n'] .nil (.cons first (.last last)) (by decide)
  have holds : (FileStore.mk path files).Holds [("k", "1"), ("k", "2")] :=
    .object (FileTree.readText_of_read read) form
  have writable : (FileStore.mk path files).CanBeWritten := canBeWritten_of_writable (free.put _) rfl
  refine ⟨holds, writable, ?_⟩
  exact (answers_as_memory (fun _ : Bool => path) path (fun _ => rfl) files _ holds writable _).1

end FileStore

end PageUpkeep
