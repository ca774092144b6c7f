import PageUpkeep.Proofs.CommandLine.Numbers

/-! Commands in groups, and options that bring their value along.

The name of a command hands what follows to that command. An option with its value behind an equals sign is
taken at once, after whatever was held back.
-/

set_option autoImplicit false

namespace PageUpkeep.CommandLine

variable {Draft Task : Type} {command inner : Command Draft Task} {path : List String} {word : String}
  {scan settled given : Scan Draft}

theorem readFrom_inner (start : Draft) (merge : Draft → Draft → Draft) (path : List String) (name : String)
    (words : List String) (noHelp : (name == helpName) = false) (found : command.find? name = some inner) :
    command.readFrom start merge path { draft := start } (name :: words) =
      match inner.readFrom start merge (path ++ [inner.name]) { draft := start } words with
      | .error stop => .error stop
      | .ok (draft, task) => .ok (merge draft start, task) := by
  -- No manual is asked for, and nothing is held back that the word could be the value of.
  have free : Command.Scan.allowsCommand ({ draft := start } : Scan Draft) = true := by rfl
  rw [Command.readFrom, noHelp, Bool.and_false, found, if_neg Bool.false_ne_true, if_pos free]
  dsimp only
  cases inner.readFrom start merge (path ++ [inner.name]) { draft := start } words <;> rfl

theorem settle_of_none (idle : scan.pending = .none) : scan.settle = .ok scan := by
  cases scan
  cases idle
  rfl

theorem readWord_attached {name value : String} {switch : Switch Draft}
    (long : Word.ofString word = .long name (some value))
    (named : command.named name = some (.switch switch)) (unquoted : scan.plain = false)
    (settles : scan.settle = .ok settled) (gives : switch.give value settled = .ok given) :
    command.readWord path scan word = .ok given := by
  have taken : Command.readSwitch switch (some value) scan = .ok given := by
    rw [Command.readSwitch, settles]
    exact gives
  simp only [Command.readWord, unquoted, long, named, taken]
  rfl

theorem conclude_single {name about : String} {switches : List (Switch Draft)}
    {operand : Option (Operand Draft)} {complete : Draft → Option Task} {task : Task}
    (settles : scan.settle = .ok settled) (done : complete settled.draft = some task) :
    (Command.single name about switches operand complete).conclude path scan = .ok (settled.draft, task) := by
  simp only [Command.conclude, settles, done]

end PageUpkeep.CommandLine
