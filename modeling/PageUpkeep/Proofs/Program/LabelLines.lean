import PageUpkeep.Program.Run
import PageUpkeep.Proofs.CommandLine.Options

/-! The lines that the program prints for timestamps.

Whatever timestamps are asked for, negative ones among them, each has a line of its own in their order.
-/

set_option autoImplicit false

namespace PageUpkeep.Program

open CommandLine

def ageWords (now : Timestamp) (timestamps : List Timestamp) : List String :=
  "age" :: ("--now=" ++ now.toAttribute) :: timestamps.map Timestamp.toAttribute

theorem takeInteger_toAttribute (keep : Int64 → Draft → Draft) (value : Timestamp) (draft : Draft) :
    takeInteger keep value.toAttribute draft = .ok (keep value draft) := by
  rw [takeInteger, Timestamp.toAttribute, Text.Integer.readInt64_print]

theorem foldlM_give_timestamps {parameter : Parameter Draft} {shown : String}
    (takes : parameter.take =
      takeInteger fun moment draft => { draft with timestamps := draft.timestamps ++ [moment] })
    (values : List Timestamp) (scan : Scan Draft) :
    (values.map Timestamp.toAttribute).foldlM (fun scan value => parameter.give shown value scan) scan =
      .ok { scan with
        draft := { scan.draft with timestamps := scan.draft.timestamps ++ values }
        given := scan.given ++ values.map fun _ => shown } := by
  induction values generalizing scan with
  | nil =>
    rw [List.map_nil, List.map_nil, List.append_nil, List.append_nil]
    rfl
  | cons value rest ih =>
    have given : parameter.give shown value.toAttribute scan =
        .ok { scan with
          draft := { scan.draft with timestamps := scan.draft.timestamps ++ [value] }
          given := scan.given ++ [shown] } := by
      simp only [Parameter.give, takes, takeInteger_toAttribute]
    rw [List.map_cons, List.foldlM_cons, given]
    dsimp only [bind, Except.bind]
    rw [ih, List.append_assoc, List.append_assoc]
    rfl

def scanOfNow (now : Timestamp) : Scan Draft where
  draft := { now := some now }
  given := [nowSwitch.shown]

theorem readWord_now (path : List String) (now : Timestamp) :
    ageCommand.readWord path { draft := {} } ("--now=" ++ now.toAttribute) = .ok (scanOfNow now) := by
  have word : Word.ofString ("--now=" ++ now.toAttribute) = .long "now" (some now.toAttribute) := by
    simp [Word.ofString]
  have named : ageCommand.named "now" = some (.switch nowSwitch) := by rfl
  have given : nowSwitch.give now.toAttribute { draft := {} } = .ok (scanOfNow now) := by
    simp [Switch.give, Parameter.give, nowSwitch, takeInteger_toAttribute, scanOfNow]
  exact readWord_attached word named rfl rfl given

theorem settle_timestamps (operand : Operand Draft) (scan : Scan Draft)
    (takes : operand.value.take =
      takeInteger fun moment draft => { draft with timestamps := draft.timestamps ++ [moment] })
    (values : List Timestamp) :
    Scan.settle { scan with pending := .operands operand (values.map Timestamp.toAttribute) } =
      .ok { scan with
        draft := { scan.draft with timestamps := scan.draft.timestamps ++ values }
        given := scan.given ++ values.map fun _ => operand.shown
        pending := .none } :=
  foldlM_give_timestamps takes values { scan with pending := .none }

theorem readFrom_labels (path : List String) (now timestamp : Timestamp) (rest : List Timestamp) :
    ageCommand.readFrom {} Draft.onto path { draft := {} }
        (("--now=" ++ now.toAttribute) :: (timestamp :: rest).map Timestamp.toAttribute) =
      .ok ({ now := some now, timestamps := timestamp :: rest },
        .labels (timestamp :: rest) (some now)) := by
  have first := readWord_now path now
  have numbers : (timestamp :: rest).map Timestamp.toAttribute =
      ((timestamp :: rest).map Int64.toInt).map Text.Integer.print := List.map_map.symm
  unfold ageCommand at first ⊢
  rw [readFrom_single, first]
  dsimp only
  rw [numbers, List.map_cons, readFrom_first_number _ _ rfl rfl rfl rfl rfl, ← List.map_cons, ← numbers,
    Command.conclude, settle_timestamps _ _ rfl]
  rfl

theorem ofWords_labels (now timestamp : Timestamp) (rest : List Timestamp) :
    Request.ofWords (ageWords now (timestamp :: rest)) =
      .ok { config := none, store := standardStore, task := .labels (timestamp :: rest) (some now) } := by
  have found : grammar.find? "age" = some ageCommand := by rfl
  rw [Request.ofWords, ageWords, Command.read, readFrom_inner _ _ _ _ _ (by decide) found, readFrom_labels]
  rfl

theorem run_labels (environment : Environment) (files : FileTree) (now : Timestamp)
    {timestamps : List Timestamp} (asked : timestamps ≠ []) :
    run environment files (ageWords now timestamps) =
      { exit := 0, out := String.join (timestamps.map (labelLine environment.color now)), errors := ""
        files } := by
  cases timestamps with
  | nil => exact absurd rfl asked
  | cons timestamp rest =>
    rw [run, ofWords_labels]
    rfl

end PageUpkeep.Program
