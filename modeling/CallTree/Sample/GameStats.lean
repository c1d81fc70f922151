import CallTree.Tool.Builtin
import CallTree.Value.Arithmetic
import CallTree.Value.Display

/-!
# The game statistics tools

Three tools over a few fixed players and games.
-/

namespace CallTree.Sample

/-- A list of whole numbers. -/
def wholes (ns : List Int) : Value := .list (ns.map .int)

/-- The players on a platform. -/
def players : List Value → Except Fault Value
  | [platform] =>
    if platform.equal (.str "Steam") then .ok (wholes [11, 8, 41])
    else if platform.equal (.str "Sony") then .ok (wholes [8, 21, 221, 42, 532])
    else if platform.hasLong then .error .badValue
    else .error (.refused ("Unknown platform: " ++ platform.plainText))
  | _ => .error .wrongKind

/-- The statistics if all of the given players are asked for, nothing otherwise. -/
def statsFor (asked : Value) (needed : List Int) (stats : List Int) : Except Fault Value := do
  if (← asked.itemsOf).isEmpty then return .list []
  let found ← needed.mapM asked.holds
  return if found.all id then wholes stats else .list []

/-- The statistics of a game. -/
def gameStats : List Value → Except Fault Value
  | [game, feature, asked] =>
    let hours := feature.equal (.str "hours_played")
    if game.equal (.str "Destiny 2") && hours then
      statsFor asked [11, 8, 41] [12, 43, 15, 22, 132, 42, 54, 32, 11]
    else if game.equal (.str "Doom") && hours then
      statsFor asked [8, 21, 221, 42, 532] [1, 54, 233, 231, 64, 722, 43, 7, 23, 89, 23, 222]
    else .ok .null
  | _ => .error .wrongKind

/-- The mean of numbers, zero for none. -/
def meanOf : List Value → Except Fault Value
  | [values] => do
    if (← values.itemsOf).isEmpty then return .float 0.0
    else return .float (← values.mean)
  | _ => .error .wrongKind

/-- The tools. -/
def gameTools : List Builtin := [
  ⟨"get_players", ["platform"],
    some "Get the players ID of all the players using the given gaming platform", players⟩,
  ⟨"get_game_stats", ["game", "feature", "players"], some
    ("Get statistics for a given video game title for the given list of player IDs.\n" ++
      "Valid values for `feature` are: `hours_played`, `quests`, `bounties`, `energy`, `level`"),
    gameStats⟩,
  ⟨"average", ["values"], some "Calculate the average of a list of integers", meanOf⟩]

end CallTree.Sample
