import AzerothCore.Battlegrounds.PremadeTopUp

/-!
# The pairs of rated arena teams

An update of a rated arena queue takes the first team that matches from each premade list.
If one list has none it looks for an opponent in the other, with a filter that keeps a
team from meeting itself or the opponent it met last. A pair from both lists is not
filtered, and in one list the second team only.
-/

namespace AzerothCore.Battlegrounds.BattlegroundQueue
open List Option

variable {queue after : BattlegroundQueue} {env : QueueEnv} {args : UpdateArgs}
  {arenaRating first second ginfo : ℕ}

end AzerothCore.Battlegrounds.BattlegroundQueue
