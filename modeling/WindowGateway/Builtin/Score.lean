import WindowGateway.Builtin.Tally

/-! Scores of a game, added up for each team or for each player. The records for the players are
items that the tally for the teams takes. -/

namespace WindowGateway.Builtin

open Json (Document)

/-- Adds up `score` for each `team`; an item without it gives its `userTotalScore`. -/
def teamScore : Tally where
  total := "totalScore"
  contribution item := do
    let team ← keyField item "team"
    let score ← integerField item
      (if (item.field? "score").isSome then "score" else "userTotalScore")
    pure ⟨team, score, [("team", .ofString team)]⟩

/-- Adds up `score` for each `fullName`. The record tells the team that the first item of the player
tells. -/
def userScore : Tally where
  total := "userTotalScore"
  contribution item := do
    let user ← keyField item "fullName"
    let score ← integerField item "score"
    let team := (item.field? "team").getD .null
    pure ⟨user, score, [("user", .ofString user), ("team", team)]⟩

end WindowGateway.Builtin
