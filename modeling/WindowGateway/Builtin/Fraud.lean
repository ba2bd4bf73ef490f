import WindowGateway.Builtin.Tally

/-! Authorizations counted for each card, and the release of the cards that have too many. -/

namespace WindowGateway.Builtin

def authorizationCount : Tally where
  total := "count"
  contribution item := do
    let card ← keyField item "card_number"
    pure ⟨card, 1, [("card_number", .ofString card)]⟩

/-- What becomes of a card's record: it is kept if its count is above the threshold. Of the records
without a count, the first is what is remembered. -/
def releaseCard (threshold : Nat) (invalid : Option String) (card : String)
    (record : Json.Document) : Option Json.Document × Option String :=
  match integerField record "count" with
  | .ok count =>
    (if count.toNat?.any fun n => threshold < n then some record else none, invalid)
  | .error fault => (none, some (invalid.getD s!"card '{card}': {fault.message}"))

/-- Releases the cards with more than `threshold` authorizations. -/
def fraudThreshold (threshold : Nat) : Finalize where
  release table :=
    match table.retainWith none (releaseCard threshold) with
    | (released, none) => .ok released
    | (_, some text) => .error (.failed text)

end WindowGateway.Builtin
