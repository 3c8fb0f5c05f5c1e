/-!
# Announcements

The versions of published generations are announced to all subscribers. A subscriber who has not
looked for long has lost the oldest announcements, and learns how many.
-/

namespace LiveModels

/-- What a subscriber finds. -/
inductive Notice
  /-- A number of announcements has been lost. -/
  | lagged (count : Nat)
  | version (value : UInt64)
  deriving DecidableEq, Repr

/-- The number of announcements that are kept for a subscriber. -/
def channelCapacity : Nat := 16

/-- What a subscriber finds who has seen the first `seen` of the announcements. -/
def pendingNotices (announced : List UInt64) (seen : Nat) : List Notice :=
  let pending := announced.drop seen
  let lost := pending.length - channelCapacity
  (if lost = 0 then [] else [.lagged lost]) ++ (pending.drop lost).map .version

end LiveModels
