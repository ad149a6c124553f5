/-!
# The identity of a node

Where a node stands in its cluster; the daemon's values and all insights carry it.
-/

namespace MetricsAgent

/-- The node that the agent runs on. -/
structure Identity where
  host : String
  datacenter : String
  rack : String
  cluster : String
  deriving DecidableEq, Repr

/-- The identity for people to read. -/
def Identity.text (i : Identity) : String :=
  i.host ++ " (cluster " ++ i.cluster ++ ", datacenter " ++ i.datacenter ++ ", rack " ++ i.rack ++ ")"

end MetricsAgent
