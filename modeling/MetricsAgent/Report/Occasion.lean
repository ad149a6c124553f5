/-!
# Occasions of a report

A metric is reported in regular samples and once more after it was removed.  Some reports are
withheld from the insights; their values carry a tag that says so.
-/

namespace MetricsAgent

/-- Why a metric is reported. -/
inductive Occasion where
  /-- A sample that also goes to the insights. -/
  | sample
  /-- A sample that is withheld from the insights. -/
  | withheldSample
  /-- The last report of a removed metric. -/
  | final (withheld : Bool)
  deriving DecidableEq, Repr

/-- The tag of values that must not reach the insights. -/
def withheldTag : String := "mcac_filtered=true"

/-- Whether the report is withheld from the insights. -/
def Occasion.isWithheld : Occasion → Bool
  | .sample => false
  | .withheldSample => true
  | .final withheld => withheld

/-- The tags of plain values on an occasion. -/
def Occasion.tags (o : Occasion) : String :=
  if o.isWithheld then withheldTag else ""

end MetricsAgent
