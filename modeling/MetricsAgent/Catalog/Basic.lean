import MetricsAgent.Name.Map

/-!
# The catalog of metrics

Producers publish their metrics in a catalog.  Whoever listens to the catalog is told of each metric
that is added or removed, and of those that were there before.
-/

namespace MetricsAgent

/-- What a listener is told. -/
inductive Notice (μ : Type) where
  /-- A metric is there, or was replaced. -/
  | added (name : String) (metric : μ)
  | removed (name : String)

/-- A map of metrics after a notice. -/
def Notice.apply {μ : Type} (m : NameMap μ) : Notice μ → NameMap μ
  | .added name metric => m.insert name metric
  | .removed name => m.erase name

/-- The metrics by name, and what each listener was told. -/
structure Catalog (μ : Type) where
  metrics : NameMap μ
  /-- The notices to each listener, in the order in which the listeners came. -/
  told : List (List (Notice μ))

namespace Catalog

variable {μ : Type}

def empty : Catalog μ := ⟨.empty, []⟩

/-- Tells all listeners. -/
def tell (c : Catalog μ) (n : Notice μ) : Catalog μ :=
  { c with told := c.told.map (· ++ [n]) }

/-- Adds a metric, or replaces the one of that name. -/
def register (c : Catalog μ) (name : String) (metric : μ) : Catalog μ :=
  { c with metrics := c.metrics.insert name metric }.tell (.added name metric)

/-- Removes a metric: whether it was there. -/
def remove (c : Catalog μ) (name : String) : Bool × Catalog μ :=
  if c.metrics.contains name then
    (true, { c with metrics := c.metrics.erase name }.tell (.removed name))
  else (false, c)

/-- What a new listener is told. -/
def replay (c : Catalog μ) : List (Notice μ) :=
  c.metrics.entries.map fun e => .added e.1 e.2

/-- Adds a listener. -/
def listen (c : Catalog μ) : Catalog μ :=
  { c with told := c.told ++ [c.replay] }

end Catalog

end MetricsAgent
