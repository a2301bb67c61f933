/-!
# Queries

Three query sizes are timed, each with one fixed text. Reports show them from short to long.
-/

set_option autoImplicit false

namespace EmbeddingLatency

/-- How long a query is. -/
inductive QuerySize where
  | short
  | medium
  | long
  deriving DecidableEq, Repr

namespace QuerySize

/-- All query sizes in the order of the reports. -/
def all : List QuerySize := [.short, .medium, .long]

/-- The name of a query size. -/
def label : QuerySize → String
  | .short => "short"
  | .medium => "medium"
  | .long => "long"

/-- The place of a query size in the reports. -/
def rank : QuerySize → Nat
  | .short => 0
  | .medium => 1
  | .long => 2

/-- The text that is embedded. -/
def text : QuerySize → String
  | .short => "machine learning basics"
  | .medium =>
    "What are the best practices for implementing distributed systems with high availability?"
  | .long =>
    "I'm looking for comprehensive documentation on how to design and implement " ++
    "a fault-tolerant microservices architecture that can handle millions of requests " ++
    "per second while maintaining sub-millisecond latency and ensuring data consistency " ++
    "across multiple geographic regions with automatic failover capabilities."

/-- All query sizes by their names. -/
def names : List (String × QuerySize) := all.map fun q => (q.label, q)

/-- The query size whose text this is. -/
def ofText? (text : String) : Option QuerySize := all.find? (·.text = text)

theorem mem_all (q : QuerySize) : q ∈ all := by cases q <;> simp [all]

theorem rank_injective {p q : QuerySize} (h : p.rank = q.rank) : p = q := by
  cases p <;> cases q <;> simp_all [rank]

end QuerySize

end EmbeddingLatency
