import WifiArbiter.Json.Networks
import WifiArbiter.Judgment
import WifiArbiter.SignalHistory

/-!
# Scores in JSON

The forms of connection events, signal summaries and judgments.
-/

namespace WifiArbiter.Json

/-- An event is its name. -/
instance : JsonForm ConnectionEvent where
  write e := str e.name
  read? := named? ConnectionEvent.all ConnectionEvent.name

/-- The fields of a signal summary. -/
def signalSummaryShape : Shape :=
  [{ name := "count" }, { name := "min" }, { name := "max" }, { name := "mean" },
    { name := "stddev" }]

instance : JsonForm SignalSummary where
  write s := signalSummaryShape.write
    [write s.count, write s.min, write s.max, write s.mean, write s.stddev]
  read? j := do
    let [count, min, max, mean, stddev] ← signalSummaryShape.values? j | none
    return {
      count := ← read? count
      min := ← read? min
      max := ← read? max
      mean := ← read? mean
      stddev := ← read? stddev }

/-- The fields of a judgment. The slot may be lacking. -/
def judgmentShape : Shape :=
  [{ name := "value" }, { name := "err" }, { name := "candidate_key", absence := .null }]

instance : JsonForm Judgment where
  write j := judgmentShape.write [write j.value, write j.err, write j.slot]
  read? j := do
    let [value, err, slot] ← judgmentShape.values? j | none
    return { value := ← read? value, err := ← read? err, slot := ← read? slot }

end WifiArbiter.Json
