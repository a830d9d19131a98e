import Outbox.Time.Duration

/-!
# Retrying with linear backoff

How often a call of the search index is repeated and how long to wait before each repetition: the
wait grows by one step each time, up to a cap.
-/

namespace Outbox

open Outbox.Time

/-- The retries after a first attempt; zero of them switch retrying off. -/
structure RetryPolicy where
  maxRetries : UInt32
  start : Duration
  step : Duration
  cap : Duration
  deriving DecidableEq

namespace RetryPolicy

/-- Never retries. -/
def never : RetryPolicy := ⟨0, .zero, .zero, .zero⟩

/-- Retries twice, after 200 and 400 milliseconds. -/
def standard : RetryPolicy := ⟨2, .ofMillis 200, .ofMillis 200, .ofMillis 600⟩

/-- The wait before a retry; the first retry has number zero. -/
def delay (p : RetryPolicy) (retry : UInt32) : Duration :=
  (p.start.saturatingAdd (p.step.saturatingMul retry.toNat)).shorter p.cap

end RetryPolicy

end Outbox
