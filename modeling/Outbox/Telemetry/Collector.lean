import Outbox.Error
import Outbox.Uri

/-!
# Collectors

Telemetry may be sent to a collector, whose address is given as text.  Nothing is sent before there is
something to report, so what shows at the start is only whether the text is a URI.
-/

namespace Outbox.Telemetry.Collector

/-- Makes ready to send to an address; the first thing to be sent are spans. -/
def prepare (address : String) : Except Error Unit :=
  match Uri.check address.toList with
  | .ok () => .ok ()
  | .error f =>
    .error (.other ("failed to create OTLP span exporter: invalid URI " ++ address ++ ". Reason " ++
      f.message))

end Outbox.Telemetry.Collector
