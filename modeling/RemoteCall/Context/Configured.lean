import RemoteCall.Context.Setters
import RemoteCall.Settings.Basic

/-!
# Contexts from settings

The context that a client starts from: timeout, headers, retry settings and retryable codes as configured.
-/

namespace RemoteCall.Context

def ofSettings (transport : Transport) (s : Settings) : Except Fault Context := do
  let c := (create transport).withTimeout (← s.defaultTimeout)
  let c ← c.withHeaders (some s.headerMembers)
  return (c.withRetry (some (← s.retrySettings))).withCodes (some (.ofList s.retryableCodes))

end RemoteCall.Context
