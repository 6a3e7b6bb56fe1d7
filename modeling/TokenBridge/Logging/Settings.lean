import TokenBridge.Logging.Filter

/-!
# Logging settings

How a service logs, as its environment says it. Inside a container logs are JSON unless the
environment says otherwise.
-/

namespace TokenBridge.Logging

structure Settings where
  service : String := "peggy"
  filter : String := "info"
  json : Bool := false
  withSource : Bool := false
deriving DecidableEq, Repr

/-- Whether a text switches something on. -/
def isOn (s : String) : Bool :=
  s.map Char.toLower == "true" || s == "1"

def Settings.ofEnv (lookup : String → Option String) : Settings where
  service := (lookup "PEGGY_SERVICE_NAME").getD "peggy"
  filter := (lookup "PEGGY_LOG_LEVEL" <|> lookup "RUST_LOG").getD "info"
  json :=
    let inContainer :=
      (lookup "KUBERNETES_SERVICE_HOST").isSome || (lookup "DOCKER_CONTAINER").isSome
    ((lookup "PEGGY_JSON_LOGS").map isOn).getD inContainer
  withSource := ((lookup "PEGGY_LOG_SOURCE").map isOn).getD false

end TokenBridge.Logging
