import RobotWeb.Http.Options
import RobotWeb.Json.Codec
import RobotWeb.Stream.Transport

/-!
# Stored options

How the options of connections and streams are stored. An option that was added later has a
default, so that what was stored before it can still be read.
-/

namespace RobotWeb.Json

instance : Codec Http.Options where
  write o := .object [("base_url", Codec.write o.baseUrl), ("username", Codec.write o.username),
    ("password", Codec.write o.password), ("connect_timeout", Codec.write o.connectTimeout),
    ("read_timeout", Codec.write o.readTimeout), ("write_timeout", Codec.write o.writeTimeout),
    ("retry_backoff", Codec.write o.retryBackoff),
    ("accept_invalid_certs", Codec.write o.acceptsInvalidCertificates)]
  read? v := do
    let f ← Fields.ofRecord? 8 v
    return {
      baseUrl := ← f.required 0 "base_url"
      username := ← f.required 1 "username"
      password := ← f.required 2 "password"
      connectTimeout := ← f.required 3 "connect_timeout"
      readTimeout := ← f.required 4 "read_timeout"
      writeTimeout := ← f.required 5 "write_timeout"
      retryBackoff := ← f.defaulted 6 "retry_backoff" []
      acceptsInvalidCertificates := ← f.defaulted 7 "accept_invalid_certs" false }

instance : Codec Stream.Options where
  write o := .object [("protocol", Codec.write o.protocol),
    ("poll_interval", Codec.write o.pollInterval)]
  read? v := do
    let f ← Fields.ofRecord? 2 v
    let initial : Stream.Options := {}
    return {
      protocol := ← f.defaulted 0 "protocol" initial.protocol
      pollInterval := ← f.defaulted 1 "poll_interval" initial.pollInterval }

end RobotWeb.Json
