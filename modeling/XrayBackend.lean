import XrayBackend.Python.Builtins
import XrayBackend.Config
import XrayBackend.AntiSharing.Limiter
import XrayBackend.AntiSharing.Sessions
import XrayBackend.Security.RateLimiter
import XrayBackend.Security.Middleware
import XrayBackend.Security.ApiKey
import XrayBackend.Client.Target
import XrayBackend.Proto.Wire
import XrayBackend.Proto.Registry
import XrayBackend.Proto.Messages
import XrayBackend.Client.Requests
import XrayBackend.Client.Session
import XrayBackend.Client.Lifecycle
import XrayBackend.Client.Users
import XrayBackend.Client.Concurrent
import XrayBackend.App
import XrayBackend.App.Proxy
