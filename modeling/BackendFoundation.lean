import BackendFoundation.Transition.System
import BackendFoundation.Redis.Keyspace
import BackendFoundation.Redis.Utf8
import BackendFoundation.Redis.Glob
import BackendFoundation.Cache.ForgetByPattern
import BackendFoundation.Redis.RedisService
import BackendFoundation.Idempotency.AtMostOnce
import BackendFoundation.Idempotency.MemoCell
import BackendFoundation.Idempotency.Replay
import BackendFoundation.Idempotency.Interceptor
import BackendFoundation.Outbox.ExclusiveDispatch
import BackendFoundation.Outbox.Counters
import BackendFoundation.Outbox.Retries
import BackendFoundation.Jobs.KeyStates
import BackendFoundation.Jobs.NoSecondSend
import BackendFoundation.Jobs.Redelivery
import BackendFoundation.Users.GoogleLink
import BackendFoundation.Users.LinkFrame
import BackendFoundation.Auth.Rotation
import BackendFoundation.Auth.FamilyIndex
import BackendFoundation.Auth.Invalidation
import BackendFoundation.Auth.Logout
import BackendFoundation.Auth.TokenLifetime
import BackendFoundation.Auth.StoreRefinement
import BackendFoundation.Sessions.KeyFrame
import BackendFoundation.Sessions.OwnSessions
import BackendFoundation.PasswordReset.OneWrite
import BackendFoundation.PasswordReset.OneOutstanding
import BackendFoundation.PasswordReset.Enumeration
import BackendFoundation.GoogleSso.RedirectSafety
import BackendFoundation.Registration.Atomicity
import BackendFoundation.Registration.Locks
import BackendFoundation.Locks.LossReport
import BackendFoundation.RateLimiter.Windows
import BackendFoundation.RateLimiter.NoLockOut
import BackendFoundation.Cron.OneEnqueue
import BackendFoundation.Storage.Confinement
import BackendFoundation.Config.Timers
import BackendFoundation.Release.Leaks
import BackendFoundation.Migrations.Serialized
import BackendFoundation.Migrations.LockFree
import BackendFoundation.WelcomeMail.Delivered
import BackendFoundation.Auth.KeysRefinement
import BackendFoundation.Auth.LoginOutcome
import BackendFoundation.Database.PgError
import BackendFoundation.RateLimiter.RetryAfter
import BackendFoundation.Users.HostedDomain
