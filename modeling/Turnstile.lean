import Turnstile.Account.Basic
import Turnstile.Account.Id
import Turnstile.Account.Json
import Turnstile.Account.Shown
import Turnstile.Auth.Admission
import Turnstile.Auth.Bearer
import Turnstile.Auth.Error
import Turnstile.Auth.Login
import Turnstile.Auth.Metadata
import Turnstile.Auth.Policy
import Turnstile.Auth.Profile
import Turnstile.Bytes
import Turnstile.Config.Address
import Turnstile.Config.LogFormat
import Turnstile.Config.Settings
import Turnstile.Crypto.Argon2
import Turnstile.Crypto.Blake2b
import Turnstile.Crypto.ChaCha20
import Turnstile.Crypto.Poly1305
import Turnstile.Crypto.Sealing
import Turnstile.Database.Accounts
import Turnstile.Database.Rehearsal
import Turnstile.Database.Reply
import Turnstile.Database.Statement
import Turnstile.Database.Value
import Turnstile.Dialogue
import Turnstile.Json.Basic
import Turnstile.Json.Double
import Turnstile.Json.Plain
import Turnstile.Json.Reader
import Turnstile.Json.Record
import Turnstile.Json.Writer
import Turnstile.Password.Hash
import Turnstile.Password.HashText
import Turnstile.Proofs.Account.Forms
import Turnstile.Proofs.Account.IdText
import Turnstile.Proofs.Account.Json
import Turnstile.Proofs.Account.JsonText
import Turnstile.Proofs.Auth.Admission
import Turnstile.Proofs.Auth.Bearer
import Turnstile.Proofs.Auth.Grant
import Turnstile.Proofs.Auth.Login
import Turnstile.Proofs.Auth.Policy
import Turnstile.Proofs.Auth.Registration
import Turnstile.Proofs.Config.Lifetime
import Turnstile.Proofs.Crypto.Argon2
import Turnstile.Proofs.Crypto.Sealing
import Turnstile.Proofs.Database.Agreement
import Turnstile.Proofs.Database.InPlace
import Turnstile.Proofs.Database.ReadBack
import Turnstile.Proofs.Database.Relation
import Turnstile.Proofs.Database.Vacancy
import Turnstile.Proofs.Dialogue
import Turnstile.Proofs.Json.Arrangement
import Turnstile.Proofs.Json.Documents
import Turnstile.Proofs.Json.Forms
import Turnstile.Proofs.Json.Numbers
import Turnstile.Proofs.Json.Plain
import Turnstile.Proofs.Json.Records
import Turnstile.Proofs.Json.Spelling
import Turnstile.Proofs.Json.Strings
import Turnstile.Proofs.Json.Text
import Turnstile.Proofs.Json.Values
import Turnstile.Proofs.Password.Hash
import Turnstile.Proofs.Password.HashText
import Turnstile.Proofs.Password.Spelling
import Turnstile.Proofs.Rpc.Changes
import Turnstile.Proofs.Rpc.Concurrency
import Turnstile.Proofs.Rpc.Conduct
import Turnstile.Proofs.Rpc.Details
import Turnstile.Proofs.Rpc.Echo
import Turnstile.Proofs.Rpc.Effects
import Turnstile.Proofs.Rpc.Failure
import Turnstile.Proofs.Rpc.Gate
import Turnstile.Proofs.Rpc.HandOver
import Turnstile.Proofs.Rpc.Header
import Turnstile.Proofs.Rpc.Lasting
import Turnstile.Proofs.Rpc.Login
import Turnstile.Proofs.Rpc.Profile
import Turnstile.Proofs.Rpc.Race
import Turnstile.Proofs.Rpc.Registration
import Turnstile.Proofs.Rpc.Rejection
import Turnstile.Proofs.Rpc.Routing
import Turnstile.Proofs.Rpc.Secrecy
import Turnstile.Proofs.Rpc.Standing
import Turnstile.Proofs.Rpc.Stranding
import Turnstile.Proofs.Rpc.Validation
import Turnstile.Proofs.Rpc.Visits
import Turnstile.Proofs.Secret.ReadThrough
import Turnstile.Proofs.Store.Arrivals
import Turnstile.Proofs.Store.Course
import Turnstile.Proofs.Store.Growth
import Turnstile.Proofs.Store.HashTable
import Turnstile.Proofs.Store.InPlace
import Turnstile.Proofs.Store.Interleaving
import Turnstile.Proofs.Store.Memory
import Turnstile.Proofs.Store.Ownership
import Turnstile.Proofs.Store.Respect
import Turnstile.Proofs.Store.Uniqueness
import Turnstile.Proofs.Text.Base64
import Turnstile.Proofs.Text.Decimal
import Turnstile.Proofs.Text.Percent
import Turnstile.Proofs.Text.Split
import Turnstile.Proofs.Text.Utf8
import Turnstile.Proofs.Time.Calendar
import Turnstile.Proofs.Time.DateForms
import Turnstile.Proofs.Time.DateText
import Turnstile.Proofs.Time.InstantText
import Turnstile.Proofs.Time.Microseconds
import Turnstile.Proofs.Time.Milliseconds
import Turnstile.Proofs.Time.TimeLine
import Turnstile.Proofs.Time.Timestamps
import Turnstile.Proofs.Token.Exactness
import Turnstile.Proofs.Token.Framing
import Turnstile.Proofs.Token.Lifetime
import Turnstile.Proofs.Token.Opening
import Turnstile.Proofs.Wire.Account
import Turnstile.Proofs.Wire.DateOfBirth
import Turnstile.Proofs.Wire.Fields
import Turnstile.Proofs.Wire.Foreign
import Turnstile.Proofs.Wire.Merging
import Turnstile.Proofs.Wire.Messages
import Turnstile.Proofs.Wire.Shown
import Turnstile.Rpc.Client
import Turnstile.Rpc.Handlers
import Turnstile.Rpc.Header
import Turnstile.Rpc.Server
import Turnstile.Rpc.Status
import Turnstile.Rpc.Target
import Turnstile.Rpc.Validation
import Turnstile.Secret.Cache
import Turnstile.Secret.Rehearsal
import Turnstile.Secret.Source
import Turnstile.Store.Call
import Turnstile.Store.Error
import Turnstile.Store.Memory
import Turnstile.Store.Rehearsal
import Turnstile.Text.Ascii
import Turnstile.Text.Base64
import Turnstile.Text.Blank
import Turnstile.Text.Decimal
import Turnstile.Text.Hex
import Turnstile.Text.Percent
import Turnstile.Text.Printable
import Turnstile.Text.Quoted
import Turnstile.Text.Scan
import Turnstile.Text.Split
import Turnstile.Text.Utf8
import Turnstile.Time.Calendar
import Turnstile.Time.DateText
import Turnstile.Time.Duration
import Turnstile.Time.Instant
import Turnstile.Time.InstantText
import Turnstile.Token.Claims
import Turnstile.Token.Codec
import Turnstile.Token.Framing
import Turnstile.Wire.Account
import Turnstile.Wire.Field
import Turnstile.Wire.Json
import Turnstile.Wire.Key
import Turnstile.Wire.Message
import Turnstile.Wire.Messages
import Turnstile.Wire.Varint
