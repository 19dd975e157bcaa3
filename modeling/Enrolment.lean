import Enrolment.Json.Number
import Enrolment.Text.Base64
import Enrolment.Text.Blank
import Enrolment.Text.Hex
import Enrolment.Text.Split
import Enrolment.Json.Token
import Enrolment.Json.Value
import Enrolment.Json.Document
import Enrolment.Text.Quoted
import Enrolment.Time.Moment
import Enrolment.Time.Reading
import Enrolment.Json.Reading
import Enrolment.Status
import Enrolment.Status.Graph
import Enrolment.Identity
import Enrolment.Payload
import Enrolment.Record
import Enrolment.Crypto.Aes
import Enrolment.Crypto.Ed25519
import Enrolment.Crypto.Gcm
import Enrolment.Crypto.Hmac
import Enrolment.Input
import Enrolment.Authorization
import Enrolment.Network.IpAddress
import Enrolment.Network.Url
import Enrolment.Registry.Backoff
import Enrolment.Registry.Client
import Enrolment.Http.Body
import Enrolment.Http.Error
import Enrolment.Config
import Enrolment.Plan
import Enrolment.Service.Challenge
import Enrolment.Service.Registration
import Enrolment.Http.MediaType
import Enrolment.Http.Message
import Enrolment.Http.Route
import Enrolment.Http.Serve
import Enrolment.Rehearsal
import Enrolment.Main
import Enrolment.Network.Domain.Direction
import Enrolment.Network.Domain.Joining
import Enrolment.Network.Domain.Meaning
import Enrolment.Text.Composition
import Enrolment.Network.Domain
import Enrolment.Proofs.Linearization
import Enrolment.Proofs.Decisions
import Enrolment.Proofs.Texts.Base64
import Enrolment.Proofs.Texts.Parts
import Enrolment.Proofs.Header
import Enrolment.Proofs.Asks
import Enrolment.Proofs.Course
import Enrolment.Proofs.Conduct.Requests
import Enrolment.Proofs.Exchanges
import Enrolment.Proofs.Failures
import Enrolment.Proofs.Keyring
import Enrolment.Proofs.Providers
import Enrolment.Proofs.Keysets
import Enrolment.Proofs.Passages
import Enrolment.Proofs.Handshake
import Enrolment.Proofs.Signatures
import Enrolment.Proofs.Challenges
import Enrolment.Proofs.Creation
import Enrolment.Proofs.Interface
import Enrolment.Proofs.Callbacks
import Enrolment.Proofs.Resumption
import Enrolment.Proofs.Contention
import Enrolment.Proofs.Delivery
import Enrolment.Proofs.Secrecy
import Enrolment.Proofs.Independence
import Enrolment.Proofs.Pushes
import Enrolment.Proofs.OneRound
import Enrolment.Proofs.Openings
import Enrolment.Proofs.Binding
import Enrolment.Proofs.Unrouted
import Enrolment.Proofs.Admission
import Enrolment.Proofs.Stocktaking
import Enrolment.Proofs.Listings
