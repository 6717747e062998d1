import CrossRWA.Lib.Abi
import CrossRWA.Lib.Ledger
import CrossRWA.Lib.OnceChannel
import CrossRWA.Lib.TokenBucket
import CrossRWA.Commons
import CrossRWA.Token.ERC20
import CrossRWA.Token.XERC20
import CrossRWA.Router.AbstractRouter
import CrossRWA.Router.GlacisRouter
import CrossRWA.Mediator.AccessControl
import CrossRWA.Mediator.SimpleTokenMediator
import CrossRWA.Chain
import CrossRWA.Lib.Machine
import CrossRWA.World
import CrossRWA.Scripts
import CrossRWA.Effects
import CrossRWA.Minted
import CrossRWA.Outbox
import CrossRWA.Inbox
import CrossRWA.Books
import CrossRWA.Wiring
import CrossRWA.TokenSide
import CrossRWA.Provenance
import CrossRWA.Conservation
import CrossRWA.ExactlyOnce
import CrossRWA.Isolation
import CrossRWA.Throughput
import CrossRWA.Wired
import CrossRWA.Confinement
import CrossRWA.Recovery
import CrossRWA.Redundancy.Relay
import CrossRWA.Redundancy.Tally
import CrossRWA.Redundancy.Network
import CrossRWA.Redundancy.Channel
import CrossRWA.Redundancy.Receipts
import CrossRWA.Lib.Quorum
import CrossRWA.Adapters.AddressString
import CrossRWA.Adapters.GmpAdapters
import CrossRWA.Adapters.LayerZero
import CrossRWA.Adapters.Host
import CrossRWA.Adapters.HostNetwork
import CrossRWA.Adapters.Channel
import CrossRWA.Adapters.Payments
import CrossRWA.Endpoint.MessageLibManager
import CrossRWA.Endpoint.PacketV1Codec
import CrossRWA.Endpoint.MessagingChannel
import CrossRWA.Endpoint.EndpointV2
import CrossRWA.Endpoint.Delivery
import CrossRWA.Endpoint.Composer
import CrossRWA.Endpoint.ReceiveUln302
import CrossRWA.Endpoint.LzNode
import CrossRWA.Endpoint.Pathway
import CrossRWA.Endpoint.Progress
import CrossRWA.Minted
