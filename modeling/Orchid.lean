import Orchid.Circuits.Announcing
import Orchid.Circuits.Destroying
import Orchid.Circuits.LeftBehind
import Orchid.Circuits.LifeCycle
import Orchid.Circuits.OnionSession
import Orchid.Circuits.StreamFlow
import Orchid.Circuits.StreamIds
import Orchid.Connections.CircuitIds
import Orchid.Connections.HandshakeRobustness
import Orchid.Connections.LinkClosed
import Orchid.Consensus.Escapes
import Orchid.Consensus.SignatureLines
import Orchid.Crypto.CounterMode
import Orchid.Crypto.HybridEncryption
import Orchid.Directory.Addresses
import Orchid.Directory.CertificateBinding
import Orchid.Directory.DescriptorCache
import Orchid.Directory.ExitPolicies
import Orchid.Directory.MinimumRouterInfo
import Orchid.Directory.Monitors
import Orchid.Directory.Partitions
import Orchid.HiddenService.Downloader
import Orchid.Paths.Restrictions
import Orchid.Paths.Weights
import Orchid.Socks.Session
import Orchid.Socks.Teardown
