import SysdvrWebos.Proofs.RegistryUniqueness
import SysdvrWebos.Proofs.RegistryRefinement
import SysdvrWebos.Proofs.SftFraming
import SysdvrWebos.Proofs.AudioQueue
import SysdvrWebos.Proofs.BufferSafety
import SysdvrWebos.Proofs.DecoderFeed
import SysdvrWebos.Proofs.SessionOutcome
import SysdvrWebos.Proofs.Delivery
import SysdvrWebos.Proofs.ReconnectCursor
import SysdvrWebos.Proofs.KeyDetection
import SysdvrWebos.Proofs.ConfiguredHost
import SysdvrWebos.Proofs.AudioAccounting
import SysdvrWebos.Proofs.KeyframePacing
import SysdvrWebos.Proofs.StallTimeout
import SysdvrWebos.Proofs.SysdvrFraming
import SysdvrWebos.Proofs.HandshakeExact
import SysdvrWebos.Proofs.PlayerLifecycle
import SysdvrWebos.Proofs.PreferredConsole
import SysdvrWebos.Proofs.StopOrFailure
import SysdvrWebos.Proofs.TickWrap
import SysdvrWebos.Proofs.TimelineArithmetic
import SysdvrWebos.Proofs.DescriptorParser
import SysdvrWebos.Proofs.BeaconParser
import SysdvrWebos.Proofs.LogDownload
import SysdvrWebos.Proofs.ProfileList
import SysdvrWebos.Proofs.ParameterLookup
import SysdvrWebos.Proofs.LiveRefinement
import SysdvrWebos.Proofs.LiveSessionEnds
import SysdvrWebos.Proofs.WireToPlayer
import SysdvrWebos.Proofs.WireToDecoder
import SysdvrWebos.Proofs.LiveFrametapRefinement
import SysdvrWebos.Proofs.LiveFrametapEnds
import SysdvrWebos.Proofs.ConnectAttempts
import SysdvrWebos.Proofs.LogCap
import SysdvrWebos.Proofs.MainLoopEnds
import SysdvrWebos.Proofs.SessionLedger
import SysdvrWebos.Proofs.BrowserCursor
import SysdvrWebos.Proofs.TargetOrigin
import SysdvrWebos.Proofs.FontFound
import SysdvrWebos.Proofs.ApprovedHosts
import SysdvrWebos.Proofs.KeyFetch
