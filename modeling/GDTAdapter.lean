import GDTAdapter.Reactive.Machine
import GDTAdapter.Reactive.Messaging
import GDTAdapter.Reactive.Once
import GDTAdapter.Reactive.Monitor
import GDTAdapter.Reactive.Loader
import GDTAdapter.Reactive.Requester
import GDTAdapter.Reactive.Walk
import GDTAdapter.Adapter.TopViewController
import GDTAdapter.Adapter.Completion
import GDTAdapter.Adapter.Parameters
import GDTAdapter.RewardedVideo.Rewards
import GDTAdapter.RewardedVideo.Availability
import GDTAdapter.RewardedVideo.LoadPhase
import GDTAdapter.Interstitial.Outcomes
import GDTAdapter.Banner.CloseReload
import GDTAdapter.Feed.Relay
import GDTAdapter.Superseded
import GDTAdapter.Formats
import GDTAdapter.RewardedVideo.Sessions
import GDTAdapter.Interstitial.Brackets
import GDTAdapter.PresentingController
import GDTAdapter.Banner.Refresh
import GDTAdapter.Independence
import GDTAdapter.Splash.Reentrancy
import GDTAdapter.Feed.Batches
import GDTAdapter.Expiry
import GDTAdapter.Reactive.History
import GDTAdapter.Reactive.Clock
import GDTAdapter.Reactive.Refinement
import GDTAdapter.Reactive.Streak
import GDTAdapter.Reactive.DoubleBuffer
import GDTAdapter.Reactive.Acts
import GDTAdapter.Timers.MobiTimer
import GDTAdapter.Timers.RealTimeTimer
import GDTAdapter.Timers.AdImpressionTimer
import GDTAdapter.Host.AdConfigServer
import GDTAdapter.BannerHost.AdManager
import GDTAdapter.BannerHost.Acts
import GDTAdapter.BannerHost.Slots
import GDTAdapter.BannerHost.Waiting
import GDTAdapter.BannerHost.Replacing
import GDTAdapter.BannerHost.Delegate
import GDTAdapter.BannerHost.Waterfall
import GDTAdapter.BannerHost.Tracking
import GDTAdapter.BannerHost.Refresh
import GDTAdapter.BannerHost.Stall
import GDTAdapter.Mediation.Config
import GDTAdapter.Mediation.Strategy
import GDTAdapter.Mediation.Assign
import GDTAdapter.Mediation.Manager
import GDTAdapter.Mediation.Told
import GDTAdapter.Mediation.AdLog
import GDTAdapter.Mediation.Launch
import GDTAdapter.Splash.Pipeline
import GDTAdapter.Mediation.SplashRotation
