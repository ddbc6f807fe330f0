import SimpleCamCtrl.DeviceProperties.RoundTrip
import SimpleCamCtrl.DeviceProperties.Truncation
import SimpleCamCtrl.DeviceProperties.StringForms
import SimpleCamCtrl.Impl.SessionProtocol
import SimpleCamCtrl.Impl.Buttons
import SimpleCamCtrl.Impl.Status
import SimpleCamCtrl.Impl.Recording
import SimpleCamCtrl.Impl.EchoCamera
import SimpleCamCtrl.Wia.OwnerQueue
import SimpleCamCtrl.Wia.Timeouts
import SimpleCamCtrl.Impl.StateInvariant
import SimpleCamCtrl.Impl.HandshakeGrammar
import SimpleCamCtrl.Exposure.WriteBack
import SimpleCamCtrl.Exposure.Precision
import SimpleCamCtrl.Impl.Compensation
import SimpleCamCtrl.Impl.CameraMirror
import SimpleCamCtrl.Wia.FrameRoundTrip
import SimpleCamCtrl.Impl.MovieCoding
import SimpleCamCtrl.Wia.WorkerStart
import SimpleCamCtrl.Wia.WorkerCustody
import SimpleCamCtrl.Wia.Progress
import SimpleCamCtrl.DevEnum.ComBalance
import SimpleCamCtrl.DevEnum.OpenedDevice
import SimpleCamCtrl.Stack.Responsiveness
import SimpleCamCtrl.Demo.PollingDrift
import SimpleCamCtrl.Demo.PollingCustody
import SimpleCamCtrl.Demo.PollingBounds
