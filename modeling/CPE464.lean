import CPE464.General.OnesComplement
import CPE464.General.GuardedRun
import CPE464.General.EndlessRun
import CPE464.General.RetryTrace
import CPE464.General.RingSlots
import CPE464.General.SlidingWindow
import CPE464.Project3.Rcopy
import CPE464.Project3.SenderTheorems
import CPE464.Project3.EndToEnd
import CPE464.Project3.Recovery
import CPE464.Project3.Teardown
import CPE464.Project3.MissingPackets
import CPE464.Project3.Segmentation
import CPE464.Project3.SendHistory
import CPE464.Project3.WrapAround
import CPE464.Project3.Drain
import CPE464.Project3.GivingUp
import CPE464.Project3.PacketImage
import CPE464.Project3.ReceiverConditions
import CPE464.Project3.ControlMessages
import CPE464.Project3.MainServer
import CPE464.Project3.SendLoop
import CPE464.Project3.SessionRanges
import CPE464.General.FallingRun
import CPE464.Project3.ReliableSession
import CPE464.Project3.WholeTransfer
import CPE464.Project3.Silence
import CPE464.Project3.LossyTransfer
import CPE464.Project3.LibraryExits
import CPE464.P1.TcpVerdict
import CPE464.P1.CaptureBounds
import CPE464.P2.StreamEnd
import CPE464.P2.BufferBound
import CPE464.PollLib
import CPE464.P2.ServerControl
import CPE464.P2.AllEchoed
import CPE464.P2.KeyboardInput
import CPE464.P1.BytesNeeded
import CPE464.P1.PrintedFields
