import FeatureCard.Bench
import FeatureCard.Describe
import FeatureCard.Files.Disk
import FeatureCard.Hosts.Detached
import FeatureCard.Main
import FeatureCard.ScriptedCpu
import FeatureCard.Proofs.Block
import FeatureCard.Proofs.Device
import FeatureCard.Proofs.History
import FeatureCard.Proofs.HostLine
import FeatureCard.Proofs.Mailboxes
import FeatureCard.Proofs.Recording
import FeatureCard.Proofs.Life
import FeatureCard.Proofs.SampleAccuracy
import FeatureCard.Proofs.Scripted
import FeatureCard.Proofs.WholeDouble
import FeatureCard.Proofs.OpmTimers
import FeatureCard.Proofs.TimerPacing
import FeatureCard.Proofs.Scheduling
import FeatureCard.Proofs.Budget
import FeatureCard.Proofs.Suppression
import FeatureCard.Proofs.TimeBase
import FeatureCard.Proofs.Firing
import FeatureCard.Proofs.Isolation
import FeatureCard.Proofs.Attention
import FeatureCard.Proofs.GuardedDevices
import FeatureCard.Proofs.GuardedLife
import FeatureCard.Proofs.PendingTimers
import FeatureCard.Proofs.MidiQueue
import FeatureCard.Proofs.OpmSlices
import FeatureCard.Proofs.WrittenDocument
import FeatureCard.Proofs.OpmStatus
import FeatureCard.Proofs.Disabled
import FeatureCard.Proofs.Acknowledge
import FeatureCard.Proofs.Cycles
import FeatureCard.Proofs.LoadSequence
import FeatureCard.Proofs.MemoryMap
import FeatureCard.Proofs.PortWindow
import FeatureCard.Proofs.FmBuffer
import FeatureCard.Proofs.SetupWords
import FeatureCard.Proofs.Arguments
import FeatureCard.Proofs.GivenSettings
